import DocIndex.Markdown.Scan

/-!
# The indentation of a line

A cursor stands in the indentation of a line. It counts columns, where a tab reaches to the next
multiple of four, and may stand inside a tab of which some columns have been used.
-/

namespace DocIndex.Markdown

/-- A place in the indentation of a line. -/
structure Cursor where
  /-- What is left of the source. -/
  rest : List Char
  /-- The number of characters that the cursor has passed. -/
  passed : Nat
  /-- The number of characters passed up to the last tab. -/
  tabStart : Nat
  /-- The columns left of a tab that was used in part. -/
  spare : Nat

namespace Cursor

/-- The cursor at the start of a line. -/
def start (rest : List Char) : Cursor := ⟨rest, 0, 0, 0⟩

/-- Passes up to `columns` columns of space among the characters left; gives those not found. -/
def spacesFrom (tabStart passed columns : Nat) : List Char → Nat × Cursor
  | [] => (columns, ⟨[], passed, tabStart, 0⟩)
  | c :: rest =>
    if columns == 0 then (0, ⟨c :: rest, passed, tabStart, 0⟩)
    else if c == ' ' then spacesFrom tabStart (passed + 1) (columns - 1) rest
    else if c == '\t' then
      let width := 4 - (passed - tabStart) % 4
      if width < columns then spacesFrom (passed + 1) (passed + 1) (columns - width) rest
      else (0, ⟨rest, passed + 1, passed + 1, width - columns⟩)
    else (columns, ⟨c :: rest, passed, tabStart, 0⟩)

/-- Passes up to `columns` columns of space; gives the number of columns that were not found. -/
def spaces (cursor : Cursor) (columns : Nat) : Nat × Cursor :=
  if columns ≤ cursor.spare then (0, { cursor with spare := cursor.spare - columns })
  else spacesFrom cursor.tabStart cursor.passed (columns - cursor.spare) cursor.rest

/-- Passes up to `columns` columns of space; gives the number of columns that were found. -/
def spacesUpTo (cursor : Cursor) (columns : Nat) : Nat × Cursor :=
  let (missing, cursor) := cursor.spaces columns
  (columns - missing, cursor)

/-- Passes a number of characters. -/
def skip (cursor : Cursor) (count : Nat) : Cursor :=
  { cursor with rest := cursor.rest.drop count, passed := cursor.passed + count }

/-- Passes all spaces and tabs. -/
def allSpaces (cursor : Cursor) : Cursor :=
  { cursor with spare := 0 }.skip (countWhile (fun c => c == ' ' || c == '\t') cursor.rest)

/-- Whether the line, or the source, ends here. -/
def atLineEnd (cursor : Cursor) : Bool := (lineEnd? cursor.rest).isSome

/-- Passes one character if it is `c`. -/
def char? (cursor : Cursor) (c : Char) : Option Cursor :=
  if cursor.rest.head? == some c then some (cursor.skip 1) else none

end Cursor

end DocIndex.Markdown
