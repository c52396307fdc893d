import DocIndex.Markdown.Block
import DocIndex.Markdown.Cursor
import DocIndex.Markdown.Html
import DocIndex.Markdown.Link
import DocIndex.Markdown.Marker

/-!
# Containers

Block quotes, list items and definitions hold other blocks, and every line of those begins with the
marks of the containers around it. A paragraph goes on without them unless its next line would begin
a block of another kind.
-/

namespace DocIndex.Markdown

namespace Cursor

/-- Passes the sign of a block quote and a space after it. -/
def quoteMarker? (cursor : Cursor) : Option Cursor :=
  (cursor.char? '>').map fun cursor => (cursor.spaces 1).2

/-- Passes what a line has to begin with in a block of the given kind. -/
def container? (kind : BlockKind) (cursor : Cursor) : Option Cursor :=
  let indented (indent : Nat) : Option Cursor :=
    let (missing, after) := cursor.spaces indent
    if missing == 0 || after.atLineEnd then some after else none
  match kind with
  | .blockQuote => (cursor.spaces 3).2.quoteMarker?
  | .item indent => indented indent
  | .definition indent => indented indent
  | _ => some cursor

/-- Passes the marks of nested blocks, the outermost one first; gives the number of blocks found. -/
def containers : List BlockKind → Cursor → Nat × Cursor
  | [], cursor => (0, cursor)
  | kind :: inner, cursor =>
    match cursor.container? kind with
    | none => (0, cursor)
    | some cursor =>
      let (found, cursor) := containers inner cursor
      (found + 1, cursor)

/-- Passes the marks of nested blocks, when all of them are there. -/
def allContainers? (kinds : List BlockKind) (cursor : Cursor) : Option Cursor :=
  let (found, cursor) := cursor.containers kinds
  if found == kinds.length then some cursor else none

/-- The indentation and the marker of a list item, and the cursor after both. -/
def itemMarker? (cursor : Cursor) : Option (ItemMarker × Cursor) :=
  if (rule? cursor.rest).isSome then none
  else
    (Markdown.itemMarker? cursor.rest).bind fun marker =>
      let (missing, after) := (cursor.skip marker.length).spaces 1
      if missing == 0 || after.atLineEnd then some (marker, after) else none

/-- The columns that the content of an item is indented beyond its marker, and the cursor there. -/
def itemContent (cursor : Cursor) : Nat × Cursor :=
  if (blankLine? cursor.rest).isSome then (0, cursor)
  else
    let (columns, after) := cursor.spacesUpTo 4
    if columns < 4 then (columns, after) else (0, cursor)

/-- Passes the colon before a definition; gives the columns from there to its content. -/
def definitionMarker? (cursor : Cursor) : Option (Nat × Cursor) :=
  (cursor.char? ':').bind fun cursor =>
    let (missing, after) := cursor.spaces 1
    if missing == 0 || after.atLineEnd then
      let (columns, after) := after.itemContent
      some (2 + columns, after)
    else none

/-- Passes the box of a task. -/
def taskMarker? (cursor : Cursor) : Option Cursor :=
  ((cursor.spaces 3).2.char? '[').bind fun cursor =>
    let boxed := cursor.rest.head?.any fun c => isInlineSpace c || c == 'x' || c == 'X'
    if ! boxed then none
    else
      ((cursor.skip 1).char? ']').bind fun cursor =>
        if cursor.rest.head?.any isInlineSpace then some cursor else none

/-- The words that name a kind of block quote. -/
def quoteTags : List String := ["note", "tip", "important", "warning", "caution"]

/-- Passes the line that names the kind of a block quote. -/
def quoteTag? (cursor : Cursor) : Option Cursor :=
  let tags := quoteTags.map fun tag => ("[!" ++ tag ++ "]").toList
  (tags.find? fun tag => startsWithIgnoringCase tag cursor.rest).bind fun tag =>
    let after := cursor.skip tag.length
    (blankLine? after.rest).map after.skip

end Cursor

/-- Whether an item marker at the end of a line is followed by another blank line. -/
def isEmptyItem (after : List Char) : Bool :=
  match blankLine? after with
  | none => false
  | some length => (blankLine? (after.drop length)).isSome

/--
Whether a list item starts here that ends the paragraph before it. In the containers of the
paragraph that is so only for items with content which could begin a list, except in a table.
-/
def interruptingItem (inTable sameContainers : Bool) (text : List Char) : Bool :=
  match itemMarker? text with
  | none => false
  | some marker =>
    let after := text.drop marker.length
    let begins :=
      marker.number == 1 || marker.sign == '-' || marker.sign == '+' || marker.sign == '*'
    (after.head?.all fun c => c == ' ' || c == '\t' || isNewline c) &&
      (! sameContainers || inTable || (begins && ! isEmptyItem after))

/-- The length of the mark of a footnote, the label of which goes on after line ends as told. -/
def footnoteMark? (continues : Continuation) (text : List Char) : Option Nat :=
  match text with
  | '[' :: '^' :: rest =>
    (labelFrom continues 0 false rest).bind fun (length, _) =>
      if (rest.drop length).head? == some ':' then some (length + 3) else none
  | _ => none

/-- Whether a block of another kind, but no table, starts here and ends the paragraph before it. -/
def startsBlock (kinds : List BlockKind) (sameContainers : Bool) (text : List Char) : Bool :=
  let inTable := kinds.contains .table
  let inParagraph := kinds.getLast? == some .paragraph || kinds.getLast? == some .titleCandidate
  (lineEnd? text).isSome || (rule? text).isSome || (headingLevel? text).isSome ||
    (codeFence? text).isSome || text.head? == some '>' ||
    interruptingItem inTable sameContainers text || (footnoteMark? (fun _ => none) text).isSome ||
    (text.head? == some '<' &&
      ((htmlBlockEnd? (text.drop 1)).isSome || startsBlockElement (text.drop 1))) ||
    (sameContainers && inParagraph && ((Cursor.start text).definitionMarker?).isSome)

/-- The number of pipes in a line without a backslash before them, and what follows the last one. -/
def pipesFrom (count : Nat) (escaped : Bool) (afterLast : List Char) : List Char → Nat × List Char
  | [] => (count, afterLast)
  | c :: rest =>
    if isNewline c then (count, afterLast)
    else if c == '|' && ! escaped then pipesFrom (count + 1) false rest rest
    else pipesFrom count (c == '\\') afterLast rest

/-- The delimiter row of a table, in the given containers: what follows it, and its columns. -/
def delimiterRowIn? (kinds : List BlockKind) (place : List Char) : Option (Nat × Nat) :=
  ((Cursor.start place).allContainers? kinds).bind fun cursor =>
    (delimiterRow? cursor.rest).map fun (length, columns) => (cursor.passed + length, columns)

/-- Whether a table starts here: a line with pipes, and a delimiter row with as many columns. -/
def startsTable (kinds : List BlockKind) (text : List Char) : Bool :=
  let row := text.takeWhile (! isNewline ·)
  let following := text.drop row.length
  if text.head? != some '|' || following.isEmpty then false
  else
    let (pipes, afterLast) := pipesFrom 0 false [] text
    match delimiterRowIn? kinds (following.drop ((lineEnd? following).getD 0)) with
    | none => false
    | some (_, columns) => columns == headerColumns row pipes afterLast

/-- Whether a block starts here that ends the paragraph before it. -/
def interrupts (kinds : List BlockKind) (sameContainers : Bool) (text : List Char) : Bool :=
  startsBlock kinds sameContainers text || startsTable kinds text

end DocIndex.Markdown
