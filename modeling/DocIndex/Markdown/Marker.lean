import DocIndex.Markdown.Scan

/-!
# Markers of blocks

The signs at the start of a line by which a block is recognised: thematic breaks, headings, code
fences, list items, metadata blocks and the delimiter rows of tables.
-/

namespace DocIndex.Markdown

/--
The length of a thematic break: three or more equal signs with nothing but space between them.
-/
def rule? (text : List Char) : Option Nat :=
  match text with
  | [] => none
  | sign :: _ =>
    if sign != '*' && sign != '-' && sign != '_' then none
    else
      let line := text.takeWhile (! isNewline ·)
      if line.all (fun c => c == sign || c == ' ' || c == '\t') && 3 ≤ line.count sign then
        some (line.length + (lineEnd? (text.drop line.length)).getD 0)
      else none

/-- The level of a heading that starts with number signs. -/
def headingLevel? (text : List Char) : Option Nat :=
  let level := countRun '#' text
  if level == 0 || 6 < level then none
  else if (text.drop level).head?.all isAsciiSpace then some level
  else none

/-- The length of a heading underline and the level of the heading. -/
def underline? (text : List Char) : Option (Nat × Nat) :=
  let underlined (sign : Char) (level : Nat) : Option (Nat × Nat) :=
    let length := countRun sign text
    (blankLine? (text.drop length)).map fun blank => (length + blank, level)
  match text.head? with
  | some '=' => underlined '=' 1
  | some '-' => underlined '-' 2
  | _ => none

/-- The sign and the length of an opening code fence. -/
def codeFence? (text : List Char) : Option (Char × Nat) :=
  match text with
  | [] => none
  | sign :: _ =>
    if sign != '`' && sign != '~' then none
    else
      let length := countRun sign text
      let info := text.drop length
      if length < 3 || (sign == '`' && (info.take (lineLength info)).contains '`') then none
      else some (sign, length)

/-- The length of a closing code fence; the end of the source closes every code block. -/
def closingFence? (sign : Char) (length : Nat) (text : List Char) : Option Nat :=
  if text.isEmpty then some 0
  else
    let found := countRun sign text
    if found < length then none
    else
      let spaces := countRun ' ' (text.drop found)
      (lineEnd? (text.drop (found + spaces))).map fun _ => found + spaces

/-- The length of the line that closes a metadata block, without its line end. -/
def closingMetadata? (sign : Char) (text : List Char) : Option Nat :=
  let closes (c : Char) : Option Nat :=
    if countRun c text != 3 then none
    else
      let spaces := countRun ' ' (text.drop 3)
      (lineEnd? (text.drop (3 + spaces))).map fun _ => 3 + spaces
  match closes sign with
  | some length => some length
  | none => if sign == '-' then closes '.' else none

/-- Whether a line from here on closes a metadata block. -/
def metadataCloses (sign : Char) (text : List Char) : Bool :=
  match text with
  | [] => false
  | c :: rest =>
    (closingMetadata? sign (c :: rest)).isSome ||
      metadataCloses sign (rest.drop (lineLength (c :: rest) - 1))
termination_by text.length
decreasing_by simp only [List.length_drop, List.length_cons]; omega

/-- The sign of a metadata block, when its first line is not blank and some later line closes it. -/
def metadata? (text : List Char) : Option Char :=
  match text.head? with
  | none => none
  | some sign =>
    if sign != '-' && sign != '+' then none
    else if countRun sign text != 3 then none
    else
      let opening := text.drop 3
      let length := lineLength opening
      if ! (opening.take length).all isAsciiSpace then none
      else
        let body := opening.drop length
        if (closingMetadata? sign body).isSome || (blankLine? body).isSome then none
        else if metadataCloses sign body then some sign
        else none

/-- The marker of a list item. -/
structure ItemMarker where
  /-- The sign of a bullet, or the one after a number. -/
  sign : Char
  /-- The number of an ordered item, 0 for a bullet. -/
  number : Nat
  /-- The number of characters in the marker. -/
  length : Nat

/-- The marker of a list item, whatever follows it. -/
def itemMarker? (text : List Char) : Option ItemMarker :=
  match text with
  | [] => none
  | c :: _ =>
    if c == '-' || c == '+' || c == '*' then some ⟨c, 0, 1⟩
    else
      let digits := text.takeWhile Char.isDigit
      if digits.isEmpty || 9 < digits.length then none
      else
        match text.drop digits.length with
        | '.' :: _ => some ⟨'.', decimalValue digits, digits.length + 1⟩
        | ')' :: _ => some ⟨')', decimalValue digits, digits.length + 1⟩
        | _ => none

/-- What has been read of the delimiter row of a table. -/
structure DelimiterRow where
  columns : Nat
  pipe : Bool
  hyphen : Bool
  /-- The column at hand has a hyphen. -/
  filled : Bool
  /-- The column at hand has a hyphen or a colon. -/
  begun : Bool

/-- Reads a delimiter row; gives its length and the number of columns. -/
def delimiterRowFrom (row : DelimiterRow) (length : Nat) : List Char → Option (Nat × Nat)
  | [] => finish row length
  | c :: rest =>
    if isNewline c then finish row (length + (lineEnd? (c :: rest)).getD 0)
    else if c == ' ' then delimiterRowFrom row (length + 1) rest
    else if c == ':' then delimiterRowFrom { row with begun := true } (length + 1) rest
    else if c == '-' then
      delimiterRowFrom { row with hyphen := true, filled := true, begun := true } (length + 1) rest
    else if c == '|' && row.filled then
      delimiterRowFrom
        { row with columns := row.columns + 1, pipe := true, filled := false, begun := false }
        (length + 1) rest
    else none
where
  /-- The length and the number of columns of a finished row. -/
  finish (row : DelimiterRow) (length : Nat) : Option (Nat × Nat) :=
    if row.pipe && row.hyphen then
      some (length, if row.begun then row.columns + 1 else row.columns)
    else none

/-- The length, with the line end, and the number of columns of the delimiter row of a table. -/
def delimiterRow? (text : List Char) : Option (Nat × Nat) :=
  let indent := countRun ' ' text
  if 3 < indent then none
  else
    let row : DelimiterRow := ⟨0, false, false, false, false⟩
    match text.drop indent with
    | [] => none
    | '|' :: rest => delimiterRowFrom row (indent + 1) rest
    | content => delimiterRowFrom row indent content

/--
The number of columns of a header row, from the number of its pipes and what follows the last one: a
pipe at either end of the row divides no columns.
-/
def headerColumns (row : List Char) (pipes : Nat) (afterLastPipe : List Char) : Nat :=
  let leading := (row.drop (countWhile isInlineSpace row)).head? == some '|'
  let pipes := if leading then pipes - 1 else pipes
  if (blankLine? afterLastPipe).isSome then pipes else pipes + 1

end DocIndex.Markdown
