import DocIndex.Markdown.Draft

/-!
# Blocks of verbatim lines

Code blocks, blocks of metadata and HTML blocks hold their lines as they are, without the marks of
the containers around them. Each reader starts at the first line of its block and gives the place at
which reading goes on.
-/

namespace DocIndex.Markdown

namespace Draft

/--
Adds a verbatim line of the given length. Columns of a tab that belong to the line stand before it
as replaced text, and a pair of carriage return and line feed counts as a line feed.
-/
def appendLine (add : Nat → Nat → Draft → Draft) (spare : Nat) (place : Place) (length : Nat)
    (draft : Draft) : Draft :=
  let stop := place.here + length
  let draft := if spare == 0 then draft else draft.appendToken ⟨.replaced, place.here, place.here⟩
  if 2 ≤ length && (place.rest.drop (length - 2)).head? == some '\r' then
    add (stop - 1) stop (add place.here (stop - 2) draft)
  else add place.here stop draft

/-- Adds a line of a code block. -/
def appendCode (spare : Nat) (place : Place) (draft : Draft) : Draft :=
  draft.appendLine appendText spare place (lineLength place.rest)

/-- Adds a line of an HTML block. -/
def appendHtml (spare : Nat) (place : Place) (draft : Draft) : Draft :=
  draft.appendLine (fun start stop => appendToken ⟨.html, start, stop⟩) spare place
    (lineLength place.rest)

/-- Closes the innermost block at a place, and passes the rest of the line if it is blank. -/
def popAt (draft : Draft) (place : Place) : Draft × Place := (draft.pop place.here, place.passBlank)

/-- Reads the lines of a code block up to the fence that closes it. -/
def fencedLines (sign : Char) (length indent : Nat) (draft : Draft) (place : Place) :
    Draft × Place :=
  match draft.allContainers? place with
  | none => (draft.pop place.here, place)
  | some cursor =>
    let content := (cursor.spaces indent).2
    let (missing, closing) := content.spaces (4 - indent)
    let fence? := if missing == 0 then none else closingFence? sign length closing.rest
    match fence? with
    | some fence => draft.popAt ((place.follow closing).advance fence)
    | none =>
      let line := place.follow content
      let draft := draft.appendCode content.spare line
      if line.nextLine.rest.length < place.rest.length then
        fencedLines sign length indent draft line.nextLine
      else draft.popAt line.nextLine
termination_by place.rest.length

/-- Reads a code block from its opening fence on. -/
def fencedCode (sign : Char) (length indent : Nat) (draft : Draft) (place : Place) :
    Draft × Place :=
  fencedLines sign length indent (draft.push .codeBlock place.here) (place.advance length).nextLine

/-- Reads the lines of a block of metadata up to the line that closes it. -/
def metadataLines (sign : Char) (draft : Draft) (place : Place) : Draft × Place :=
  match draft.allContainers? place with
  | none => draft.popAt place
  | some cursor =>
    let indented := place.rest.head?.any fun c => c == ' ' || c == '\t'
    match if indented then none else closingMetadata? sign place.rest with
    | some closing => draft.popAt (place.advance closing)
    | none =>
      let line := place.follow cursor
      let draft := draft.appendCode cursor.spare line
      if line.nextLine.rest.length < place.rest.length then metadataLines sign draft line.nextLine
      else draft.popAt line.nextLine
termination_by place.rest.length

/-- Reads a block of metadata from its opening line on. -/
def metadataBlock (sign : Char) (draft : Draft) (place : Place) : Draft × Place :=
  metadataLines sign (draft.push .metadata place.here) (place.advance 3).nextLine

/--
Closes an indented code block without the blank lines at its end: of its children the first `count`
are kept, the last of them up to position `stop`.
-/
def popCode (count stop : Nat) (draft : Draft) : Draft :=
  (draft.mapChildren fun children =>
    match children.drop (children.length - count) with
    | [] => []
    | last :: earlier => last.withStop stop :: earlier).pop stop

/--
Reads the lines of an indented code block; `count` and `stop` are the number of children and the end
of the last one after the last line that was not blank.
-/
def indentedLines (count stop spare : Nat) (draft : Draft) (place : Place) : Draft × Place :=
  let draft := draft.appendCode spare place
  let (count, stop) :=
    if draft.afterBlank then (count, stop)
    else ((draft.blocks.head?.map (·.children.length)).getD 0, draft.lastStop)
  let next := place.nextLine
  let finished := (draft.popCode count stop, next)
  match draft.allContainers? next with
  | none => finished
  | some cursor =>
    let (missing, content) := cursor.spaces 4
    let line := next.follow content
    if missing != 0 && ! content.atLineEnd then finished
    else if line.rest.isEmpty then finished
    else if line.rest.length < place.rest.length then
      indentedLines count stop content.spare
        { draft with afterBlank := (blankLine? line.rest).isSome } line
    else finished
termination_by place.rest.length

/-- Reads an indented code block from its first line on, after its indentation. -/
def indentedCode (spare : Nat) (draft : Draft) (place : Place) : Draft × Place :=
  let pushed := { draft.push .codeBlock place.here with afterBlank := false }
  indentedLines 0 place.here spare pushed place

/-- Reads the lines of an HTML block up to the line in which the given text occurs. -/
def htmlLinesThrough (closing : List Char) (spare : Nat) (draft : Draft) (place : Place) :
    Draft × Place :=
  let line := place.rest.take (lineLength place.rest)
  let next := place.nextLine
  let draft := draft.appendHtml spare place
  match draft.allContainers? next with
  | none => (draft.pop next.here, next)
  | some cursor =>
    let content := next.follow cursor
    if (findText? closing line).isSome then (draft.pop next.here, next)
    else if content.rest.isEmpty then (draft.pop content.here, next)
    else if content.rest.length < place.rest.length then
      htmlLinesThrough closing cursor.spare draft content
    else (draft.pop next.here, next)
termination_by place.rest.length

/-- Reads the lines of an HTML block up to a blank line. -/
def htmlLines (spare : Nat) (draft : Draft) (place : Place) : Draft × Place :=
  let next := place.nextLine
  let draft := draft.appendHtml spare place
  match draft.allContainers? next with
  | none => (draft.pop next.here, next)
  | some cursor =>
    let content := next.follow cursor
    if cursor.atLineEnd then (draft.pop next.here, next)
    else if content.rest.isEmpty || content.blankLine?.isSome then (draft.pop content.here, next)
    else if content.rest.length < place.rest.length then htmlLines cursor.spare draft content
    else (draft.pop next.here, next)
termination_by place.rest.length

/--
Reads an HTML block, if one starts here; `spare` columns of indentation belong to its first line.
-/
def htmlBlock? (lineStart spare : Nat) (draft : Draft) (place : Place) : Option (Draft × Place) :=
  let pushed := (draft.finishList lineStart).push .htmlBlock place.here
  match place.rest with
  | '<' :: rest =>
    match htmlBlockEnd? rest with
    | some closing => some (htmlLinesThrough closing spare pushed place)
    | none =>
      if startsBlockElement rest || isTagLine place.rest then some (htmlLines spare pushed place)
      else none
  | _ => none

end Draft

end DocIndex.Markdown
