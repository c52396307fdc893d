import DocIndex.Markdown.Draft

/-!
# Headings

A heading begins with number signs, or is a paragraph with an underline. In both cases it may end
with a block of attributes in braces, which is no part of its text.
-/

namespace DocIndex.Markdown

/--
The length of the text of a heading before the block of attributes at its end, if there is one. The
block holds neither braces nor angle brackets, backslashes or line ends.
-/
def beforeAttributes? (text : List Char) : Option Nat :=
  let closing := text.reverse.dropWhile fun c => c == ' ' || c == '\t' || isNewline c
  match closing with
  | '\x7d' :: inside =>
    let before := inside.dropWhile fun c =>
      ! (c == '\x7b' || c == '\x7d' || c == '<' || c == '>' || c == '\\' || isNewline c)
    match before with
    | '\x7b' :: content => some content.length
    | _ => none
  | _ => none

/-- The length of the text of a heading without the number signs that close it. -/
def beforeClosingSigns (text : List Char) : Nat :=
  let reversed := text.reverse.dropWhile fun c => c == ' ' || isNewline c
  match reversed.dropWhile (· == '#') with
  | [] => 0
  | ' ' :: content => (content.dropWhile (· == ' ')).length
  | _ => reversed.length

/--
Children of a heading, of which those from position `stop` on are cut off. A delimiter that begins
there and follows a backslash stays as that backslash.
-/
def truncated (stop : Nat) (afterBackslash : Bool) : List Node → List Node
  | [] => []
  | node :: later =>
    if node.stop < stop then node :: truncated stop afterBackslash later
    else if node.stop == stop then [node]
    else if node.start == stop then
      if afterBackslash then [.token ⟨.text, stop - 1, stop⟩] else []
    else [node.withStop stop]

namespace Draft

/-- Gives the last child of the innermost block another end. -/
def trimLast (stop : Nat) (draft : Draft) : Draft :=
  draft.mapChildren fun children =>
    match children with
    | [] => []
    | last :: earlier => last.withStop stop :: earlier

/-- Reads a heading that starts with `level` number signs. -/
def heading (level : Nat) (draft : Draft) (place : Place) : Draft × Place :=
  let signs := place.advance level
  match lineEnd? signs.rest with
  | some length =>
    let next := signs.advance length
    (draft.append (.block (.heading level) place.here next.here []), next)
  | none =>
    let content := signs.advance (countWhile isInlineSpace signs.rest)
    let next := content.nextLine
    let whole := content.rest.take (lineLength content.rest)
    let text := whole.take ((beforeAttributes? whole).getD whole.length)
    let line := Line.read false draft.braces content text
    let draft := line.tokens.foldl (fun draft token => draft.appendToken token)
      (draft.push (.heading level) place.here)
    ((draft.trimLast (content.here + beforeClosingSigns text)).pop next.here, next)

/--
Makes a heading of the paragraph that is the innermost block, where `text` is the source from the
start of the paragraph on.
-/
def underlined (level : Nat) (escapedEnd : Bool) (text : List Char) (draft : Draft) : Draft :=
  match draft.blocks with
  | [] => draft
  | block :: outer =>
    let source := text.take (draft.lastStop - block.start)
    let contentLength := (beforeAttributes? source).getD source.length
    let content := source.take contentLength
    let spaces := if escapedEnd then 0 else countWhile isInlineSpace content.reverse
    let stop := block.start + contentLength - spaces
    let afterBackslash := (content.take (contentLength - spaces)).getLast? == some '\\'
    let children :=
      if (beforeAttributes? source).isSome then
        (truncated stop afterBackslash block.children.reverse).reverse
      else block.children
    { draft with blocks := { block with kind := .heading level, children } :: outer }.trimLast stop

end Draft

end DocIndex.Markdown
