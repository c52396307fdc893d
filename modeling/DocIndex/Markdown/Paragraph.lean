import DocIndex.Markdown.Heading
import DocIndex.Markdown.Table

/-!
# Paragraphs

A paragraph ends at a blank line and where another block starts. An underline makes a heading of it,
and a delimiter row after its first line a table.
-/

namespace DocIndex.Markdown

namespace Draft

/-- Adds the tokens of a line to the innermost block. -/
def appendLineTokens (line : Line) (draft : Draft) : Draft :=
  let add (draft : Draft) (token : Token) : Draft :=
    if token.kind == .text then draft.appendText token.start token.stop else draft.appendToken token
  { line.tokens.foldl add draft with braces := line.braces }

/--
The length of a line and the delimiter row after it, and its columns, when they begin a table.
-/
def tableHead? (line : Line) (draft : Draft) (place : Place) : Option (Nat × Nat) :=
  let breaks := line.lineEnd.any (·.kind != .hardBreak true)
  if line.pipes == 0 || ! breaks then none
  else
    match delimiterRowIn? draft.kinds (place.rest.drop line.length) with
    | none => none
    | some (length, columns) =>
      if columns == headerColumns place.rest line.pipes line.afterLastPipe then
        some (line.length + length, columns)
      else none

/-- Reads the lines of a paragraph that starts at `start`, from the one at `place` on. -/
def paragraphLines (start : Place) (draft : Draft) (place : Place) : Draft × Place :=
  let line := Line.read false draft.braces place place.rest
  let head? := if place.here == start.here then draft.tableHead? line place else none
  match head? with
  | some (length, columns) => draft.table columns place (place.advance length)
  | none =>
    let draft := draft.appendLineTokens line
    let next := place.advance line.length
    let backslash? := match line.lineEnd with
      | some ⟨.hardBreak true, start, _⟩ => some start
      | _ => none
    let keepBackslash (draft : Draft) : Draft :=
      match backslash? with
      | some start => draft.appendText start (start + 1)
      | none => draft
    let (found, marks) := next.cursor.containers draft.kinds
    let sameContainers := found == draft.kinds.length
    let (missing, content) := marks.spaces 4
    let underline := if missing == 0 || ! sameContainers then none else underline? content.rest
    match underline with
    | some (length, level) =>
      let stop := (next.follow content).advance length
      let draft := keepBackslash (draft.underlined level backslash?.isSome start.rest)
      (draft.pop stop.here, stop)
    | none =>
      let finished (place : Place) : Draft × Place := ((keepBackslash draft).pop place.here, place)
      if missing != 0 && interrupts draft.kinds sameContainers content.rest then finished next
      else
        let content := content.allSpaces
        if content.atLineEnd then finished next
        else
          let resumed := next.follow content
          if resumed.rest.length < place.rest.length then
            let draft := match line.lineEnd with
              | some token => draft.appendToken token
              | none => draft
            paragraphLines start draft resumed
          else finished resumed
termination_by place.rest.length

/-- Reads a paragraph. -/
def paragraph (draft : Draft) (place : Place) : Draft × Place :=
  let mayBeTitle := match draft.innermost?, draft.last?.bind Node.kind? with
    | some (.definitionList _), some (.definition _) => true
    | some (.definitionList _), none => true
    | _, _ => false
  let draft :=
    if mayBeTitle then { draft.push .titleCandidate place.here with afterBlank := false }
    else (draft.finishList place.here).push .paragraph place.here
  let draft := match draft.task with
    | some token => { draft.appendToken token with task := none }
    | none => draft
  draft.paragraphLines place place

end Draft

end DocIndex.Markdown
