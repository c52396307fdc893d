import DocIndex.Markdown.Draft
import DocIndex.Markdown.Link

/-!
# Definitions of links and footnotes

A link definition gives a label a destination, and a title perhaps. Only the labels are kept: they
tell which bracketed texts are links.
-/

namespace DocIndex.Markdown

/--
The marks of the containers at the start of a line within a definition, unless another block starts
there. With `always` an underline ends the definition even if containers are missing.
-/
def definitionLine? (kinds : List BlockKind) (always : Bool) (text : List Char) : Option Cursor :=
  let (found, cursor) := (Cursor.start text).containers kinds
  let sameContainers := found == kinds.length
  let (missing, cursor) := cursor.spaces 4
  if missing == 0 then some cursor
  else if interrupts kinds sameContainers cursor.rest ||
      ((sameContainers || always) && (underline? cursor.rest).isSome) then none
  else some cursor

/-- How a label in brackets goes on after a line end, in the given containers. -/
def labelContinuation (kinds : List BlockKind) : Continuation := fun text =>
  let (found, cursor) := (Cursor.start text).containers kinds
  let sameContainers := found == kinds.length
  let (missing, cursor) := cursor.spaces 4
  if missing == 0 || interrupts kinds sameContainers cursor.rest ||
      (sameContainers && (underline? cursor.rest).isSome) then none
  else some cursor.passed

/--
The space within a definition: its length, and the number of line ends in it, which is at most 1.
-/
def definitionSpace (kinds : List BlockKind) (text : List Char) : Option (Nat × Nat) :=
  let before := countWhile isInlineSpace text
  match lineEnd? (text.drop before) with
  | none => some (before, 0)
  | some ending =>
    let line := text.drop (before + ending)
    (definitionLine? kinds true line).bind fun cursor =>
      let after := countWhile isInlineSpace cursor.rest
      let length := before + ending + cursor.passed + after
      if (lineEnd? (cursor.rest.drop after)).isSome then none else some (length, 1)

/-- The length of a title that `close` ends, counted from after its opening sign. -/
def titleFrom (kinds : List BlockKind) (close : Char) : List Char → Option Nat
  | [] => none
  | c :: rest =>
    if c == '(' && close == ')' then none
    else if isNewline c then
      match definitionLine? kinds true rest with
      | none => none
      | some cursor =>
        let content := cursor.allSpaces
        if (blankLine? content.rest).isSome then none
        else (titleFrom kinds close (rest.drop content.passed)).map (1 + content.passed + ·)
    else if c == '\\' then
      match rest with
      | [] => none
      | escaped :: others =>
        if isNewline escaped then (titleFrom kinds close (escaped :: others)).map (· + 1)
        else (titleFrom kinds close others).map (· + 2)
    else if c == close then some 1
    else (titleFrom kinds close rest).map (· + 1)
termination_by text => text.length
decreasing_by all_goals simp_all only [List.length_drop, List.length_cons]; omega

/-- The length of what follows the colon of a link definition, up to the end of its last line. -/
def definitionBody? (kinds : List BlockKind) (text : List Char) : Option Nat :=
  (definitionSpace kinds text).bind fun (before, _) =>
    (destination? 1 (text.drop before)).bind fun destination =>
      if destination == 0 then none
      else
        let untitled := before + destination
        match definitionSpace kinds (text.drop untitled) with
        | none => some untitled
        | some (space, lineEnds) =>
          if space == 0 && lineEnds == 0 then none
          else
            let after := untitled + space
            let title? := (text.drop after).head?.bind fun opening =>
              (titleClose? opening).bind fun close =>
                (titleFrom kinds close (text.drop (after + 1))).map (after + 1 + ·)
            match title?.filter fun title => (blankLine? (text.drop title)).isSome with
            | some title => some title
            | none => if lineEnds == 0 then none else some untitled

namespace Draft

/-- Reads a link definition, if one starts here. -/
def linkDefinition? (draft : Draft) (place : Place) : Option (Draft × Place) :=
  match place.rest with
  | '[' :: rest =>
    (labelFrom (labelContinuation draft.kinds) 0 false rest).bind fun (length, label) =>
      match rest.drop length with
      | ':' :: body =>
        (definitionBody? draft.kinds body).map fun definition =>
          let draft := { draft with labels := comparableLabel label :: draft.labels }
          (draft, (place.advance (length + 2 + definition)).passBlank)
      | _ => none
  | _ => none

/-- Opens a footnote, if its mark starts here; gives the place after the mark and its blank line. -/
def footnote? (draft : Draft) (place : Place) : Option (Draft × Place) :=
  (footnoteMark? (labelContinuation draft.kinds) place.rest).map fun length =>
    ((draft.finishList place.here).push .footnoteDefinition place.here,
      (place.advance length).passBlank)

end Draft

end DocIndex.Markdown
