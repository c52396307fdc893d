import DocIndex.Markdown.Definition
import DocIndex.Markdown.Paragraph
import DocIndex.Markdown.Verbatim

/-!
# The blocks of a document

`Document.read` reads a document block by block. Each line first goes on with the containers that
are open, then may open new ones, and what is left of it begins a block or is blank.
-/

namespace DocIndex.Markdown

namespace Draft

/-- What has become of a line once the containers that begin in it are open. -/
inductive Opening
  /-- The line goes on, with a block that is no container, at the cursor of a line start. -/
  | block (draft : Draft) (lineStart : Place) (cursor : Cursor)
  /-- Nothing is left of the line. -/
  | done (draft : Draft) (next : Place)

/-- Whether a definition may follow the last block. -/
def mayBeDefined (draft : Draft) : Bool :=
  match draft.last?.bind Node.kind? with
  | some .paragraph | some .titleCandidate | some (.definition _) => true
  | _ => false

/-- Opens the list of definitions to which a definition after the last block belongs. -/
def openDefinitions (draft : Draft) : Draft :=
  match draft.last? with
  | some (.block .paragraph start stop children) =>
    ((draft.mapChildren (·.drop 1)).push (.definitionList true) start).append
      (.block .definitionTitle start stop children)
  | some (.block .titleCandidate start stop children) =>
    (draft.mapChildren (·.drop 1)).append (.block .definitionTitle start stop children)
  | _ => draft

/-- Opens a definition, in a list that is loose if the line before was blank. -/
def openDefinition (indent start : Nat) (draft : Draft) : Draft :=
  let draft := draft.openDefinitions
  let draft :=
    if draft.afterBlank && draft.innermost?.any isList then
      { draft.mapKind loosened with afterBlank := false }
    else draft
  draft.push (.definition indent) start

/--
Opens the containers that begin in a line, up to `fuel` of them. `lineStart` is the place from which
the cursor counts.
-/
def openContainers (fuel : Nat) (draft : Draft) (lineStart : Place) (cursor : Cursor) : Opening :=
  match fuel with
  | 0 => .block draft lineStart cursor
  | fuel + 1 =>
    let (indent, outer) := cursor.spacesUpTo 4
    let start := lineStart.here + outer.passed
    if 4 ≤ indent then .block draft lineStart cursor
    else
      match outer.itemMarker? with
      | some (marker, after) =>
        let (columns, content) := after.itemContent
        let width := indent + 1 + marker.length + columns
        let itemStart := start - indent
        let draft := (draft.continueList itemStart marker.sign).push (.item width) itemStart
        let place := lineStart.follow content
        match place.blankLine? with
        | some next => .done { draft with emptyItem := some next.here } next
        | none =>
          match content.taskMarker? with
          | none => openContainers fuel draft lineStart content
          | some box =>
            let boxed := lineStart.follow box
            let token : Token := ⟨.task, place.here, boxed.here⟩
            match boxed.blankLine? with
            | some next =>
              .done { draft.appendToken token with emptyItem := some next.here } next
            | none => openContainers fuel { draft with task := some token } lineStart box
      | none =>
        match if draft.mayBeDefined then outer.definitionMarker? else none with
        | some (columns, content) =>
          let draft := draft.openDefinition (indent + columns) (start - indent)
          let place := lineStart.follow content
          match place.blankLine? with
          | some next => .done { draft with emptyItem := some next.here } next
          | none => openContainers fuel draft lineStart content
        | none =>
          match outer.quoteMarker? with
          | none => .block draft lineStart cursor
          | some content =>
            let draft := (draft.finishList lineStart.here).push .blockQuote start
            match content.quoteTag? with
            | none => openContainers fuel draft lineStart content
            | some tag =>
              let next := lineStart.follow tag
              let (found, marks) := next.cursor.containers draft.kinds
              let (missing, inner) := marks.spaces 4
              let sameContainers := found == draft.kinds.length
              if missing != 0 && interrupts draft.kinds sameContainers inner.rest then
                .done draft next
              else openContainers fuel draft next inner.allSpaces

/-- Reads the block that begins at a cursor, which is no container. -/
def leafBlock (draft : Draft) (lineStart : Place) (cursor : Cursor) : Draft × Place :=
  match (lineStart.follow cursor).blankLine? with
  | some next => (draft.blankLine, next)
  | none =>
    let (indent, content) := cursor.spacesUpTo 4
    let place := lineStart.follow content
    let finished := draft.finishList lineStart.here
    if indent == 4 then finished.indentedCode content.spare place
    else
      match if indent == 0 then metadata? place.rest else none with
      | some sign => finished.metadataBlock sign place
      | none =>
        match draft.htmlBlock? lineStart.here (max cursor.spare indent) place with
        | some read => read
        | none =>
          match rule? place.rest with
          | some length =>
            let next := place.advance length
            (finished.append (.block .rule place.here next.here []), next)
          | none =>
            match headingLevel? place.rest with
            | some level => finished.heading level place
            | none =>
              match codeFence? place.rest with
              | some (sign, length) => finished.fencedCode sign length indent place
              | none => (draft.linkDefinition? place).getD (draft.paragraph place)

/-- Reads what begins at the start of a line: blank lines, a block, or the first lines of one. -/
def readBlock (draft : Draft) (lineStart : Place) : Draft × Place :=
  let (found, cursor) := lineStart.cursor.containers draft.kinds
  let draft := { draft with braces := .none }.popTo found lineStart.here
  let draft :=
    if draft.innermost? == some .footnoteDefinition && draft.afterBlank then
      draft.pop lineStart.here
    else draft
  let (draft, lineStart, cursor) :=
    match draft.footnote? (lineStart.follow cursor) with
    | some (draft, place) => (draft, place, place.cursor)
    | none => (draft, lineStart, cursor)
  match draft.openContainers (lineStart.rest.length + 1) lineStart cursor with
  | .done draft next => (draft, next)
  | .block draft lineStart cursor => draft.leafBlock lineStart cursor

/-- Reads the blocks from the start of a line on. -/
def readBlocks (draft : Draft) (lineStart : Place) : Draft × Place :=
  if lineStart.rest.isEmpty then (draft, lineStart)
  else
    let (draft, next) := draft.readBlock lineStart
    if next.rest.length < lineStart.rest.length then draft.readBlocks next else (draft, next)
termination_by lineStart.rest.length

end Draft

/-- A document that has been read. -/
structure Document where
  /-- The blocks of the document. -/
  blocks : List Node
  /-- The labels for which there are link definitions. -/
  labels : List (List Char)

/-- Reads a document. -/
def Document.read (text : List Char) : Document :=
  let (draft, stop) := Draft.empty.readBlocks (.start text)
  { blocks := draft.finish stop.here, labels := draft.labels }

end DocIndex.Markdown
