import DocIndex.Markdown.Container
import DocIndex.Markdown.Line

/-!
# Documents being read

While a document is read line by line, some of its blocks are still open. A draft holds these, the
innermost one first, each with the children that it has so far.
-/

namespace DocIndex.Markdown

/-- A block that has not ended yet. -/
structure OpenBlock where
  kind : BlockKind
  start : Nat
  /-- The children, the last one first. -/
  children : List Node

/-- A document of which some blocks are still open. -/
structure Draft where
  /-- The open blocks, the innermost one first. -/
  blocks : List OpenBlock
  /-- The closed blocks that no other block holds, the last one first. -/
  closed : List Node
  /-- The last line was blank. -/
  afterBlank : Bool
  /-- Where the content of an item begins whose marker stands alone in its line. -/
  emptyItem : Option Nat
  /-- The box of a task whose text begins with the next paragraph. -/
  task : Option Token
  /-- The labels for which there are link definitions. -/
  labels : List (List Char)
  braces : Braces

namespace Draft

/-- The draft of which nothing has been read. -/
def empty : Draft :=
  { blocks := [], closed := [], afterBlank := false, emptyItem := none, task := none, labels := []
    braces := .none }

/-- The kinds of the open blocks, the outermost one first. -/
def kinds (draft : Draft) : List BlockKind := (draft.blocks.map (·.kind)).reverse

/-- The kind of the innermost open block. -/
def innermost? (draft : Draft) : Option BlockKind := draft.blocks.head?.map (·.kind)

/-- The last child of the innermost open block. -/
def last? (draft : Draft) : Option Node :=
  match draft.blocks with
  | [] => draft.closed.head?
  | block :: _ => block.children.head?

/-- The end of the last child of the innermost block. -/
def lastStop (draft : Draft) : Nat := (draft.last?.map Node.stop).getD 0

/-- Changes the children of the innermost open block, which come last one first. -/
def mapChildren (change : List Node → List Node) (draft : Draft) : Draft :=
  match draft.blocks with
  | [] => { draft with closed := change draft.closed }
  | block :: outer =>
    { draft with blocks := { block with children := change block.children } :: outer }

/-- Adds a node to the innermost open block. -/
def append (node : Node) (draft : Draft) : Draft := draft.mapChildren (node :: ·)

/-- Adds a token to the innermost open block. -/
def appendToken (token : Token) (draft : Draft) : Draft := draft.append (.token token)

/-- Adds literal text; text that adjoins the last token extends it. -/
def appendText (start stop : Nat) (draft : Draft) : Draft :=
  if stop ≤ start then draft
  else
    draft.mapChildren fun children =>
      match children with
      | .token ⟨.text, first, last⟩ :: earlier =>
        if last == start then .token ⟨.text, first, stop⟩ :: earlier
        else .token ⟨.text, start, stop⟩ :: children
      | _ => .token ⟨.text, start, stop⟩ :: children

/-- Opens a block. -/
def push (kind : BlockKind) (start : Nat) (draft : Draft) : Draft :=
  { draft with blocks := ⟨kind, start, []⟩ :: draft.blocks }

/-- Changes the kind of the innermost open block. -/
def mapKind (change : BlockKind → BlockKind) (draft : Draft) : Draft :=
  match draft.blocks with
  | [] => draft
  | block :: outer => { draft with blocks := { block with kind := change block.kind } :: outer }

/-- A paragraph as it appears in an item of a list without blank lines. -/
def tightened : Node → Node
  | .block .paragraph start stop children => .block .tightParagraph start stop children
  | node => node

/-- An item of a list as it appears when there are no blank lines in the list. -/
def tightenedItem : Node → Node
  | .block kind start stop children => .block kind start stop (children.map tightened)
  | node => node

/-- Whether a node belongs in a list of definitions. -/
def isDefinitionPart (node : Node) : Bool :=
  match node.kind? with
  | some .definitionTitle => true
  | some (.definition _) => true
  | _ => false

/-- A paragraph after a definition to which no definition belongs. -/
def untitled : Node → Node
  | .block .titleCandidate start stop children => .block .paragraph start stop children
  | node => node

/-- The nodes, last one first, that an open block amounts to when it ends at position `stop`. -/
def closedNodes (stop : Nat) (block : OpenBlock) : List Node :=
  match block.kind with
  | .list true _ =>
    [.block block.kind block.start stop (block.children.reverse.map tightenedItem)]
  | .definitionList tight =>
    let children := block.children.reverse
    let parts := children.takeWhile isDefinitionPart
    let others := (children.drop parts.length).map untitled
    let stop := if others.isEmpty then stop else (parts.getLast?.map Node.stop).getD stop
    let parts := if tight then parts.map tightenedItem else parts
    others.reverse ++ [.block block.kind block.start stop parts]
  | _ => [.block block.kind block.start stop block.children.reverse]

/-- Closes the innermost open block at position `stop`. -/
def pop (stop : Nat) (draft : Draft) : Draft :=
  match draft.blocks with
  | [] => draft
  | block :: outer =>
    let emptyItem := match block.kind with
      | .list true _ => none
      | .definitionList _ => none
      | _ => draft.emptyItem
    ({ draft with blocks := outer, emptyItem }).mapChildren (closedNodes stop block ++ ·)

/-- Closes open blocks at position `stop` until no more than `count` are left. -/
def popTo (count stop : Nat) (draft : Draft) : Draft :=
  (List.range (draft.blocks.length - count)).foldl (fun draft _ => draft.pop stop) draft

/-- A list whose items are set apart by blank lines. -/
def loosened : BlockKind → BlockKind
  | .list _ marker => .list false marker
  | .definitionList _ => .definitionList false
  | kind => kind

/-- Whether a block is a list. -/
def isList (kind : BlockKind) : Bool :=
  match kind with
  | .list .. | .definitionList _ => true
  | _ => false

/-- Whether a block is an item of a list. -/
def isItem (kind : BlockKind) : Bool :=
  match kind with
  | .item _ | .definition _ => true
  | _ => false

/-- Closes an item of which only the marker and a blank line have been read. -/
def finishEmptyItem (draft : Draft) : Draft :=
  let finished := match draft.emptyItem with
    | some stop =>
      if draft.afterBlank && draft.innermost?.any isItem then draft.pop stop else draft
    | none => draft
  { finished with emptyItem := none }

/-- Closes the list that is the innermost open block before a block that is no item of it. -/
def finishList (stop : Nat) (draft : Draft) : Draft :=
  let draft := draft.finishEmptyItem
  let draft := if draft.innermost?.any isList then draft.pop stop else draft
  if draft.afterBlank then
    match draft.blocks with
    | inner :: outer :: others =>
      { draft with
        blocks := inner :: { outer with kind := loosened outer.kind } :: others
        afterBlank := false }
    | _ => { draft with afterBlank := false }
  else draft

/-- Goes on with the list that has the given marker, or begins such a list. -/
def continueList (start : Nat) (marker : Char) (draft : Draft) : Draft :=
  let draft := draft.finishEmptyItem
  let continues := match draft.innermost? with
    | some (.list _ existing) => existing == marker
    | _ => false
  if continues then
    if draft.afterBlank then { draft.mapKind loosened with afterBlank := false } else draft
  else
    { (draft.finishList start).push (.list true marker) start with afterBlank := false }

/-- Notes a blank line. -/
def blankLine (draft : Draft) : Draft :=
  match draft.innermost? with
  | some .blockQuote => draft
  | some kind =>
    let emptied : BlockKind → BlockKind
      | .item _ => .item 0
      | .definition _ => .definition 0
      | kind => kind
    let draft := { draft with afterBlank := true }
    if isItem kind && draft.emptyItem.isSome then draft.mapKind emptied else draft
  | none => { draft with afterBlank := true }

/-- The document whose blocks all end at position `stop`. -/
def finish (stop : Nat) (draft : Draft) : List Node := (draft.popTo 0 stop).closed.reverse

/-- Passes the marks of the open blocks at the start of a line, when all of them are there. -/
def allContainers? (draft : Draft) (place : Place) : Option Cursor :=
  place.cursor.allContainers? draft.kinds

end Draft

end DocIndex.Markdown
