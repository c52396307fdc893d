import DocIndex.Markdown.Document
import DocIndex.Markdown.Emphasis
import DocIndex.Split.Region

/-!
# The outline of a document

The outline of a document is its structure as regions for the chunker. From the weakest to the
strongest: line ends within a paragraph, inline structure, blocks, thematic breaks, and headings
from the sixth level to the first.
-/

namespace DocIndex.Markdown

open DocIndex.Split

/-- The ranks of the regions of a document. -/
inductive OutlineRank
  | lineEnd
  | inline
  | block
  | rule
  | heading (level : Nat)

namespace OutlineRank

/-- The rank as a number. -/
def toNat : OutlineRank → Nat
  | lineEnd => 0
  | inline => 1
  | block => 2
  | rule => 3
  | heading level => 10 - level

/-- How a region of this rank cuts the text around it. -/
def placement : OutlineRank → Placement
  | block => .absorbing
  | heading _ => .leading
  | _ => .apart

/-- The region of this rank between two positions. -/
def region (rank : OutlineRank) (start stop : Nat) : Region :=
  { rank := rank.toNat, placement := rank.placement, start, stop }

end OutlineRank

/-- The rank of a structure that holds no other. -/
def LeafKind.rank : LeafKind → OutlineRank
  | .softBreak => .lineEnd
  | .displayMath => .block
  | _ => .inline

mutual

/-- The regions of an inline structure. -/
def Inline.regions : Inline → List Region
  | .leaf kind start stop => [kind.rank.region start stop]
  | .span _ start stop children =>
    OutlineRank.inline.region start stop :: Inline.allRegions children

/-- The regions of inline structures. -/
def Inline.allRegions : List Inline → List Region
  | [] => []
  | inline :: later => inline.regions ++ Inline.allRegions later

end

/-- The rank of a block; paragraphs of tight lists have none. -/
def BlockKind.rank? : BlockKind → Option OutlineRank
  | .tightParagraph => none
  | .heading level => some (.heading level)
  | .rule => some .rule
  | .tableCell => some .inline
  | _ => some .block

/-- Whether the tokens in a block are text with an inline structure. -/
def BlockKind.holdsText : BlockKind → Bool
  | .paragraph | .tightParagraph | .titleCandidate | .definitionTitle => true
  | .heading _ | .tableCell => true
  | _ => false

/-- The region of a token in a block whose text has no inline structure. -/
def Token.region (token : Token) : Region :=
  (if token.kind == .html then OutlineRank.block else .inline).region token.start token.stop

/-- The tokens among nodes. -/
def Node.tokens (nodes : List Node) : List Token :=
  nodes.filterMap fun
    | .token content => some content
    | .block .. => none

mutual

/-- The regions of a node in a document, inside blocks of the given kinds. -/
def Node.regions (document : Document) (text : List Char) (kinds : List BlockKind) :
    Node → List Region
  | .token content => [content.region]
  | .block kind start stop children =>
    let own := (kind.rank?.map fun rank => rank.region start stop).toList
    let kinds := kinds ++ [kind]
    if kind.holdsText then
      let passage : Passage :=
        ⟨start, (text.drop start).take (stop - start), kinds, document.labels⟩
      own ++ Inline.allRegions (inlines passage (Node.tokens children))
    else own ++ Node.allRegions document text kinds children

/-- The regions of nodes in a document. -/
def Node.allRegions (document : Document) (text : List Char) (kinds : List BlockKind) :
    List Node → List Region
  | [] => []
  | node :: later => node.regions document text kinds ++ Node.allRegions document text kinds later

end

/-- The regions of a Markdown text. -/
def outline (text : List Char) : List Region :=
  let document := Document.read text
  Node.allRegions document text [] document.blocks

end DocIndex.Markdown
