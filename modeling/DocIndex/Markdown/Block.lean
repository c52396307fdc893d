/-!
# The block structure of a Markdown document

A document is a tree of blocks. The leaves are the tokens of the lines of text inside the blocks,
with their positions in the source; how tokens combine into emphasis, links and the like is a matter
of the inline structure.
-/

namespace DocIndex.Markdown

/-- What stands in a line of text, before the inline structure is known. -/
inductive TokenKind
  /-- Literal text. -/
  | text
  /-- Text that stands for other text, such as an entity. -/
  | replaced
  /-- A line end within a block. -/
  | softBreak
  /-- A line end that breaks the line; `escaped` when a backslash makes it one. -/
  | hardBreak (escaped : Bool)
  /-- A run of delimiters that may open or close emphasis. -/
  | emphasis (delimiter : Char) (opens closes : Bool)
  /-- A run of backticks; `escaped` when a backslash stands before it. -/
  | code (escaped : Bool)
  /-- A dollar sign, with the braces that it stands in. -/
  | math (opens closes : Bool) (braces : Nat)
  /-- A less-than sign. -/
  | angle
  /-- The start of a link text. -/
  | linkOpen
  /-- The start of an image description. -/
  | imageOpen
  /-- The end of a link text; `open` when it may still name a reference by itself. -/
  | linkClose (reference : Bool)
  /-- The marker of a task in a list. -/
  | task
  /-- A line of an HTML block. -/
  | html
  deriving DecidableEq, Repr

/-- A stretch of a line of text. -/
structure Token where
  kind : TokenKind
  start : Nat
  stop : Nat
  deriving DecidableEq, Repr

/-- The kinds of blocks. -/
inductive BlockKind
  | paragraph
  /-- A paragraph in a list whose items are not set apart by blank lines. -/
  | tightParagraph
  | heading (level : Nat)
  | rule
  | codeBlock
  | htmlBlock
  | metadata
  | blockQuote
  /-- A list, with the character that marks its items. -/
  | list (tight : Bool) (marker : Char)
  /-- An item of a list, with the indentation of its content. -/
  | item (indent : Nat)
  | footnoteDefinition
  | definitionList (tight : Bool)
  | definitionTitle
  /-- A paragraph after a definition, which is a title if a definition follows it. -/
  | titleCandidate
  /-- The definition of a term, with the indentation of its content. -/
  | definition (indent : Nat)
  | table
  | tableHead
  | tableRow
  | tableCell
  deriving DecidableEq, Repr

/-- A block with its content, or a token. -/
inductive Node
  | block (kind : BlockKind) (start stop : Nat) (children : List Node)
  | token (token : Token)

namespace Node

/-- The kind of a block. -/
def kind? : Node → Option BlockKind
  | .block kind .. => some kind
  | .token _ => none

/-- The position at which a node starts. -/
def start : Node → Nat
  | .block _ start .. => start
  | .token content => content.start

/-- The position at which a node ends. -/
def stop : Node → Nat
  | .block _ _ stop _ => stop
  | .token content => content.stop

/-- The node cut off at the given position. -/
def withStop (stop : Nat) : Node → Node
  | .block kind start _ children => .block kind start stop children
  | .token content => .token { content with stop }

end Node

end DocIndex.Markdown
