import DocIndex.Error
import DocIndex.Markdown.Outline
import DocIndex.Split.Chunks
import DocIndex.Split.LineBreaks

/-!
# Kinds of text

A document is plain text or Markdown, as the extension of its file says, and is cut into pieces by
the structure of its kind.
-/

namespace DocIndex.Documents

open DocIndex.Files DocIndex.Split DocIndex.Text

/-- The kind of a document. -/
inductive TextKind
  | plain
  | markdown
  deriving DecidableEq, Repr

namespace TextKind

/-- The extensions of Markdown files. -/
def markdownExtensions : List (List UInt8) := [Utf8.ofString "md", Utf8.ofString "markdown"]

/-- The kind of the document that a path names. -/
def ofPath (path : Path) : TextKind :=
  match path.extension? with
  | some extension => if markdownExtensions.contains extension then markdown else plain
  | none => plain

/-- What is dropped at the front of a chunk of a document. -/
def trimming : TextKind → Trimming
  | plain => .whitespace
  | markdown => .keepIndentation

/-- The structure by which a document is cut. -/
def regions : TextKind → List Char → List Region
  | plain => LineBreaks.regions
  | markdown => Markdown.outline

/-- The chunks of a document, as spans of its text. The overlap has to be smaller than the size. -/
def spans (kind : TextKind) (limits : Limits) (text : List Char) : Except Error (List Span) :=
  if limits.size ≤ limits.overlap then .error .chunkLimits
  else .ok (Split.spans .unicode limits kind.trimming (kind.regions text) text)

/-- The chunks of a document, as texts. -/
def pieces (kind : TextKind) (limits : Limits) (text : List Char) : Except Error (List String) :=
  (kind.spans limits text).map fun spans => spans.map fun span => String.ofList (span.slice text)

end TextKind

end DocIndex.Documents
