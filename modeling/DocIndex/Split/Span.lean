import DocIndex.Text.Whitespace

/-!
# Spans and their trimming

Chunks are cut from a text as spans, that is, pairs of positions counted in characters. A span is
trimmed before it counts: `Trimming` says which of its leading characters are dropped, and trailing
whitespace always is.
-/

namespace DocIndex.Split

open DocIndex.Text

/-- The characters from position `start` up to, and without, position `stop`. -/
structure Span where
  start : Nat
  stop : Nat
  deriving DecidableEq, Repr

namespace Span

/-- The characters of a text that a span covers. -/
def slice (span : Span) (text : List Char) : List Char :=
  (text.drop span.start).take (span.stop - span.start)

/-- The number of characters that a span covers. -/
def length (span : Span) : Nat := span.stop - span.start

end Span

/-- Whether a character ends a line. -/
def isLineEnd (c : Char) : Bool := c == '\n' || c == '\r'

/-- What is dropped at the front of a chunk. -/
inductive Trimming
  /-- All leading whitespace. -/
  | whitespace
  /-- Leading line ends alone when the chunk has several lines, else all leading whitespace. -/
  | keepIndentation
  deriving DecidableEq, Repr

namespace Trimming

/-- The number of characters that are dropped at the front of a text. -/
def leading (trimming : Trimming) (text : List Char) : Nat :=
  match trimming with
  | whitespace => (text.takeWhile isSpace).length
  | keepIndentation =>
    if (trim text).any isLineEnd then (text.takeWhile isLineEnd).length
    else (text.takeWhile isSpace).length

/-- The number of characters of a text that trimming leaves. -/
def size (trimming : Trimming) (text : List Char) : Nat :=
  trimEndLength text - trimming.leading text

/-- The span that trimming leaves of a text which begins at position `here`. -/
def span (trimming : Trimming) (here : Nat) (text : List Char) : Span :=
  ⟨here + trimming.leading text, here + trimEndLength text⟩

end Trimming

end DocIndex.Split
