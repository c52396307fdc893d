import DocIndex.Markdown.Bracket

/-!
# Emphasis

The second step to the inline structure of a block: runs of delimiters are paired, from left to
right, each closing run with the nearest run before it that it may close. Delimiters without a
partner are literal text.
-/

namespace DocIndex.Markdown

/-- The inline structure of a block. -/
inductive Inline
  | leaf (kind : LeafKind) (start stop : Nat)
  | span (kind : SpanKind) (start stop : Nat) (children : List Inline)

/-- A run of delimiters that waits for its partner. -/
structure OpenRun where
  delimiter : Char
  /-- The number of delimiters that the run began with. -/
  length : Nat
  /-- The number of delimiters that are left. -/
  count : Nat
  /-- The run could close another one as well. -/
  both : Bool
  start : Nat
  /-- What follows the run, the last structure first. -/
  content : List Inline

/-- The delimiters of a run, from position `start` on, as literal text, the last one first. -/
def literalDelimiters (start count : Nat) : List Inline :=
  ((List.range count).map fun offset =>
    Inline.leaf .text (start + offset) (start + offset + 1)).reverse

namespace OpenRun

/-- Whether a closing run of the given length may close this one. -/
def matchesRun (delimiter : Char) (length : Nat) (both : Bool) (run : OpenRun) : Bool :=
  run.delimiter == delimiter &&
    (delimiter != '~' || run.length == length) &&
    ((! both && ! run.both) || (length + run.length) % 3 != 0 || length % 3 == 0)

/-- The run as literal text and what follows it, the last structure first. -/
def literal (run : OpenRun) : List Inline := run.content ++ literalDelimiters run.start run.count

end OpenRun

/-- The kind of structure that `width` delimiters on either side make. -/
def emphasisKind (delimiter : Char) (width : Nat) : SpanKind :=
  if delimiter == '~' then if width == 2 then .strikethrough else .subscript
  else if delimiter == '^' then .superscript
  else if width == 2 then .strong else .emphasis

/--
Wraps structures in `width` pairs of delimiters, two at a time from the inside. The opening ones end
at position `start`, the closing ones start at position `stop`.
-/
def wrapEmphasis (delimiter : Char) (start stop : Nat) (children : List Inline) : Nat → List Inline
  | 0 => children
  | 1 => [.span (emphasisKind delimiter 1) (start - 1) (stop + 1) children]
  | width + 2 =>
    wrapEmphasis delimiter (start - 2) (stop + 2)
      [.span (emphasisKind delimiter 2) (start - 2) (stop + 2) children] width

/-- The runs that wait for a partner, and what comes before the first of them. -/
structure EmphasisState where
  /-- The open runs, the last one first. -/
  runs : List OpenRun
  /-- What stands before all runs, the last structure first. -/
  content : List Inline
  /-- The number of runs that no tilde closes any more. -/
  tildeFloor : Nat

namespace EmphasisState

/-- Adds structures after all others, the last structure first. -/
def add (inlines : List Inline) (state : EmphasisState) : EmphasisState :=
  match state.runs with
  | [] => { state with content := inlines ++ state.content }
  | run :: outer => { state with runs := { run with content := inlines ++ run.content } :: outer }

/-- The runs after the one that a closing run closes, that run, and those before it. -/
def partner? (delimiter : Char) (length : Nat) (both : Bool) (state : EmphasisState) :
    Option (List OpenRun × OpenRun × List OpenRun) :=
  let floor := if delimiter == '~' then state.tildeFloor else 0
  let candidates := state.runs.take (state.runs.length - floor)
  let later := candidates.takeWhile fun run => ! run.matchesRun delimiter length both
  match state.runs.drop later.length with
  | [] => none
  | run :: outer => if later.length == candidates.length then none else some (later, run, outer)

/--
Closes open runs with `count` delimiters that start at position `start`; gives the state and the
number of delimiters for which there was no partner. `fuel` bounds the number of partners.
-/
def close (delimiter : Char) (length : Nat) (both : Bool) (fuel start count : Nat)
    (state : EmphasisState) : EmphasisState × Nat :=
  match fuel with
  | 0 => (state, count)
  | fuel + 1 =>
    if count == 0 then (state, 0)
    else
      match state.partner? delimiter length both with
      | none =>
        let floor := if delimiter == '~' then state.runs.length else state.tildeFloor
        ({ state with tildeFloor := floor }, count)
      | some (later, run, outer) =>
        let width := min count run.count
        let children := ((later.map OpenRun.literal).flatten ++ run.content).reverse
        let wrapped := wrapEmphasis delimiter (run.start + run.count) start children width
        let state := { state with runs := outer, tildeFloor := min state.tildeFloor outer.length }
        let state :=
          if width < run.count then
            { state with
              runs := { run with count := run.count - width, content := wrapped } :: state.runs }
          else state.add wrapped
        close delimiter length both fuel (start + width) (count - width) state

/-- Adds a run of delimiters, which closes earlier runs as far as it may. -/
def addRun (delimiter : Char) (opens closes : Bool) (start stop : Nat) (state : EmphasisState) :
    EmphasisState :=
  let length := stop - start
  let both := opens && closes
  let (state, count) :=
    if closes then state.close delimiter length both length start length else (state, length)
  if count == 0 then state
  else if opens then
    { state with runs := ⟨delimiter, length, count, both, stop - count, []⟩ :: state.runs }
  else state.add (literalDelimiters (stop - count) count)

/-- All structures, in order. -/
def finish (state : EmphasisState) : List Inline :=
  ((state.runs.map OpenRun.literal).flatten ++ state.content).reverse

end EmphasisState

mutual

/-- The structures of pieces, added to those before them. -/
def emphasisFrom (state : EmphasisState) : List Piece → EmphasisState
  | [] => state
  | .delimiters delimiter opens closes start stop :: later =>
    emphasisFrom (state.addRun delimiter opens closes start stop) later
  | .leaf kind start stop :: later => emphasisFrom (state.add [.leaf kind start stop]) later
  | .link kind start stop children :: later =>
    emphasisFrom (state.add [.span kind start stop (emphasis children)]) later

/-- The inline structure of pieces in which delimiters have not been paired. -/
def emphasis (pieces : List Piece) : List Inline :=
  (emphasisFrom ⟨[], [], 0⟩ pieces).finish

end

/-- The inline structure of a passage with the given tokens. -/
def inlines (passage : Passage) (tokens : List Token) : List Inline :=
  emphasis (pieces passage tokens)

end DocIndex.Markdown
