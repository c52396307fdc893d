import DocIndex.Split.Region
import DocIndex.Split.Granularity

/-!
# Cutting a text into chunks

A chunk is the longest run of sections whose trimmed text is within the chunk size. The sections are
those of the strongest structure of which the first section still fits, so that a chunk ends where
the text itself makes a break; only where no structure fits is the text cut into sentences, words,
grapheme clusters or characters. The next chunk begins where the last one ended, or earlier by whole
sections when chunks overlap.

`spans` gives the chunks as spans of the text.
-/

namespace DocIndex.Split

/-- The largest size of a chunk and of the text shared by two neighbours, in characters. -/
structure Limits where
  size : Nat
  overlap : Nat
  deriving DecidableEq, Repr

/--
Drops every candidate whose first section is no shorter than that of the candidate after it: the
stronger structure cuts at least as finely there.
-/
def narrowing {Level : Type} : List (Level × Nat) → List (Level × Nat)
  | candidate :: next :: later =>
    if next.2 ≤ candidate.2 then narrowing (next :: later)
    else candidate :: narrowing (next :: later)
  | candidates => candidates

/-- The last level before the first one whose first section does not fit. -/
def strongestFitting {Level : Type} (fits : Nat → Bool) (candidates : List (Level × Nat)) :
    Option Level :=
  ((narrowing candidates).takeWhile fun candidate => fits candidate.2).getLast?.map (·.1)

/--
The ends of the sections of a text that begins at position `here`, up to the first section that no
longer fits into a chunk which begins there.
-/
def sectionEnds (segmenter : Segmenter) (fits : Nat → Bool) (here : Nat) (text : List Char)
    (regions : List Region) : List Nat :=
  let firstOnly : Nat → Bool := fun _ => true
  let tooFar : Nat → Bool := fun cut => ! fits cut
  let ranks := (Region.ranks regions).filterMap fun rank =>
    (Region.cuts firstOnly here text (Region.atRank rank regions)).head?.map fun cut => (rank, cut)
  match strongestFitting fits ranks with
  | some rank => Region.cuts tooFar here text (Region.atRank rank regions)
  | none =>
    let granularities := Granularity.all.map fun granularity =>
      (granularity, here + segmenter.firstLength granularity text)
    segmenter.cuts ((strongestFitting fits granularities).getD .character) tooFar here text

/--
The start of the next chunk among the section starts of the last one: the search halves the section
starts between `low` and `high`, and keeps the earliest start after `here` from which the text up to
the end of the chunk, as measured by `size`, is within the overlap.
-/
def searchStart (size : Nat → Nat) (overlap here : Nat) (starts : Array Nat) (best low high : Nat) :
    Nat :=
  if low ≤ high then
    let middle := low + (high - low) / 2
    let start := starts[middle]?.getD best
    let shared := size start
    let best := if shared ≤ overlap && start < best && here < start then start else best
    if shared < overlap && 0 < middle then
      searchStart size overlap here starts best low (middle - 1)
    else searchStart size overlap here starts best (middle + 1) high
  else best
termination_by high + 1 - low
decreasing_by all_goals simp_all only [Bool.and_eq_true, decide_eq_true_eq]; omega

/-- The end of the chunk that begins at a position, and the start of the chunk after it. -/
structure Step where
  stop : Nat
  next : Nat

/-- The step from a chunk that begins at position `here`, where `text` is left. -/
def step (segmenter : Segmenter) (limits : Limits) (trimming : Trimming) (regions : List Region)
    (here : Nat) (text : List Char) : Step :=
  let fits : Nat → Bool := fun cut => trimming.size (text.take (cut - here)) ≤ limits.size
  let ends := sectionEnds segmenter fits here text regions
  let fitting := match ends.takeWhile fits with
    | [] => ends.take 1
    | fitting => fitting
  let stop := fitting.getLast?.getD (here + 1)
  let starts := (here :: fitting.dropLast).toArray
  let size : Nat → Nat := fun start =>
    trimming.size ((text.drop (start - here)).take (stop - start))
  let next := if limits.overlap == 0 then stop
    else searchStart size limits.overlap here starts stop 0 (starts.size - 1)
  { stop, next }

/--
The chunks of what is left of a text from position `here` on, where chunks up to position `covered`
have been made. A stretch that is blank, or that ends no later than an earlier chunk, makes no
chunk.
-/
def spansFrom (segmenter : Segmenter) (limits : Limits) (trimming : Trimming) (here covered : Nat)
    (regions : List Region) : List Char → List Span
  | [] => []
  | first :: rest =>
    let text := first :: rest
    let ahead := regions.dropWhile fun region => region.start < here
    let move := step segmenter limits trimming ahead here text
    let span := trimming.span here (text.take (move.stop - here))
    let remaining := rest.drop (move.next - here - 1)
    if span.stop ≤ span.start || span.stop ≤ covered then
      spansFrom segmenter limits trimming move.next covered ahead remaining
    else span :: spansFrom segmenter limits trimming move.next span.stop ahead remaining
termination_by text => text.length
decreasing_by all_goals simp only [List.length_drop, List.length_cons]; omega

/-- The chunks of a text whose structure is given by regions, as spans of the text. -/
def spans (segmenter : Segmenter) (limits : Limits) (trimming : Trimming) (regions : List Region)
    (text : List Char) : List Span :=
  spansFrom segmenter limits trimming 0 0 (Region.arrange text.length regions) text

end DocIndex.Split
