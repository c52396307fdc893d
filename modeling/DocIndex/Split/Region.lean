import DocIndex.Split.Span

/-!
# Regions and the cuts they make

The structure of a text is given as a list of regions, each with a rank: the higher the rank, the
stronger the structure that the region belongs to. The regions of one rank and above cut the text
into sections, and the chunker picks the rank whose sections suit the chunk size.
-/

namespace DocIndex.Split

open DocIndex.Text

/-- How a region cuts the text around it. -/
inductive Placement
  /-- The region is a section of its own. -/
  | apart
  /-- The region is a section of its own, together with blank text before it. -/
  | absorbing
  /-- The region begins a section. -/
  | leading
  deriving DecidableEq, Repr

/-- A stretch of text with a structure of its own. -/
structure Region where
  rank : Nat
  placement : Placement
  start : Nat
  stop : Nat
  deriving DecidableEq, Repr

namespace Region

/-- Regions are ordered by their start; of two that start together the longer one comes first. -/
def precedes (left right : Region) : Bool :=
  left.start < right.start || (left.start == right.start && right.stop ≤ left.stop)

/-- Whether a position lies in a region. -/
def contains (region : Region) (position : Nat) : Bool :=
  region.start ≤ position && position < region.stop

/-- The regions of a text of the given length, in order, without any that does not lie in it. -/
def arrange (length : Nat) (regions : List Region) : List Region :=
  let inside (region : Region) : Bool := region.start ≤ region.stop && region.stop ≤ length
  (regions.filter inside).mergeSort precedes

/-- The ranks that occur among regions, each once, in increasing order. -/
def ranks (regions : List Region) : List Nat :=
  (regions.foldl (fun found region =>
    if found.contains region.rank then found else region.rank :: found) []).mergeSort (· ≤ ·)

/--
The region of a rank by which larger regions around it are recognised: the first one of that rank.
When it is the first region of all, regions of the same rank that start where it starts are passed
over as well, down to the shortest.
-/
def landmark (rank : Nat) (regions : List Region) : Option Region :=
  match regions with
  | [] => none
  | first :: later =>
    if first.rank == rank then
      let alike (region : Region) : Bool := region.rank == rank && region.start == first.start
      (first :: later.takeWhile alike).getLast?
    else later.find? (·.rank == rank)

/-- Whether a region surrounds the landmark of a rank. -/
def surrounds (rank : Nat) (landmark region : Region) : Bool :=
  (rank < region.rank && region.contains landmark.start) ||
    (region.rank == rank && region.start == landmark.start && landmark.stop < region.stop)

/--
The regions that cut a text at the given rank: those of this rank and above, except that leading
regions which surround the first one of the rank are left out, or nothing inside them could be cut.
-/
def atRank (rank : Nat) (regions : List Region) : List Region :=
  let strong := regions.filter (rank ≤ ·.rank)
  match landmark rank regions with
  | none => strong
  | some mark => strong.dropWhile (surrounds rank mark)

/--
The positions at which regions cut a text that begins at position `here`, its end included, in
increasing order and without `here` itself. The list ends early with the first cut for which
`enough` holds.
-/
def cuts (enough : Nat → Bool) (here : Nat) (text : List Char) : List Region → List Nat
  | [] => if text.isEmpty then [] else [here + text.length]
  | region :: later =>
    if region.start < here then cuts enough here text later
    else
      let gap := region.start - here
      let fromStart := text.drop gap
      match region.placement with
      | .leading =>
        if gap == 0 then cuts enough here text later
        else if enough region.start then [region.start]
        else region.start :: cuts enough region.start fromStart later
      | placement =>
        let closing : Unit → List Nat := fun _ =>
          if region.stop ≤ here then cuts enough here text later
          else if enough region.stop then [region.stop]
          else
            let fromStop := fromStart.drop (region.stop - region.start)
            region.stop :: cuts enough region.stop fromStop later
        if gap == 0 || (placement == .absorbing && isBlank (text.take gap)) then closing ()
        else if enough region.start then [region.start]
        else if region.stop ≤ region.start then
          region.start :: cuts enough region.start fromStart later
        else region.start :: closing ()

end Region

end DocIndex.Split
