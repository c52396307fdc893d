import DocIndex.Split.Region

/-!
# Line breaks

The structure of plain text: every run of line ends is a region, and the more line ends a run has,
the higher its rank.
-/

namespace DocIndex.Split.LineBreaks

/-- The number of pairs of carriage return and line feed with which a text begins. -/
def leadingPairs : List Char → Nat
  | '\r' :: '\n' :: rest => leadingPairs rest + 1
  | _ => 0

/--
The run of line ends with which a text begins, as the number of line ends and that of characters:
the pairs of carriage return and line feed if there is one, else the carriage returns, else the line
feeds.
-/
def leadingRun (text : List Char) : Nat × Nat :=
  match leadingPairs text with
  | 0 =>
    let returns := (text.takeWhile (· == '\r')).length
    let ends := if returns == 0 then (text.takeWhile (· == '\n')).length else returns
    (ends, ends)
  | pairs => (pairs, 2 * pairs)

/-- The runs of line ends in a text that begins at position `here`. -/
def regionsFrom (here : Nat) : List Char → List Region
  | [] => []
  | first :: rest =>
    match leadingRun (first :: rest) with
    | (_, 0) => regionsFrom (here + 1) rest
    | (rank, length) =>
      { rank, placement := .apart, start := here, stop := here + length } ::
        regionsFrom (here + length) (rest.drop (length - 1))
termination_by text => text.length
decreasing_by all_goals simp only [List.length_drop, List.length_cons]; omega

/-- The regions of plain text. -/
def regions (text : List Char) : List Region := regionsFrom 0 text

end DocIndex.Split.LineBreaks
