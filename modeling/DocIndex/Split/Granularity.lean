import DocIndex.Unicode.Grapheme
import DocIndex.Unicode.Word
import DocIndex.Unicode.Sentence

/-!
# Granularities

Where no structure of a text is small enough for a chunk, the text is cut into sentences, words,
grapheme clusters or characters. A `Segmenter` says where these end.
-/

namespace DocIndex.Split

open DocIndex.Unicode

/-- The units into which every text can be cut, whatever its structure. -/
inductive Granularity
  | character | grapheme | word | sentence
  deriving DecidableEq, Repr

namespace Granularity

/-- All granularities, from the finest to the coarsest. -/
def all : List Granularity := [character, grapheme, word, sentence]

/-- The length of the first unit of a text; 0 for the empty text alone. -/
def firstLength (granularity : Granularity) (text : List Char) : Nat :=
  match granularity with
  | character => match text with | [] => 0 | _ :: _ => 1
  | grapheme => Grapheme.rules.firstLength text
  | word => Word.rules.firstLength text
  | sentence => Sentence.rules.firstLength text

/-- The first unit of a text that is not empty takes a part of it. -/
theorem firstLength_bounds (granularity : Granularity) (first : Char) (rest : List Char) :
    0 < granularity.firstLength (first :: rest) ∧
      granularity.firstLength (first :: rest) ≤ (first :: rest).length := by
  cases granularity with
  | character => simp [firstLength]
  | grapheme => exact Grapheme.rules.firstLength_bounds first rest
  | word => exact Word.rules.firstLength_bounds first rest
  | sentence => exact Sentence.rules.firstLength_bounds first rest

end Granularity

/--
How texts are cut into units. A unit is a part of the text that begins with it, and the smallest
units are characters.
-/
structure Segmenter where
  /-- The length of the first unit of a text. -/
  firstLength : Granularity → List Char → Nat
  character_eq_one : ∀ (first : Char) (rest : List Char), firstLength .character (first :: rest) = 1
  bounds : ∀ (granularity : Granularity) (first : Char) (rest : List Char),
    0 < firstLength granularity (first :: rest) ∧
      firstLength granularity (first :: rest) ≤ (first :: rest).length

namespace Segmenter

/-- The units of the Unicode standard. -/
def unicode : Segmenter where
  firstLength := Granularity.firstLength
  character_eq_one _ _ := rfl
  bounds := Granularity.firstLength_bounds

/--
The positions at which the units of a text that begins at position `here` end. The list ends early
with the first cut for which `enough` holds.
-/
def cuts (segmenter : Segmenter) (granularity : Granularity) (enough : Nat → Bool) (here : Nat) :
    List Char → List Nat
  | [] => []
  | first :: rest =>
    let length := segmenter.firstLength granularity (first :: rest)
    let cut := here + length
    if enough cut then [cut]
    else cut :: cuts segmenter granularity enough cut (rest.drop (length - 1))
termination_by text => text.length
decreasing_by simp only [List.length_drop, List.length_cons]; omega

end Segmenter

end DocIndex.Split
