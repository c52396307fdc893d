import DocIndex.Split.Span
import Mathlib.Data.List.DropRight

/-!
# What trimming leaves

Trimming drops nothing but whitespace, whichever rule is used at the front: every other character
of a stretch lies in the span that is left of it. Where something is left at all, its last character
is no whitespace.
-/

namespace DocIndex.Split

open DocIndex.Text

/-- Characters that end a line are whitespace. -/
theorem isSpace_of_isLineEnd {c : Char} (lineEnd : isLineEnd c = true) : isSpace c = true := by
  simp only [isLineEnd, Bool.or_eq_true, beq_iff_eq] at lineEnd
  rcases lineEnd with rfl | rfl <;> decide

theorem of_getElem?_of_lt_takeWhile {p : Char → Bool} {text : List Char} {position : Nat}
    {c : Char} (before : position < (text.takeWhile p).length)
    (found : text[position]? = some c) : p c = true := by
  have agree := (List.takeWhile_prefix p (l := text)).getElem before
  have member : (text.takeWhile p)[position] ∈ text.takeWhile p := List.getElem_mem before
  have lt_length := before.trans_le (List.takeWhile_prefix p).length_le
  rw [List.getElem?_eq_getElem lt_length, Option.some.injEq] at found
  rw [← found, ← agree]
  exact List.mem_takeWhile_imp member

namespace Trimming

/-- What is dropped at the front is whitespace. -/
theorem isSpace_of_lt_leading {trimming : Trimming} {text : List Char} {position : Nat} {c : Char}
    (before : position < trimming.leading text) (found : text[position]? = some c) :
    isSpace c = true := by
  cases trimming with
  | whitespace => exact of_getElem?_of_lt_takeWhile before found
  | keepIndentation =>
      simp only [leading] at before
      split at before
      · exact isSpace_of_isLineEnd (of_getElem?_of_lt_takeWhile before found)
      · exact of_getElem?_of_lt_takeWhile before found

end Trimming

@[simp]
theorem trimEndLength_nil : trimEndLength [] = 0 := rfl

theorem trimEndLength_concat (text : List Char) (c : Char) :
    trimEndLength (text ++ [c]) = if isSpace c then trimEndLength text else text.length + 1 := by
  simp only [trimEndLength, List.reverse_append, List.reverse_singleton, List.singleton_append,
    List.dropWhile_cons]
  split <;> simp

theorem trimEndLength_le (text : List Char) : trimEndLength text ≤ text.length := by
  induction text using List.reverseRecOn with
  | nil => simp
  | append_singleton text c ih =>
      rw [trimEndLength_concat, List.length_append, List.length_singleton]
      split <;> omega

/-- What is dropped at the end is whitespace. -/
theorem isSpace_of_trimEndLength_le {text : List Char} {position : Nat} {c : Char}
    (dropped : trimEndLength text ≤ position) (found : text[position]? = some c) :
    isSpace c = true := by
  induction text using List.reverseRecOn with
  | nil => simp at found
  | append_singleton text last ih =>
      rw [trimEndLength_concat] at dropped
      rw [List.getElem?_append] at found
      split at dropped
      · rename_i blank
        split at found
        · exact ih dropped found
        · have last_eq : last = c := List.mem_singleton.mp (List.mem_of_getElem? found) |>.symm
          rwa [← last_eq]
      · split at found
        · omega
        · have := (List.getElem?_eq_some_iff.mp found).1
          simp only [List.length_singleton] at this
          omega

/-- The last character that is kept is no whitespace. -/
theorem exists_last_of_trimEndLength_pos {text : List Char} (kept : 0 < trimEndLength text) :
    ∃ c, text[trimEndLength text - 1]? = some c ∧ isSpace c = false := by
  induction text using List.reverseRecOn with
  | nil => simp at kept
  | append_singleton text last ih =>
      rw [trimEndLength_concat] at kept ⊢
      split at kept
      · rename_i blank
        rcases ih kept with ⟨c, found, solid⟩
        refine ⟨c, ?_, solid⟩
        rw [if_pos blank, List.getElem?_append_left, found]
        have := trimEndLength_le text
        omega
      · rename_i solid
        refine ⟨last, ?_, by simpa using solid⟩
        rw [if_neg solid]
        simp

namespace Trimming

/-- A character of a stretch that is no whitespace lies in the span that trimming leaves of it. -/
theorem mem_span (trimming : Trimming) (here : Nat) {position : Nat} {text : List Char} {c : Char}
    (found : text[position]? = some c) (solid : isSpace c = false) :
    (trimming.span here text).start ≤ here + position ∧
      here + position < (trimming.span here text).stop := by
  simp only [span]
  constructor
  · by_contra outside
    have before : position < trimming.leading text := by omega
    simp [isSpace_of_lt_leading before found] at solid
  · by_contra outside
    have dropped : trimEndLength text ≤ position := by omega
    simp [isSpace_of_trimEndLength_le dropped found] at solid

theorem here_le_span_start (trimming : Trimming) (here : Nat) (text : List Char) :
    here ≤ (trimming.span here text).start := Nat.le_add_right _ _

theorem span_stop_le (trimming : Trimming) (here : Nat) (text : List Char) :
    (trimming.span here text).stop ≤ here + text.length :=
  Nat.add_le_add_left (trimEndLength_le text) here

/-- The size of a stretch is the length of the span that trimming leaves of it. -/
@[simp]
theorem length_span (trimming : Trimming) (here : Nat) (text : List Char) :
    (trimming.span here text).length = trimming.size text := by
  simp only [span, Span.length, size]
  omega

theorem size_le (trimming : Trimming) (text : List Char) : trimming.size text ≤ text.length :=
  (Nat.sub_le _ _).trans (trimEndLength_le text)

end Trimming

end DocIndex.Split
