import Mathlib.Data.List.DropRight
import Mathlib.Data.List.Infix
import Mathlib.Data.List.TakeWhile
import Mathlib.Order.Basic
import DocIndex.Proofs.Split.Trimming

/-!
# The text that trimming leaves

`Trimming.strip` says in words of texts what trimming leaves of a stretch, apart from the positions
by which chunks are cut. To strip a second time changes nothing, and the beginning of a stretch is
never larger than the stretch, once both are trimmed.

The two ends of a text are treated apart: what is dropped at the end is decided by the last
character that is no whitespace, so it does not depend on what is dropped in front.
-/

namespace DocIndex.Split

open DocIndex.Text

theorem lt_trimEndLength_iff {text : List Char} {position : Nat} :
    position < trimEndLength text ↔
      ∃ later c, position ≤ later ∧ text[later]? = some c ∧ isSpace c = false := by
  constructor
  · intro kept
    rcases exists_last_of_trimEndLength_pos (Nat.zero_lt_of_lt kept) with ⟨c, found, solid⟩
    exact ⟨_, c, Nat.le_sub_one_of_lt kept, found, solid⟩
  · rintro ⟨later, c, before, found, solid⟩
    by_contra dropped
    have blank := isSpace_of_trimEndLength_le ((Nat.le_of_not_lt dropped).trans before) found
    rw [solid] at blank
    contradiction

theorem trimEndLength_drop (count : Nat) (text : List Char) :
    trimEndLength (text.drop count) = trimEndLength text - count := by
  apply eq_of_forall_lt_iff
  intro position
  rw [Nat.lt_sub_iff_add_lt, lt_trimEndLength_iff, lt_trimEndLength_iff]
  constructor
  · rintro ⟨later, c, before, found, solid⟩
    rw [List.getElem?_drop] at found
    exact ⟨count + later, c, by omega, found, solid⟩
  · rintro ⟨later, c, before, found, solid⟩
    refine ⟨later - count, c, by omega, ?_, solid⟩
    rw [List.getElem?_drop, Nat.add_sub_cancel' (by omega), found]

theorem trimEndLength_le_of_isPrefix {front text : List Char} (begins : front <+: text) :
    trimEndLength front ≤ trimEndLength text := by
  apply forall_lt_iff_le.mp
  intro position kept
  rcases lt_trimEndLength_iff.mp kept with ⟨later, c, before, found, solid⟩
  rcases begins with ⟨rest, rfl⟩
  have inFront := (List.getElem?_eq_some_iff.mp found).1
  exact lt_trimEndLength_iff.mpr
    ⟨later, c, before, by rw [List.getElem?_append_left inFront, found], solid⟩

@[simp]
theorem length_trimEnd (text : List Char) : (trimEnd text).length = trimEndLength text := by
  rw [trimEnd, List.length_take]
  exact Nat.min_eq_left (trimEndLength_le text)

theorem trimEnd_drop (count : Nat) (text : List Char) :
    trimEnd (text.drop count) = (trimEnd text).drop count := by
  rw [trimEnd, trimEnd, trimEndLength_drop, List.drop_take]

theorem trimEnd_isPrefix (text : List Char) : trimEnd text <+: text := List.take_prefix _ text

theorem trimEnd_isPrefix_of_isPrefix {front text : List Char} (begins : front <+: text) :
    trimEnd front <+: trimEnd text := by
  apply List.prefix_of_prefix_length_le ((trimEnd_isPrefix front).trans begins)
    (trimEnd_isPrefix text)
  rw [length_trimEnd, length_trimEnd]
  exact trimEndLength_le_of_isPrefix begins

theorem trimEnd_trimEnd (text : List Char) : trimEnd (trimEnd text) = trimEnd text := by
  apply (trimEnd_isPrefix _).eq_of_length_le
  rw [length_trimEnd, length_trimEnd]
  apply forall_lt_iff_le.mp
  intro position kept
  rcases exists_last_of_trimEndLength_pos (Nat.zero_lt_of_lt kept) with ⟨c, found, solid⟩
  refine lt_trimEndLength_iff.mpr ⟨_, c, Nat.le_sub_one_of_lt kept, ?_, solid⟩
  rw [trimEnd, List.getElem?_take_of_lt (by omega), found]

/-- A text begins with as much that has a property as a beginning of it that has not only that. -/
theorem length_takeWhile_of_isPrefix {p : Char → Bool} {front text : List Char}
    (begins : front <+: text) {c : Char} (member : c ∈ front) (other : p c = false) :
    (front.takeWhile p).length = (text.takeWhile p).length := by
  rcases begins with ⟨rest, rfl⟩
  rw [List.takeWhile_append, if_neg]
  intro whole
  have same := (List.takeWhile_prefix p).eq_of_length whole
  have holds := List.mem_takeWhile_imp (same ▸ member)
  rw [other] at holds
  contradiction

theorem length_takeWhile_le {p q : Char → Bool} (weaker : ∀ c, p c = true → q c = true)
    (text : List Char) : (text.takeWhile p).length ≤ (text.takeWhile q).length := by
  induction text with
  | nil => exact Nat.le_refl 0
  | cons c rest ih =>
      by_cases holds : p c = true
      · rw [List.takeWhile_cons_of_pos holds, List.takeWhile_cons_of_pos (weaker c holds)]
        exact Nat.succ_le_succ ih
      · rw [List.takeWhile_cons_of_neg holds]
        exact Nat.zero_le _

theorem dropWhile_eq_drop (p : Char → Bool) (text : List Char) :
    text.dropWhile p = text.drop (text.takeWhile p).length := by
  have parts : text.takeWhile p ++ text.dropWhile p = text := List.takeWhile_append_dropWhile
  calc text.dropWhile p
      = (text.takeWhile p ++ text.dropWhile p).drop (text.takeWhile p).length := List.drop_left.symm
    _ = text.drop (text.takeWhile p).length := by rw [parts]

theorem dropWhile_dropWhile {p q : Char → Bool} (weaker : ∀ c, p c = true → q c = true)
    (text : List Char) : (text.dropWhile p).dropWhile q = text.dropWhile q := by
  induction text with
  | nil => rfl
  | cons c rest ih =>
      by_cases holds : p c = true
      · rw [List.dropWhile_cons_of_pos holds, List.dropWhile_cons_of_pos (weaker c holds), ih]
      · rw [List.dropWhile_cons_of_neg holds]

/-- Where nothing is left to drop in front of a text, there is nothing in front of a beginning. -/
theorem dropWhile_eq_self_of_isPrefix {p : Char → Bool} {front text : List Char}
    (begins : front <+: text) (clean : text.dropWhile p = text) : front.dropWhile p = front := by
  rw [List.dropWhile_eq_self_iff] at clean ⊢
  intro some_front
  rw [begins.getElem some_front]
  exact clean (some_front.trans_le begins.length_le)

theorem trimStart_trimEnd (text : List Char) :
    trimStart (trimEnd text) = trimEnd (trimStart text) := by
  rcases Nat.eq_zero_or_pos (trimEndLength text) with blank | kept
  · rw [trimStart, dropWhile_eq_drop, trimStart, dropWhile_eq_drop isSpace text, trimEnd_drop,
      trimEnd, blank, List.take_zero, List.drop_nil, List.drop_nil]
  · rcases exists_last_of_trimEndLength_pos kept with ⟨c, found, solid⟩
    have member : c ∈ trimEnd text := by
      apply List.mem_of_getElem? (i := trimEndLength text - 1)
      rw [trimEnd, List.getElem?_take_of_lt (by omega), found]
    rw [trimStart, dropWhile_eq_drop,
      length_takeWhile_of_isPrefix (trimEnd_isPrefix text) member solid, ← trimEnd_drop,
      ← dropWhile_eq_drop]
    rfl

theorem trim_eq (text : List Char) : trim text = trimStart (trimEnd text) :=
  (trimStart_trimEnd text).symm

@[simp]
theorem trimStart_trim (text : List Char) : trimStart (trim text) = trim text :=
  dropWhile_eq_self_of_isPrefix (trimEnd_isPrefix _) (List.dropWhile_idempotent isSpace text)

theorem trim_isPrefix_of_isPrefix {front text : List Char} (begins : front <+: text) {c : Char}
    (member : c ∈ front) (solid : isSpace c = false) : trim front <+: trim text := by
  apply trimEnd_isPrefix_of_isPrefix
  rw [trimStart, trimStart, dropWhile_eq_drop, dropWhile_eq_drop isSpace text,
    length_takeWhile_of_isPrefix begins member solid]
  exact begins.drop _

@[simp]
theorem trim_trim (text : List Char) : trim (trim text) = trim text := by
  conv_lhs => rw [trim, trimStart_trim, trim, trimEnd_trimEnd]
  rfl

namespace Trimming

/-- The text that trimming leaves. -/
def strip : Trimming → List Char → List Char
  | whitespace, text => trim text
  | keepIndentation, text =>
    if (trim text).any isLineEnd then trimEnd (text.dropWhile isLineEnd) else trim text

theorem strip_eq (trimming : Trimming) (text : List Char) :
    trimming.strip text = trimEnd (text.drop (trimming.leading text)) := by
  cases trimming with
  | whitespace => rw [strip, leading, ← dropWhile_eq_drop]; rfl
  | keepIndentation =>
      rw [strip, leading]
      split
      · rw [← dropWhile_eq_drop]
      · rw [← dropWhile_eq_drop]; rfl

@[simp]
theorem length_strip (trimming : Trimming) (text : List Char) :
    (trimming.strip text).length = trimming.size text := by
  rw [strip_eq, length_trimEnd, trimEndLength_drop, size]

/-- The span that trimming leaves of a stretch covers what it leaves of the text. -/
theorem slice_span (trimming : Trimming) (here count : Nat) (text : List Char) :
    (trimming.span here ((text.drop here).take count)).slice text =
      trimming.strip ((text.drop here).take count) := by
  have size_le := trimEndLength_le ((text.drop here).take count)
  rw [List.length_take] at size_le
  rw [strip_eq, trimEnd, trimEndLength_drop, List.drop_take, List.drop_drop, List.take_take]
  simp only [span, Span.slice]
  congr 1
  omega

/-- What is dropped in front is never more than the whitespace there. -/
theorem leading_le (trimming : Trimming) (text : List Char) :
    trimming.leading text ≤ (text.takeWhile isSpace).length := by
  cases trimming with
  | whitespace => exact Nat.le_refl _
  | keepIndentation =>
      rw [leading]
      split
      · exact length_takeWhile_le (fun _ => isSpace_of_isLineEnd) text
      · exact Nat.le_refl _

theorem length_trim_le_size (trimming : Trimming) (text : List Char) :
    (trim text).length ≤ trimming.size text := by
  rw [trim, trimStart, dropWhile_eq_drop, length_trimEnd, trimEndLength_drop]
  exact Nat.sub_le_sub_left (trimming.leading_le text) _

@[simp]
theorem strip_strip (trimming : Trimming) (text : List Char) :
    trimming.strip (trimming.strip text) = trimming.strip text := by
  cases trimming with
  | whitespace => exact trim_trim text
  | keepIndentation =>
      by_cases several : (trim text).any isLineEnd = true
      · have once : keepIndentation.strip text = trimEnd (text.dropWhile isLineEnd) :=
          if_pos several
        have start_eq : trimStart (text.dropWhile isLineEnd) = trimStart text :=
          dropWhile_dropWhile (fun _ => isSpace_of_isLineEnd) text
        have trim_eq' : trim (trimEnd (text.dropWhile isLineEnd)) = trim text := by
          rw [trim, trimStart_trimEnd, trimEnd_trimEnd, start_eq]
          rfl
        have clean : (trimEnd (text.dropWhile isLineEnd)).dropWhile isLineEnd =
            trimEnd (text.dropWhile isLineEnd) :=
          dropWhile_eq_self_of_isPrefix (trimEnd_isPrefix _)
            (List.dropWhile_idempotent isLineEnd text)
        rw [once, strip, trim_eq', if_pos several, clean, trimEnd_trimEnd]
      · have once : keepIndentation.strip text = trim text := if_neg several
        rw [once, strip, trim_trim, if_neg several]

/-- In front of a beginning that is not blank, at least as much is dropped as in front of a text. -/
theorem leading_le_of_isPrefix (trimming : Trimming) {front text : List Char}
    (begins : front <+: text) {c : Char} (member : c ∈ front) (solid : isSpace c = false) :
    trimming.leading text ≤ trimming.leading front := by
  have spaces := length_takeWhile_of_isPrefix begins member solid
  cases trimming with
  | whitespace => exact spaces.ge
  | keepIndentation =>
      by_cases several : (trim front).any isLineEnd = true
      · have several' : (trim text).any isLineEnd = true := by
          rcases List.any_eq_true.mp several with ⟨ending, inFront, lineEnd⟩
          refine List.any_eq_true.mpr ⟨ending, ?_, lineEnd⟩
          exact (trim_isPrefix_of_isPrefix begins member solid).subset inFront
        have other : isLineEnd c = false := by
          by_contra lineEnd
          rw [isSpace_of_isLineEnd (by simpa using lineEnd)] at solid
          contradiction
        rw [leading, leading, if_pos several, if_pos several',
          length_takeWhile_of_isPrefix begins member other]
      · rw [leading.eq_2 front, if_neg several, spaces]
        exact leading_le keepIndentation text

/-- The beginning of a stretch is no larger than the stretch. -/
theorem size_le_of_isPrefix (trimming : Trimming) {front text : List Char}
    (begins : front <+: text) : trimming.size front ≤ trimming.size text := by
  rcases Nat.eq_zero_or_pos (trimEndLength front) with blank | kept
  · rw [size, blank, Nat.zero_sub]
    exact Nat.zero_le _
  · rcases exists_last_of_trimEndLength_pos kept with ⟨c, found, solid⟩
    have less := trimming.leading_le_of_isPrefix begins (List.mem_of_getElem? found) solid
    exact (Nat.sub_le_sub_right (trimEndLength_le_of_isPrefix begins) _).trans
      (Nat.sub_le_sub_left less _)

end Trimming

end DocIndex.Split
