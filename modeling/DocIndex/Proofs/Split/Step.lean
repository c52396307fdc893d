import DocIndex.Proofs.Split.Cuts
import DocIndex.Proofs.Split.Trimming
import DocIndex.Split.Chunks

/-!
# One step of cutting

What a single step from a position promises, put together in `Stride`: it ends behind the position
and inside the text, what it cuts off is within the chunk size once it is trimmed, and the next
chunk begins no later than it ends and shares no more with it than the overlap. The size holds
because a level is only chosen when its first section fits, and a single character always does.
-/

namespace DocIndex.Split

open DocIndex.Text

section Levels

variable {Level : Type}

theorem mem_of_mem_narrowing {candidates : List (Level × Nat)} {candidate : Level × Nat}
    (member : candidate ∈ narrowing candidates) : candidate ∈ candidates := by
  fun_induction narrowing candidates with
  | case1 first next later shorter ih => exact List.mem_cons_of_mem _ (ih member)
  | case2 first next later longer ih =>
      rcases List.mem_cons.mp member with rfl | inLater
      · exact List.mem_cons_self
      · exact List.mem_cons_of_mem _ (ih inLater)
  | case3 => exact member

/-- The first section of a level that is chosen fits. -/
theorem exists_cut_of_strongestFitting {fits : Nat → Bool} {candidates : List (Level × Nat)}
    {level : Level} (chosen : strongestFitting fits candidates = some level) :
    ∃ cut, (level, cut) ∈ candidates ∧ fits cut = true := by
  rw [strongestFitting, Option.map_eq_some_iff] at chosen
  rcases chosen with ⟨⟨_, cut⟩, last, rfl⟩
  have member := List.mem_of_getLast? last
  have listed := (List.takeWhile_sublist _).subset member
  have fitting := List.mem_takeWhile_imp member
  exact ⟨cut, mem_of_mem_narrowing listed, fitting⟩

end Levels

variable (segmenter : Segmenter) {here : Nat} {text : List Char} {regions : List Region}

theorem sectionEnds_bounds (fits : Nat → Bool)
    (inside : ∀ region ∈ regions, region.EndsBy (here + text.length)) :
    ∀ cut ∈ sectionEnds segmenter fits here text regions,
      here < cut ∧ cut ≤ here + text.length := by
  simp only [sectionEnds]
  split
  · exact Region.cuts_bounds _ here text _
      fun region member => inside region (Region.mem_of_mem_atRank member)
  · exact segmenter.cuts_bounds _ _ here text

/-- The first section of the chosen level fits wherever a single character does. -/
theorem exists_head?_sectionEnds {fits : Nat → Bool} (regions : List Region)
    (nonempty : text ≠ []) (single : fits (here + 1) = true) :
    ∃ cut, (sectionEnds segmenter fits here text regions).head? = some cut ∧ fits cut = true := by
  rcases List.exists_cons_of_ne_nil nonempty with ⟨first, rest, rfl⟩
  simp only [sectionEnds]
  split
  · rename_i rank chosen
    rcases exists_cut_of_strongestFitting chosen with ⟨cut, listed, fitting⟩
    rcases List.mem_filterMap.mp listed with ⟨_, _, found⟩
    rcases Option.map_eq_some_iff.mp found with ⟨_, head, same⟩
    cases same
    exact ⟨cut, by rw [← head]; exact Region.head?_cuts _ _ _ _ _, fitting⟩
  · refine ⟨_, segmenter.head?_cuts _ _ here first rest, ?_⟩
    cases chosen : strongestFitting fits (Granularity.all.map fun granularity =>
        (granularity, here + segmenter.firstLength granularity (first :: rest))) with
    | none =>
        rw [Option.getD_none, segmenter.character_eq_one]
        exact single
    | some granularity =>
        rcases exists_cut_of_strongestFitting chosen with ⟨cut, listed, fitting⟩
        rcases List.mem_map.mp listed with ⟨_, _, same⟩
        cases same
        exact fitting

/-- The search for the start of the next chunk stays between the last start and its first guess. -/
theorem searchStart_bounds (size : Nat → Nat) (overlap here : Nat) (starts : Array Nat)
    (best low high : Nat) (ahead : here < best) :
    here < searchStart size overlap here starts best low high ∧
      searchStart size overlap here starts best low high ≤ best := by
  fun_induction searchStart size overlap here starts best low high with
  | case1 best low high open_ middle start shared best' early ih =>
      have better : here < best' ∧ best' ≤ best := by grind
      have := ih better.1
      omega
  | case2 best low high open_ middle start shared best' late ih =>
      have better : here < best' ∧ best' ≤ best := by grind
      have := ih better.1
      omega
  | case3 best low high closed => exact ⟨ahead, Nat.le_refl best⟩

/-- Any start that the search prefers to its first guess shares no more than the overlap. -/
theorem size_searchStart_le {size : Nat → Nat} {overlap : Nat} (here : Nat) (starts : Array Nat)
    (best low high : Nat) (shared : size best ≤ overlap) :
    size (searchStart size overlap here starts best low high) ≤ overlap := by
  fun_induction searchStart size overlap here starts best low high with
  | case1 best low high _ middle start _ best' _ ih =>
      apply ih
      grind
  | case2 best low high _ middle start _ best' _ ih =>
      apply ih
      grind
  | case3 => exact shared

/-- Whether the stretch from `here` to a cut is within the chunk size once it is trimmed. -/
def fitsWithin (limits : Limits) (trimming : Trimming) (here : Nat) (text : List Char)
    (cut : Nat) : Bool :=
  trimming.size (text.take (cut - here)) ≤ limits.size

/-- The last cut before the first one that does not fit, or the first cut of all. -/
def lastFitting (fits : Nat → Bool) (cuts : List Nat) : Option Nat :=
  let fitting := match cuts.takeWhile fits with
    | [] => cuts.take 1
    | fitting => fitting
  fitting.getLast?

theorem mem_of_lastFitting {fits : Nat → Bool} {cuts : List Nat} {cut : Nat}
    (last : lastFitting fits cuts = some cut) : cut ∈ cuts := by
  simp only [lastFitting] at last
  split at last
  · exact (List.take_sublist _ _).subset (List.mem_of_getLast? last)
  · exact (List.takeWhile_sublist _).subset (List.mem_of_getLast? last)

theorem fits_of_lastFitting {fits : Nat → Bool} {cuts : List Nat} {first cut : Nat}
    (head : cuts.head? = some first) (fitting : fits first = true)
    (last : lastFitting fits cuts = some cut) : fits cut = true := by
  rcases List.head?_eq_some_iff.mp head with ⟨later, rfl⟩
  simp only [lastFitting] at last
  split at last
  · rename_i none_fit
    simp [fitting] at none_fit
  · exact List.mem_takeWhile_imp (List.mem_of_getLast? last)

theorem lastFitting_ne_none {fits : Nat → Bool} {cuts : List Nat} {first : Nat}
    (head : cuts.head? = some first) : lastFitting fits cuts ≠ none := by
  rcases List.head?_eq_some_iff.mp head with ⟨later, rfl⟩
  simp only [lastFitting]
  split
  · simp
  · rename_i some_fit
    rwa [ne_eq, List.getLast?_eq_none_iff]

variable (limits : Limits) (trimming : Trimming)

theorem step_stop_eq (regions : List Region) (here : Nat) (text : List Char) :
    (step segmenter limits trimming regions here text).stop =
      (lastFitting (fitsWithin limits trimming here text)
        (sectionEnds segmenter (fitsWithin limits trimming here text) here text regions)).getD
          (here + 1) := rfl

theorem step_stop_bounds (nonempty : text ≠ [])
    (inside : ∀ region ∈ regions, region.EndsBy (here + text.length)) :
    here < (step segmenter limits trimming regions here text).stop ∧
      (step segmenter limits trimming regions here text).stop ≤ here + text.length := by
  rw [step_stop_eq]
  cases last : lastFitting (fitsWithin limits trimming here text)
      (sectionEnds segmenter (fitsWithin limits trimming here text) here text regions) with
  | none =>
      have := List.length_pos_iff.mpr nonempty
      simp only [Option.getD_none]
      omega
  | some cut => exact sectionEnds_bounds segmenter _ inside cut (mem_of_lastFitting last)

/-- The next chunk begins where this one ends, unless an earlier start is searched for. -/
theorem exists_step_next_eq (regions : List Region) (here : Nat) (text : List Char) :
    ∃ starts : Array Nat, (step segmenter limits trimming regions here text).next =
      if limits.overlap == 0 then (step segmenter limits trimming regions here text).stop
      else searchStart
        (fun start => trimming.size ((text.drop (start - here)).take
          ((step segmenter limits trimming regions here text).stop - start)))
        limits.overlap here starts (step segmenter limits trimming regions here text).stop 0
        (starts.size - 1) :=
  ⟨_, rfl⟩

theorem step_next_bounds (nonempty : text ≠ [])
    (inside : ∀ region ∈ regions, region.EndsBy (here + text.length)) :
    here < (step segmenter limits trimming regions here text).next ∧
      (step segmenter limits trimming regions here text).next ≤
        (step segmenter limits trimming regions here text).stop := by
  have ahead := (step_stop_bounds segmenter limits trimming nonempty inside).1
  rcases exists_step_next_eq segmenter limits trimming regions here text with ⟨starts, next_eq⟩
  rw [next_eq]
  split
  · exact ⟨ahead, Nat.le_refl _⟩
  · exact searchStart_bounds _ _ _ _ _ _ _ ahead

/--
What a step from a position promises: the chunk that it cuts off ends at `stop`, and cutting goes on
at `next`.
-/
structure Stride (limits : Limits) (trimming : Trimming) (here : Nat) (text : List Char)
    (stop next : Nat) : Prop where
  forward : here < next
  next_le : next ≤ stop
  stop_le : stop ≤ here + text.length
  fits : trimming.size (text.take (stop - here)) ≤ limits.size
  shared : trimming.size ((text.drop (next - here)).take (stop - next)) ≤ limits.overlap

variable {limits}

/-- What lies between the two ends of a step is within the chunk size once it is trimmed. -/
theorem step_size_le (valid : limits.overlap < limits.size) (nonempty : text ≠ [])
    (regions : List Region) :
    trimming.size (text.take ((step segmenter limits trimming regions here text).stop - here)) ≤
      limits.size := by
  have single : fitsWithin limits trimming here text (here + 1) = true := by
    have size_le := trimming.size_le (text.take (here + 1 - here))
    rw [List.length_take] at size_le
    simp only [fitsWithin, decide_eq_true_eq]
    omega
  rcases exists_head?_sectionEnds segmenter regions nonempty single with ⟨first, head, fitting⟩
  rw [step_stop_eq]
  cases last : lastFitting (fitsWithin limits trimming here text)
      (sectionEnds segmenter (fitsWithin limits trimming here text) here text regions) with
  | none => exact absurd last (lastFitting_ne_none head)
  | some cut =>
      have fits_cut := fits_of_lastFitting head fitting last
      exact of_decide_eq_true fits_cut

variable (limits)

/-- What two neighbours share is within the overlap once it is trimmed. -/
theorem step_shared_le (regions : List Region) (here : Nat) (text : List Char) :
    trimming.size ((text.drop ((step segmenter limits trimming regions here text).next - here)).take
      ((step segmenter limits trimming regions here text).stop -
        (step segmenter limits trimming regions here text).next)) ≤ limits.overlap := by
  let shared (start : Nat) : Nat := trimming.size ((text.drop (start - here)).take
    ((step segmenter limits trimming regions here text).stop - start))
  have none_shared :
      shared (step segmenter limits trimming regions here text).stop ≤ limits.overlap := by
    simp only [shared, Nat.sub_self, List.take_zero]
    exact (trimming.size_le []).trans (Nat.zero_le _)
  change shared _ ≤ limits.overlap
  rcases exists_step_next_eq segmenter limits trimming regions here text with ⟨starts, next_eq⟩
  rw [next_eq]
  split
  · exact none_shared
  · exact size_searchStart_le here starts _ 0 _ none_shared

variable {limits}

theorem step_stride (valid : limits.overlap < limits.size) (nonempty : text ≠ [])
    (inside : ∀ region ∈ regions, region.EndsBy (here + text.length)) :
    Stride limits trimming here text (step segmenter limits trimming regions here text).stop
      (step segmenter limits trimming regions here text).next where
  forward := (step_next_bounds segmenter limits trimming nonempty inside).1
  next_le := (step_next_bounds segmenter limits trimming nonempty inside).2
  stop_le := (step_stop_bounds segmenter limits trimming nonempty inside).2
  fits := step_size_le segmenter trimming valid nonempty regions
  shared := step_shared_le segmenter limits trimming regions here text

end DocIndex.Split
