import DocIndex.Split.Granularity
import DocIndex.Split.Region

/-!
# Where cuts lie

Every cut of a text lies behind the position where the text begins and no further than its end,
whether regions make it or the units of a granularity. The first cut does not depend on where the
list of cuts is told to end.

Of a segmenter nothing is used but that the first unit of a text takes a part of it, and of the
regions only that they lie in the text.
-/

namespace DocIndex.Split

open DocIndex.Text

namespace Segmenter

variable (segmenter : Segmenter) (granularity : Granularity)

theorem head?_cuts (enough : Nat → Bool) (here : Nat) (first : Char) (rest : List Char) :
    (segmenter.cuts granularity enough here (first :: rest)).head? =
      some (here + segmenter.firstLength granularity (first :: rest)) := by
  rw [cuts]
  split <;> rfl

theorem cuts_bounds (enough : Nat → Bool) (here : Nat) (text : List Char) :
    ∀ cut ∈ segmenter.cuts granularity enough here text, here < cut ∧ cut ≤ here + text.length := by
  fun_induction cuts segmenter granularity enough here text with
  | case1 => simp
  | case2 here first rest length cut enoughHere =>
      have bounds := segmenter.bounds granularity first rest
      intro other member
      rw [List.mem_singleton.mp member]
      omega
  | case3 here first rest length cut notEnough ih =>
      have bounds := segmenter.bounds granularity first rest
      have length_rest : (rest.drop (length - 1)).length = rest.length - (length - 1) :=
        List.length_drop
      intro other member
      rw [List.length_cons] at bounds ⊢
      rcases List.mem_cons.mp member with rfl | later
      · omega
      · have := ih other later
        omega

end Segmenter

namespace Region

/-- A region that lies in a text which ends at the given position. -/
def EndsBy (last : Nat) (region : Region) : Prop :=
  region.start ≤ region.stop ∧ region.stop ≤ last

theorem endsBy_of_mem_arrange {length : Nat} {regions : List Region} {region : Region}
    (member : region ∈ arrange length regions) : region.EndsBy length := by
  simp only [arrange, List.mem_mergeSort, List.mem_filter, Bool.and_eq_true,
    decide_eq_true_eq] at member
  exact member.2

theorem mem_of_mem_atRank {rank : Nat} {regions : List Region} {region : Region}
    (member : region ∈ atRank rank regions) : region ∈ regions := by
  simp only [atRank] at member
  split at member
  · exact (List.mem_filter.mp member).1
  · exact (List.mem_filter.mp ((List.dropWhile_sublist _).subset member)).1

theorem head?_cuts (enough enough' : Nat → Bool) (here : Nat) (text : List Char)
    (regions : List Region) :
    (cuts enough here text regions).head? = (cuts enough' here text regions).head? := by
  induction regions generalizing here text with
  | nil => simp only [cuts]
  | cons region later ih =>
      rcases region with ⟨rank, placement, start, stop⟩
      cases placement <;> simp only [cuts] <;> grind

theorem cuts_bounds (enough : Nat → Bool) (here : Nat) (text : List Char)
    (regions : List Region)
    (inside : ∀ region ∈ regions, region.EndsBy (here + text.length)) :
    ∀ cut ∈ cuts enough here text regions, here < cut ∧ cut ≤ here + text.length := by
  induction regions generalizing here text with
  | nil =>
      intro cut member
      simp only [cuts] at member
      split at member
      · simp at member
      · rename_i solid
        have := List.length_pos_iff.mpr (by simpa using solid)
        rw [List.mem_singleton.mp member]
        omega
  | cons region later ih =>
      rcases region with ⟨rank, placement, start, stop⟩
      have bounds : start ≤ stop ∧ stop ≤ here + text.length := inside _ List.mem_cons_self
      -- The cuts behind a position on the way to the end of the text.
      have rest (position : Nat) (fromHere : here ≤ position)
          (toEnd : position ≤ here + text.length) :
          ∀ cut ∈ cuts enough position (text.drop (position - here)) later,
            here < cut ∧ cut ≤ here + text.length := by
        have last_eq :
            position + (text.drop (position - here)).length = here + text.length := by
          rw [List.length_drop]
          omega
        intro cut member
        have := ih position (text.drop (position - here))
          (fun other otherMem => last_eq ▸ inside other (List.mem_cons_of_mem _ otherMem))
          cut member
        omega
      have atHere := rest here (Nat.le_refl here) (by omega)
      have atStart (reached : here ≤ start) := rest start reached (by omega)
      have atStop (reached : here ≤ start) := rest stop (by omega) (by omega)
      have drop_stop (reached : here ≤ start) :
          (text.drop (start - here)).drop (stop - start) = text.drop (stop - here) := by
        rw [List.drop_drop]
        congr 1
        omega
      simp only [Nat.sub_self, List.drop_zero] at atHere
      intro cut member
      cases placement <;> simp only [cuts] at member <;> grind

end Region

end DocIndex.Split
