import DocIndex.Proofs.Split.Step

/-!
# Runs of cutting

`Cutting` says what may happen from a position to the end of a text, step by step: a step makes a
chunk, or it makes none because what it cuts off is blank or ends no later than an earlier chunk.
The spans of a text come about in this way, and what they promise is shown by induction on it: they
lie in the text and end with a character that is no whitespace, their ends increase, none is longer
than the chunk size, and together they hold every character that is no whitespace.
-/

namespace DocIndex.Split

open DocIndex.Text

/--
The spans that cutting may make of what is left of a text from position `here` on, where chunks up
to position `covered` have been made.
-/
inductive Cutting (limits : Limits) (trimming : Trimming) :
    (here covered : Nat) → List Char → List Span → Prop
  | done {here covered : Nat} : Cutting limits trimming here covered [] []
  | skip {here covered stop next : Nat} {text : List Char} {spans : List Span}
      (stride : Stride limits trimming here text stop next)
      (idle : (trimming.span here (text.take (stop - here))).stop ≤
          (trimming.span here (text.take (stop - here))).start ∨
        (trimming.span here (text.take (stop - here))).stop ≤ covered)
      (rest : Cutting limits trimming next covered (text.drop (next - here)) spans) :
      Cutting limits trimming here covered text spans
  | chunk {here covered stop next : Nat} {text : List Char} {spans : List Span}
      (stride : Stride limits trimming here text stop next)
      (solid : (trimming.span here (text.take (stop - here))).start <
        (trimming.span here (text.take (stop - here))).stop)
      (fresh : covered < (trimming.span here (text.take (stop - here))).stop)
      (rest : Cutting limits trimming next (trimming.span here (text.take (stop - here))).stop
        (text.drop (next - here)) spans) :
      Cutting limits trimming here covered text
        (trimming.span here (text.take (stop - here)) :: spans)

variable {limits : Limits} {trimming : Trimming} {here covered : Nat} {text : List Char}

theorem Stride.next_add_length {stop next : Nat}
    (stride : Stride limits trimming here text stop next) :
    next + (text.drop (next - here)).length = here + text.length := by
  rcases stride with ⟨forward, next_le, stop_le, _, _⟩
  rw [List.length_drop]
  omega

theorem drop_sub_one (first : Char) (rest : List Char) {length : Nat} (positive : 0 < length) :
    rest.drop (length - 1) = (first :: rest).drop length := by
  rcases Nat.exists_eq_succ_of_ne_zero positive.ne' with ⟨length, rfl⟩
  rfl

theorem getElem?_drop_sub {next position : Nat} (forward : here ≤ next)
    (reached : next ≤ position) :
    (text.drop (next - here))[position - next]? = text[position - here]? := by
  rw [List.getElem?_drop]
  congr 1
  omega

/-- Of what a step cuts off, the span keeps every character that is no whitespace. -/
theorem Trimming.mem_span_take (trimming : Trimming) {stop position : Nat} {c : Char}
    (found : text[position - here]? = some c) (solid : isSpace c = false)
    (reached : here ≤ position) (inside : position < stop) :
    (trimming.span here (text.take (stop - here))).start ≤ position ∧
      position < (trimming.span here (text.take (stop - here))).stop := by
  have cut_off : (text.take (stop - here))[position - here]? = some c := by
    rw [List.getElem?_take_of_lt (by omega), found]
  have := trimming.mem_span here cut_off solid
  rwa [Nat.add_sub_cancel' reached] at this

theorem endsBy_of_mem_dropWhile {last : Nat} {regions : List Region} (passed : Region → Bool)
    (inside : ∀ region ∈ regions, region.EndsBy last) :
    ∀ region ∈ regions.dropWhile passed, region.EndsBy last :=
  fun region member => inside region ((List.dropWhile_sublist passed).subset member)

theorem spansFrom_cutting (segmenter : Segmenter) (valid : limits.overlap < limits.size)
    (here covered : Nat) (regions : List Region) (text : List Char)
    (inside : ∀ region ∈ regions, region.EndsBy (here + text.length)) :
    Cutting limits trimming here covered text
      (spansFrom segmenter limits trimming here covered regions text) := by
  fun_induction spansFrom segmenter limits trimming here covered regions text with
  | case1 => exact .done
  | case2 here covered regions first rest text ahead move span remaining idle ih =>
      have ahead_inside : ∀ region ∈ ahead, region.EndsBy (here + text.length) :=
        endsBy_of_mem_dropWhile _ inside
      have stride : Stride limits trimming here text move.stop move.next :=
        step_stride segmenter trimming valid (List.cons_ne_nil first rest) ahead_inside
      have remaining_eq : remaining = text.drop (move.next - here) :=
        drop_sub_one first rest (Nat.sub_pos_of_lt stride.forward)
      rw [remaining_eq] at ih ⊢
      refine .skip stride ?_ (ih (by rwa [stride.next_add_length]))
      simpa using idle
  | case3 here covered regions first rest text ahead move span remaining busy ih =>
      have ahead_inside : ∀ region ∈ ahead, region.EndsBy (here + text.length) :=
        endsBy_of_mem_dropWhile _ inside
      have stride : Stride limits trimming here text move.stop move.next :=
        step_stride segmenter trimming valid (List.cons_ne_nil first rest) ahead_inside
      have remaining_eq : remaining = text.drop (move.next - here) :=
        drop_sub_one first rest (Nat.sub_pos_of_lt stride.forward)
      rw [remaining_eq] at ih ⊢
      simp only [Bool.or_eq_true, decide_eq_true_eq, not_or, Nat.not_le] at busy
      exact .chunk stride busy.1 busy.2 (ih (by rwa [stride.next_add_length]))

/-- The chunks of a text come about by cutting it from its beginning. -/
theorem spans_cutting (segmenter : Segmenter) (trimming : Trimming)
    (valid : limits.overlap < limits.size) (regions : List Region) (text : List Char) :
    Cutting limits trimming 0 0 text (spans segmenter limits trimming regions text) := by
  apply spansFrom_cutting segmenter valid
  intro region member
  rw [Nat.zero_add]
  exact Region.endsBy_of_mem_arrange member

namespace Cutting

variable {spans : List Span} {span : Span}

theorem covered_lt_stop (cutting : Cutting limits trimming here covered text spans)
    (member : span ∈ spans) : covered < span.stop := by
  induction cutting with
  | done => simp at member
  | skip stride idle rest ih => exact ih member
  | chunk stride solid fresh rest ih =>
      rcases List.mem_cons.mp member with rfl | later
      · exact fresh
      · exact fresh.trans (ih later)

/-- The ends of chunks increase. -/
theorem pairwise_stop_lt (cutting : Cutting limits trimming here covered text spans) :
    spans.Pairwise fun earlier later => earlier.stop < later.stop := by
  induction cutting with
  | done => exact List.Pairwise.nil
  | skip stride idle rest ih => exact ih
  | chunk stride solid fresh rest ih =>
      exact List.Pairwise.cons (fun later member => rest.covered_lt_stop member) ih

/-- Chunks are stretches of the text that are not empty. -/
theorem bounds (cutting : Cutting limits trimming here covered text spans)
    (member : span ∈ spans) :
    here ≤ span.start ∧ span.start < span.stop ∧ span.stop ≤ here + text.length := by
  induction cutting with
  | done => simp at member
  | skip stride idle rest ih =>
      have := ih member
      have forward := stride.forward
      have length_eq := stride.next_add_length
      omega
  | @chunk here covered stop next text spans stride solid fresh rest ih =>
      rcases List.mem_cons.mp member with rfl | later
      · refine ⟨Trimming.here_le_span_start _ _ _, solid, ?_⟩
        have stop_le := trimming.span_stop_le here (text.take (stop - here))
        rw [List.length_take] at stop_le
        omega
      · have := ih later
        have forward := stride.forward
        have length_eq := stride.next_add_length
        omega

/-- No chunk is longer than the chunk size. -/
theorem length_le (cutting : Cutting limits trimming here covered text spans)
    (member : span ∈ spans) : span.length ≤ limits.size := by
  induction cutting with
  | done => simp at member
  | skip stride idle rest ih => exact ih member
  | chunk stride solid fresh rest ih =>
      rcases List.mem_cons.mp member with rfl | later
      · rw [Trimming.length_span]
        exact stride.fits
      · exact ih later

/-- The last character of a chunk is no whitespace. -/
theorem exists_last (cutting : Cutting limits trimming here covered text spans)
    (member : span ∈ spans) :
    ∃ c, text[span.stop - 1 - here]? = some c ∧ isSpace c = false := by
  induction cutting with
  | done => simp at member
  | skip stride idle rest ih =>
      have within := rest.bounds member
      rw [← getElem?_drop_sub stride.forward.le (by omega)]
      exact ih member
  | @chunk here covered stop next text spans stride solid fresh rest ih =>
      rcases List.mem_cons.mp member with rfl | later
      · have kept : 0 < trimEndLength (text.take (stop - here)) := by
          simp only [Trimming.span] at solid
          omega
        rcases exists_last_of_trimEndLength_pos kept with ⟨c, found, solidEnd⟩
        have short := trimEndLength_le (text.take (stop - here))
        rw [List.length_take] at short
        rw [List.getElem?_take_of_lt (by omega)] at found
        have last_eq : (trimming.span here (text.take (stop - here))).stop - 1 - here =
            trimEndLength (text.take (stop - here)) - 1 := by
          simp only [Trimming.span]
          omega
        exact ⟨c, last_eq ▸ found, solidEnd⟩
      · have within := rest.bounds later
        rw [← getElem?_drop_sub stride.forward.le (by omega)]
        exact ih later

/-- Every character that is no whitespace and not covered before lies in a chunk. -/
theorem exists_mem (cutting : Cutting limits trimming here covered text spans)
    {position : Nat} {c : Char} (found : text[position - here]? = some c)
    (solid : isSpace c = false) (reached : here ≤ position) (uncovered : covered ≤ position) :
    ∃ span ∈ spans, span.start ≤ position ∧ position < span.stop := by
  induction cutting with
  | done => simp at found
  | @skip here covered stop next text spans stride idle rest ih =>
      have beyond : stop ≤ position := by
        by_contra inside
        have := trimming.mem_span_take found solid reached (Nat.lt_of_not_le inside)
        omega
      have passed := stride.next_le.trans beyond
      exact ih (by rwa [getElem?_drop_sub stride.forward.le passed]) passed uncovered
  | @chunk here covered stop next text spans stride _ fresh rest ih =>
      by_cases inside : position < stop
      · exact ⟨_, List.mem_cons_self, trimming.mem_span_take found solid reached inside⟩
      · have passed := stride.next_le.trans (Nat.le_of_not_lt inside)
        have stop_le := trimming.span_stop_le here (text.take (stop - here))
        rw [List.length_take] at stop_le
        rcases ih (by rwa [getElem?_drop_sub stride.forward.le passed]) passed (by omega) with
          ⟨span, member, inSpan⟩
        exact ⟨span, List.mem_cons_of_mem _ member, inSpan⟩

end Cutting

end DocIndex.Split
