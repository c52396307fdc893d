import DocIndex.Proofs.Documents.Overlap

/-!
# Documents that fit into one piece

A document that is within the chunk size once it is stripped is one piece, whatever its structure
and whatever the overlap: then every cut fits, the last cut of every level is the end of the
document, and what an overlap brings up again is covered already. As pieces are stripped and within
the chunk size, a piece that is cut once more stays whole.
-/

namespace DocIndex.Split

open DocIndex.Text

/-- Cuts that are not told to end early end with the text. -/
theorem Region.getLast?_cuts (here : Nat) (text : List Char) (regions : List Region)
    (inside : ∀ region ∈ regions, region.EndsBy (here + text.length)) :
    (here :: cuts (fun _ => false) here text regions).getLast? = some (here + text.length) := by
  induction regions generalizing here text with
  | nil =>
      simp only [cuts]
      split
      · rename_i empty
        simp [List.isEmpty_iff.mp empty]
      · rfl
  | cons region later ih =>
      rcases region with ⟨rank, placement, start, stop⟩
      have bounds : start ≤ stop ∧ stop ≤ here + text.length := inside _ List.mem_cons_self
      -- A region cuts where it starts, where it stops, at both or not at all; from each of these
      -- positions the later regions are cut, and `ih` applies to the text that is left there.
      have onward (position : Nat) (fromHere : here ≤ position)
          (toEnd : position ≤ here + text.length) :
          (position :: cuts (fun _ => false) position (text.drop (position - here))
            later).getLast? = some (here + text.length) := by
        have last_eq : position + (text.drop (position - here)).length = here + text.length := by
          rw [List.length_drop]
          omega
        rw [← last_eq]
        exact ih _ _ fun other member => last_eq ▸ inside other (List.mem_cons_of_mem _ member)
      have atHere := onward here (Nat.le_refl here) (by omega)
      have atStart (reached : here ≤ start) := onward start reached (by omega)
      have atStop (reached : here ≤ start) := onward stop (by omega) (by omega)
      have drop_stop (reached : here ≤ start) :
          (text.drop (start - here)).drop (stop - start) = text.drop (stop - here) := by
        rw [List.drop_drop]
        congr 1
        omega
      simp only [Nat.sub_self, List.drop_zero] at atHere
      cases placement <;> simp only [cuts] <;> grind [List.getLast?_cons_cons]

theorem Segmenter.getLast?_cuts (segmenter : Segmenter) (granularity : Granularity) (here : Nat)
    (text : List Char) :
    (here :: segmenter.cuts granularity (fun _ => false) here text).getLast? =
      some (here + text.length) := by
  generalize never : (fun _ : Nat => false) = enough
  fun_induction cuts segmenter granularity enough here text with
  | case1 => rfl
  | case2 here first rest length cut enoughHere =>
      subst never
      contradiction
  | case3 here first rest length cut notEnough ih =>
      have bounds := segmenter.bounds granularity first rest
      rw [List.getLast?_cons_cons, ih, List.length_drop]
      rw [List.length_cons] at bounds ⊢
      congr 1
      omega

variable {segmenter : Segmenter} {limits : Limits} {here : Nat} {text : List Char}
  {regions : List Region}

/-- Where every cut fits, the sections of the chosen level go to the end of the text. -/
theorem getLast?_sectionEnds {fits : Nat → Bool} (all : ∀ cut, fits cut = true)
    (nonempty : text ≠ [])
    (inside : ∀ region ∈ regions, region.EndsBy (here + text.length)) :
    (sectionEnds segmenter fits here text regions).getLast? = some (here + text.length) := by
  have never : (fun cut => ! fits cut) = fun _ => false := funext fun cut => by rw [all cut]; rfl
  have toEnd : (here :: sectionEnds segmenter fits here text regions).getLast? =
      some (here + text.length) := by
    simp only [sectionEnds, never]
    split
    · exact Region.getLast?_cuts here text _
        fun region member => inside region (Region.mem_of_mem_atRank member)
    · exact segmenter.getLast?_cuts _ here text
  rcases ends : sectionEnds segmenter fits here text regions with _ | ⟨cut, later⟩
  · rw [ends, List.getLast?_singleton, Option.some.injEq] at toEnd
    have := List.length_pos_iff.mpr nonempty
    omega
  · rwa [ends, List.getLast?_cons_cons] at toEnd

theorem lastFitting_of_all {fits : Nat → Bool} (all : ∀ cut, fits cut = true) (cuts : List Nat) :
    lastFitting fits cuts = cuts.getLast? := by
  have whole : cuts.takeWhile fits = cuts := List.takeWhile_eq_self_iff.mpr fun cut _ => all cut
  rw [lastFitting, whole]
  cases cuts <;> rfl

/-- A step goes to the end of a text that fits. -/
theorem step_stop_of_fits {trimming : Trimming} (fits : trimming.size text ≤ limits.size)
    (nonempty : text ≠ []) (inside : ∀ region ∈ regions, region.EndsBy (here + text.length)) :
    (step segmenter limits trimming regions here text).stop = here + text.length := by
  have all (cut : Nat) : fitsWithin limits trimming here text cut = true :=
    decide_eq_true ((trimming.size_le_of_isPrefix (List.take_prefix _ text)).trans fits)
  rw [step_stop_eq, lastFitting_of_all all, getLast?_sectionEnds all nonempty inside,
    Option.getD_some]

/-- Where everything but whitespace is covered, no more chunks are made. -/
theorem Cutting.eq_nil_of_covered {trimming : Trimming} {covered : Nat} {spans : List Span}
    (cutting : Cutting limits trimming here covered text spans)
    (complete : ∀ (position : Nat) (c : Char), text[position]? = some c → isSpace c = false →
      here + position < covered) : spans = [] := by
  rw [List.eq_nil_iff_forall_not_mem]
  intro span member
  have fresh := cutting.covered_lt_stop member
  have within := cutting.bounds member
  rcases cutting.exists_last member with ⟨c, found, solid⟩
  have := complete _ c found solid
  omega

/-- A step that cuts off something new makes a chunk of it. -/
theorem spansFrom_eq_cons {trimming : Trimming} {covered : Nat} {move : Step} {span : Span}
    (nonempty : text ≠ [])
    (moves : step segmenter limits trimming (regions.dropWhile fun region => region.start < here)
      here text = move) (forward : here < move.next)
    (cut : trimming.span here (text.take (move.stop - here)) = span)
    (solid : span.start < span.stop) (fresh : covered < span.stop) :
    spansFrom segmenter limits trimming here covered regions text =
      span :: spansFrom segmenter limits trimming move.next span.stop
        (regions.dropWhile fun region => region.start < here) (text.drop (move.next - here)) := by
  rcases List.exists_cons_of_ne_nil nonempty with ⟨first, rest, rfl⟩
  have busy : ¬ (decide (span.stop ≤ span.start) || decide (span.stop ≤ covered)) = true := by
    simp [solid, fresh]
  rw [spansFrom]
  simp only [moves, cut]
  rw [if_neg busy, drop_sub_one first rest (Nat.sub_pos_of_lt forward)]

/-- A text that fits once it is stripped makes one chunk. -/
theorem spans_of_fits {trimming : Trimming} (valid : limits.overlap < limits.size)
    (regions : List Region) (some_left : trimming.strip text ≠ [])
    (fits : (trimming.strip text).length ≤ limits.size) :
    spans segmenter limits trimming regions text = [trimming.span 0 text] := by
  have kept := List.length_pos_iff.mpr some_left
  rw [trimming.length_strip] at kept fits
  have nonempty : text ≠ [] := by
    rintro rfl
    exact Nat.not_lt_zero _ (kept.trans_le (trimming.size_le []))
  have inside : ∀ region ∈ (Region.arrange text.length regions).dropWhile
      fun region => region.start < 0, region.EndsBy (0 + text.length) := by
    rw [Nat.zero_add]
    exact endsBy_of_mem_dropWhile _ fun region => Region.endsBy_of_mem_arrange
  have stride := step_stride segmenter trimming valid nonempty inside
  have cut : trimming.span 0 (text.take ((step segmenter limits trimming
      ((Region.arrange text.length regions).dropWhile fun region => region.start < 0) 0
        text).stop - 0)) = trimming.span 0 text := by
    rw [step_stop_of_fits fits nonempty inside, Nat.zero_add, Nat.sub_zero, List.take_length]
  have stop_eq : (trimming.span 0 text).stop = trimEndLength text := Nat.zero_add _
  have solid : (trimming.span 0 text).start < (trimming.span 0 text).stop := by
    rw [stop_eq, Trimming.span, Nat.zero_add]
    exact Nat.lt_of_sub_pos kept
  rw [spans, spansFrom_eq_cons nonempty rfl stride.forward cut solid (Nat.zero_lt_of_lt solid)]
  congr 1
  apply Cutting.eq_nil_of_covered
  · exact spansFrom_cutting segmenter valid _ _ _ _ (by rwa [stride.next_add_length])
  · intro position c found solid
    rw [List.getElem?_drop, Nat.sub_zero] at found
    rw [stop_eq]
    exact lt_trimEndLength_iff.mpr ⟨_, c, Nat.le_refl _, found, solid⟩

theorem map_slice_of_fits {trimming : Trimming} (valid : limits.overlap < limits.size)
    (regions : List Region) (some_left : trimming.strip text ≠ [])
    (fits : (trimming.strip text).length ≤ limits.size) :
    (spans segmenter limits trimming regions text).map (·.slice text) = [trimming.strip text] := by
  have slice_eq := trimming.slice_span 0 text.length text
  rw [List.drop_zero, List.take_length] at slice_eq
  rw [spans_of_fits valid regions some_left fits, List.map_singleton, slice_eq]

/-- A chunk that is cut again stays whole, by whatever regions and into whatever units it is cut. -/
theorem map_slice_of_mem_spans {trimming : Trimming} (valid : limits.overlap < limits.size)
    {span : Span} (member : span ∈ spans segmenter limits trimming regions text)
    (segmenterAgain : Segmenter) (regionsAgain : List Region) :
    (spans segmenterAgain limits trimming regionsAgain (span.slice text)).map
      (·.slice (span.slice text)) = [span.slice text] := by
  have cutting := spans_cutting segmenter trimming valid regions text
  rcases cutting.exists_slice_eq_strip (rfl : text.drop 0 = text) member with ⟨stretch, slice_eq⟩
  have again : trimming.strip (span.slice text) = span.slice text := by
    rw [slice_eq, trimming.strip_strip]
  have fits := length_slice_le_of_mem_spans segmenter trimming valid regions text member
  have some_left : span.slice text ≠ [] := by
    intro empty
    have notBlank := cutting.keep.not_blank span member
    rw [empty] at notBlank
    contradiction
  rw [map_slice_of_fits valid _ (by rwa [again]) (by rwa [again]), again]

end DocIndex.Split

namespace DocIndex.Documents.TextKind

open DocIndex.Split DocIndex.Text

/-- A document of which there is one span makes one piece. -/
theorem pieces_of_map_slice (kind : TextKind) {limits : Limits}
    (valid : limits.overlap < limits.size) {text piece : List Char}
    (single : (Split.spans .unicode limits kind.trimming (kind.regions text) text).map
      (·.slice text) = [piece]) : kind.pieces limits text = .ok [String.ofList piece] := by
  have texts := congrArg (List.map String.ofList) single
  rw [List.map_map, List.map_singleton] at texts
  rw [kind.pieces_eq valid, ← texts]
  rfl

theorem pieces_of_strip_fits (kind : TextKind) {limits : Limits}
    (valid : limits.overlap < limits.size) {text : List Char}
    (some_left : kind.trimming.strip text ≠ [])
    (fits : (kind.trimming.strip text).length ≤ limits.size) :
    kind.pieces limits text = .ok [String.ofList (kind.trimming.strip text)] :=
  kind.pieces_of_map_slice valid (map_slice_of_fits valid _ some_left fits)

/--
A document that fits into one piece once it is stripped is cut into this one piece; so every piece
of a document, when it is cut again, stays what it is.
-/
theorem pieces_of_fits (kind : TextKind) {limits : Limits} (valid : limits.overlap < limits.size)
    (text : List Char) :
    (kind.trimming.strip text ≠ [] → (kind.trimming.strip text).length ≤ limits.size →
      kind.pieces limits text = .ok [String.ofList (kind.trimming.strip text)]) ∧
    ∃ pieces, kind.pieces limits text = .ok pieces ∧
      ∀ piece ∈ pieces, kind.pieces limits piece.toList = .ok [piece] := by
  refine ⟨kind.pieces_of_strip_fits valid, _, kind.pieces_eq valid text, ?_⟩
  intro piece member
  rcases List.mem_map.mp member with ⟨span, inSpans, rfl⟩
  rw [String.toList_ofList]
  exact kind.pieces_of_map_slice valid (map_slice_of_mem_spans valid inSpans _ _)

/-- Lines of code, of exactly the chunk size, that keep their indentation. -/
theorem pieces_of_fits_indented :
    (⟨17, 5⟩ : Limits).overlap < (⟨17, 5⟩ : Limits).size ∧
      markdown.pieces ⟨17, 5⟩ "\n\n    code\n    more \n".toList = .ok ["    code\n    more"] ∧
      markdown.pieces ⟨17, 5⟩ "    code\n    more".toList = .ok ["    code\n    more"] := by
  have stripped : markdown.trimming.strip "\n\n    code\n    more \n".toList =
      "    code\n    more".toList := by decide
  rcases @pieces_of_fits markdown ⟨17, 5⟩ (by decide) "\n\n    code\n    more \n".toList with
    ⟨whole, pieces, pieces_eq, again⟩
  rw [stripped, String.ofList_toList] at whole
  have one := whole (by decide) (by decide)
  cases one.symm.trans pieces_eq
  exact ⟨by decide, one, again _ List.mem_cons_self⟩

end DocIndex.Documents.TextKind
