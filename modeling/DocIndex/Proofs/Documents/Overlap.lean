import DocIndex.Proofs.Documents.Pieces
import DocIndex.Proofs.Split.Stripping

/-!
# What pieces of a document have in common

The stretch that two pieces of a document have in common is within the overlap, apart from leading
whitespace. Between two pieces there may be any number of steps that make none, but these only move
on: what a piece shares with later ones lies in what its own step has left to be read again. Pieces
of plain text begin with a character that is no whitespace, so that there the bound holds as it is.
-/

namespace DocIndex.Split

open DocIndex.Text

/-- The characters that two spans have in common. -/
def Span.meet (span other : Span) : Span :=
  ⟨max span.start other.start, min span.stop other.stop⟩

theorem Span.slice_isPrefix {span other : Span} (starts : span.start = other.start)
    (ends : span.stop ≤ other.stop) (text : List Char) : span.slice text <+: other.slice text := by
  rw [slice, slice, starts]
  exact List.take_prefix_take_left (Nat.sub_le_sub_right ends _)

/-- What two spans have in common is the beginning of one of them. -/
theorem Span.slice_meet_isPrefix (span other : Span) (text : List Char) :
    (span.meet other).slice text <+: span.slice text ∨
      (span.meet other).slice text <+: other.slice text := by
  rcases Nat.le_total other.start span.start with before | before
  · exact .inl (slice_isPrefix (Nat.max_eq_left before) (Nat.min_le_left _ _) text)
  · exact .inr (slice_isPrefix (Nat.max_eq_right before) (Nat.min_le_right _ _) text)

theorem length_trimStart_drop_le (count : Nat) (text : List Char) :
    (trimStart (text.drop count)).length ≤ (trimStart text).length := by
  induction count generalizing text with
  | zero => exact Nat.le_refl _
  | succ count ih =>
      rcases text with _ | ⟨c, rest⟩
      · exact Nat.le_refl 0
      · have rest_le : (trimStart rest).length ≤ (trimStart (c :: rest)).length := by
          by_cases blank : isSpace c = true
          · rw [trimStart, trimStart, List.dropWhile_cons_of_pos blank]
          · rw [trimStart, trimStart, List.dropWhile_cons_of_neg blank]
            exact (List.dropWhile_sublist _).length_le.trans (Nat.le_succ _)
        exact (ih rest).trans rest_le

/-- What is shared holds every character that is in both spans. -/
theorem Span.length_trimStart_slice_pos {span : Span} {text : List Char} {position : Nat} {c : Char}
    (found : text[position]? = some c) (solid : isSpace c = false) (reached : span.start ≤ position)
    (inside : position < span.stop) : 0 < (trimStart (span.slice text)).length := by
  have inSlice : (span.slice text)[position - span.start]? = some c := by
    rw [slice, List.getElem?_take_of_lt (by omega), List.getElem?_drop, Nat.add_sub_cancel' reached,
      found]
  rw [List.length_pos_iff, trimStart, ne_eq, List.dropWhile_eq_nil_iff]
  intro blank
  rw [blank c (List.mem_of_getElem? inSlice)] at solid
  contradiction

namespace Cutting

variable {limits : Limits} {trimming : Trimming} {here covered : Nat} {text whole : List Char}
  {spans : List Span} {span : Span}

theorem drop_next {stop next : Nat} (stride : Stride limits trimming here text stop next)
    (left : whole.drop here = text) : whole.drop next = text.drop (next - here) := by
  rw [← left, List.drop_drop, Nat.add_sub_cancel' stride.forward.le]

/-- A chunk is what trimming leaves of a stretch of the text. -/
theorem exists_stretch (cutting : Cutting limits trimming here covered text spans)
    (left : whole.drop here = text) (member : span ∈ spans) :
    ∃ start count, span = trimming.span start ((whole.drop start).take count) := by
  induction cutting with
  | done => contradiction
  | skip stride idle rest ih => exact ih (drop_next stride left) member
  | chunk stride solid fresh rest ih =>
      rcases List.mem_cons.mp member with rfl | later
      · exact ⟨_, _, by rw [left]⟩
      · exact ih (drop_next stride left) later

theorem exists_slice_eq_strip (cutting : Cutting limits trimming here covered text spans)
    (left : whole.drop here = text) (member : span ∈ spans) :
    ∃ stretch, span.slice whole = trimming.strip stretch := by
  rcases cutting.exists_stretch left member with ⟨start, count, rfl⟩
  exact ⟨_, trimming.slice_span start count whole⟩

/-- What a chunk shares with a later one is within the overlap, apart from leading whitespace. -/
theorem shared_le (cutting : Cutting limits trimming here covered text spans)
    (left : whole.drop here = text) :
    spans.Pairwise fun earlier later =>
      (trimStart ((earlier.meet later).slice whole)).length ≤ limits.overlap := by
  induction cutting with
  | done => exact List.Pairwise.nil
  | skip stride idle rest ih => exact ih (drop_next stride left)
  | @chunk here covered stop next text spans stride solid fresh rest ih =>
      refine List.Pairwise.cons ?_ (ih (drop_next stride left))
      intro later member
      have forward := stride.forward
      have beyond := rest.covered_lt_stop member
      have reached := (rest.bounds member).1
      let cut := text.take (stop - here)
      let shared := (text.drop (next - here)).take (stop - next)
      let common := (trimming.span here cut).meet later
      have common_start : next ≤ common.start := reached.trans (Nat.le_max_right _ _)
      have common_stop : common.stop = here + trimEndLength cut := Nat.min_eq_left beyond.le
      -- The stretch that both have ends where the first chunk ends, inside what the step shares.
      have shared_eq : trimEnd shared = (cut.take (trimEndLength cut)).drop (next - here) := by
        have inCut : shared = cut.drop (next - here) := by
          change (text.drop (next - here)).take (stop - next) =
            (text.take (stop - here)).drop (next - here)
          rw [List.drop_take]
          congr 1
          omega
        rw [inCut, trimEnd_drop, trimEnd]
      have common_eq : common.slice whole = (trimEnd shared).drop (common.start - next) := by
        have short := trimEndLength_le cut
        rw [List.length_take] at short
        rw [shared_eq, List.take_take, List.drop_drop, List.drop_take, ← left, List.drop_drop,
          Span.slice, common_stop]
        congr 1
        · omega
        · congr 1
          omega
      calc (trimStart (common.slice whole)).length
          ≤ (trimStart (trimEnd shared)).length := by
            rw [common_eq]
            exact length_trimStart_drop_le _ _
        _ = (trim shared).length := by rw [trim_eq]
        _ ≤ trimming.size shared := trimming.length_trim_le_size shared
        _ ≤ limits.overlap := stride.shared

end Cutting

/-- Where spans have nothing but whitespace in common, no other character is in two of them. -/
theorem Span.Keep.existsUnique {spans : List Span} {text : List Char} (keep : Keep spans text)
    (apart : spans.Pairwise fun earlier later =>
      (trimStart ((earlier.meet later).slice text)).length ≤ 0)
    {position : Nat} {c : Char} (found : text[position]? = some c) (solid : isSpace c = false) :
    ∃! index : Nat, ∃ span, spans[index]? = some span ∧
      span.start ≤ position ∧ position < span.stop := by
  have never {first second : Nat} (before : first < second) {earlier later : Span}
      (isEarlier : spans[first]? = some earlier) (isLater : spans[second]? = some later)
      (inEarlier : earlier.start ≤ position ∧ position < earlier.stop)
      (inLater : later.start ≤ position ∧ position < later.stop) : False := by
    rcases List.getElem?_eq_some_iff.mp isEarlier with ⟨inFirst, rfl⟩
    rcases List.getElem?_eq_some_iff.mp isLater with ⟨inSecond, rfl⟩
    have none := List.pairwise_iff_getElem.mp apart first second inFirst inSecond before
    have some := @length_trimStart_slice_pos (spans[first].meet spans[second]) _ _ _ found solid
      (Nat.max_le.mpr ⟨inEarlier.1, inLater.1⟩) (Nat.lt_min.mpr ⟨inEarlier.2, inLater.2⟩)
    omega
  rcases keep.complete position c found solid with ⟨span, member, inSpan⟩
  rcases List.mem_iff_getElem?.mp member with ⟨index, isSpan⟩
  refine ⟨index, ⟨span, isSpan, inSpan⟩, ?_⟩
  rintro other ⟨otherSpan, isOther, inOther⟩
  rcases Nat.lt_trichotomy other index with before | same | before
  · exact (never before isOther isSpan inOther inSpan).elim
  · exact same
  · exact (never before isSpan isOther inSpan inOther).elim

/-- Where whitespace is dropped in front, what two chunks have in common does not begin with it. -/
theorem trimStart_slice_meet {limits : Limits} {text : List Char} {spans : List Span}
    (cutting : Cutting limits .whitespace 0 0 text spans) {earlier later : Span}
    (isEarlier : earlier ∈ spans) (isLater : later ∈ spans) :
    trimStart ((earlier.meet later).slice text) = (earlier.meet later).slice text := by
  have clean (span : Span) (member : span ∈ spans) :
      trimStart (span.slice text) = span.slice text := by
    rcases cutting.exists_slice_eq_strip rfl member with ⟨stretch, slice_eq⟩
    rw [slice_eq]
    exact trimStart_trim stretch
  rcases earlier.slice_meet_isPrefix later text with begins | begins
  · exact dropWhile_eq_self_of_isPrefix begins (clean earlier isEarlier)
  · exact dropWhile_eq_self_of_isPrefix begins (clean later isLater)

section Spans

variable (segmenter : Segmenter) (trimming : Trimming) {limits : Limits}
  (valid : limits.overlap < limits.size) (regions : List Region) (text : List Char)

include valid

/--
Any two spans of a text have no more in common than the overlap, apart from leading whitespace, and
without this exception where all leading whitespace is dropped.
-/
theorem spans_share_le :
    (spans segmenter limits trimming regions text).Pairwise fun earlier later =>
      (trimStart ((earlier.meet later).slice text)).length ≤ limits.overlap ∧
        (trimming = .whitespace → ((earlier.meet later).slice text).length ≤ limits.overlap) := by
  have cutting := spans_cutting segmenter trimming valid regions text
  apply (cutting.shared_le (rfl : text.drop 0 = text)).imp_of_mem
  intro earlier later isEarlier isLater within
  refine ⟨within, ?_⟩
  rintro rfl
  rwa [trimStart_slice_meet cutting isEarlier isLater] at within

/-- Without overlap every character that is no whitespace is in exactly one span of a text. -/
theorem existsUnique_of_no_overlap (none : limits.overlap = 0) {position : Nat} {c : Char}
    (found : text[position]? = some c) (solid : isSpace c = false) :
    ∃! index : Nat, ∃ span, (spans segmenter limits trimming regions text)[index]? = some span ∧
      span.start ≤ position ∧ position < span.stop := by
  have shared := spans_share_le segmenter trimming valid regions text
  rw [none] at shared
  have keep := spans_keep segmenter trimming valid regions text
  exact keep.existsUnique (shared.imp And.left) found solid

end Spans

end DocIndex.Split

namespace DocIndex.Documents.TextKind

open DocIndex.Split DocIndex.Text

/--
Any two pieces of a document have no more in common than the overlap, apart from leading whitespace,
and without this exception in plain text. Without overlap every character that is no whitespace is
in exactly one piece.
-/
theorem pieces_share_le (kind : TextKind) {limits : Limits}
    (valid : limits.overlap < limits.size) (text : List Char) :
    ∃ spans : List Span,
      kind.spans limits text = .ok spans ∧
        kind.pieces limits text = .ok (spans.map fun span => String.ofList (span.slice text)) ∧
        (spans.Pairwise fun earlier later =>
          (trimStart ((earlier.meet later).slice text)).length ≤ limits.overlap ∧
            (kind = plain → ((earlier.meet later).slice text).length ≤ limits.overlap)) ∧
        (limits.overlap = 0 → ∀ (position : Nat) (c : Char), text[position]? = some c →
          isSpace c = false → ∃! index : Nat, ∃ span, spans[index]? = some span ∧
            span.start ≤ position ∧ position < span.stop) := by
  refine ⟨_, ?_, kind.pieces_eq valid text, ?_, ?_⟩
  · rw [spans, if_neg (Nat.not_le.mpr valid)]
  · apply (spans_share_le .unicode kind.trimming valid (kind.regions text) text).imp
    rintro earlier later ⟨within, whole⟩
    refine ⟨within, ?_⟩
    rintro rfl
    exact whole rfl
  · intro none position c
    exact existsUnique_of_no_overlap .unicode kind.trimming valid (kind.regions text) text none

/-- Words that are read again in the next piece, and, without overlap, only once. -/
theorem pieces_share_le_of_words :
    ((⟨10, 4⟩ : Limits).overlap < (⟨10, 4⟩ : Limits).size ∧
      ∃ spans : List Span,
        plain.spans ⟨10, 4⟩ "one two three four".toList = .ok spans ∧
          spans.Pairwise fun earlier later =>
            ((earlier.meet later).slice "one two three four".toList).length ≤ 4) ∧
      (⟨10, 0⟩ : Limits).overlap < (⟨10, 0⟩ : Limits).size ∧
      ∃ spans : List Span,
        markdown.spans ⟨10, 0⟩ "one two three four".toList = .ok spans ∧
          ∃! index : Nat, ∃ span, spans[index]? = some span ∧ span.start ≤ 4 ∧ 4 < span.stop := by
  refine ⟨⟨by decide, ?_⟩, by decide, ?_⟩
  · rcases @pieces_share_le plain ⟨10, 4⟩ (by decide) "one two three four".toList with
      ⟨spans, spans_eq, _, shared, _⟩
    exact ⟨spans, spans_eq, shared.imp fun within => within.2 rfl⟩
  · rcases @pieces_share_le markdown ⟨10, 0⟩ (by decide)
      "one two three four".toList with ⟨spans, spans_eq, _, _, once⟩
    exact ⟨spans, spans_eq, once rfl 4 't' (by decide) (by decide)⟩

end DocIndex.Documents.TextKind
