import DocIndex.Documents.TextKind
import DocIndex.Proofs.Split.Cutting

/-!
# The pieces of a document

What the pieces of a document promise, for both kinds of documents and all limits under which
documents are cut at all: they lose nothing of the text but whitespace, and none of them is longer
than the chunk size.

Both results are about the spans of any text first, whatever its regions are and however it is cut
into units: the chunker leaves out regions outside the text, and a unit is a part of the text. What
they say of documents follows for the regions that a kind of documents has.
-/

namespace DocIndex.Split

open DocIndex.Text

/-- Spans that together keep a text, apart from whitespace. -/
structure Span.Keep (spans : List Span) (text : List Char) : Prop where
  stops_increase : spans.Pairwise fun earlier later => earlier.stop < later.stop
  bounds : ∀ span ∈ spans, span.start < span.stop ∧ span.stop ≤ text.length
  not_blank : ∀ span ∈ spans, isBlank (span.slice text) = false
  not_isSpace_last : ∀ span ∈ spans, ∀ c, (span.slice text).getLast? = some c → isSpace c = false
  complete : ∀ (position : Nat) (c : Char), text[position]? = some c → isSpace c = false →
    ∃ span ∈ spans, span.start ≤ position ∧ position < span.stop

theorem Span.getLast?_slice {span : Span} {text : List Char} (proper : span.start < span.stop)
    (inText : span.stop ≤ text.length) :
    (span.slice text).getLast? = text[span.stop - 1]? := by
  rw [List.getLast?_eq_getElem?, slice, List.length_take, List.length_drop,
    List.getElem?_take_of_lt (by omega), List.getElem?_drop]
  congr 1
  omega

theorem Span.length_slice_le (span : Span) (text : List Char) :
    (span.slice text).length ≤ span.length := by
  rw [slice, List.length_take]
  exact Nat.min_le_left _ _

theorem Cutting.keep {limits : Limits} {trimming : Trimming} {text : List Char}
    {spans : List Span} (cutting : Cutting limits trimming 0 0 text spans) :
    Span.Keep spans text := by
  have bounds (span : Span) (member : span ∈ spans) :
      span.start < span.stop ∧ span.stop ≤ text.length := by
    simpa using (cutting.bounds member).2
  have last (span : Span) (member : span ∈ spans) :
      ∃ c, (span.slice text).getLast? = some c ∧ isSpace c = false := by
    rw [Span.getLast?_slice (bounds span member).1 (bounds span member).2]
    exact cutting.exists_last member
  refine ⟨cutting.pairwise_stop_lt, bounds, ?_, ?_, ?_⟩
  · intro span member
    rcases last span member with ⟨c, found, solid⟩
    rw [isBlank, List.all_eq_false]
    exact ⟨c, List.mem_of_getLast? found, by simp [solid]⟩
  · intro span member c found
    rcases last span member with ⟨other, found', solid⟩
    rw [found', Option.some.injEq] at found
    exact found ▸ solid
  · intro position c found solid
    exact cutting.exists_mem found solid (Nat.zero_le _) (Nat.zero_le _)

/-- What is kept of a text is nothing exactly when the text is blank. -/
theorem Span.Keep.eq_nil_iff {spans : List Span} {text : List Char} (keep : Keep spans text) :
    spans = [] ↔ isBlank text = true := by
  constructor
  · rintro rfl
    rw [isBlank, List.all_eq_true]
    intro c member
    by_contra solid
    rcases List.mem_iff_getElem?.mp member with ⟨position, found⟩
    rcases keep.complete position c found (by simpa using solid) with ⟨span, inNone, _⟩
    simp at inNone
  · intro blank
    rw [List.eq_nil_iff_forall_not_mem]
    intro span member
    have solid := keep.not_blank span member
    rw [isBlank, List.all_eq_false] at solid
    rcases solid with ⟨c, inSlice, notSpace⟩
    have inText : c ∈ text := List.mem_of_mem_drop (List.mem_of_mem_take inSlice)
    exact notSpace (List.all_eq_true.mp blank c inText)

section Spans

variable (segmenter : Segmenter) (trimming : Trimming) {limits : Limits}
  (valid : limits.overlap < limits.size) (regions : List Region) (text : List Char)

include valid

/-- Under valid limits the spans of a text keep everything but whitespace. -/
theorem spans_keep : Span.Keep (spans segmenter limits trimming regions text) text :=
  (spans_cutting segmenter trimming valid regions text).keep

/-- Under valid limits no span of a text has more characters than the chunk size. -/
theorem length_slice_le_of_mem_spans {span : Span}
    (member : span ∈ spans segmenter limits trimming regions text) :
    (span.slice text).length ≤ limits.size :=
  (span.length_slice_le text).trans
    ((spans_cutting segmenter trimming valid regions text).length_le member)

end Spans

end DocIndex.Split

namespace DocIndex.Documents.TextKind

open DocIndex.Split DocIndex.Text

/-- Under valid limits the pieces of a document are the texts of the spans that cutting makes. -/
theorem pieces_eq (kind : TextKind) {limits : Limits} (valid : limits.overlap < limits.size)
    (text : List Char) :
    kind.pieces limits text =
      .ok ((Split.spans .unicode limits kind.trimming (kind.regions text) text).map
        fun span => String.ofList (span.slice text)) := by
  rw [pieces, spans, if_neg (Nat.not_le.mpr valid)]
  rfl

theorem pieces_of_invalid (kind : TextKind) {limits : Limits}
    (invalid : limits.size ≤ limits.overlap) (text : List Char) :
    kind.pieces limits text = .error .chunkLimits := by
  rw [pieces, spans, if_pos invalid]
  rfl

/--
Cutting a document loses nothing: its pieces are the texts of spans that keep everything but
whitespace, and there are none exactly when the document is blank.
-/
theorem pieces_keep_text (kind : TextKind) {limits : Limits}
    (valid : limits.overlap < limits.size) (text : List Char) :
    ∃ spans : List Span,
      kind.pieces limits text = .ok (spans.map fun span => String.ofList (span.slice text)) ∧
        Span.Keep spans text ∧
        (kind.pieces limits text = .ok [] ↔ isBlank text = true) := by
  have keep := spans_keep .unicode kind.trimming valid (kind.regions text) text
  refine ⟨_, kind.pieces_eq valid text, keep, ?_⟩
  rw [kind.pieces_eq valid text, Except.ok.injEq, List.map_eq_nil_iff]
  exact keep.eq_nil_iff

/-- A long word between blank lines, cut under limits that are too small for it. -/
theorem pieces_keep_long_word :
    (⟨4, 1⟩ : Limits).overlap < (⟨4, 1⟩ : Limits).size ∧
      ∃ spans : List Span,
        markdown.pieces ⟨4, 1⟩ "\n\n  indentation\n\n".toList =
            .ok (spans.map fun span => String.ofList (span.slice "\n\n  indentation\n\n".toList)) ∧
          Span.Keep spans "\n\n  indentation\n\n".toList ∧
          (markdown.pieces ⟨4, 1⟩ "\n\n  indentation\n\n".toList = .ok [] ↔
            isBlank "\n\n  indentation\n\n".toList = true) :=
  ⟨by decide, pieces_keep_text markdown (by decide) _⟩

/-- No piece of a document has more characters than the chunk size. -/
theorem pieces_length_le (kind : TextKind) {limits : Limits}
    (valid : limits.overlap < limits.size) (text : List Char) :
    ∃ pieces : List String, kind.pieces limits text = .ok pieces ∧
      ∀ piece ∈ pieces, piece.length ≤ limits.size := by
  refine ⟨_, kind.pieces_eq valid text, ?_⟩
  intro piece member
  rcases List.mem_map.mp member with ⟨span, inSpans, rfl⟩
  rw [String.length_ofList]
  exact length_slice_le_of_mem_spans .unicode kind.trimming valid (kind.regions text) text inSpans

/-- A line of code that is longer than a chunk. -/
theorem pieces_length_le_long_line :
    (⟨6, 2⟩ : Limits).overlap < (⟨6, 2⟩ : Limits).size ∧
      ∃ pieces : List String,
        markdown.pieces ⟨6, 2⟩ "```\nkrknctl run\n```\n".toList = .ok pieces ∧
          ∀ piece ∈ pieces, piece.length ≤ 6 :=
  ⟨by decide, pieces_length_le markdown (by decide) _⟩

end DocIndex.Documents.TextKind
