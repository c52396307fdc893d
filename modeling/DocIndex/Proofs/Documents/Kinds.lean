import DocIndex.Proofs.Documents.Walk
import DocIndex.Proofs.Files.LastComponent

/-!
# Kinds of documents by their paths

A document is Markdown exactly if the last component of its path is a stem, which may be any bytes,
with an extension of Markdown behind. Nothing else of the path counts: neither the folders in front
nor the slashes and segments `.` at its end.
-/

namespace DocIndex.Documents

open DocIndex.Files DocIndex.Text

variable {name : Name}

/--
The paths of Markdown documents as they are spelt: a front that is empty or ends in a slash, a name
of Markdown, which need not be text, and an end that names nothing.
-/
inductive SpellsMarkdown : List UInt8 → Prop
  | spelt {front name idle : List UInt8} (isFront : Path.IsFront front) (single : slash ∉ name)
      (named : IsMarkdownName name) (isIdle : Path.IsIdleEnd idle) :
      SpellsMarkdown (front ++ (name ++ idle))

/-- The names of Markdown files are longer than the components that are no names. -/
theorem IsMarkdownName.isName (named : IsMarkdownName name) :
    isVoid name = false ∧ name ≠ parentName := by
  have long : 3 ≤ name.length := by
    rcases named with ⟨stem, extension, rfl, some_stem, known⟩
    have some_bytes : extension ≠ [] := by
      rcases known with rfl | rfl
      · decide
      · decide
    have stemLength := List.length_pos_iff.mpr some_stem
    have extensionLength := List.length_pos_iff.mpr some_bytes
    rw [List.length_append, List.length_cons]
    omega
  constructor
  · rw [isVoid, Bool.or_eq_false_iff, List.isEmpty_eq_false_iff, beq_eq_false_iff_ne]
    constructor
    · rintro rfl
      contradiction
    · rintro rfl
      contradiction
  · rintro rfl
    contradiction

theorem SpellsMarkdown.isMarkdownName {bytes : List UInt8} (spells : SpellsMarkdown bytes) :
    IsMarkdownName (⟨bytes⟩ : Path).lastComponent := by
  cases spells with
  | spelt isFront single named isIdle =>
      rw [Path.lastComponent_eq isFront single named.isName.1 isIdle]
      exact named

theorem isMarkdownName_lastComponent_iff (path : Path) :
    IsMarkdownName path.lastComponent ↔ SpellsMarkdown path.bytes := by
  constructor
  · intro named
    rcases path.exists_bytes_eq_lastComponent with
      ⟨front, idle, bytes_eq, isFront, single, isIdle, _⟩
    rw [bytes_eq]
    exact .spelt isFront single named isIdle
  · exact SpellsMarkdown.isMarkdownName

namespace TextKind

theorem ofPath_eq_markdown_iff_lastComponent (path : Path) :
    ofPath path = .markdown ↔ IsMarkdownName path.lastComponent := by
  by_cases isName : isVoid path.lastComponent = false ∧ path.lastComponent ≠ parentName
  · apply ofPath_eq_markdown_iff
    rw [Path.fileName?_eq, if_neg (by simp [isName])]
  · have unnamed : path.fileName? = none := by
      rw [Path.fileName?_eq, if_pos]
      rwa [not_and_or, Bool.not_eq_false, not_not] at isName
    have isPlain : ofPath path = .plain := by
      rw [ofPath, Path.extension?, unnamed]
    rw [isPlain]
    exact iff_of_false (by decide) fun named => isName named.isName

theorem ofPath_eq_plain_iff_lastComponent (path : Path) :
    ofPath path = .plain ↔ ¬ IsMarkdownName path.lastComponent := by
  rw [← ofPath_eq_markdown_iff_lastComponent]
  cases ofPath path <;> decide

theorem ofPath_eq_of_lastComponent {path other : Path}
    (same : path.lastComponent = other.lastComponent) : ofPath path = ofPath other := by
  apply ofPath_congr
  rw [Path.fileName?_eq, Path.fileName?_eq, same]

/--
A document is Markdown exactly if the last component of its path is a stem and an extension of
Markdown; so it is decided by the last component alone, and a slash or a segment `.` behind the path
does not change it.
-/
theorem ofPath_by_lastComponent (path : Path) :
    (ofPath path = .markdown ↔ IsMarkdownName path.lastComponent) ∧
      (ofPath path = .plain ↔ ¬ IsMarkdownName path.lastComponent) ∧
      (ofPath path = .markdown ↔ SpellsMarkdown path.bytes) ∧
      (∀ other : Path, other.lastComponent = path.lastComponent → ofPath other = ofPath path) ∧
      ofPath ⟨path.bytes ++ [slash]⟩ = ofPath path ∧
      ofPath ⟨path.bytes ++ [slash, dot]⟩ = ofPath path := by
  refine ⟨ofPath_eq_markdown_iff_lastComponent path, ofPath_eq_plain_iff_lastComponent path, ?_,
    fun _ same => ofPath_eq_of_lastComponent same, ?_, ?_⟩
  · rw [ofPath_eq_markdown_iff_lastComponent, isMarkdownName_lastComponent_iff]
  · exact ofPath_eq_of_lastComponent (Path.lastComponent_append (.slash .nil) path.bytes)
  · exact ofPath_eq_of_lastComponent (Path.lastComponent_append (.self .nil) path.bytes)

/-- The stem is no text, and neither a folder in front nor an end that names nothing counts. -/
theorem ofPath_by_lastComponent_of_bytes :
    Utf8.decode? [0xFF] = none ∧
      ofPath ⟨[0x61, 0x2F, 0xFF, 0x2E, 0x6D, 0x64, 0x2F, 0x2F, 0x2E]⟩ =
        ofPath ⟨[0xFF, 0x2E, 0x6D, 0x64]⟩ ∧
      ofPath ⟨[0xFF, 0x2E, 0x6D, 0x64]⟩ = .markdown := by
  refine ⟨by cbv, ?_, ?_⟩
  · exact (ofPath_by_lastComponent ⟨[0xFF, 0x2E, 0x6D, 0x64]⟩).2.2.2.1 _ (by decide)
  · exact (ofPath_by_lastComponent _).1.mpr
      ⟨[0xFF], Utf8.ofString "md", by decide, List.cons_ne_nil _ _, .inl rfl⟩

end TextKind

end DocIndex.Documents
