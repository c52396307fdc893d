import DocIndex.Proofs.Documents.Legible
import DocIndex.Proofs.Documents.Links
import DocIndex.Proofs.Documents.Walk
import DocIndex.Proofs.Files.Relative

/-!
# Positions of documents

Every document below a folder is loaded once, and its path ends in the names on the way to it from
that folder. Names that are text are shown as they are, whatever stands in front of them. So two
documents never have the same path, and no two chunks of one load have the same key.
-/

namespace DocIndex.Documents

open DocIndex.Files DocIndex.Split DocIndex.Text

variable {files : FileSystem} {limits : Limits} {url : String} {checkout docsPath : Path}
  {chunks : List Chunk} {names others : List Name}

theorem isText_joinSegments (text : ∀ name ∈ names, Utf8.IsText name) :
    Utf8.IsText (joinSegments names) := by
  induction names with
  | nil => exact Utf8.isText_nil
  | cons name later ih =>
      rw [List.forall_mem_cons] at text
      by_cases last : later = []
      · rw [last]
        exact text.1
      · rw [joinSegments_cons last]
        have separator : Utf8.IsText [slash] := ⟨['/'], rfl⟩
        exact text.1.append (separator.append (ih text.2))

/-- What is shown of a front does not depend on what comes behind it. -/
theorem exists_decodeLossy_front {front : List UInt8} (isFront : Path.IsFront front) :
    ∃ shown, ∀ bytes, Utf8.decodeLossy (front ++ bytes) = shown ++ Utf8.decodeLossy bytes := by
  rcases isFront with rfl | closed
  · exact ⟨[], fun _ => rfl⟩
  · rcases List.getLast?_eq_some_iff.mp closed with ⟨before, rfl⟩
    refine ⟨Utf8.decodeLossy before ++ ['/'], fun bytes => ?_⟩
    rw [List.append_assoc, List.singleton_append, Utf8.decodeLossy_append (by decide),
      List.append_assoc, List.singleton_append]
    rfl

/-- Different names are shown differently behind one front. -/
theorem eq_of_text_eq {front : List UInt8} (isFront : Path.IsFront front) (some_names : names ≠ [])
    (some_others : others ≠ []) (legible : ∀ name ∈ names, IsLegibleName name)
    (legibleToo : ∀ name ∈ others, IsLegibleName name)
    (same : (⟨front ++ joinSegments names⟩ : Path).text =
      (⟨front ++ joinSegments others⟩ : Path).text) : names = others := by
  rcases exists_decodeLossy_front isFront with ⟨shown, decoded⟩
  have texts := String.ofList_inj.mp same
  rw [decoded, decoded, List.append_cancel_left_eq] at texts
  have isText := isText_joinSegments fun name member => (legible name member).text
  have isTextToo := isText_joinSegments fun name member => (legibleToo name member).text
  have segments := congrArg segmentsOf (isText.eq_of_decodeLossy isTextToo texts)
  rwa [Path.segmentsOf_join_names some_names fun name member => (legible name member).plain,
    Path.segmentsOf_join_names some_others fun name member => (legibleToo name member).plain]
    at segments

/-- The path under which a document is loaded. -/
def shownPath (checkout docsPath : Path) (names : List Name) : String :=
  let path := (checkout.join docsPath).below names
  ((path.relativeTo? checkout).getD path).text

theorem eq_of_shownPath_eq (relative : docsPath.isAbsolute = false) (some_names : names ≠ [])
    (some_others : others ≠ []) (legible : ∀ name ∈ names, IsLegibleName name)
    (legibleToo : ∀ name ∈ others, IsLegibleName name)
    (same : shownPath checkout docsPath names = shownPath checkout docsPath others) :
    names = others := by
  rcases Path.exists_front_relativeTo? checkout relative with ⟨front, isFront, seen⟩
  rw [shownPath, shownPath, seen names some_names fun name member => (legible name member).plain,
    seen others some_others fun name member => (legibleToo name member).plain] at same
  exact eq_of_text_eq isFront some_names some_others legible legibleToo same

/-- The chunks of a load are those of the documents, each loaded once under its own path. -/
theorem exists_documents_of_loadDocs (legible : IsLegible files.root)
    (loaded : loadDocs files limits url checkout docsPath = .ok chunks) :
    docsPath.isAbsolute = false ∧ ∃ documents groups,
      documents.Nodup ∧ (∀ names ∈ documents, names ≠ [] ∧ ∀ name ∈ names, IsLegibleName name) ∧
      chunks = groups.flatten ∧
      List.Forall₂ (fun names group =>
        ∃ pieces, group = Chunk.ofPieces url (shownPath checkout docsPath names) pieces)
        documents groups := by
  rcases exists_of_loadDocs loaded with ⟨relative, docs, found, _, loadedEach⟩
  have legibleDocs : IsLegible docs := by
    rcases FileSystem.exists_place_of_find found with ⟨place, _, there⟩
    exact (legible.of_at? there).1
  rcases listsInOrder_markdownBelow legibleDocs.isProper (checkout.join docsPath) with
    ⟨documents, paths_eq, sorted, mem_iff⟩
  rcases exists_groups_of_loadEach loadedEach with ⟨groups, chunks_eq, all⟩
  rw [paths_eq, List.forall₂_map_left_iff] at all
  refine ⟨relative, documents, groups, sorted.imp ?_, ?_, chunks_eq, ?_⟩
  · rintro names _ before rfl
    exact List.lt_irrefl names before
  · intro names member
    have listed := (mem_iff names).mp member
    rcases listed.isFile with ⟨bytes, isFile⟩
    exact ⟨listed.ne_nil, (legibleDocs.of_at? isFile).2⟩
  · apply all.imp
    intro names group loads
    rcases exists_of_loadFile loads with ⟨_, _, pieces, _, _, _, group_eq⟩
    exact ⟨pieces, group_eq⟩

/-- The chunks of one load have different keys, whatever characters address and paths have. -/
theorem comeFrom_of_loadDocs (legible : IsLegible files.root)
    (loaded : loadDocs files limits url checkout docsPath = .ok chunks) :
    Chunk.ComeFrom url chunks := by
  rcases exists_documents_of_loadDocs legible loaded with
    ⟨relative, documents, groups, distinct, named, rfl, each⟩
  have exists_group {chunk : Chunk} (member : chunk ∈ groups.flatten) :
      ∃ path pieces, chunk ∈ Chunk.ofPieces url path pieces := by
    rcases List.mem_flatten.mp member with ⟨group, inGroups, inGroup⟩
    rcases exists_of_forall₂_of_mem each inGroups with ⟨names, _, pieces, rfl⟩
    exact ⟨_, pieces, inGroup⟩
  constructor
  case source_eq =>
    intro chunk member
    rcases exists_group member with ⟨path, pieces, inGroup⟩
    exact (Chunk.metadata_of_mem_ofPieces inGroup).1
  case id_eq =>
    intro chunk member
    rcases exists_group member with ⟨path, pieces, inGroup⟩
    exact Chunk.id_of_mem_ofPieces inGroup
  case distinct =>
    apply Chunk.nodup_keys_flatten each distinct
    · intro group member
      rcases exists_of_forall₂_of_mem each member with ⟨names, _, pieces, rfl⟩
      exact Chunk.nodup_keys_ofPieces _ _ pieces
    · rintro names isDocument others isOther different _ _ _ _ ⟨pieces, rfl⟩ ⟨further, rfl⟩
        chunk inGroup next inNext same
      rcases Chunk.metadata_of_mem_ofPieces inGroup with ⟨source, path⟩
      rcases Chunk.metadata_of_mem_ofPieces inNext with ⟨sourceToo, pathToo⟩
      have paths := Metadata.path_of_key same (source.trans sourceToo.symm)
      rw [path, pathToo] at paths
      rcases named names isDocument with ⟨some_names, legibleNames⟩
      rcases named others isOther with ⟨some_others, legibleOthers⟩
      exact different (eq_of_shownPath_eq relative some_names some_others legibleNames
        legibleOthers paths)

end DocIndex.Documents
