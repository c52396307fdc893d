import DocIndex.Proofs.Documents.Listing
import DocIndex.Proofs.Documents.Loading

/-!
# Loading files one by one

A list of files gives the chunks of its files one after another, or the error of the first file that
gives none. So what a file gives depends on nothing but that file and the limits: neither its number
in the list nor the files in front of it have an effect on the numbers and the paths of its chunks.
-/

namespace DocIndex.Files.FileSystem

variable {files : FileSystem} {path : Path} {bytes : List UInt8}

/-- A segment that leads to a file is the name of an entry. -/
theorem Leads.isPlain {root : FileTree} {links : Nat} {place final : List Name} {segment : Name}
    (leads : Leads root true links place [segment] final) (single : slash ∉ segment)
    (isFile : root.at? final = some (.file bytes)) : IsPlain segment := by
  cases leads with
  -- A segment that names no entry leads to a folder, and a file is none.
  | stay found opened idle rest =>
      cases rest
      rw [isFile] at found
      cases found
      contradiction
  | leave found opened rest =>
      cases rest
      rcases List.eq_nil_or_concat place with rfl | ⟨outer, name, rfl⟩
      · rw [List.dropLast_nil] at isFile
        rw [isFile] at found
        cases found
        contradiction
      · rw [List.concat_eq_append] at found isFile
        rw [List.dropLast_concat] at isFile
        rw [FileTree.at?_append, isFile] at found
        contradiction
  | enter found opened named => exact ⟨single, named.1, named.2.1⟩
  | halt found opened named => exact ⟨single, named.1, named.2.1⟩
  | jump found opened named => exact ⟨single, named.1, named.2.1⟩

/-- The path of a file ends in a name; neither `..` nor a slash stands there. -/
theorem exists_endsInName (found : files.find true path = .ok (.file bytes)) :
    ∃ name, path.EndsInName name := by
  rcases exists_place_of_find found with ⟨final, located, isFile⟩
  rcases List.eq_nil_or_concat (segmentsOf path.bytes) with empty | ⟨outer, name, segments⟩
  · exact absurd empty (segmentsOf_ne_nil path.bytes)
  · have single : slash ∉ name := slash_not_mem_of_mem_segmentsOf (by rw [segments]; simp)
    have leads := (locate_eq_ok_iff.mp located).2
    rw [List.concat_eq_append] at segments
    rw [segments] at leads
    rcases leads.exists_between (.inl rfl) with ⟨between, left, _, last⟩
    exact ⟨name, last.isPlain single isFile, outer, segments⟩

end DocIndex.Files.FileSystem

namespace DocIndex.Documents

open DocIndex.Files DocIndex.Split DocIndex.Text

variable {files : FileSystem} {limits : Limits} {path : Path}

/-- What a file that is loaded for itself gives. -/
inductive LoadsAlone (files : FileSystem) (limits : Limits) (path : Path) :
    Except Error (List Chunk) → Prop
  /-- A file that cannot be read fails with its path, whether the limits are valid or not. -/
  | unread {fault : Fault} (fails : files.readText path = .error fault) :
      LoadsAlone files limits path (.error (.io path fault))
  /-- A text is not cut under limits that are not valid. -/
  | uncut {bytes : List UInt8} {text : List Char}
      (found : files.find true path = .ok (.file bytes)) (isText : Utf8.decode? bytes = some text)
      (invalid : limits.size ≤ limits.overlap) : LoadsAlone files limits path (.error .chunkLimits)
  /-- The pieces of the text in order, with the last segment of the path as their path. -/
  | cut {bytes : List UInt8} {text : List Char} {pieces : List String} {name : Name}
      (found : files.find true path = .ok (.file bytes)) (isText : Utf8.decode? bytes = some text)
      (pieces_eq : (TextKind.ofPath path).pieces limits text = .ok pieces)
      (named : path.EndsInName name) :
      LoadsAlone files limits path (.ok (pieces.mapIdx fun index piece =>
        .ofMetadata ⟨path.text, Utf8.toStringLossy name, index⟩ piece))

theorem loadEach_append (load : Path → Except Error (List Chunk)) (paths others : List Path) :
    loadEach load (paths ++ others) =
      match loadEach load paths with
      | .error error => .error error
      | .ok chunks => (loadEach load others).map (chunks ++ ·) := by
  induction paths with
  | nil =>
      rcases loaded : loadEach load others with error | chunks
      · exact loaded
      · exact loaded
  | cons path later ih =>
      rw [List.cons_append, loadEach_cons, loadEach_cons, ih]
      rcases load path with error | block
      · rfl
      · rcases loadEach load later with error | chunks
        · rfl
        · rcases loadEach load others with error | last
          · rfl
          · exact congrArg Except.ok (List.append_assoc block chunks last).symm

/-- The error for a list is that of the first item that fails. -/
theorem loadEach_eq_error_iff {load : Path → Except Error (List Chunk)} {paths : List Path}
    {error : Error} : loadEach load paths = .error error ↔
      ∃ before path after, paths = before ++ path :: after ∧
        (∀ earlier ∈ before, ∃ chunks, load earlier = .ok chunks) ∧ load path = .error error := by
  constructor
  · intro fails
    induction paths with
    | nil => contradiction
    | cons first later ih =>
        rw [loadEach_cons] at fails
        rcases loaded : load first with stop | block
        · rw [loaded] at fails
          cases fails
          exact ⟨[], first, later, rfl, fun _ member => absurd member List.not_mem_nil, loaded⟩
        · rcases ended : loadEach load later with stop | chunks
          · rw [loaded, ended] at fails
            cases fails
            rcases ih ended with ⟨before, path, after, rfl, earlier, stops⟩
            exact ⟨first :: before, path, after, rfl,
              List.forall_mem_cons.mpr ⟨⟨block, loaded⟩, earlier⟩, stops⟩
          · rw [loaded, ended] at fails
            contradiction
  · rintro ⟨before, path, after, rfl, earlier, fails⟩
    induction before with
    | nil => rw [List.nil_append, loadEach_cons, fails]
    | cons first before ih =>
        rw [List.forall_mem_cons] at earlier
        rcases earlier.1 with ⟨block, loaded⟩
        rw [List.cons_append, loadEach_cons, loaded, ih earlier.2]
        rfl

theorem exists_file_of_readText {text : List Char} (read : files.readText path = .ok text) :
    ∃ bytes, files.find true path = .ok (.file bytes) ∧ Utf8.decode? bytes = some text := by
  rw [FileSystem.readText, FileSystem.readBytes] at read
  split at read
  · contradiction
  · rename_i bytes opened
    split at opened
    · rename_i found
      cases opened
      rcases isText : Utf8.decode? bytes with _ | other
      · simp [isText] at read
      · simp only [isText, Except.ok.injEq] at read
        exact ⟨bytes, found, read ▸ isText⟩
    · contradiction
    · contradiction
    · contradiction
    · contradiction

theorem loadFiles_singleton (files : FileSystem) (limits : Limits) (path : Path) :
    loadFiles files limits [path] = loadFile files limits (.ofPath path) path path.text
      (Utf8.toStringLossy (path.fileName?.getD [])) := by
  rw [loadFiles, loadEach_cons]
  rcases loaded : loadFile files limits (.ofPath path) path path.text
      (Utf8.toStringLossy (path.fileName?.getD [])) with error | block
  · rfl
  · exact congrArg Except.ok (List.append_nil block)

/-- A file that is loaded for itself gives what its contents and the limits decide. -/
theorem loadsAlone_loadFiles (files : FileSystem) (limits : Limits) (path : Path) :
    LoadsAlone files limits path (loadFiles files limits [path]) := by
  rw [loadFiles_singleton, loadFile]
  rcases read : files.readText path with fault | text
  · exact .unread read
  · rcases exists_file_of_readText read with ⟨bytes, found, isText⟩
    by_cases invalid : limits.size ≤ limits.overlap
    · simp only [TextKind.pieces_of_invalid _ invalid]
      exact .uncut found isText invalid
    · have cut := (TextKind.ofPath path).pieces_eq (Nat.not_le.mp invalid) text
      rcases FileSystem.exists_endsInName found with ⟨name, named⟩
      simp only [cut, named.fileName?_eq]
      exact .cut found isText cut named

/--
A list of files gives what its parts give, one after another; each file gives what it gives alone;
and the error for a list is that of the first file that fails.
-/
theorem loadFiles_compositional (files : FileSystem) (limits : Limits) :
    (∀ paths others, loadFiles files limits (paths ++ others) =
      match loadFiles files limits paths with
      | .error error => .error error
      | .ok chunks => (loadFiles files limits others).map (chunks ++ ·)) ∧
    (∀ path, LoadsAlone files limits path (loadFiles files limits [path])) ∧
    ∀ paths error, loadFiles files limits paths = .error error ↔
      ∃ before path after, paths = before ++ path :: after ∧
        (∀ earlier ∈ before, ∃ chunks, loadFiles files limits [earlier] = .ok chunks) ∧
        loadFiles files limits [path] = .error error := by
  refine ⟨loadEach_append _, loadsAlone_loadFiles files limits, fun paths error => ?_⟩
  simp only [loadFiles_singleton]
  exact loadEach_eq_error_iff

end DocIndex.Documents
