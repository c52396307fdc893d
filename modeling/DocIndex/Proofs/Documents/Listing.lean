import DocIndex.Documents.Load
import DocIndex.Proofs.Files.Inside

/-!
# What is listed

The files that are listed below a folder are found in its tree along the names of entries, and they
are listed alike whatever path leads to the folder.
-/

namespace DocIndex.Documents

open DocIndex.Files DocIndex.Split

variable {folder : Path} {tree : FileTree}

/-- The Markdown files that an entry of a folder is or holds. -/
def markdownAt (folder : Path) (name : Name) : FileTree → List Path
  | .file _ => if isMarkdown (folder.entry name) then [folder.entry name] else []
  | tree => if isHidden name then [] else markdownBelow (folder.entry name) tree

theorem markdownEntries_eq_map (folder : Path) (entries : List (Name × FileTree)) :
    markdownEntries folder entries =
      entries.map fun entry => (entry.1, markdownAt folder entry.1 entry.2) := by
  induction entries with
  | nil => rw [markdownEntries, List.map_nil]
  | cons entry later ih =>
      rcases entry with ⟨name, tree⟩
      cases tree <;> simp only [markdownEntries, markdownAt, List.map_cons, ih]

theorem markdownBelow_folder (folder : Path) (entries : List (Name × FileTree)) :
    markdownBelow folder (.folder entries) =
      ((entries.map fun entry => (entry.1, markdownAt folder entry.1 entry.2)).mergeSort
        comesBefore).flatMap (·.2) := by
  rw [markdownBelow, markdownEntries_eq_map]

theorem TextKind.ofPath_congr {path other : Path} (same : path.fileName? = other.fileName?) :
    TextKind.ofPath path = TextKind.ofPath other := by
  rw [TextKind.ofPath, TextKind.ofPath, Path.extension?, Path.extension?, same]

theorem isMarkdown_congr {path other : Path} (same : path.fileName? = other.fileName?) :
    isMarkdown path = isMarkdown other := by
  rw [isMarkdown, isMarkdown, TextKind.ofPath_congr same]

/-- The listing below a folder does not depend on what stands in front of the path to it. -/
theorem markdownBelow_join (proper : tree.IsProper) (relative : folder.isAbsolute = false)
    (base : Path) :
    markdownBelow (base.join folder) tree = (markdownBelow folder tree).map (base.join ·) := by
  induction proper generalizing folder with
  | file | link | repository =>
      rw [markdownBelow, markdownBelow]
      rfl
  | @folder entries distinct plain inner ih =>
      have same : ∀ entry ∈ entries, markdownAt (base.join folder) entry.1 entry.2 =
          (markdownAt folder entry.1 entry.2).map (base.join ·) := by
        rintro ⟨name, tree⟩ member
        have named : IsPlain name := plain _ member
        have deeper := Path.entry_join named relative base
        have isMarkdown_eq : isMarkdown ((base.join folder).entry name) =
            isMarkdown (folder.entry name) := isMarkdown_congr <| by
          rw [(Path.endsInName_entry named _).fileName?_eq,
            (Path.endsInName_entry named _).fileName?_eq]
        have below := ih _ member (Path.isAbsolute_entry named relative)
        rw [← deeper] at below
        cases tree with
        | file bytes =>
            rw [deeper] at isMarkdown_eq
            simp only [markdownAt, deeper, isMarkdown_eq]
            split <;> rfl
        | link _ | folder _ | repository _ =>
            simp only [markdownAt, below]
            split <;> rfl
      have together : (entries.map fun entry =>
            (entry.1, markdownAt (base.join folder) entry.1 entry.2)) =
          (entries.map fun entry => (entry.1, markdownAt folder entry.1 entry.2)).map
            fun listed => (listed.1, listed.2.map (base.join ·)) := by
        rw [List.map_map]
        apply List.map_congr_left
        intro entry member
        rw [same entry member]
        rfl
      have sorted := @List.map_mergeSort _ _ comesBefore comesBefore
        (fun listed : Name × List Path => (listed.1, listed.2.map (base.join ·)))
        (entries.map fun entry => (entry.1, markdownAt folder entry.1 entry.2))
        fun _ _ _ _ => rfl
      rw [markdownBelow_folder, markdownBelow_folder, together, List.map_flatMap, ← sorted,
        List.flatMap_map]

/-- Every file that is listed is found in the tree along plain names. -/
theorem exists_of_mem_markdownBelow (proper : tree.IsProper) {path : Path}
    (listed : path ∈ markdownBelow folder tree) :
    ∃ names bytes, (∀ name ∈ names, IsPlain name) ∧ path = folder.below names ∧
      tree.at? names = some (.file bytes) := by
  induction proper generalizing folder path with
  | file | link | repository =>
      rw [markdownBelow] at listed
      contradiction
  | @folder entries distinct plain inner ih =>
      rw [markdownBelow_folder] at listed
      rcases List.mem_flatMap.mp listed with ⟨found, inSorted, inFound⟩
      rcases List.mem_map.mp (List.mem_mergeSort.mp inSorted) with ⟨⟨name, tree⟩, member, rfl⟩
      have named : IsPlain name := plain _ member
      have isChild : (FileTree.folder entries).child? name = some tree :=
        lookup_of_mem distinct member
      have deeper : ∀ other ∈ markdownBelow (folder.entry name) tree,
          ∃ names bytes, (∀ name ∈ names, IsPlain name) ∧ other = folder.below names ∧
            (FileTree.folder entries).at? names = some (.file bytes) := by
        intro other below
        rcases @ih _ member _ other below with ⟨names, bytes, plainNames, rfl, reached⟩
        refine ⟨name :: names, bytes, ?_, rfl, ?_⟩
        · rintro other (_ | ⟨_, inNames⟩)
          · exact named
          · exact plainNames other inNames
        · rw [FileTree.at?, isChild]
          exact reached
      cases tree with
      | file bytes =>
          rw [markdownAt] at inFound
          split at inFound
          · rw [List.mem_singleton.mp inFound]
            refine ⟨[name], bytes, by simpa using named, rfl, ?_⟩
            rw [FileTree.at?, isChild]
            rfl
          · contradiction
      | link _ | folder _ | repository _ =>
          simp only [markdownAt] at inFound
          split at inFound
          · contradiction
          · exact deeper path inFound

theorem loadEach_of_single {load : Path → Except Error (List Chunk)} {path : Path}
    {chunks : List Chunk} (loads : load path = .ok chunks) :
    loadEach load [path] = .ok chunks := by
  rw [loadEach, List.mapM_cons, loads, List.mapM_nil]
  exact congrArg Except.ok (List.append_nil _)

theorem loadFile_of_pieces {files : FileSystem} {limits : Limits} {kind : TextKind} {path : Path}
    {source name : String} {text : List Char} {pieces : List String}
    (read : files.readText path = .ok text) (cut : kind.pieces limits text = .ok pieces) :
    loadFile files limits kind path source name = .ok (Chunk.ofPieces source name pieces) := by
  rw [loadFile, read]
  simp only [cut]
  rfl

/-- What loading gives where a single document is listed. -/
theorem loadDocs_of_single {files : FileSystem} {limits : Limits} {url : String}
    {checkout docsPath path : Path} {name : String} {text : List Char} {pieces : List String}
    (relative : docsPath.isAbsolute = false)
    (opened : files.isFolder (checkout.join docsPath) = true)
    (listed : listMarkdown files (checkout.join docsPath) = .ok [path])
    (named : ((path.relativeTo? checkout).getD path).text = name)
    (read : files.readText path = .ok text)
    (cut : TextKind.markdown.pieces limits text = .ok pieces) :
    loadDocs files limits url checkout docsPath = .ok (Chunk.ofPieces url name pieces) := by
  rw [loadDocs, relative, opened]
  simp only [Bool.not_true, Bool.or_false, Bool.false_eq_true, if_false, listed]
  rw [← named]
  exact loadEach_of_single (loadFile_of_pieces read cut)

end DocIndex.Documents
