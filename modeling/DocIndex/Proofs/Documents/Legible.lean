import DocIndex.Proofs.Documents.Cloning
import DocIndex.Proofs.Files.Around
import DocIndex.Proofs.Text.Utf8

/-!
# Files with names that are text

Where all names in a file system are text, those in the commits of its repositories among them, they
stay so when a repository is cloned into a folder whose path is text: folders are made under the
segments of that path, and what is cloned is the tree of a commit.
-/

namespace DocIndex.Documents

open DocIndex.Files DocIndex.Text

/-- A name that an entry of a folder can have and that is text. -/
structure IsLegibleName (name : Name) : Prop where
  plain : IsPlain name
  text : Utf8.IsText name

/--
A tree as a file system holds it in which all names are text, also in the commits of repositories,
where none is the name of the administration.
-/
inductive IsLegible : FileTree → Prop
  | file (bytes : List UInt8) : IsLegible (.file bytes)
  | link (target : Path) : IsLegible (.link target)
  | repository {commit : FileTree} (copied : IsLegible commit)
      (free : administrationName ∉ commit.entries.map (·.1)) : IsLegible (.repository commit)
  | folder {entries : List (Name × FileTree)} (distinct : (entries.map (·.1)).Nodup)
      (named : ∀ entry ∈ entries, IsLegibleName entry.1)
      (inner : ∀ entry ∈ entries, IsLegible entry.2) : IsLegible (.folder entries)

variable {tree root : FileTree} {place names : List Name} {name : Name}

theorem isLegible_emptyFolder : IsLegible .emptyFolder :=
  .folder List.nodup_nil (fun _ member => absurd member List.not_mem_nil)
    fun _ member => absurd member List.not_mem_nil

theorem IsLegible.cons {entries : List (Name × FileTree)} (legible : IsLegible tree)
    (named : IsLegibleName name) (new : name ∉ entries.map (·.1))
    (rest : IsLegible (.folder entries)) : IsLegible (.folder ((name, tree) :: entries)) := by
  cases rest with
  | folder distinct namedRest inner =>
      exact .folder (List.nodup_cons.mpr ⟨new, distinct⟩)
        (List.forall_mem_cons.mpr ⟨named, namedRest⟩) (List.forall_mem_cons.mpr ⟨legible, inner⟩)

theorem isLegibleName_ofString {text : String} (plain : IsPlain (Utf8.ofString text)) :
    IsLegibleName (Utf8.ofString text) :=
  ⟨plain, text.toList, rfl⟩

theorem IsLegible.isProper (legible : IsLegible tree) : tree.IsProper := by
  induction legible with
  | file bytes => exact .file bytes
  | link target => exact .link target
  | repository => exact .repository _
  | folder distinct named inner ih =>
      exact .folder distinct (fun entry member => (named entry member).plain) ih

theorem IsLegible.of_at? {found : FileTree} (legible : IsLegible tree)
    (reached : tree.at? names = some found) :
    IsLegible found ∧ ∀ name ∈ names, IsLegibleName name := by
  induction names generalizing tree with
  | nil =>
      cases reached
      exact ⟨legible, fun _ member => absurd member List.not_mem_nil⟩
  | cons name later ih =>
      rcases Option.bind_eq_some_iff.mp reached with ⟨child, isChild, reachedOn⟩
      cases legible with
      | file | link | repository => contradiction
      | folder distinct named inner =>
          have member := mem_of_lookup isChild
          rcases ih (inner _ member) reachedOn with ⟨found, namedLater⟩
          exact ⟨found, List.forall_mem_cons.mpr ⟨named _ member, namedLater⟩⟩

/-- Entries stay legible when what a name stands for changes to something legible. -/
theorem isLegible_map_entry {entries : List (Name × FileTree)} {change : FileTree → FileTree}
    (legible : IsLegible (.folder entries)) (name : Name)
    (changed : ∀ tree, IsLegible tree → IsLegible (change tree)) :
    IsLegible (.folder (entries.map fun entry =>
      if entry.1 == name then (name, change entry.2) else entry)) := by
  cases legible with
  | folder distinct named inner =>
      have key_eq (entry : Name × FileTree) :
          (if entry.1 == name then (name, change entry.2) else entry).1 = entry.1 := by
        by_cases same : entry.1 = name
        · simp [same]
        · simp [same]
      refine .folder ?_ ?_ ?_
      · rw [List.map_map]
        exact (List.map_congr_left fun entry _ => key_eq entry) ▸ distinct
      · intro entry member
        rcases List.mem_map.mp member with ⟨before, inEntries, rfl⟩
        rw [key_eq]
        exact named before inEntries
      · intro entry member
        rcases List.mem_map.mp member with ⟨before, inEntries, rfl⟩
        split
        · exact changed before.2 (inner before inEntries)
        · exact inner before inEntries

theorem isLegible_concat {entries : List (Name × FileTree)} (legible : IsLegible (.folder entries))
    (new : name ∉ entries.map (·.1)) (named : IsLegibleName name) (legibleTree : IsLegible tree) :
    IsLegible (.folder (entries ++ [(name, tree)])) := by
  cases legible with
  | folder distinct namedEntries inner =>
      refine .folder ?_ ?_ ?_
      · rw [List.map_append, List.map_singleton]
        exact List.nodup_append_comm.mp (List.nodup_cons.mpr ⟨new, distinct⟩)
      · intro entry member
        rcases List.mem_append.mp member with inEntries | isLast
        · exact namedEntries entry inEntries
        · rw [List.mem_singleton.mp isLast]
          exact named
      · intro entry member
        rcases List.mem_append.mp member with inEntries | isLast
        · exact inner entry inEntries
        · rw [List.mem_singleton.mp isLast]
          exact legibleTree

/-- Entries stay legible when a name is taken out, or stands for a legible tree. -/
theorem isLegible_assign {entries : List (Name × FileTree)} {tree? : Option FileTree}
    (legible : IsLegible (.folder entries))
    (put : ∀ tree ∈ tree?, IsLegible tree ∧ IsLegibleName name) :
    IsLegible (.folder (FileTree.assign name tree? entries)) := by
  rcases tree? with _ | tree
  · cases legible with
    | folder distinct named inner =>
        have kept {entry : Name × FileTree} (member : entry ∈ entries.filter (·.1 != name)) :
            entry ∈ entries := (List.mem_filter.mp member).1
        exact .folder ((List.filter_sublist.map _).nodup distinct)
          (fun entry member => named entry (kept member))
          fun entry member => inner entry (kept member)
  · rcases put tree rfl with ⟨legibleTree, named⟩
    rw [FileTree.assign]
    split
    · exact isLegible_map_entry legible name fun _ _ => legibleTree
    · rename_i new
      refine isLegible_concat legible ?_ named legibleTree
      intro member
      rcases List.mem_map.mp member with ⟨entry, inEntries, same⟩
      exact new (List.any_eq_true.mpr ⟨entry, inEntries, by simp [same]⟩)

/-- A tree stays legible when what is put into it is legible, and the name for it. -/
theorem IsLegible.set {tree? : Option FileTree} (legible : IsLegible root)
    (put : ∀ tree ∈ tree?, IsLegible tree ∧ ∀ name ∈ place.getLast?, IsLegibleName name) :
    IsLegible (root.set tree? place) := by
  induction place generalizing root with
  | nil =>
      rcases tree? with _ | tree
      · exact legible
      · exact (put tree rfl).1
  | cons name later ih =>
      by_cases hasEntries : ∃ entries, root = .folder entries
      · rcases hasEntries with ⟨entries, rfl⟩
        by_cases last : later = []
        · subst last
          apply isLegible_assign legible
          intro tree isTree
          rcases put tree isTree with ⟨legibleTree, named⟩
          exact ⟨legibleTree, named name rfl⟩
        · rw [List.getLast?_cons_of_ne_nil last] at put
          rw [FileTree.set_inner tree? name last]
          exact isLegible_map_entry legible name fun _ inner => ih inner put
      · rw [FileTree.set_of_ne_folder tree? (not_exists.mp hasEntries) (List.cons_ne_nil _ _)]
        exact legible

/-- What is there may give way to a legible tree. -/
theorem IsLegible.set_of_at? {found : FileTree} (legible : IsLegible root)
    (there : root.at? place = some found) (legibleTree : IsLegible tree) :
    IsLegible (root.set (some tree) place) := by
  apply legible.set
  rintro _ ⟨⟩
  exact ⟨legibleTree, fun name last => (legible.of_at? there).2 name (List.mem_of_getLast? last)⟩

theorem isLegibleName_administrationName : IsLegibleName administrationName :=
  ⟨by decide, ⟨".git".toList, rfl⟩⟩

theorem IsLegible.workingCopy {commit : FileTree} (legible : IsLegible (.repository commit)) :
    IsLegible (workingCopy commit) := by
  cases legible with
  | repository copied free =>
      have entries : IsLegible (.folder commit.entries) := by
        cases copied with
        | folder distinct named inner => exact .folder distinct named inner
        | file | link | repository => exact isLegible_emptyFolder
      exact isLegible_concat entries free isLegibleName_administrationName (.repository copied free)

/-- A path of which every segment is text. -/
def IsLegiblePath (path : Path) : Prop := ∀ segment ∈ segmentsOf path.bytes, Utf8.IsText segment

theorem isText_selfName : Utf8.IsText selfName := ⟨['.'], rfl⟩

theorem isLegiblePath_joinSegments {segments : List Name}
    (single : ∀ segment ∈ segments, slash ∉ segment)
    (text : ∀ segment ∈ segments, Utf8.IsText segment) :
    IsLegiblePath ⟨joinSegments segments⟩ := by
  intro segment member
  by_cases none_joined : segments = []
  · rw [none_joined] at member
    rw [List.mem_singleton.mp member]
    exact Utf8.isText_nil
  · rw [segmentsOf_joinSegments none_joined single] at member
    exact text segment member

theorem isLegiblePath_ofParts {start : Path.Start} {segments : List Name}
    (single : ∀ segment ∈ segments, slash ∉ segment)
    (text : ∀ segment ∈ segments, Utf8.IsText segment) :
    IsLegiblePath (Path.ofParts start segments) := by
  cases start with
  | root =>
      intro segment member
      rw [Path.ofParts, segmentsOf_slash] at member
      rcases List.mem_cons.mp member with rfl | inLater
      · exact Utf8.isText_nil
      · exact isLegiblePath_joinSegments single text segment inLater
  | here =>
      exact isLegiblePath_joinSegments (List.forall_mem_cons.mpr ⟨by decide, single⟩)
        (List.forall_mem_cons.mpr ⟨isText_selfName, text⟩)
  | implicit => exact isLegiblePath_joinSegments single text

theorem IsLegiblePath.parent {path folder : Path} (legible : IsLegiblePath path)
    (parent : path.parent? = some folder) : IsLegiblePath folder := by
  have ofBefore {segments : List Name} (within : ∀ segment ∈ segments, segment ∈ path.parts.2)
      (start : Path.Start) : IsLegiblePath (Path.ofParts start segments) := by
    apply isLegiblePath_ofParts
    · intro segment member
      exact slash_not_mem_of_mem_segmentsOf
        (Path.mem_segmentsOf_of_mem_parts (within segment member))
    · intro segment member
      exact legible segment (Path.mem_segmentsOf_of_mem_parts (within segment member))
  rw [Path.parent?] at parent
  simp only at parent
  split at parent
  · split at parent
    · cases parent
      exact ofBefore (fun _ member => absurd member List.not_mem_nil) .implicit
    · contradiction
  · cases parent
    apply ofBefore
    intro segment member
    exact mem_of_mem_trimVoidEnd (List.mem_of_mem_dropLast (mem_of_mem_trimVoidEnd member))

theorem IsLegiblePath.join {base path : Path} (legible : IsLegiblePath base)
    (legibleToo : IsLegiblePath path) : IsLegiblePath (base.join path) := by
  by_cases absolute : path.isAbsolute = true
  · rw [Path.join, if_pos absolute]
    exact legibleToo
  · rw [Bool.not_eq_true] at absolute
    rcases base.exists_segmentsOf_opening with ⟨outer, names_eq, segments⟩
    intro segment member
    rw [Path.join_eq absolute, segments] at member
    rcases List.mem_append.mp member with inOuter | inPath
    · by_cases idle : isVoid segment = true
      · rw [isVoid, Bool.or_eq_true, List.isEmpty_iff, beq_iff_eq] at idle
        rcases idle with rfl | rfl
        · exact Utf8.isText_nil
        · exact isText_selfName
      · have named : segment ∈ base.names := by
          rw [← names_eq]
          exact List.mem_filter.mpr ⟨inOuter, by simp [idle]⟩
        exact legible segment (List.mem_filter.mp named).1
    · exact legibleToo segment inPath

theorem isLegiblePath_entryName (url : String) : IsLegiblePath ⟨entryName url⟩ := by
  intro segment member
  rw [segmentsOf_of_slash_not_mem (slash_not_mem_entryName url), List.mem_singleton] at member
  exact ⟨_, member.symm⟩

theorem IsLegiblePath.splitEntry {path : Path} (legible : IsLegiblePath path) :
    IsLegiblePath (FileSystem.splitEntry path).1 := by
  rcases FileSystem.splitEntry_cases path with ⟨_, split⟩ | ⟨outer, name, _, segments, _, _, split⟩
  · rw [split]
    exact legible
  · have within {segment : Name} (member : segment ∈ outer) : segment ∈ segmentsOf path.bytes := by
      rw [segments]
      exact List.mem_append_left _ member
    rw [split, FileSystem.outerPath.eq_def]
    split
    · exact isLegiblePath_joinSegments (List.forall_mem_singleton.mpr (by decide))
        (List.forall_mem_singleton.mpr isText_selfName)
    · intro segment member
      have empty : segment = [] := by simpa [segmentsOf] using member
      exact empty ▸ Utf8.isText_nil
    · exact isLegiblePath_joinSegments
        (fun segment member => slash_not_mem_of_mem_segmentsOf (within member))
        fun segment member => legible segment (within member)

section Changes

variable {files after : FileSystem} {path : Path}

theorem isLegibleName_of_splitEntry (legible : IsLegiblePath path)
    (named : isVoid (FileSystem.splitEntry path).2 = false)
    (down : (FileSystem.splitEntry path).2 ≠ parentName) :
    IsLegibleName (FileSystem.splitEntry path).2 := by
  rcases FileSystem.splitEntry_cases path with ⟨_, split⟩ | ⟨outer, name, _, segments, _, _, split⟩
  · rw [split] at named
    contradiction
  · rw [split] at named down ⊢
    have member : name ∈ segmentsOf path.bytes := by simp [segments]
    exact ⟨⟨slash_not_mem_of_mem_segmentsOf member, named, down⟩, legible name member⟩

theorem IsLegible.makeFolder (legible : IsLegible files.root) (legiblePath : IsLegiblePath path)
    (made : files.makeFolder path = .ok after) : IsLegible after.root := by
  rcases FileSystem.exists_outer_of_makeFolder made with
    ⟨outer, tree, _, _, _, ⟨named, down, _⟩, _, rfl⟩
  apply legible.set
  rintro _ ⟨⟩
  refine ⟨isLegible_emptyFolder, ?_⟩
  rw [List.getLast?_concat]
  rintro _ ⟨⟩
  exact isLegibleName_of_splitEntry legiblePath named down

theorem IsLegible.makeFolders (legible : IsLegible files.root) (legiblePath : IsLegiblePath path)
    (made : files.makeFolders path = .ok after) : IsLegible after.root := by
  apply @FileSystem.of_makeFolders files after path (fun files => IsLegible files.root)
    IsLegiblePath
  · exact fun _ _ legible parent => legible.parent parent
  · exact fun _ _ _ legiblePath legible makes => legible.makeFolder legiblePath makes
  · exact legiblePath
  · exact legible
  · exact made

theorem IsLegible.removeEntry (legible : IsLegible files.root)
    (removed : files.removeEntry path = .ok after) : IsLegible after.root := by
  rw [FileSystem.removeEntry] at removed
  simp only at removed
  split at removed
  · cases removed
    exact legible
  · contradiction
  · split at removed
    · contradiction
    · split at removed
      · contradiction
      · split at removed
        · contradiction
        · cases removed
          exact legible.set fun _ put => absurd put (Option.not_mem_none _)

theorem IsLegible.removeAll (legible : IsLegible files.root)
    (removed : files.removeAll path = (after, .ok ())) : IsLegible after.root := by
  rw [FileSystem.removeAll] at removed
  split at removed
  · cases removed
  · rename_i place _
    rcases there : files.root.at? place with _ | found
    · rw [there] at removed
      cases removed
    · have legibleEmptied : IsLegible (if place.isEmpty then { files with root := .emptyFolder }
          else files.set place (some .emptyFolder)).root := by
        split
        · exact isLegible_emptyFolder
        · exact legible.set_of_at? there isLegible_emptyFolder
      generalize (if place.isEmpty then _ else _) = emptied at removed legibleEmptied
      rw [there] at removed
      cases found with
      | file _ => cases removed
      | link _ =>
          cases removed
          exact legible.set fun _ put => absurd put (Option.not_mem_none _)
      | folder _ | repository _ =>
          simp only at removed
          split at removed
          · rename_i rest
            cases removed
            exact legibleEmptied.removeEntry rest
          · cases removed

theorem IsLegible.clearAway (legible : IsLegible files.root)
    (cleared : clearAway files path = (after, .ok ())) : IsLegible after.root := by
  rw [Documents.clearAway] at cleared
  split at cleared
  · exact legible.removeAll cleared
  · cases cleared
    exact legible

theorem IsLegible.fill (legible : IsLegible files.root) (legiblePath : IsLegiblePath path)
    (free : isFree files path = true) (legibleTree : IsLegible tree)
    (filled : fill files path tree = (after, .ok ())) : IsLegible after.root := by
  rw [Documents.fill] at filled
  split at filled
  · rename_i place located
    cases filled
    exact legible.set_of_at? (at?_of_isFree free located) legibleTree
  · split at filled
    · cases filled
    · rename_i around madeAround
      have legibleAround : IsLegible around.root := by
        exact legible.makeFolders legiblePath.splitEntry madeAround
      split at filled
      · cases filled
      · rename_i made makes
        have legibleMade := legibleAround.makeFolder legiblePath makes
        split at filled
        · cases filled
        · rename_i place located
          cases filled
          exact legibleMade.set_of_at? (FileSystem.at?_of_makeFolder makes located) legibleTree

theorem IsLegible.latestCommit? {cloning : Cloning} {url : String} {commit : FileTree}
    (legible : IsLegible files.root) (latest : latestCommit? files cloning url = some commit) :
    IsLegible (.repository commit) := by
  rcases List.exists_of_findSome?_eq_some latest with ⟨suffix, _, found⟩
  split at found
  · rename_i foundRepository
    cases found
    rcases FileSystem.exists_place_of_find foundRepository with ⟨place, _, there⟩
    exact (legible.of_at? there).1
  · contradiction

theorem IsLegible.runClone {cloning : Cloning} {url : String} (legible : IsLegible files.root)
    (legiblePath : IsLegiblePath path)
    (cloned : runClone files cloning url path = (after, .ok ())) : IsLegible after.root := by
  rw [Documents.runClone] at cloned
  split at cloned
  · cases cloned
  · split at cloned
    · cases cloned
    · split at cloned
      · cases cloned
      · split at cloned
        · cases cloned
        · rename_i commit latest
          split at cloned
          · rename_i free
            exact legible.fill legiblePath free (legible.latestCommit? latest).workingCopy cloned
          · cases cloned

/-- Names stay text when a repository is cloned. -/
theorem IsLegible.clone {cloning : Cloning} {url : String} (legible : IsLegible files.root)
    (legiblePath : IsLegiblePath path)
    (cloned : clone files cloning url path = (after, .ok ())) : IsLegible after.root := by
  rw [Documents.clone] at cloned
  split at cloned
  · cases cloned
  · rename_i cleared clears
    have legibleFolder : IsLegiblePath (path.parent?.getD ⟨[]⟩) := by
      rcases parent : path.parent? with _ | folder
      · intro segment member
        rw [List.mem_singleton.mp member]
        exact Utf8.isText_nil
      · exact legiblePath.parent parent
    simp only at cloned
    split at cloned
    · cases cloned
    · rename_i made makes
      split at cloned
      · cases cloned
      · rename_i final ran
        cases cloned
        exact ((legible.clearAway clears).makeFolders legibleFolder makes).runClone legiblePath ran

end Changes

end DocIndex.Documents
