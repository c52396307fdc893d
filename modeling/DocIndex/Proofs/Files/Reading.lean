import DocIndex.Proofs.Files.Below
import DocIndex.Proofs.Files.Relative

/-!
# Finding the files below a folder

In a tree as it is stored no name is too long or has the byte 0. So a file below a folder is found
by the path along the names of entries, unless this path is too long.
-/

namespace DocIndex.Files

/-- A name under which something can be stored in a folder. -/
structure IsStorableName (name : Name) : Prop where
  short : name.length ≤ longestName
  whole : 0 ∉ name

instance (name : Name) : Decidable (IsStorableName name) :=
  decidable_of_iff (name.length ≤ longestName ∧ 0 ∉ name)
    ⟨fun ⟨short, whole⟩ => ⟨short, whole⟩, fun ⟨short, whole⟩ => ⟨short, whole⟩⟩

namespace FileTree

variable {tree found : FileTree} {names : List Name} {entries : List (Name × FileTree)}

/-- A tree in which all names can be stored. -/
def IsStorable (tree : FileTree) : Prop :=
  ∀ names found, tree.at? names = some found → ∀ name ∈ names, IsStorableName name

theorem IsStorable.of_at? (storable : tree.IsStorable) (reached : tree.at? names = some found) :
    found.IsStorable := by
  intro later inner reachedOn name member
  have whole : tree.at? (names ++ later) = some inner := by
    rw [at?_append, reached, Option.bind_some, reachedOn]
  exact storable _ inner whole name (List.mem_append_right names member)

theorem isStorable_of_entries (closed : tree.entries = []) : tree.IsStorable := by
  intro names found reached name member
  rcases names with _ | ⟨first, later⟩
  · contradiction
  · rw [at?, child?, closed] at reached
    contradiction

theorem isStorable_file (bytes : List UInt8) : (file bytes).IsStorable := isStorable_of_entries rfl

theorem isStorable_emptyFolder : emptyFolder.IsStorable := isStorable_of_entries rfl

/-- A folder with one more entry whose name can be stored. -/
theorem IsStorable.cons {name : Name} (storable : tree.IsStorable) (named : IsStorableName name)
    (rest : (folder entries).IsStorable) : (folder ((name, tree) :: entries)).IsStorable := by
  intro names found reached
  rcases names with _ | ⟨first, later⟩
  · exact fun _ member => absurd member List.not_mem_nil
  · rw [at?, child?, FileTree.entries, List.lookup_cons] at reached
    rcases same : first == name with _ | _
    · rw [same] at reached
      exact rest (first :: later) found reached
    · rw [same] at reached
      rw [eq_of_beq same]
      exact List.forall_mem_cons.mpr ⟨named, storable later found reached⟩

theorem IsProper.isPlain_of_at? (proper : tree.IsProper) (reached : tree.at? names = some found) :
    ∀ name ∈ names, IsPlain name := by
  induction names generalizing tree with
  | nil => exact fun _ member => absurd member List.not_mem_nil
  | cons name later ih =>
      rcases Option.bind_eq_some_iff.mp reached with ⟨child, isChild, reachedOn⟩
      cases proper with
      | file | link | repository => contradiction
      | folder distinct plain inner =>
          have member := mem_of_lookup isChild
          exact List.forall_mem_cons.mpr ⟨plain _ member, ih (inner _ member) reachedOn⟩

theorem isFolder_of_child? {name : Name} {child : FileTree}
    (isChild : tree.child? name = some child) : tree.isFolder = true := by
  cases tree with
  | folder entries => rfl
  | repository commit => rfl
  | file bytes => contradiction
  | link target => contradiction

theorem descend?_of_at? (reached : tree.at? names = some found)
    (plain : ∀ name ∈ names, IsPlain name) (storable : ∀ name ∈ names, IsStorableName name) :
    tree.descend? names = some found := by
  induction names generalizing tree with
  | nil => exact reached
  | cons name later ih =>
      rw [List.forall_mem_cons] at plain storable
      rcases Option.bind_eq_some_iff.mp reached with ⟨child, isChild, reachedOn⟩
      rw [descend?, isFolder_of_child? isChild, plain.1.solid, isChild,
        if_neg (Nat.not_lt.mpr storable.1.short)]
      exact ih reachedOn plain.2 storable.2

end FileTree

namespace Path

variable {names : List Name}

theorem isAbsolute_joinSegments (some_names : names ≠ []) (plain : ∀ name ∈ names, IsPlain name) :
    (⟨joinSegments names⟩ : Path).isAbsolute = false := by
  have segments := segmentsOf_join_names some_names plain
  rcases List.exists_cons_of_ne_nil some_names with ⟨first, later, rfl⟩
  rw [Bool.eq_false_iff]
  intro absolute
  exact (plain first List.mem_cons_self).ne_nil ((isAbsolute_iff segments).mp absolute).1

theorem zero_mem_of_mem_opening {base : Path} (member : 0 ∈ base.opening) : 0 ∈ base.bytes := by
  rw [opening] at member
  split at member
  · exact member
  · simpa [slash] using member

end Path

theorem zero_not_mem_joinSegments {names : List Name} (whole : ∀ name ∈ names, 0 ∉ name) :
    0 ∉ joinSegments names := by
  induction names with
  | nil => exact List.not_mem_nil
  | cons name later ih =>
      rw [List.forall_mem_cons] at whole
      by_cases last : later = []
      · rw [last]
        exact whole.1
      · rw [joinSegments_cons last, List.mem_append, List.mem_cons, not_or, not_or]
        exact ⟨whole.1, by decide, ih whole.2⟩

namespace FileSystem

variable {files : FileSystem} {root : Path} {docs : FileTree} {names : List Name}
  {bytes : List UInt8}

/-- A file below a folder is found along plain names, unless their path is too long. -/
theorem find_below (found : files.find true root = .ok docs) (some_names : names ≠ [])
    (plain : ∀ name ∈ names, IsPlain name) (storable : ∀ name ∈ names, IsStorableName name)
    (reached : docs.at? names = some (.file bytes)) :
    files.find true (root.below names) =
      if longestPath < (root.below names).bytes.length then .error .nameTooLong
      else .ok (.file bytes) := by
  rcases exists_place_of_find found with ⟨place, located, there⟩
  rcases locate_eq_ok_iff.mp located with ⟨⟨zero, some_bytes, _⟩, _⟩
  have segments : segmentsOf (joinSegments names) = names :=
    Path.segmentsOf_join_names some_names plain
  have relative : (⟨joinSegments names⟩ : Path).isAbsolute = false :=
    Path.isAbsolute_joinSegments some_names plain
  have below_eq : root.below names = root.join ⟨joinSegments names⟩ := by
    rw [Path.join_eq relative]
    exact congrArg Path.mk (Path.bytes_below some_names plain root)
  have absent : 0 ∉ (root.join ⟨joinSegments names⟩).bytes := by
    rw [Path.join_eq relative, List.mem_append, not_or]
    exact ⟨mt Path.zero_mem_of_mem_opening zero,
      zero_not_mem_joinSegments fun name member => (storable name member).whole⟩
  rw [← Path.orHere_of_ne_nil some_bytes] at located
  rcases exists_locate_join located relative (Path.bytes_join_ne_nil some_bytes relative) with
    ⟨left, locate_eq⟩
  -- No link stands on the way and no folder is left, so the walk finds what the tree has there.
  have noLink := FileTree.noLinkOn_of_at? reached (by simp)
  have inside : parentName ∉ names := fun member => (plain _ member).down rfl
  have void : names.filter (! isVoid ·) = names := by
    rw [List.filter_eq_self]
    intro name member
    simp [(plain name member).solid]
  have walked := walk_inside there (by rwa [void]) inside true left
  rw [FileTree.descend?_of_at? reached plain storable] at walked
  have locatedBelow := locate_eq files (.refl files) true
  rw [if_neg (by simpa using absent), segments] at locatedBelow
  rw [below_eq]
  split
  · rename_i long
    rw [if_pos long] at locatedBelow
    rw [find, locatedBelow]
  · rename_i short
    rw [if_neg short] at locatedBelow
    rw [← locatedBelow, ← toOption_find] at walked
    rcases result : files.find true (root.join ⟨joinSegments names⟩) with fault | tree
    · rw [result] at walked
      contradiction
    · rw [result] at walked
      exact congrArg Except.ok (Option.some.inj walked)

end FileSystem

end DocIndex.Files
