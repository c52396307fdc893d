import DocIndex.Proofs.Files.Inside

/-!
# Making folders again

Folders that have been made are there when they are to be made again, so nothing changes any more.
Where a folder cannot be kept, the same attempt comes to the same again.
-/

namespace DocIndex.Files

namespace FileSystem

variable {files after : FileSystem} {path : Path} {place : List Name}

/-- Where the folder of a path is, the segments before the name lead. -/
theorem leads_of_locate_outerPath {outer empties : List Name} {name : Name}
    (segments : segmentsOf path.bytes = outer ++ name :: empties) (named : name ≠ [])
    (located : files.locate true (outerPath outer) = .ok place) :
    Leads files.root true mostLinks (files.startOf path) outer place := by
  have leads := (locate_eq_ok_iff.mp located).2
  by_cases here : outer = []
  · subst here
    have relative : path.isAbsolute = false := by
      rw [← Bool.not_eq_true, Path.isAbsolute_iff segments]
      exact fun absolute => named absolute.1
    have working : files.startOf path = files.working := by rw [startOf, relative]; rfl
    have place_eq : place = files.working := leads.eq_of_void (by decide)
    rw [working, place_eq]
    exact .arrive
  · by_cases atRoot : outer = [[]]
    · subst atRoot
      have absolute : path.isAbsolute = true := by
        rw [Path.isAbsolute_iff segments]
        exact ⟨rfl, List.cons_ne_nil name empties⟩
      have start : files.startOf path = [] := by rw [startOf, absolute]; rfl
      have place_eq : place = [] := leads.eq_of_void (by decide)
      rcases List.exists_cons_of_ne_nil (segmentsOf_ne_nil (outerPath [[]]).bytes) with
        ⟨first, later, whole⟩
      rw [whole] at leads
      rcases leads.exists_folder with ⟨tree, found, opened⟩
      rw [start, place_eq]
      exact .stay found opened rfl .arrive
    · have plain : ∀ segment ∈ outer, slash ∉ segment := by
        intro segment member
        apply slash_not_mem_of_mem_segmentsOf
        rw [segments]
        exact List.mem_append_left _ member
      have segments_eq := segmentsOf_joinSegments here plain
      have nonempty : joinSegments outer ≠ [] := by
        intro empty
        rw [empty] at segments_eq
        exact atRoot segments_eq.symm
      have sameStart : files.startOf ⟨joinSegments outer⟩ = files.startOf path := by
        rw [startOf, startOf, Path.isAbsolute, Path.isAbsolute, bytes_eq_of_segments here segments,
          List.head?_append_of_ne_nil _ nonempty]
      rw [outerPath_of_ne here atRoot] at leads
      simp only [segments_eq, sameStart] at leads
      exact leads

/-- What is put under the name of a path into the folder of the path is where the path leads. -/
theorem locate_of_outerPath {outer empties between : List Name} {name : Name} {tree : FileTree}
    {child : FileTree} (proper : Proper path.bytes)
    (segments : segmentsOf path.bytes = outer ++ name :: empties)
    (idle : ∀ segment ∈ empties, isVoid segment = true)
    (named : isVoid name = false ∧ name ≠ parentName ∧ name.length ≤ longestName)
    (located : files.locate true (outerPath outer) = .ok between)
    (found : files.root.at? between = some tree) (isChild : tree.child? name = some child)
    (opened : child.isFolder = true) : files.locate true path = .ok (between ++ [name]) := by
  have some_name : name ≠ [] := by
    rintro rfl
    exact absurd named.1 (by decide)
  have isFolder : tree.isFolder = true := by
    cases tree with
    | folder entries => rfl
    | file _ | link _ | repository _ => contradiction
  have leadsOuter := leads_of_locate_outerPath segments some_name located
  rcases leadsOuter.exists_walk_append (List.cons_ne_nil name empties) with ⟨left, same⟩
  have there : files.root.at? (between ++ [name]) = some child := by
    rw [FileTree.at?_concat found, isChild]
  have solid : ∀ target, child ≠ .link target := by
    rintro target rfl
    contradiction
  have leadsName : Leads files.root true left between (name :: empties) (between ++ [name]) :=
    .enter found isFolder named isChild solid (Leads.append_void .arrive there opened idle)
  refine locate_eq_ok_iff.mpr ⟨proper, ?_⟩
  rw [segments]
  apply leads_of_walk
  rw [same files.root (.refl files.root), leadsName.walk_eq]

/--
The path of a folder that has been made leads to it. Only where nothing can be kept, in the
administration of a repository, it does not, and then it can be made just so again.
-/
theorem makeFolder_again (made : files.makeFolder path = .ok after) :
    after.isFolder path = true ∨ after.makeFolder path = .ok after := by
  have proper := proper_of_makeFolder made
  rcases exists_outer_of_makeFolder made with
    ⟨outer, tree, locatedOuter, found, opened, named, new, rfl⟩
  have absent : files.root.at? (outer ++ [(splitEntry path).2]) = none := by
    rw [FileTree.at?_concat found, new]
  have stays := locate_of_grows locatedOuter (FileTree.grows_set .emptyFolder absent)
  have changed := FileTree.at?_set_concat (some .emptyFolder) found (splitEntry path).2
  cases tree with
  | file _ | link _ => contradiction
  | folder entries =>
      left
      rcases splitEntry_cases path with
        ⟨_, split⟩ | ⟨front, name, empties, segments, _, idle, split⟩
      · rw [split] at named
        exact absurd named.1 Bool.noConfusion
      · rw [split] at named stays changed ⊢
        have isChild : ((FileTree.folder entries).set (some .emptyFolder) [name]).child? name =
            some .emptyFolder := by
          rw [FileTree.set, FileTree.child?_assign, beq_self_eq_true, if_pos rfl]
        have located := locate_of_outerPath proper segments idle named stays changed isChild rfl
        have there := (FileTree.at?_concat changed name).trans isChild
        exact isFolder_of_locate located there rfl
  | repository commit =>
      right
      have closed : ∀ entries, FileTree.repository commit ≠ .folder entries :=
        fun _ => FileTree.noConfusion
      rw [FileTree.set_of_ne_folder _ closed (List.cons_ne_nil _ [])] at changed
      have shut : (isVoid (splitEntry path).2 || (splitEntry path).2 == parentName) = false := by
        rw [named.1, beq_eq_false_iff_ne.mpr named.2.1]
        rfl
      have located : (files.set (outer ++ [(splitEntry path).2]) (some .emptyFolder)).locate true
          (splitEntry path).1 = .ok outer := stays
      have there : (files.set (outer ++ [(splitEntry path).2]) (some .emptyFolder)).root.at? outer =
          some (.repository commit) := changed
      rw [makeFolder, refuse?_of_proper proper]
      simp only [located, there, opened, shut, new, Nat.not_lt.mpr named.2.2, Bool.not_true,
        Bool.false_eq_true, if_false, Option.isSome_none, Except.ok.injEq]
      rw [set, set, FileTree.set_set]

/-- Where folders have been made for a path, to make them again changes nothing. -/
theorem makeFolders_again (made : files.makeFolders path = .ok after) :
    after.makeFolders path = .ok after := by
  rcases makeFolders_cases made with ⟨empty, rfl⟩ | isFolder | ⟨before, last⟩
  · exact made
  · exact makeFolders_of_isFolder isFolder
  · rcases makeFolder_again last with isFolder | again
    · exact makeFolders_of_isFolder isFolder
    · have some_bytes := (proper_of_makeFolder again).2.1
      rw [makeFolders, makeFoldersWithin.eq_def, if_neg (by simpa using some_bytes)]
      simp only [again]

end FileSystem

end DocIndex.Files
