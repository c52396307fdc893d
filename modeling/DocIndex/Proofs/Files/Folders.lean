import Mathlib.Data.List.DropRight
import DocIndex.Files.Change
import DocIndex.Proofs.Files.Walk

/-!
# Making folders

A path that leads somewhere leads there by way of the folder in which it names an entry. So a folder
that is there already is left alone, and where folders have been made for a path, the path leads to
a folder if it leads anywhere.
-/

namespace DocIndex.Files

namespace FileSystem

variable {files after : FileSystem} {path : Path} {place : List Name} {follow : Bool}

/-- Where a path begins. -/
def startOf (files : FileSystem) (path : Path) : List Name :=
  if path.isAbsolute then [] else files.working

/-- The bytes of a path that can be looked up at all. -/
def Proper (bytes : List UInt8) : Prop :=
  0 ∉ bytes ∧ bytes ≠ [] ∧ bytes.length ≤ longestPath

theorem locate_eq_ok_iff : files.locate follow path = .ok place ↔
    Proper path.bytes ∧
      Leads files.root follow mostLinks (files.startOf path) (segmentsOf path.bytes) place := by
  rw [locate, Proper]
  by_cases zero : 0 ∈ path.bytes
  · simp [zero]
  · by_cases empty : path.bytes = []
    · simp [empty]
    · by_cases long : longestPath < path.bytes.length
      · simp [zero, empty, long, Nat.not_le.mpr long]
      · simp only [List.contains_iff_mem, zero, List.isEmpty_iff, empty, long, if_false,
          not_false_eq_true, ne_eq, Nat.not_lt.mp long, true_and]
        exact ⟨leads_of_walk, Leads.walk_eq⟩

theorem Leads.exists_folder {root : FileTree} {links : Nat} {segment : Name}
    {later final : List Name} (leads : Leads root follow links place (segment :: later) final) :
    ∃ tree, root.at? place = some tree ∧ tree.isFolder = true := by
  cases leads with
  | stay found opened => exact ⟨_, found, opened⟩
  | leave found opened => exact ⟨_, found, opened⟩
  | enter found opened => exact ⟨_, found, opened⟩
  | halt found opened => exact ⟨_, found, opened⟩
  | jump found opened => exact ⟨_, found, opened⟩

/-- The path of the folder that the segments before the last name lead to. -/
def outerPath : List Name → Path
  | [] => ⟨selfName⟩
  | [[]] => ⟨[slash]⟩
  | outer => ⟨joinSegments outer⟩

theorem outerPath_of_ne {outer : List Name} (notHere : outer ≠ []) (notRoot : outer ≠ [[]]) :
    outerPath outer = ⟨joinSegments outer⟩ := by
  rw [outerPath]
  · exact notHere
  · exact notRoot

/-- The segments of a path are those of the folder, the name, and empty ones. -/
theorem splitEntry_cases (path : Path) :
    ((∀ segment ∈ segmentsOf path.bytes, isVoid segment = true) ∧ splitEntry path = (path, [])) ∨
      ∃ (outer : List Name) (name : Name) (empties : List Name),
        segmentsOf path.bytes = outer ++ name :: empties ∧ name ≠ [] ∧
          (∀ segment ∈ empties, isVoid segment = true) ∧
          splitEntry path = (outerPath outer, name) := by
  have whole : (segmentsOf path.bytes).rdropWhile List.isEmpty ++
      (segmentsOf path.bytes).rtakeWhile List.isEmpty = segmentsOf path.bytes :=
    List.rdropWhile_append_rtakeWhile
  have idle : ∀ segment ∈ (segmentsOf path.bytes).rtakeWhile List.isEmpty,
      isVoid segment = true := by
    intro segment member
    rw [isVoid, List.mem_rtakeWhile_imp member]
    rfl
  rcases List.eq_nil_or_concat' ((segmentsOf path.bytes).rdropWhile List.isEmpty) with
    blank | ⟨outer, name, trimmed⟩
  · left
    rw [blank, List.nil_append] at whole
    rw [List.rdropWhile] at blank
    rw [whole] at idle
    refine ⟨idle, ?_⟩
    rw [splitEntry, blank]
    rfl
  · right
    refine ⟨outer, name, (segmentsOf path.bytes).rtakeWhile List.isEmpty, ?_, ?_, idle, ?_⟩
    · rw [trimmed, List.append_assoc] at whole
      exact whole.symm
    · have last := List.rdropWhile_last_not List.isEmpty (segmentsOf path.bytes)
        (by rw [trimmed]; simp)
      simpa [trimmed] using last
    · rw [List.rdropWhile] at trimmed
      rw [splitEntry, trimmed]
      simp only [List.getLast?_append, List.getLast?_singleton, Option.some_or,
        List.dropLast_concat]
      split
      · rfl
      · rfl
      · rename_i notHere notRoot
        rw [outerPath_of_ne notHere notRoot]

theorem bytes_eq_of_segments {outer : List Name} {name : Name} {empties : List Name}
    (some_outer : outer ≠ []) (segments : segmentsOf path.bytes = outer ++ name :: empties) :
    path.bytes = joinSegments outer ++ slash :: joinSegments (name :: empties) := by
  rw [← joinSegments_append some_outer (List.cons_ne_nil name empties), ← segments,
    joinSegments_segmentsOf]

/-- The folder of a path begins where the path does, and its segments are those before the name. -/
theorem locate_outerPath {outer empties between : List Name} {name : Name}
    (proper : Proper path.bytes) (segments : segmentsOf path.bytes = outer ++ name :: empties)
    (named : name ≠ [])
    (leads : Leads files.root true mostLinks (files.startOf path) outer between)
    (folder : ∃ tree, files.root.at? between = some tree ∧ tree.isFolder = true) :
    files.locate true (outerPath outer) = .ok between := by
  rw [locate_eq_ok_iff]
  by_cases here : outer = []
  · subst here
    have relative : path.isAbsolute = false := by
      rw [← Bool.not_eq_true, Path.isAbsolute_iff segments]
      exact fun absolute => named absolute.1
    cases leads with
    | arrive =>
        rcases folder with ⟨tree, found, opened⟩
        refine ⟨⟨by decide, by decide, by decide⟩, ?_⟩
        have start : files.startOf path = files.working := by rw [startOf, relative]; rfl
        rw [start] at found ⊢
        exact .stay found opened rfl .arrive
  · by_cases atRoot : outer = [[]]
    · subst atRoot
      have absolute : path.isAbsolute = true := by
        rw [Path.isAbsolute_iff segments]
        exact ⟨rfl, List.cons_ne_nil name empties⟩
      have start : files.startOf path = [] := by rw [startOf, absolute]; rfl
      have between_eq : between = [] := by
        rw [← start]
        exact leads.eq_of_void (by simp [isVoid])
      subst between_eq
      rcases folder with ⟨tree, found, opened⟩
      exact ⟨⟨by decide, by decide, by decide⟩,
        .stay found opened rfl (.stay found opened rfl .arrive)⟩
    · have plain : ∀ segment ∈ outer, slash ∉ segment := by
        intro segment member
        apply slash_not_mem_of_mem_segmentsOf
        rw [segments]
        exact List.mem_append_left _ member
      have bytes_eq := bytes_eq_of_segments here segments
      have segments_eq := segmentsOf_joinSegments here plain
      have nonempty : joinSegments outer ≠ [] := by
        intro empty
        rw [empty] at segments_eq
        exact atRoot segments_eq.symm
      rw [outerPath_of_ne here atRoot]
      refine ⟨⟨?_, nonempty, ?_⟩, ?_⟩
      · intro zero
        apply proper.1
        rw [bytes_eq]
        exact List.mem_append_left _ zero
      · have := proper.2.2
        rw [bytes_eq, List.length_append] at this
        exact le_trans (Nat.le_add_right _ _) this
      · have sameStart : files.startOf ⟨joinSegments outer⟩ = files.startOf path := by
          rw [startOf, startOf, Path.isAbsolute, Path.isAbsolute, bytes_eq,
            List.head?_append_of_ne_nil _ nonempty]
        simp only [segments_eq, sameStart]
        exact leads

/-- What a path leads to is found from the folder in which the path names an entry. -/
theorem exists_leads_of_locate (located : files.locate true path = .ok place) :
    ∃ outer links, files.locate true (splitEntry path).1 = .ok outer ∧
      Leads files.root true links outer [(splitEntry path).2] place := by
  have found := locate_eq_ok_iff.mp located
  rcases found with ⟨proper, leads⟩
  rcases splitEntry_cases path with
    ⟨blank, split⟩ | ⟨outer, name, empties, segments, named, idle, split⟩
  · rw [split]
    have place_eq := leads.eq_of_void blank
    refine ⟨place, mostLinks, located, ?_⟩
    rcases List.exists_cons_of_ne_nil (segmentsOf_ne_nil path.bytes) with ⟨first, later, whole⟩
    rw [whole, ← place_eq] at leads
    rcases leads.exists_folder with ⟨tree, there, opened⟩
    exact .stay there opened rfl .arrive
  · rw [split]
    rw [segments] at leads
    rcases leads.exists_between (.inl rfl) with ⟨between, left, leadsOuter, leadsName⟩
    have folder := leadsName.exists_folder
    rw [← List.singleton_append] at leadsName
    rcases leadsName.exists_between (.inl rfl) with ⟨entry, rest, leadsEntry, leadsEmpties⟩
    rw [leadsEmpties.eq_of_void idle]
    exact ⟨between, left, locate_outerPath proper segments named leadsOuter folder, leadsEntry⟩

theorem refuse?_of_proper (proper : Proper path.bytes) : refuse? path = none := by
  rcases proper with ⟨zero, nonempty, short⟩
  simp [refuse?, zero, nonempty, Nat.not_lt.mpr short]

/-- Where a path leads already, no folder is made, and not because anything is missing. -/
theorem makeFolder_of_locate (located : files.locate true path = .ok place) :
    ∃ fault, files.makeFolder path = .error fault ∧ fault ≠ .notFound := by
  have proper := (locate_eq_ok_iff.mp located).1
  rcases exists_leads_of_locate located with ⟨outer, links, locatedOuter, leads⟩
  rcases leads.exists_folder with ⟨tree, found, opened⟩
  generalize split : splitEntry path = entry at locatedOuter leads
  rcases entry with ⟨folder, name⟩
  rw [makeFolder, refuse?_of_proper proper, split]
  simp only [locatedOuter, found, opened, Bool.not_true, Bool.false_eq_true, if_false]
  cases leads with
  | stay _ _ idle => exact ⟨.present, by simp [idle], by simp⟩
  | leave => exact ⟨.present, by simp [parentName], by simp⟩
  | enter foundAgain _ named isChild =>
      cases found.symm.trans foundAgain
      exact ⟨.present, by simp [named.1, named.2.1, Nat.not_lt.mpr named.2.2, isChild], by simp⟩
  | jump foundAgain _ named isChild =>
      cases found.symm.trans foundAgain
      exact ⟨.present, by simp [named.1, named.2.1, Nat.not_lt.mpr named.2.2, isChild], by simp⟩
  | halt _ _ _ _ kept => contradiction

theorem exists_locate_of_isFolder (isFolder : files.isFolder path = true) :
    ∃ place tree, files.locate true path = .ok place ∧ files.root.at? place = some tree ∧
      tree.isFolder = true := by
  rw [FileSystem.isFolder, find] at isFolder
  rcases located : files.locate true path with fault | place
  · rw [located] at isFolder
    contradiction
  · rw [located] at isFolder
    rcases found : files.root.at? place with _ | tree
    · simp only [found] at isFolder
      contradiction
    · simp only [found] at isFolder
      exact ⟨place, tree, rfl, found, isFolder⟩

theorem isFolder_of_locate {tree : FileTree} (located : files.locate true path = .ok place)
    (found : files.root.at? place = some tree) (opened : tree.isFolder = true) :
    files.isFolder path = true := by
  rw [FileSystem.isFolder, find, located]
  simp only [found]
  exact opened

/-- A folder that is there already is left alone. -/
theorem makeFolders_of_isFolder (isFolder : files.isFolder path = true) :
    files.makeFolders path = .ok files := by
  rcases exists_locate_of_isFolder isFolder with ⟨place, tree, located, _, _⟩
  have nonempty := (locate_eq_ok_iff.mp located).1.2.1
  rcases makeFolder_of_locate located with ⟨fault, fails, other⟩
  rw [makeFolders, makeFoldersWithin, if_neg (by simpa using nonempty), fails]
  cases fault with
  | notFound => contradiction
  | _ => exact if_pos isFolder

theorem proper_of_makeFolder (made : files.makeFolder path = .ok after) : Proper path.bytes := by
  rw [makeFolder, refuse?] at made
  by_cases zero : 0 ∈ path.bytes
  · simp [zero] at made
  · by_cases empty : path.bytes = []
    · simp [empty] at made
    · by_cases long : longestPath < path.bytes.length
      · simp [zero, empty, long] at made
      · exact ⟨zero, empty, Nat.not_lt.mp long⟩

/-- A folder is made in a folder that has no entry of the name. -/
theorem exists_outer_of_makeFolder (made : files.makeFolder path = .ok after) :
    ∃ outer tree, files.locate true (splitEntry path).1 = .ok outer ∧
      files.root.at? outer = some tree ∧ tree.isFolder = true ∧
      (isVoid (splitEntry path).2 = false ∧ (splitEntry path).2 ≠ parentName ∧
        (splitEntry path).2.length ≤ longestName) ∧
      tree.child? (splitEntry path).2 = none ∧
      after = files.set (outer ++ [(splitEntry path).2]) (some .emptyFolder) := by
  generalize split : splitEntry path = entry
  rcases entry with ⟨folder, name⟩
  rw [makeFolder, split] at made
  split at made
  · contradiction
  · simp only at made
    split at made
    · contradiction
    · rename_i outer located
      split at made
      · contradiction
      · rename_i tree found
        by_cases opened : tree.isFolder = true
        · by_cases named : isVoid name || name == parentName
          · simp [opened, named] at made
          · by_cases long : longestName < name.length
            · simp [opened, named, long] at made
            · by_cases taken : (tree.child? name).isSome = true
              · simp [opened, named, long, taken] at made
              · simp only [opened, named, long, taken, Bool.not_true, Bool.false_eq_true, if_false,
                  Except.ok.injEq] at made
                rw [Bool.not_eq_true, Bool.or_eq_false_iff] at named
                exact ⟨outer, tree, located, found, opened,
                  ⟨named.1, beq_eq_false_iff_ne.mp named.2, Nat.not_lt.mp long⟩,
                  Option.not_isSome_iff_eq_none.mp taken, made.symm⟩
        · simp [opened] at made

theorem locate_of_grows {root : FileTree} (located : files.locate follow path = .ok place)
    (grows : files.root.Grows root) : { files with root }.locate follow path = .ok place := by
  rcases locate_eq_ok_iff.mp located with ⟨proper, leads⟩
  exact locate_eq_ok_iff.mpr ⟨proper, leads.grows grows⟩

theorem eq_of_child?_set {tree made child : FileTree} {name : Name}
    (new : tree.child? name = none)
    (isChild : (tree.set (some made) [name]).child? name = some child) : child = made := by
  cases tree with
  | folder entries =>
      rw [FileTree.set, FileTree.child?_assign, beq_self_eq_true, if_pos rfl,
        Option.some.injEq] at isChild
      exact isChild.symm
  | file _ => contradiction
  | link _ => contradiction
  | repository _ => contradiction

/-- A folder that has been made is where its path leads to, if the path leads anywhere. -/
theorem at?_of_makeFolder (made : files.makeFolder path = .ok after)
    (located : after.locate true path = .ok place) :
    after.root.at? place = some .emptyFolder := by
  rcases exists_outer_of_makeFolder made with
    ⟨outer, tree, locatedOuter, found, opened, ⟨solid, down, short⟩, new, rfl⟩
  rcases exists_leads_of_locate located with ⟨again, links, locatedAgain, leads⟩
  have absent : files.root.at? (outer ++ [(splitEntry path).2]) = none := by
    rw [FileTree.at?_concat found, new]
  have same : outer = again := by
    have stays := locate_of_grows locatedOuter (FileTree.grows_set .emptyFolder absent)
    exact Except.ok.inj (stays.symm.trans locatedAgain)
  subst same
  have changed := FileTree.at?_set_concat (some .emptyFolder) found (splitEntry path).2
  generalize (splitEntry path).2 = name at *
  cases leads with
  | stay _ _ idle =>
      rw [solid] at idle
      contradiction
  | leave => contradiction
  | enter foundAgain _ _ isChild _ rest =>
      cases foundAgain.symm.trans changed
      have child_eq := eq_of_child?_set new isChild
      cases rest with
      | arrive =>
          rw [child_eq] at isChild
          have there := FileTree.at?_concat foundAgain name
          exact there.trans isChild
  | halt _ _ _ _ kept => contradiction
  | jump foundAgain _ _ isChild =>
      cases foundAgain.symm.trans changed
      have child_eq := eq_of_child?_set new isChild
      contradiction

theorem isFolder_of_makeFolder (made : files.makeFolder path = .ok after)
    (located : after.locate true path = .ok place) : after.isFolder path = true :=
  isFolder_of_locate located (at?_of_makeFolder made located) rfl

/-- How the making of folders ends: with the folder of the path made, or found there. -/
theorem makeFolders_cases (made : files.makeFolders path = .ok after) :
    path.bytes = [] ∧ after = files ∨ after.isFolder path = true ∨
      ∃ before : FileSystem, before.makeFolder path = .ok after := by
  by_cases empty : path.bytes = []
  · rw [makeFolders, makeFoldersWithin.eq_def, if_pos (by simpa using empty)] at made
    exact .inl ⟨empty, (Except.ok.inj made).symm⟩
  · right
    rw [makeFolders, makeFoldersWithin.eq_def, if_neg (by simpa using empty)] at made
    have settled {files : FileSystem} {fault : Fault}
        (settles : (if files.isFolder path then Except.ok files else .error fault) = .ok after) :
        after.isFolder path = true := by
      split at settles
      · rename_i isFolder
        cases settles
        exact isFolder
      · contradiction
    simp only at made
    split at made
    · rename_i first
      cases made
      exact .inr ⟨files, first⟩
    · split at made
      · split at made
        · contradiction
        · rename_i between _
          split at made
          · rename_i second
            cases made
            exact .inr ⟨between, second⟩
          · exact .inl (settled made)
      · contradiction
    · exact .inl (settled made)

/-- Where folders have been made for a path, it leads to a folder if it leads anywhere. -/
theorem isFolder_of_makeFolders (made : files.makeFolders path = .ok after)
    (located : after.locate true path = .ok place) : after.isFolder path = true := by
  rcases makeFolders_cases made with ⟨empty, _⟩ | isFolder | ⟨before, last⟩
  · exact absurd empty (locate_eq_ok_iff.mp located).1.2.1
  · exact isFolder
  · exact isFolder_of_makeFolder last located

end FileSystem

end DocIndex.Files
