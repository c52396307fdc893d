import DocIndex.Proofs.Files.Folders

/-!
# Changing one place

To put a tree at a place, or to take away what is there, changes nothing outside of the place: what
was found elsewhere is found as before, and the folders around the place stay folders. To make
folders only adds to what is there, and so does a tree in place of an empty folder.
-/

namespace DocIndex.Files

namespace FileTree

variable {tree other third : FileTree} {place : List Name}

/-- A tree is still what it was, but a folder may have got or lost entries. -/
def Persists (found kept : FileTree) : Prop :=
  kept = found ∨ ∃ entries others, found = folder entries ∧ kept = folder others

theorem Persists.trans {found between kept : FileTree} (first : Persists found between)
    (second : Persists between kept) : Persists found kept := by
  rcases first with rfl | ⟨entries, _, rfl, rfl⟩
  · exact second
  · rcases second with rfl | ⟨_, others, _, rfl⟩
    · exact .inr ⟨entries, _, rfl, rfl⟩
    · exact .inr ⟨entries, others, rfl, rfl⟩

/-- Everything that is found in a tree persists in the other. -/
def Keeps (tree other : FileTree) : Prop :=
  ∀ (names : List Name) (found : FileTree), tree.at? names = some found →
    ∃ kept, other.at? names = some kept ∧ Persists found kept

theorem Keeps.refl (tree : FileTree) : Keeps tree tree :=
  fun _ found there => ⟨found, there, .inl rfl⟩

theorem Keeps.trans (first : Keeps tree other) (second : Keeps other third) : Keeps tree third := by
  intro names found there
  rcases first names found there with ⟨between, thereBetween, persists⟩
  rcases second names between thereBetween with ⟨kept, thereKept, persistsOn⟩
  exact ⟨kept, thereKept, persists.trans persistsOn⟩

theorem Keeps.grows (keeps : Keeps tree other) : Grows tree other := by
  intro names found there
  rcases keeps names found there with ⟨kept, thereKept, rfl | ⟨_, _, rfl, rfl⟩⟩
  · exact ⟨kept, thereKept, .inl rfl⟩
  · exact ⟨_, thereKept, .inr ⟨rfl, rfl⟩⟩

/-- Two trees have the same outside of a place, and both have folders around it. -/
def AgreeApart (place : List Name) (tree other : FileTree) : Prop :=
  ∀ names, ¬ place <+: names → tree.at? names = other.at? names ∨
    names <+: place ∧ ∃ entries others,
      tree.at? names = some (.folder entries) ∧ other.at? names = some (.folder others)

theorem AgreeApart.refl (place : List Name) (tree : FileTree) : AgreeApart place tree tree :=
  fun _ _ => .inl rfl

theorem AgreeApart.symm (agree : AgreeApart place tree other) : AgreeApart place other tree := by
  intro names apart
  rcases agree names apart with same | ⟨around, entries, others, found, foundOther⟩
  · exact .inl same.symm
  · exact .inr ⟨around, others, entries, foundOther, found⟩

theorem AgreeApart.trans (first : AgreeApart place tree other)
    (second : AgreeApart place other third) : AgreeApart place tree third := by
  intro names apart
  rcases first names apart with same | ⟨around, entries, others, found, foundOther⟩
  · rw [same]
    exact second names apart
  · rcases second names apart with same | ⟨_, _, thirds, _, foundThird⟩
    · exact .inr ⟨around, entries, others, found, same.symm.trans foundOther⟩
    · exact .inr ⟨around, entries, thirds, found, foundThird⟩

theorem AgreeApart.around {outer : List Name} (agree : AgreeApart place tree other)
    (isPrefix : outer <+: place) : AgreeApart outer tree other := by
  intro names apart
  rcases agree names fun inside => apart (isPrefix.trans inside) with same | ⟨around, folders⟩
  · exact .inl same
  · rcases List.prefix_or_prefix_of_prefix around isPrefix with shorter | longer
    · exact .inr ⟨shorter, folders⟩
    · exact absurd longer apart

theorem AgreeApart.exists_persists (agree : AgreeApart place tree other) {names : List Name}
    {found : FileTree} (apart : ¬ place <+: names) (there : tree.at? names = some found) :
    ∃ kept, other.at? names = some kept ∧ Persists found kept := by
  rcases agree names apart with same | ⟨_, entries, others, foundEntries, foundOther⟩
  · exact ⟨found, same.symm.trans there, .inl rfl⟩
  · rw [there, Option.some.injEq] at foundEntries
    exact ⟨_, foundOther, .inr ⟨entries, others, foundEntries, rfl⟩⟩

/-- Everything persists when an empty folder, or nothing, gives way to a folder with entries. -/
theorem AgreeApart.keeps (agree : AgreeApart place tree other)
    (bare : ∀ found, tree.at? place = some found →
      found = emptyFolder ∧ ∃ entries, other.at? place = some (.folder entries)) :
    Keeps tree other := by
  intro names found there
  by_cases inside : place <+: names
  · rcases inside with ⟨later, rfl⟩
    rw [at?_append] at there
    rcases Option.bind_eq_some_iff.mp there with ⟨folder, foundFolder, foundLater⟩
    rcases bare folder foundFolder with ⟨rfl, entries, foundEntries⟩
    rcases later with _ | ⟨name, later⟩
    · rw [List.append_nil]
      rw [at?, Option.some.injEq] at foundLater
      exact ⟨_, foundEntries, .inr ⟨[], entries, foundLater.symm, rfl⟩⟩
    · contradiction
  · exact agree.exists_persists inside there

/-- A tree grows when an empty folder, or nothing, gives way to a folder. -/
theorem AgreeApart.grows (agree : AgreeApart place tree other)
    (bare : ∀ found, tree.at? place = some found →
      found = emptyFolder ∧ ∃ after, other.at? place = some after ∧ after.isFolder = true) :
    Grows tree other := by
  intro names found there
  by_cases inside : place <+: names
  · rcases inside with ⟨later, rfl⟩
    rw [at?_append] at there
    rcases Option.bind_eq_some_iff.mp there with ⟨folder, foundFolder, foundLater⟩
    rcases bare folder foundFolder with ⟨rfl, after, foundAfter, opened⟩
    rcases later with _ | ⟨name, later⟩
    · rw [List.append_nil]
      rw [at?, Option.some.injEq] at foundLater
      exact ⟨after, foundAfter, .inr ⟨foundLater ▸ rfl, opened⟩⟩
    · contradiction
  · rcases agree.exists_persists inside there with ⟨kept, thereKept, rfl | ⟨_, _, rfl, rfl⟩⟩
    · exact ⟨kept, thereKept, .inl rfl⟩
    · exact ⟨_, thereKept, .inr ⟨rfl, rfl⟩⟩

@[simp]
theorem child?_set_ne (tree? : Option FileTree) {name other : Name} (apart : other ≠ name)
    (entries : List (Name × FileTree)) :
    ((folder entries).set tree? [name]).child? other = (folder entries).child? other := by
  have different : (other == name) = false := beq_eq_false_iff_ne.mpr apart
  cases tree? with
  | none => rw [set, child?, FileTree.entries, assign, lookup_filter_ne, different]; rfl
  | some tree => rw [set, child?_assign, different]; rfl

@[simp]
theorem child?_set_self (tree? : Option FileTree) (name : Name)
    (entries : List (Name × FileTree)) :
    ((folder entries).set tree? [name]).child? name = tree? := by
  cases tree? with
  | none => rw [set, child?, FileTree.entries, assign, lookup_filter_ne, beq_self_eq_true]; rfl
  | some tree => rw [set, child?_assign, beq_self_eq_true]; rfl

/-- To change one place leaves everything outside of it as it was. -/
theorem agreeApart_set (tree? : Option FileTree) (place : List Name) (root : FileTree) :
    AgreeApart place root (root.set tree? place) := by
  induction place generalizing root with
  | nil => exact fun names apart => absurd (List.nil_prefix) apart
  | cons name later ih =>
      -- Below anything but a folder nothing can be put, and the tree stays as it is.
      by_cases hasEntries : ∃ entries, root = folder entries
      · rcases hasEntries with ⟨entries, rfl⟩
        intro names apart
        rcases names with _ | ⟨first, names⟩
        · refine .inr ⟨List.nil_prefix, entries, ?_⟩
          rcases later with _ | ⟨next, later⟩
          · exact ⟨_, rfl, rfl⟩
          · exact ⟨_, rfl, rfl⟩
        · by_cases same : first = name
          · subst same
            have deeper : later ≠ [] := by
              rintro rfl
              exact apart (List.cons_prefix_cons.mpr ⟨rfl, List.nil_prefix⟩)
            rw [at?, at?, child?_set_inner _ _ _ deeper, beq_self_eq_true, if_pos rfl]
            rcases (folder entries).child? first with _ | inner
            · exact .inl rfl
            · have apartLater : ¬ later <+: names := fun inside =>
                apart (List.cons_prefix_cons.mpr ⟨rfl, inside⟩)
              rcases ih inner names apartLater with found | ⟨around, folders⟩
              · exact .inl found
              · exact .inr ⟨List.cons_prefix_cons.mpr ⟨rfl, around⟩, folders⟩
          · left
            rw [at?, at?]
            rcases later with _ | ⟨next, later⟩
            · rw [child?_set_ne _ same]
            · rw [child?_set_inner _ _ _ (List.cons_ne_nil next later),
                beq_eq_false_iff_ne.mpr same]
              rfl
      · rw [set_of_ne_folder _ (not_exists.mp hasEntries) (List.cons_ne_nil name later)]
        exact .refl _ root

theorem at?_set (tree? : Option FileTree) {root : FileTree} {outer : List Name}
    {entries : List (Name × FileTree)} (found : root.at? outer = some (folder entries))
    (name : Name) (later : List Name) :
    (root.set tree? (outer ++ [name])).at? (outer ++ name :: later) =
      tree?.bind (·.at? later) := by
  rw [at?_append, at?_set_concat tree? found name, Option.bind_some, at?, child?_set_self]

theorem exists_folder_of_at?_concat {root inner : FileTree} {outer : List Name} {name : Name}
    (found : root.at? (outer ++ [name]) = some inner) :
    ∃ entries, root.at? outer = some (folder entries) := by
  rw [at?_append] at found
  rcases Option.bind_eq_some_iff.mp found with ⟨tree, foundTree, isChild⟩
  cases tree with
  | folder entries => exact ⟨entries, foundTree⟩
  | file _ => contradiction
  | link _ => contradiction
  | repository _ => contradiction

theorem at?_set_self (tree : FileTree) {root inner : FileTree}
    (found : root.at? place = some inner) : (root.set (some tree) place).at? place = some tree := by
  rcases List.eq_nil_or_concat' place with rfl | ⟨outer, name, rfl⟩
  · rfl
  · rcases exists_folder_of_at?_concat found with ⟨entries, foundOuter⟩
    exact at?_set (some tree) foundOuter name []

end FileTree

namespace FileSystem

variable {files after later : FileSystem} {path : Path} {place : List Name} {follow : Bool}

/-- Whatever could be found before persists. -/
structure Extends (files after : FileSystem) : Prop where
  working : after.working = files.working
  keeps : files.root.Keeps after.root

theorem Extends.refl (files : FileSystem) : Extends files files := ⟨rfl, .refl files.root⟩

theorem Extends.trans (first : Extends files after) (second : Extends after later) :
    Extends files later :=
  ⟨second.working.trans first.working, first.keeps.trans second.keeps⟩

theorem Extends.locate (extended : Extends files after)
    (located : files.locate follow path = .ok place) : after.locate follow path = .ok place := by
  have located := locate_of_grows located extended.keeps.grows
  rw [← extended.working] at located
  exact located

/-- Two file systems have the same outside of a place, and the same working folder. -/
structure AgreeApart (place : List Name) (files after : FileSystem) : Prop where
  working : after.working = files.working
  trees : files.root.AgreeApart place after.root

theorem AgreeApart.refl (place : List Name) (files : FileSystem) : AgreeApart place files files :=
  ⟨rfl, .refl place files.root⟩

theorem AgreeApart.symm (agree : AgreeApart place files after) : AgreeApart place after files :=
  ⟨agree.working.symm, agree.trees.symm⟩

theorem AgreeApart.trans (first : AgreeApart place files after)
    (second : AgreeApart place after later) : AgreeApart place files later :=
  ⟨second.working.trans first.working, first.trees.trans second.trees⟩

theorem AgreeApart.around {outer : List Name} (agree : AgreeApart place files after)
    (isPrefix : outer <+: place) : AgreeApart outer files after :=
  ⟨agree.working, agree.trees.around isPrefix⟩

theorem agreeApart_set (tree? : Option FileTree) (place : List Name) (files : FileSystem) :
    AgreeApart place files (files.set place tree?) :=
  ⟨rfl, FileTree.agreeApart_set tree? place files.root⟩

/-- Nothing is lost when an empty folder, or nothing, gives way to a folder with entries. -/
theorem AgreeApart.extends_of_bare (agree : AgreeApart place files after)
    (bare : ∀ found, files.root.at? place = some found →
      found = .emptyFolder ∧ ∃ entries, after.root.at? place = some (.folder entries)) :
    Extends files after :=
  ⟨agree.working, agree.trees.keeps bare⟩

/-- To put a folder where nothing is, or an empty folder, only adds to what is there. -/
theorem extends_set (entries : List (Name × FileTree))
    (free : ∀ found, files.root.at? place = some found → found = .emptyFolder) :
    Extends files (files.set place (some (.folder entries))) := by
  apply (agreeApart_set _ place files).extends_of_bare
  intro found there
  exact ⟨free found there, entries, FileTree.at?_set_self _ there⟩

theorem extends_of_makeFolder (made : files.makeFolder path = .ok after) :
    Extends files after := by
  rcases exists_outer_of_makeFolder made with ⟨outer, tree, _, found, _, _, new, rfl⟩
  apply extends_set
  intro other there
  rw [FileTree.at?_concat found, new] at there
  contradiction

/-- Where a folder is there already, the files stay as they are. -/
theorem eq_of_settled {fault : Fault}
    (settled : (if files.isFolder path then Except.ok files else .error fault) = .ok after) :
    after = files := by
  split at settled
  · exact (Except.ok.inj settled).symm
  · contradiction

/-- What the making of each folder keeps is kept when a folder and those around it are made. -/
theorem of_makeFolders {holds : FileSystem → Prop} {wanted : Path → Prop}
    (around : ∀ path folder, wanted path → path.parent? = some folder → wanted folder)
    (step : ∀ path before after, wanted path → holds before →
      before.makeFolder path = .ok after → holds after)
    (isWanted : wanted path) (first : holds files)
    (made : files.makeFolders path = .ok after) : holds after := by
  rw [makeFolders] at made
  generalize path.bytes.length = depth at made
  induction depth using Nat.strong_induction_on generalizing path after with
  | h depth ih =>
      rw [makeFoldersWithin.eq_def] at made
      split at made
      · cases made
        exact first
      · simp only at made
        split at made
        · rename_i makes
          cases made
          exact step path files _ isWanted first makes
        · rcases depth with _ | depth
          · contradiction
          · rcases parent : path.parent? with _ | folder
            · rw [parent] at made
              contradiction
            · rw [parent] at made
              simp only at made
              split at made
              · contradiction
              · rename_i outer madeOuter
                have between := ih depth (Nat.lt_succ_self depth)
                  (around path folder isWanted parent) madeOuter
                split at made
                · rename_i makes
                  cases made
                  exact step path outer _ isWanted between makes
                · rw [eq_of_settled made]
                  exact between
        · rw [eq_of_settled made]
          exact first

theorem extends_of_makeFolders (made : files.makeFolders path = .ok after) :
    Extends files after := by
  apply @of_makeFolders files after path (Extends files) fun _ => True
  · exact fun _ _ _ _ => trivial
  · exact fun _ _ _ _ extended makes => extended.trans (extends_of_makeFolder makes)
  · trivial
  · exact .refl files
  · exact made

end FileSystem

end DocIndex.Files
