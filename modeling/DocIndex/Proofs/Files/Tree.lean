import DocIndex.Files.Tree
import DocIndex.Proofs.Lookup

/-!
# Growing file trees

A tree grows when something new is put into one of its folders. Whatever could be found before is
found as before, only that a folder may have got more entries.
-/

namespace DocIndex.Files.FileTree

@[simp]
theorem at?_append (tree : FileTree) (place names : List Name) :
    tree.at? (place ++ names) = (tree.at? place).bind (·.at? names) := by
  induction place generalizing tree with
  | nil => rfl
  | cons name later ih =>
      rw [List.cons_append, at?, at?]
      rcases tree.child? name with _ | inner
      · rfl
      · exact ih inner

theorem at?_concat {tree inner : FileTree} {place : List Name} (found : tree.at? place = some inner)
    (name : Name) : tree.at? (place ++ [name]) = inner.child? name := by
  rw [at?_append, found, Option.bind_some, at?]
  rcases inner.child? name with _ | child
  · rfl
  · rfl

theorem child?_assign (name other : Name) (tree : FileTree) (entries : List (Name × FileTree)) :
    (folder (assign name (some tree) entries)).child? other =
      if other == name then some tree else (folder entries).child? other := by
  have assigned : assign name (some tree) entries =
      if (entries.lookup name).isSome then
        entries.map fun entry => if entry.1 == name then (name, tree) else entry
      else entries ++ [(name, tree)] := by
    rw [← any_key_eq]
    rfl
  rw [child?, FileTree.entries, assigned, lookup_assign]
  rfl

theorem set_inner (tree? : Option FileTree) (name : Name) {later : List Name} (deeper : later ≠ [])
    (entries : List (Name × FileTree)) :
    set tree? (name :: later) (folder entries) = folder (entries.map fun entry =>
      if entry.1 == name then (name, set tree? later entry.2) else entry) := by
  rcases List.exists_cons_of_ne_nil deeper with ⟨next, rest, rfl⟩
  rfl

theorem child?_set_inner (tree? : Option FileTree) (name other : Name) {later : List Name}
    (deeper : later ≠ []) (entries : List (Name × FileTree)) :
    (set tree? (name :: later) (folder entries)).child? other =
      if other == name then ((folder entries).child? other).map (set tree? later)
      else (folder entries).child? other := by
  rw [set_inner tree? name deeper entries, child?, FileTree.entries,
    lookup_map_entry name other (set tree? later)]
  rfl

/-- Nothing can be put into what is no folder with entries. -/
theorem set_of_ne_folder (tree? : Option FileTree) {root : FileTree}
    (closed : ∀ entries, root ≠ folder entries) {names : List Name} (deeper : names ≠ []) :
    root.set tree? names = root := by
  rcases names with _ | ⟨first, _ | ⟨next, rest⟩⟩
  · contradiction
  · cases root with
    | folder entries => exact absurd rfl (closed entries)
    | file _ => rfl
    | link _ => rfl
    | repository _ => rfl
  · cases root with
    | folder entries => exact absurd rfl (closed entries)
    | file _ => rfl
    | link _ => rfl
    | repository _ => rfl

@[simp]
theorem assign_assign (name : Name) (tree? : Option FileTree) (entries : List (Name × FileTree)) :
    assign name tree? (assign name tree? entries) = assign name tree? entries := by
  cases tree? with
  | none => simp [assign]
  | some tree =>
      by_cases named : entries.any (·.1 == name) = true
      · have stays : (entries.map fun entry =>
            if entry.1 == name then (name, tree) else entry).any (·.1 == name) = true := by
          rcases List.any_eq_true.mp named with ⟨entry, member, same⟩
          exact List.any_eq_true.mpr
            ⟨(name, tree), List.mem_map.mpr ⟨entry, member, if_pos same⟩, beq_self_eq_true name⟩
        simp only [assign, named, stays, if_true]
        exact map_entry_twice name (fun _ => tree) (fun _ => rfl) entries
      · have others : ∀ entry ∈ entries,
            (if entry.1 == name then (name, tree) else entry) = entry := by
          intro entry member
          refine if_neg fun same => named (List.any_eq_true.mpr ⟨entry, member, same⟩)
        have put : (entries ++ [(name, tree)]).any (·.1 == name) = true := by simp
        have kept : entries.map (fun entry => if entry.1 == name then (name, tree) else entry) =
            entries := (List.map_congr_left others).trans (List.map_id' entries)
        simp only [assign, named, put, if_true, Bool.false_eq_true, if_false, List.map_append, kept,
          List.map_cons, List.map_nil, beq_self_eq_true]

/-- To put the same thing at the same place again changes nothing. -/
@[simp]
theorem set_set (tree? : Option FileTree) (place : List Name) (root : FileTree) :
    (root.set tree? place).set tree? place = root.set tree? place := by
  induction place generalizing root with
  | nil => cases tree? <;> rfl
  | cons name later ih =>
      by_cases hasEntries : ∃ entries, root = folder entries
      · rcases hasEntries with ⟨entries, rfl⟩
        by_cases last : later = []
        · subst last
          rw [set, set, assign_assign]
        · rw [set_inner tree? name last, set_inner tree? name last, map_entry_twice name _ ih]
      · have closed := set_of_ne_folder tree? (not_exists.mp hasEntries)
          (List.cons_ne_nil name later)
        rw [closed, closed]

/-- To put something under a name of a folder changes that folder where it is found. -/
theorem at?_set_concat (tree? : Option FileTree) {root inner : FileTree} {place : List Name}
    (found : root.at? place = some inner) (name : Name) :
    (root.set tree? (place ++ [name])).at? place = some (inner.set tree? [name]) := by
  induction place generalizing root with
  | nil =>
      rw [at?, Option.some.injEq] at found
      rw [found]
      rfl
  | cons first later ih =>
      rw [at?] at found
      rcases Option.bind_eq_some_iff.mp found with ⟨next, isChild, foundInner⟩
      cases root with
      | folder entries =>
          rw [List.cons_append, at?, child?_set_inner _ _ _ (by simp), beq_self_eq_true, if_pos rfl,
            isChild]
          exact ih foundInner
      | file _ => contradiction
      | link _ => contradiction
      | repository _ => contradiction

/-- Everything that is found in a tree is found in the grown tree, a folder at least as a folder. -/
def Grows (tree grown : FileTree) : Prop :=
  ∀ (place : List Name) (found : FileTree), tree.at? place = some found →
    ∃ after, grown.at? place = some after ∧
      (after = found ∨ found.isFolder = true ∧ after.isFolder = true)

theorem Grows.refl (tree : FileTree) : Grows tree tree :=
  fun _ found here => ⟨found, here, .inl rfl⟩

/-- A folder stays a folder. -/
theorem Grows.exists_folder {tree grown found : FileTree} {place : List Name}
    (grows : Grows tree grown) (there : tree.at? place = some found)
    (opened : found.isFolder = true) :
    ∃ after, grown.at? place = some after ∧ after.isFolder = true := by
  rcases grows place found there with ⟨after, thereAfter, rfl | ⟨_, openedAfter⟩⟩
  · exact ⟨after, thereAfter, opened⟩
  · exact ⟨after, thereAfter, openedAfter⟩

/-- An entry stays what it was, or a folder at least. -/
theorem Grows.exists_child {tree grown found after child : FileTree} {place : List Name}
    {name : Name} (grows : Grows tree grown) (there : tree.at? place = some found)
    (thereAfter : grown.at? place = some after) (isChild : found.child? name = some child) :
    ∃ other, after.child? name = some other ∧
      (other = child ∨ child.isFolder = true ∧ other.isFolder = true) := by
  rw [← at?_concat thereAfter]
  exact grows _ child (by rw [at?_concat there, isChild])

/-- A folder grows when its entries grow. -/
theorem Grows.of_child? {tree grown : FileTree} (folders : tree.isFolder = true)
    (stays : grown.isFolder = true)
    (children : ∀ name inner, tree.child? name = some inner →
      ∃ after, grown.child? name = some after ∧ Grows inner after) : Grows tree grown := by
  intro place found here
  rcases place with _ | ⟨name, later⟩
  · rw [at?, Option.some.injEq] at here
    subst here
    exact ⟨grown, rfl, .inr ⟨folders, stays⟩⟩
  · rw [at?] at here
    rcases Option.bind_eq_some_iff.mp here with ⟨inner, isChild, foundInner⟩
    rcases children name inner isChild with ⟨after, isAfter, grows⟩
    rcases grows later found foundInner with ⟨end_, foundEnd, same⟩
    refine ⟨end_, ?_, same⟩
    rw [at?, isAfter]
    exact foundEnd

/-- A tree grows when something is put where nothing was found. -/
theorem grows_set (tree : FileTree) {root : FileTree} {place : List Name} {name : Name}
    (new : root.at? (place ++ [name]) = none) :
    Grows root (root.set (some tree) (place ++ [name])) := by
  induction place generalizing root with
  | nil =>
      by_cases hasEntries : ∃ entries, root = folder entries
      · rcases hasEntries with ⟨entries, rfl⟩
        have absent : (folder entries).child? name = none := by
          simpa [at?] using new
        refine Grows.of_child? rfl rfl ?_
        intro other inner isChild
        refine ⟨inner, ?_, Grows.refl inner⟩
        have apart : (other == name) = false := by
          rw [beq_eq_false_iff_ne]
          rintro rfl
          rw [absent] at isChild
          contradiction
        rw [List.nil_append, set, child?_assign, apart]
        exact isChild
      · rw [set_of_ne_folder _ (not_exists.mp hasEntries) (by simp)]
        exact Grows.refl root
  | cons first later ih =>
      by_cases hasEntries : ∃ entries, root = folder entries
      · rcases hasEntries with ⟨entries, rfl⟩
        have deeper : later ++ [name] ≠ [] := by simp
        refine Grows.of_child? rfl (by rw [List.cons_append, set_inner _ _ deeper]; rfl) ?_
        intro other inner isChild
        rw [List.cons_append, child?_set_inner _ _ _ deeper]
        by_cases same : other = first
        · subst same
          rw [List.cons_append, at?, isChild, Option.bind_some] at new
          rw [beq_self_eq_true, if_pos rfl, isChild]
          exact ⟨_, rfl, ih new⟩
        · rw [beq_eq_false_iff_ne.mpr same]
          exact ⟨inner, isChild, Grows.refl inner⟩
      · rw [set_of_ne_folder _ (not_exists.mp hasEntries) (by simp)]
        exact Grows.refl root

end DocIndex.Files.FileTree
