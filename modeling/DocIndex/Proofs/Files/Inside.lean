import Mathlib.Data.List.Infix
import DocIndex.Proofs.Files.Folders
import DocIndex.Proofs.Files.Joining

/-!
# Looking up paths inside a tree

A path that leads over no link and never to the folder around a folder stays inside the tree where
it begins. What it names there depends on the tree alone, and not on the file system that holds the
tree or on the path that leads to it.
-/

namespace DocIndex.Files

namespace FileTree

variable {tree found : FileTree} {segments names : List Name}

/-- What segments lead to from a tree that they do not leave. -/
def descend? (tree : FileTree) : List Name → Option FileTree
  | [] => some tree
  | segment :: later =>
    if ! tree.isFolder then none
    else if isVoid segment then tree.descend? later
    else if longestName < segment.length then none
    else (tree.child? segment).bind (·.descend? later)

/-- What a path names from a tree that it does not leave. -/
def look? (tree : FileTree) (path : Path) : Option FileTree :=
  if path.bytes.contains 0 then none else tree.descend? (segmentsOf path.bytes)

theorem at?_of_descend? (reached : tree.descend? segments = some found) :
    tree.at? (segments.filter (! isVoid ·)) = some found := by
  induction segments generalizing tree with
  | nil => exact reached
  | cons segment later ih =>
      rw [descend?] at reached
      split at reached
      · contradiction
      · split at reached
        · rename_i idle
          rw [List.filter_cons_of_neg (by simp [idle])]
          exact ih reached
        · rename_i solid
          split at reached
          · contradiction
          · rcases Option.bind_eq_some_iff.mp reached with ⟨child, isChild, reachedOn⟩
            rw [List.filter_cons_of_pos (by simp [solid]), at?, isChild]
            exact ih reachedOn

theorem at?_of_look? {path : Path} (looked : tree.look? path = some found) :
    tree.at? path.names = some found := by
  rw [look?] at looked
  split at looked
  · contradiction
  · exact at?_of_descend? looked

/-- No link stands on the way along names. -/
def NoLinkOn (tree : FileTree) (names : List Name) : Prop :=
  ∀ before target, before <+: names → tree.at? before ≠ some (.link target)

theorem NoLinkOn.child {name : Name} {child : FileTree} (noLink : tree.NoLinkOn (name :: names))
    (isChild : tree.child? name = some child) : child.NoLinkOn names := by
  intro before target isPrefix reached
  apply noLink (name :: before) target (List.cons_prefix_cons.mpr ⟨rfl, isPrefix⟩)
  rw [at?, isChild]
  exact reached

/-- No link stands on the way to what is no link. -/
theorem noLinkOn_of_at? (reached : tree.at? names = some found)
    (solid : ∀ target, found ≠ .link target) : tree.NoLinkOn names := by
  rintro before target ⟨after, rfl⟩ met
  rw [at?_append, met, Option.bind_some] at reached
  rcases after with _ | ⟨name, later⟩
  · exact solid target (Option.some.inj reached).symm
  · contradiction

/-- A tree as a file system holds it: the entries of a folder have distinct names. -/
inductive IsProper : FileTree → Prop
  | file (bytes : List UInt8) : IsProper (.file bytes)
  | link (target : Path) : IsProper (.link target)
  | repository (commit : FileTree) : IsProper (.repository commit)
  | folder {entries : List (Name × FileTree)} (distinct : (entries.map (·.1)).Nodup)
      (plain : ∀ entry ∈ entries, IsPlain entry.1) (inner : ∀ entry ∈ entries, IsProper entry.2) :
      IsProper (.folder entries)

theorem isProper_emptyFolder : emptyFolder.IsProper :=
  .folder (by simp) (by simp) (by simp)

/-- A folder with one more entry of a new name. -/
theorem IsProper.cons {name : Name} {entries : List (Name × FileTree)} (proper : tree.IsProper)
    (plain : IsPlain name) (new : name ∉ entries.map (·.1))
    (rest : (FileTree.folder entries).IsProper) :
    (FileTree.folder ((name, tree) :: entries)).IsProper := by
  cases rest with
  | folder distinct plainRest inner =>
      exact .folder (List.nodup_cons.mpr ⟨new, distinct⟩)
        (List.forall_mem_cons.mpr ⟨plain, plainRest⟩)
        (List.forall_mem_cons.mpr ⟨proper, inner⟩)

theorem IsProper.of_at? (proper : tree.IsProper) (reached : tree.at? names = some found) :
    found.IsProper := by
  induction names generalizing tree with
  | nil =>
      cases reached
      exact proper
  | cons name later ih =>
      rcases Option.bind_eq_some_iff.mp reached with ⟨child, isChild, reachedOn⟩
      cases proper with
      | file | link | repository => contradiction
      | folder distinct plain inner =>
          rcases List.lookup_eq_some_iff.mp isChild with ⟨before, after, rfl, _⟩
          exact ih (inner (name, child) (by simp)) reachedOn

end FileTree

namespace FileSystem

variable {root tree : FileTree} {links : Nat} {place before segments : List Name}

/-- Behind a way that is followed a walk goes on from its end, also when the tree grows. -/
theorem Leads.exists_walk_append {between : List Name}
    (leads : Leads root true links place before between) {after : List Name} (more : after ≠ []) :
    ∃ left, ∀ grown, root.Grows grown → ∀ follow,
      walk grown follow links place (before ++ after) = walk grown follow left between after := by
  induction leads with
  | @arrive links place => exact ⟨links, fun _ _ _ => rfl⟩
  | stay found opened idle rest ih =>
      rcases ih with ⟨left, same⟩
      refine ⟨left, fun grown grows follow => ?_⟩
      rcases grows.exists_folder found opened with ⟨kept, foundKept, openedKept⟩
      rw [List.cons_append, walk, foundKept]
      simpa [openedKept, idle] using same grown grows follow
  | leave found opened rest ih =>
      rcases ih with ⟨left, same⟩
      refine ⟨left, fun grown grows follow => ?_⟩
      rcases grows.exists_folder found opened with ⟨kept, foundKept, openedKept⟩
      rw [List.cons_append, walk, foundKept]
      simpa [openedKept, isVoid, parentName, selfName] using same grown grows follow
  | @enter links place later final segment tree child found opened named isChild solid rest ih =>
      rcases ih with ⟨left, same⟩
      refine ⟨left, fun grown grows follow => ?_⟩
      rcases grows.exists_folder found opened with ⟨kept, foundKept, openedKept⟩
      rcases grows.exists_child found foundKept isChild with ⟨other, isOther, stays⟩
      have solidOther : ∀ target, other ≠ .link target := by
        rintro target rfl
        rcases stays with rfl | ⟨_, openedOther⟩
        · exact solid target rfl
        · contradiction
      rw [List.cons_append, walk, foundKept]
      simp only [openedKept, named.1, beq_eq_false_iff_ne.mpr named.2.1, Nat.not_lt.mpr named.2.2,
        isOther, Bool.not_true, Bool.false_eq_true, if_false]
      exact same grown grows follow
  | halt found opened named isChild kept => contradiction
  | @jump links place later final segment tree target found opened named isChild taken rest ih =>
      rcases ih with ⟨left, same⟩
      refine ⟨left, fun grown grows follow => ?_⟩
      rcases grows.exists_folder found opened with ⟨kept, foundKept, openedKept⟩
      rcases grows.exists_child found foundKept isChild with ⟨other, isOther, rfl | ⟨closed, _⟩⟩
      · -- More segments come behind this link, so it is followed in any case.
        have deeper : ((later ++ after).isEmpty && ! follow) = false := by
          rw [List.isEmpty_eq_false_iff.mpr (List.append_ne_nil_of_right_ne_nil later more),
            Bool.false_and]
        rw [List.cons_append, walk, foundKept]
        simp only [openedKept, named.1, beq_eq_false_iff_ne.mpr named.2.1,
          Nat.not_lt.mpr named.2.2, isOther, deeper, Bool.not_true, Bool.false_eq_true, if_false]
        rw [← List.append_assoc]
        exact same grown grows follow
      · contradiction

/-- Where no link is met and no folder is left, a walk finds what the tree at its beginning has. -/
theorem walk_inside (found : root.at? place = some tree) (noLink : tree.NoLinkOn
      (segments.filter (! isVoid ·))) (inside : parentName ∉ segments) (follow : Bool)
    (links : Nat) :
    (walk root follow links place segments).toOption.bind root.at? = tree.descend? segments := by
  induction segments generalizing tree place with
  | nil =>
      rw [walk]
      exact found
  | cons segment later ih =>
      rw [List.mem_cons, not_or] at inside
      rw [walk, found, FileTree.descend?]
      by_cases opened : tree.isFolder = true
      · by_cases idle : isVoid segment = true
        · rw [List.filter_cons_of_neg (by simp [idle])] at noLink
          simpa [opened, idle] using ih found noLink inside.2
        · rw [List.filter_cons_of_pos (by simp [idle])] at noLink
          have down : segment ≠ parentName := Ne.symm inside.1
          by_cases long : longestName < segment.length
          · simp [opened, idle, down, long, Except.toOption]
          · rcases isChild : tree.child? segment with _ | child
            · simp [opened, idle, down, long, isChild, Except.toOption]
            · have deeper := ih (by rw [FileTree.at?_concat found, isChild]) (noLink.child isChild)
                inside.2
              cases child with
              | link target =>
                  have met : tree.at? [segment] = some (.link target) := by
                    rw [FileTree.at?, isChild]
                    rfl
                  exact absurd met (noLink [segment] target (by simp))
              | file bytes => simpa [opened, idle, down, long, isChild] using deeper
              | folder entries => simpa [opened, idle, down, long, isChild] using deeper
              | repository commit => simpa [opened, idle, down, long, isChild] using deeper
      · simp [opened, Except.toOption]

theorem toOption_find (files : FileSystem) (follow : Bool) (path : Path) :
    (files.find follow path).toOption =
      (files.locate follow path).toOption.bind files.root.at? := by
  rw [find]
  rcases files.locate follow path with fault | place
  · rfl
  · rcases reached : files.root.at? place with _ | tree
    · simp [reached, Except.toOption]
    · simp [reached, Except.toOption]

theorem exists_place_of_find {files : FileSystem} {follow : Bool} {path : Path}
    (found : files.find follow path = .ok tree) :
    ∃ place, files.locate follow path = .ok place ∧ files.root.at? place = some tree := by
  rw [find] at found
  rcases located : files.locate follow path with fault | place
  · rw [located] at found
    contradiction
  · rw [located] at found
    rcases reached : files.root.at? place with _ | other
    · simp [reached] at found
    · simp only [reached, Except.ok.injEq] at found
      exact ⟨place, rfl, found ▸ reached⟩

/--
What is found below a folder along a path without links, without `..` and not too long is what the
tree in the folder has there.
-/
theorem find_join {files : FileSystem} {checkout path : Path} {name : Name}
    (copy : files.find true checkout = .ok tree) (ends : checkout.EndsInName name)
    (relative : path.isAbsolute = false) (noLink : tree.NoLinkOn path.names)
    (inside : parentName ∉ path.names)
    (short : (checkout.join path).bytes.length ≤ longestPath) (follow : Bool) :
    (files.find follow (checkout.join path)).toOption = tree.look? path := by
  rcases exists_place_of_find copy with ⟨place, located, reached⟩
  rcases locate_eq_ok_iff.mp located with ⟨⟨zero, some_bytes, _⟩, leads⟩
  have bytes_eq := ends.bytes_join relative
  rw [toOption_find, locate, FileTree.look?]
  by_cases zeroBelow : 0 ∈ path.bytes
  · have contained : 0 ∈ (checkout.join path).bytes := by simp [bytes_eq, zeroBelow]
    simp [contained, zeroBelow, Except.toOption]
  · have absent : 0 ∉ (checkout.join path).bytes := by
      simp [bytes_eq, zero, zeroBelow, slash]
    have nonempty : (checkout.join path).bytes ≠ [] := by simp [bytes_eq]
    simp only [List.contains_iff_mem, absent, zeroBelow, List.isEmpty_iff, nonempty, if_false]
    have sameStart : (checkout.join path).isAbsolute = checkout.isAbsolute := by
      rcases List.exists_cons_of_ne_nil some_bytes with ⟨byte, bytes, first⟩
      rw [Path.isAbsolute, Path.isAbsolute, bytes_eq, first]
      rfl
    rcases leads.exists_walk_append (segmentsOf_ne_nil path.bytes) with ⟨left, goesOn⟩
    rw [startOf, ← sameStart] at goesOn
    rw [if_neg (Nat.not_lt.mpr short), ends.segmentsOf_join relative,
      goesOn files.root (.refl files.root)]
    exact walk_inside reached noLink (Path.not_mem_segmentsOf_of_names inside) follow left

end FileSystem

end DocIndex.Files
