import DocIndex.Proofs.Files.Below

/-!
# Ways that keep to a tree

A way from a tree keeps to it when it goes up no farther than to the tree itself and when no link on
it is absolute. Where such a way leads depends on the tree alone, and not on what is around it.
-/

namespace DocIndex.Files

namespace FileTree

/--
Whether the way along segments keeps to a tree, from the place `inner` in it, over at most `links`
links. A way that comes to an end early keeps to the tree.
-/
def confinesWay (tree : FileTree) (links : Nat) (inner segments : List Name) : Bool :=
  match segments with
  | [] => true
  | segment :: later =>
    match tree.at? inner with
    | none => true
    | some found =>
      if ! found.isFolder then true
      else if isVoid segment then tree.confinesWay links inner later
      else if segment == parentName then
        ! inner.isEmpty && tree.confinesWay links inner.dropLast later
      else match found.child? segment with
        | none => true
        | some (.link target) =>
          match links with
          | 0 => true
          | links + 1 =>
            ! target.isAbsolute && tree.confinesWay links inner (segmentsOf target.bytes ++ later)
        | some _ => tree.confinesWay links (inner ++ [segment]) later
termination_by (links, segments.length)

/-- A way without `..` on which no link is met keeps to the tree. -/
theorem confinesWay_of_noLinkOn {tree found : FileTree} {inner segments : List Name}
    (there : tree.at? inner = some found) (noLink : found.NoLinkOn (segments.filter (! isVoid ·)))
    (inside : parentName ∉ segments) (links : Nat) :
    tree.confinesWay links inner segments = true := by
  induction segments generalizing found inner with
  | nil => rw [confinesWay]
  | cons segment later ih =>
      rw [List.mem_cons, not_or] at inside
      rw [confinesWay, there]
      by_cases opened : found.isFolder = true
      · by_cases idle : isVoid segment = true
        · rw [List.filter_cons_of_neg (by simp [idle])] at noLink
          simpa [opened, idle] using ih there noLink inside.2
        · rw [List.filter_cons_of_pos (by simp [idle])] at noLink
          have down : segment ≠ parentName := Ne.symm inside.1
          rcases isChild : found.child? segment with _ | child
          · simp [opened, idle, down, isChild]
          · have deeper := ih (by rw [at?_concat there, isChild]) (noLink.child isChild) inside.2
            cases child with
            | link target =>
                have met : found.at? [segment] = some (.link target) := by
                  rw [at?, isChild]
                  rfl
                exact absurd met (noLink [segment] target (by simp))
            | file _ | folder _ | repository _ => simpa [opened, idle, down, isChild] using deeper
      · simp [opened]

/-- A path keeps to a tree when the way along its segments does, however many links are followed. -/
def Confines (tree : FileTree) (path : Path) : Prop :=
  ∀ links, tree.confinesWay links [] (segmentsOf path.bytes) = true

theorem confines_of_noLinkOn {tree : FileTree} {path : Path} (noLink : tree.NoLinkOn path.names)
    (inside : parentName ∉ path.names) : tree.Confines path :=
  confinesWay_of_noLinkOn rfl noLink (Path.not_mem_segmentsOf_of_names inside)

end FileTree

namespace FileSystem

variable {files after : FileSystem} {base path : Path} {place : List Name} {tree : FileTree}

/-- A way that keeps to a tree leads to the same place wherever the tree is found there. -/
theorem walk_confined {root other : FileTree} {links : Nat} {inner segments : List Name}
    (there : root.at? place = some tree) (thereOther : other.at? place = some tree)
    (kept : tree.confinesWay links inner segments = true) (follow : Bool) :
    walk root follow links (place ++ inner) segments =
        walk other follow links (place ++ inner) segments ∧
      ∀ final, walk root follow links (place ++ inner) segments = .ok final → place <+: final := by
  have at_eq (names : List Name) : root.at? (place ++ names) = tree.at? names := by
    rw [FileTree.at?_append, there, Option.bind_some]
  have at_eq_other (names : List Name) : other.at? (place ++ names) = tree.at? names := by
    rw [FileTree.at?_append, thereOther, Option.bind_some]
  -- Both walks read the tree at the same place inside it, so they branch alike at each step.
  fun_induction FileTree.confinesWay tree links inner segments with
  | case1 =>
      rw [walk, walk]
      refine ⟨rfl, ?_⟩
      rintro _ ⟨⟩
      exact List.prefix_append place _
  | case2 links inner segment later absent =>
      rw [walk, walk, at_eq, at_eq_other, absent]
      simp
  | case3 links inner segment later found reached closed =>
      rw [walk, walk, at_eq, at_eq_other, reached]
      simp [closed]
  | case4 links inner segment later found reached opened idle ih =>
      rw [walk, walk, at_eq, at_eq_other, reached]
      simpa [opened, idle] using ih kept
  | case5 links inner segment later found reached opened busy up ih =>
      rw [Bool.and_eq_true, Bool.not_eq_true', List.isEmpty_eq_false_iff] at kept
      rw [walk, walk, at_eq, at_eq_other, reached]
      simpa [opened, busy, up, List.dropLast_append_of_ne_nil kept.1] using ih kept.2
  | case6 links inner segment later found reached opened busy down absent =>
      rw [walk, walk, at_eq, at_eq_other, reached]
      by_cases long : longestName < segment.length
      · simp [opened, busy, down, long]
      · simp [opened, busy, down, long, absent]
  | case7 inner segment later found reached opened busy down target isChild =>
      rw [walk, walk, at_eq, at_eq_other, reached]
      by_cases long : longestName < segment.length
      · simp [opened, busy, down, long]
      · by_cases last : (later.isEmpty && ! follow) = true
        · simp [opened, busy, down, long, isChild, last]
        · simp [opened, busy, down, long, isChild, last]
  | case8 inner segment later found reached opened busy down target isChild links ih =>
      rw [Bool.and_eq_true, Bool.not_eq_true'] at kept
      rw [walk, walk, at_eq, at_eq_other, reached]
      by_cases long : longestName < segment.length
      · simp [opened, busy, down, long]
      · by_cases last : (later.isEmpty && ! follow) = true
        · simp [opened, busy, down, long, isChild, last]
        · simpa [opened, busy, down, long, isChild, last, kept.1] using ih kept.2
  | case9 links inner segment later found reached opened busy down child solid isChild ih =>
      have deeper := ih kept
      rw [← List.append_assoc] at deeper
      rw [walk, walk, at_eq, at_eq_other, reached]
      by_cases long : longestName < segment.length
      · simp [opened, busy, down, long]
      · simpa [opened, busy, down, long, isChild, solid] using deeper

/-- Where a path that keeps to the tree of a folder leads stays the same when files are added. -/
theorem locate_join_confined (located : files.locate true base.orHere = .ok place)
    (there : files.root.at? place = some tree) (extended : files.Extends after)
    (stays : after.root.at? place = some tree) (relative : path.isAbsolute = false)
    (some_bytes : (base.join path).bytes ≠ []) (kept : tree.Confines path) (follow : Bool) :
    after.locate follow (base.join path) = files.locate follow (base.join path) ∧
      ∀ final, files.locate follow (base.join path) = .ok final → place <+: final := by
  rcases exists_locate_join located relative some_bytes with ⟨left, locate_eq⟩
  have walked := walk_confined there stays (kept left) follow
  rw [List.append_nil] at walked
  rw [locate_eq files (.refl files), locate_eq after extended, walked.1]
  refine ⟨rfl, ?_⟩
  intro final reached
  split at reached
  · contradiction
  · split at reached
    · contradiction
    · exact walked.2 final (walked.1.trans reached)

theorem find_join_confined (located : files.locate true base.orHere = .ok place)
    (there : files.root.at? place = some tree) (extended : files.Extends after)
    (stays : after.root.at? place = some tree) (relative : path.isAbsolute = false)
    (some_bytes : (base.join path).bytes ≠ []) (kept : tree.Confines path) (follow : Bool) :
    after.find follow (base.join path) = files.find follow (base.join path) := by
  rcases locate_join_confined located there extended stays relative some_bytes kept follow with
    ⟨same, confined⟩
  rw [find, find, same]
  rcases reached : files.locate follow (base.join path) with fault | final
  · rfl
  · rcases confined final reached with ⟨inner, rfl⟩
    simp only [FileTree.at?_append, there, stays]

theorem exists_at?_of_find_confined (located : files.locate true base.orHere = .ok place)
    (there : files.root.at? place = some tree) (relative : path.isAbsolute = false)
    (kept : tree.Confines path) {follow : Bool} {found : FileTree}
    (reached : files.find follow (base.join path) = .ok found) :
    ∃ inner, tree.at? inner = some found := by
  rcases exists_place_of_find reached with ⟨final, locatedFinal, foundThere⟩
  have some_bytes := (locate_eq_ok_iff.mp locatedFinal).1.2.1
  rcases (locate_join_confined located there (.refl files) there relative some_bytes kept follow).2
    final locatedFinal with ⟨inner, rfl⟩
  rw [FileTree.at?_append, there, Option.bind_some] at foundThere
  exact ⟨inner, foundThere⟩

/-- The files that a folder has stay the same when files are added elsewhere. -/
theorem find_below_congr {root : Path} {docs : FileTree} (extended : files.Extends after)
    (found : files.find true root = .ok docs) (foundAfter : after.find true root = .ok docs)
    {names : List Name} (plain : ∀ name ∈ names, IsPlain name) {bytes : List UInt8}
    (reached : docs.at? names = some (.file bytes)) :
    after.find true (root.below names) = files.find true (root.below names) := by
  by_cases some_names : names = []
  · rw [some_names]
    exact foundAfter.trans found.symm
  · rcases exists_place_of_find found with ⟨place, located, there⟩
    rcases exists_place_of_find foundAfter with ⟨other, locatedAfter, stays⟩
    cases (extended.locate located).symm.trans locatedAfter
    have some_bytes := (locate_eq_ok_iff.mp located).1.2.1
    rw [← Path.orHere_of_ne_nil some_bytes] at located
    rcases Path.exists_join_eq_below plain some_names root with ⟨path, relative, rfl, below_eq⟩
    have inside : parentName ∉ path.names := fun member => (plain _ member).down rfl
    have kept : docs.Confines path :=
      FileTree.confines_of_noLinkOn (FileTree.noLinkOn_of_at? reached (by simp)) inside
    rw [below_eq]
    exact find_join_confined located there extended stays relative
      (Path.bytes_join_ne_nil some_bytes relative) kept true

end FileSystem

end DocIndex.Files
