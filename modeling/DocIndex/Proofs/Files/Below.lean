import DocIndex.Proofs.Files.Inside
import DocIndex.Proofs.Files.Setting

/-!
# Looking up paths below a folder

A path that is joined to a folder is looked up in two parts: first the folder is found, and then the
rest of the way goes on from there. The empty path stands for the working folder when something is
joined to it.
-/

namespace DocIndex.Files

namespace Path

/-- The path of a folder as it can be looked up by itself: the working folder is called `.`. -/
def orHere (path : Path) : Path := if path.bytes.isEmpty then ⟨selfName⟩ else path

theorem orHere_of_ne_nil {path : Path} (some_bytes : path.bytes ≠ []) : path.orHere = path := by
  rw [orHere, if_neg (by simpa using some_bytes)]

/-- The segments of the folder stand in front of those of what is joined to it. -/
theorem exists_outer (base : Path) :
    ∃ outer idle, (∀ segment ∈ idle, isVoid segment = true) ∧
      segmentsOf base.orHere.bytes = outer ++ idle ∧
      ∀ bytes, segmentsOf (base.opening ++ bytes) = outer ++ segmentsOf bytes := by
  by_cases empty : base.bytes = []
  · refine ⟨[], [selfName], by decide, ?_, ?_⟩
    · rw [orHere, empty]
      rfl
    · intro bytes
      rw [opening_of_closed (.inl empty), empty]
      rfl
  · rw [orHere_of_ne_nil empty]
    by_cases closed : base.bytes.getLast? = some slash
    · rcases List.getLast?_eq_some_iff.mp closed with ⟨before, bytes_eq⟩
      refine ⟨segmentsOf before, [[]], by decide, ?_, ?_⟩
      · rw [bytes_eq, segmentsOf_append]
        rfl
      · intro bytes
        rw [opening_of_closed (.inr closed), bytes_eq, List.append_assoc, List.singleton_append,
          segmentsOf_append]
    · refine ⟨segmentsOf base.bytes, [], by decide, (List.append_nil _).symm, ?_⟩
      intro bytes
      rw [opening_of_open empty closed, List.append_assoc, List.singleton_append,
        segmentsOf_append]

theorem isAbsolute_orHere_join {base path : Path} (relative : path.isAbsolute = false) :
    (base.join path).isAbsolute = base.orHere.isAbsolute := by
  by_cases empty : base.bytes = []
  · rw [join_eq relative, opening_of_closed (.inl empty), orHere, empty]
    exact relative
  · rcases List.exists_cons_of_ne_nil empty with ⟨byte, bytes, bytes_eq⟩
    have first : base.opening.head? = some byte := by
      rw [opening, bytes_eq]
      split <;> rfl
    rw [orHere_of_ne_nil empty, join_eq relative, isAbsolute, isAbsolute, List.head?_append, first,
      bytes_eq]
    rfl

theorem bytes_join_ne_nil {base path : Path} (some_bytes : base.bytes ≠ [])
    (relative : path.isAbsolute = false) : (base.join path).bytes ≠ [] := by
  rw [join_eq relative, opening]
  split
  · exact List.append_ne_nil_of_left_ne_nil some_bytes _
  · simp

theorem bytes_ne_nil_of_isPlain {name : Name} (plain : IsPlain name) (folder : Path) :
    (folder.entry name).bytes ≠ [] := by
  rw [entry, join_eq (isAbsolute_of_isPlain plain)]
  exact List.append_ne_nil_of_right_ne_nil _ plain.ne_nil

end Path

namespace FileSystem

variable {files : FileSystem} {base path : Path} {place final : List Name} {follow : Bool}
  {name : Name}

/-- What is found without following the last link, and is no link, is found in any case. -/
theorem find_true_of_find_false {found : FileTree} (reached : files.find false path = .ok found)
    (solid : ∀ target, found ≠ .link target) : files.find true path = .ok found := by
  rcases exists_place_of_find reached with ⟨final, located, there⟩
  rcases locate_eq_ok_iff.mp located with ⟨proper, leads⟩
  have followed : files.locate true path = .ok final := by
    refine locate_eq_ok_iff.mpr ⟨proper, leads.followed ?_⟩
    intro target met
    rw [there, Option.some.injEq] at met
    exact solid target met
  rw [find, followed]
  simp only [there]

/-- Where a path leads, something is found without following the last link. -/
theorem exists_find_false (located : files.locate true path = .ok final) :
    ∃ before, files.find false path = .ok before := by
  rcases locate_eq_ok_iff.mp located with ⟨proper, leads⟩
  rcases leads.exists_unfollowed with ⟨before, leadsBefore⟩
  rcases leadsBefore.exists_at? (segmentsOf_ne_nil path.bytes) with ⟨tree, there⟩
  refine ⟨tree, ?_⟩
  rw [find, locate_eq_ok_iff.mpr ⟨proper, leadsBefore⟩]
  simp only [there]

/-- From a folder that has been found, what is joined to its path is looked up. -/
theorem exists_locate_join (located : files.locate true base.orHere = .ok place)
    (relative : path.isAbsolute = false) (some_bytes : (base.join path).bytes ≠ []) :
    ∃ left, ∀ after, files.Extends after → ∀ follow, after.locate follow (base.join path) =
      if (base.join path).bytes.contains 0 then .error .nulByte
      else if longestPath < (base.join path).bytes.length then .error .nameTooLong
      else walk after.root follow left place (segmentsOf path.bytes) := by
  rcases base.exists_outer with ⟨outer, idle, void, segments, segmentsJoin⟩
  have leads := (locate_eq_ok_iff.mp located).2
  rw [segments] at leads
  rcases leads.exists_between (.inl rfl) with ⟨between, _, leadsOuter, leadsIdle⟩
  rw [← leadsIdle.eq_of_void void] at leadsOuter
  rcases leadsOuter.exists_walk_append (segmentsOf_ne_nil path.bytes) with ⟨left, goesOn⟩
  have joined : (base.join path).bytes = base.opening ++ path.bytes := by
    rw [Path.join_eq relative]
  refine ⟨left, fun after extended follow => ?_⟩
  rw [← goesOn after.root extended.keeps.grows follow, ← segmentsJoin, ← joined, locate, startOf,
    ← Path.isAbsolute_orHere_join relative, extended.working]
  simp [some_bytes]

/-- What is joined to the path of a folder is found by way of the folder. -/
theorem exists_base_of_locate_join (located : files.locate follow (base.join path) = .ok final)
    (relative : path.isAbsolute = false) :
    ∃ place left, files.locate true base.orHere = .ok place ∧
      Leads files.root follow left place (segmentsOf path.bytes) final := by
  rcases base.exists_outer with ⟨outer, idle, void, segments, segmentsJoin⟩
  rcases locate_eq_ok_iff.mp located with ⟨⟨zero, _, short⟩, leads⟩
  rw [Path.join_eq relative] at zero short
  rw [startOf, Path.isAbsolute_orHere_join relative, ← startOf, Path.join_eq relative,
    segmentsJoin] at leads
  rcases leads.exists_between (.inr (segmentsOf_ne_nil path.bytes)) with
    ⟨place, left, leadsOuter, leadsPath⟩
  refine ⟨place, left, locate_eq_ok_iff.mpr ⟨?_, ?_⟩, leadsPath⟩
  · by_cases empty : base.bytes = []
    · have here : base.orHere = ⟨selfName⟩ := by
        rw [Path.orHere, empty]
        rfl
      rw [here]
      exact ⟨by decide, by decide, by decide⟩
    · rw [Path.orHere_of_ne_nil empty]
      have inside : ∀ byte ∈ base.bytes, byte ∈ base.opening := by
        rw [Path.opening]
        split
        · exact fun byte member => member
        · exact fun byte member => List.mem_append_left _ member
      have length_le : base.bytes.length ≤ base.opening.length := by
        rw [Path.opening]
        split
        · exact le_rfl
        · rw [List.length_append]
          exact Nat.le_add_right _ _
      refine ⟨fun member => zero (List.mem_append_left _ (inside 0 member)), empty, ?_⟩
      rw [List.length_append] at short
      exact (length_le.trans (Nat.le_add_right _ _)).trans short
  · rcases List.exists_cons_of_ne_nil (segmentsOf_ne_nil path.bytes) with ⟨first, later, whole⟩
    rw [whole] at leadsPath
    rcases leadsPath.exists_folder with ⟨tree, there, folder⟩
    rw [segments]
    exact leadsOuter.append_void there folder void

/-- An entry of a folder, taken as it is, is in the place of the folder. -/
theorem exists_place_of_locate_entry (plain : IsPlain name)
    (located : files.locate false (base.entry name) = .ok final) :
    ∃ place, files.locate true base.orHere = .ok place ∧ final = place ++ [name] := by
  rcases exists_base_of_locate_join located (Path.isAbsolute_of_isPlain plain) with
    ⟨place, left, locatedBase, leads⟩
  refine ⟨place, locatedBase, ?_⟩
  rw [segmentsOf_of_slash_not_mem plain.single] at leads
  cases leads with
  | stay _ _ idle =>
      rw [plain.solid] at idle
      contradiction
  | leave => exact absurd rfl plain.down
  | enter _ _ _ _ _ rest =>
      cases rest
      rfl
  | halt => rfl
  | jump _ _ _ _ taken => contradiction

/-- The path of an entry is split into a path that leads to the folder, and the name. -/
theorem exists_splitEntry_entry (plain : IsPlain name) (base : Path) :
    ∃ outer, splitEntry (base.entry name) = (outerPath outer, name) ∧
      segmentsOf (base.entry name).bytes = outer ++ [name] := by
  rcases Path.endsInName_entry plain base with ⟨_, whole, segments⟩
  rcases splitEntry_cases (base.entry name) with
    ⟨blank, _⟩ | ⟨outer, last, empties, split, _, idle, entry_eq⟩
  · have void := blank name (segments ▸ List.mem_append_right _ List.mem_cons_self)
    rw [plain.solid] at void
    contradiction
  · rcases List.eq_nil_or_concat' empties with rfl | ⟨_, final, rfl⟩
    · rcases List.append_inj' (segments.symm.trans split) rfl with ⟨rfl, same⟩
      rcases List.cons.inj same with ⟨rfl, _⟩
      exact ⟨whole, entry_eq, split⟩
    · rw [segments, ← List.cons_append, ← List.append_assoc] at split
      rcases List.append_inj' split rfl with ⟨_, same⟩
      rcases List.cons.inj same with ⟨rfl, _⟩
      have void := idle name (List.mem_append_right _ List.mem_cons_self)
      rw [plain.solid] at void
      contradiction

theorem locate_splitEntry_entry {folder : FileTree} (plain : IsPlain name)
    (proper : Proper (base.entry name).bytes) (located : files.locate true base.orHere = .ok place)
    (there : files.root.at? place = some folder) (opened : folder.isFolder = true) :
    files.locate true (splitEntry (base.entry name)).1 = .ok place := by
  have relative := Path.isAbsolute_of_isPlain plain
  rcases exists_splitEntry_entry plain base with ⟨outer, split, segments⟩
  rcases base.exists_outer with ⟨others, idle, void, segmentsBase, segmentsJoin⟩
  have whole := segmentsJoin name
  have joined : (base.entry name).bytes = base.opening ++ name := by
    rw [Path.entry, Path.join_eq relative]
  rw [← joined, segments, segmentsOf_of_slash_not_mem plain.single] at whole
  rw [← List.append_inj_left' whole rfl] at segmentsBase
  have leads := (locate_eq_ok_iff.mp located).2
  rw [segmentsBase, startOf, ← Path.isAbsolute_orHere_join relative, ← startOf] at leads
  rcases leads.exists_between (.inl rfl) with ⟨between, _, leadsOuter, leadsIdle⟩
  rw [← leadsIdle.eq_of_void void] at leadsOuter
  rw [split]
  exact locate_outerPath proper segments plain.ne_nil leadsOuter ⟨folder, there, opened⟩

/-- Why the path of an entry of a folder is refused, whatever the folder holds. -/
def unfit? (path : Path) (name : Name) : Option Fault :=
  if path.bytes.contains 0 then some .nulByte
  else if longestPath < path.bytes.length then some .nameTooLong
  else if longestName < name.length then some .nameTooLong
  else none

theorem locate_entry {folder : FileTree} (plain : IsPlain name)
    (located : files.locate true base.orHere = .ok place)
    (there : files.root.at? place = some folder) (opened : folder.isFolder = true)
    (solid : ∀ target, folder.child? name ≠ some (.link target))
    (follow : Bool) :
    files.locate follow (base.entry name) =
      match unfit? (base.entry name) name with
      | some fault => .error fault
      | none =>
        match folder.child? name with
        | none => .error .notFound
        | some _ => .ok (place ++ [name]) := by
  rcases exists_locate_join located (Path.isAbsolute_of_isPlain plain)
    (Path.bytes_ne_nil_of_isPlain plain base) with ⟨left, locate_eq⟩
  rw [Path.entry, locate_eq files (.refl files), unfit?, ← Path.entry]
  by_cases zero : (base.entry name).bytes.contains 0
  · rw [if_pos zero, if_pos zero]
  · rw [if_neg zero, if_neg zero]
    by_cases long : longestPath < (base.entry name).bytes.length
    · rw [if_pos long, if_pos long]
    · rw [if_neg long, if_neg long, segmentsOf_of_slash_not_mem plain.single, walk, there]
      by_cases longName : longestName < name.length
      · simp [opened, plain.solid, plain.down, longName]
      · rcases isChild : folder.child? name with _ | child
        · simp [opened, plain.solid, plain.down, longName, isChild]
        · cases child with
          | link target => exact absurd isChild (solid target)
          | file _ => simp [opened, plain.solid, plain.down, longName, isChild, walk]
          | folder _ => simp [opened, plain.solid, plain.down, longName, isChild, walk]
          | repository _ => simp [opened, plain.solid, plain.down, longName, isChild, walk]

end FileSystem

end DocIndex.Files
