import DocIndex.Files.System
import DocIndex.Proofs.Files.Segments
import DocIndex.Proofs.Files.Tree

/-!
# Resolving paths

`Leads` says step by step how segments lead from one place to another. It holds exactly where a walk
along the segments succeeds, and gives by induction what walks have in common: a walk to the end of
a path passes by the end of each of its beginnings, and it stays possible when files are added.
-/

namespace DocIndex.Files.FileSystem

/-- Segments lead from a place to another, over at most the given number of links. -/
inductive Leads (root : FileTree) (follow : Bool) :
    Nat → List Name → List Name → List Name → Prop
  | arrive {links : Nat} {place : List Name} : Leads root follow links place [] place
  | stay {links : Nat} {place later final : List Name} {segment : Name} {tree : FileTree}
      (found : root.at? place = some tree) (opened : tree.isFolder = true)
      (idle : isVoid segment = true) (rest : Leads root follow links place later final) :
      Leads root follow links place (segment :: later) final
  | leave {links : Nat} {place later final : List Name} {tree : FileTree}
      (found : root.at? place = some tree) (opened : tree.isFolder = true)
      (rest : Leads root follow links place.dropLast later final) :
      Leads root follow links place (parentName :: later) final
  | enter {links : Nat} {place later final : List Name} {segment : Name} {tree child : FileTree}
      (found : root.at? place = some tree) (opened : tree.isFolder = true)
      (named : isVoid segment = false ∧ segment ≠ parentName ∧ segment.length ≤ longestName)
      (isChild : tree.child? segment = some child) (solid : ∀ target, child ≠ .link target)
      (rest : Leads root follow links (place ++ [segment]) later final) :
      Leads root follow links place (segment :: later) final
  | halt {links : Nat} {place : List Name} {segment : Name} {tree : FileTree} {target : Path}
      (found : root.at? place = some tree) (opened : tree.isFolder = true)
      (named : isVoid segment = false ∧ segment ≠ parentName ∧ segment.length ≤ longestName)
      (isChild : tree.child? segment = some (.link target)) (kept : follow = false) :
      Leads root follow links place [segment] (place ++ [segment])
  | jump {links : Nat} {place later final : List Name} {segment : Name} {tree : FileTree}
      {target : Path} (found : root.at? place = some tree) (opened : tree.isFolder = true)
      (named : isVoid segment = false ∧ segment ≠ parentName ∧ segment.length ≤ longestName)
      (isChild : tree.child? segment = some (.link target))
      (taken : (later.isEmpty && ! follow) = false)
      (rest : Leads root follow links (if target.isAbsolute then [] else place)
        (segmentsOf target.bytes ++ later) final) :
      Leads root follow (links + 1) place (segment :: later) final

variable {root : FileTree} {follow : Bool} {links : Nat} {place segments final : List Name}

theorem leads_of_walk (resolved : walk root follow links place segments = .ok final) :
    Leads root follow links place segments final := by
  fun_induction walk root follow links place segments with
  | case1 =>
      cases resolved
      exact .arrive
  | case2 | case3 | case6 | case7 | case9 => contradiction
  | case4 links place segment later tree found opened idle ih =>
      exact .stay found (by simpa using opened) idle (ih resolved)
  | case5 links place segment later tree found opened busy up ih =>
      rw [eq_of_beq up]
      exact .leave found (by simpa using opened) (ih resolved)
  | case8 links place segment later tree found opened busy down short target isChild last =>
      cases resolved
      rw [Bool.and_eq_true, List.isEmpty_iff, Bool.not_eq_true'] at last
      rcases last with ⟨rfl, kept⟩
      exact .halt found (by simpa using opened)
        ⟨by simpa using busy, by simpa using down, Nat.le_of_not_lt short⟩ isChild kept
  | case10 place segment later tree found opened busy down short target isChild taken links ih =>
      exact .jump found (by simpa using opened)
        ⟨by simpa using busy, by simpa using down, Nat.le_of_not_lt short⟩ isChild
        (by simpa using taken) (ih resolved)
  | case11 links place segment later tree found opened busy down short child solid isChild ih =>
      exact .enter found (by simpa using opened)
        ⟨by simpa using busy, by simpa using down, Nat.le_of_not_lt short⟩ isChild solid
        (ih resolved)

theorem Leads.walk_eq (leads : Leads root follow links place segments final) :
    walk root follow links place segments = .ok final := by
  induction leads with
  | arrive => rw [walk]
  | stay found opened idle rest ih =>
      rw [walk, found]
      simpa [opened, idle] using ih
  | leave found opened rest ih =>
      rw [walk, found]
      simpa [opened, isVoid, parentName, selfName] using ih
  | enter found opened named isChild solid rest ih =>
      rw [walk, found]
      simp only [opened, named.1, beq_eq_false_iff_ne.mpr named.2.1, Nat.not_lt.mpr named.2.2,
        isChild, Bool.not_true, Bool.false_eq_true, if_false]
      exact ih
  | halt found opened named isChild kept =>
      rw [walk, found]
      simp [opened, named.1, named.2.1, Nat.not_lt.mpr named.2.2, isChild, kept]
  | jump found opened named isChild taken rest ih =>
      rw [walk, found]
      simp only [opened, named.1, beq_eq_false_iff_ne.mpr named.2.1, Nat.not_lt.mpr named.2.2,
        isChild, taken, Bool.not_true, Bool.false_eq_true, if_false]
      exact ih

/-- A way passes by the end of each of its beginnings, unless it stops at a link there. -/
theorem Leads.exists_between {before after : List Name} (goesOn : follow = true ∨ after ≠ [])
    (leads : Leads root follow links place (before ++ after) final) :
    ∃ between left, Leads root true links place before between ∧
      Leads root follow left between after final := by
  have atOnce {links : Nat} {place final : List Name}
      (leads : Leads root follow links place after final) :
      ∃ between left, Leads root true links place [] between ∧
        Leads root follow left between after final :=
    ⟨place, links, .arrive, leads⟩
  generalize whole : before ++ after = segments at leads
  induction leads generalizing before with
  | arrive =>
      rw [List.append_eq_nil_iff] at whole
      rcases whole with ⟨rfl, rfl⟩
      exact atOnce .arrive
  | stay found opened idle rest ih =>
      rcases before with _ | ⟨segment, before⟩
      · rw [List.nil_append] at whole
        subst whole
        exact atOnce (.stay found opened idle rest)
      · rcases List.cons.inj whole with ⟨rfl, rfl⟩
        rcases ih rfl with ⟨between, left, leadsBefore, leadsAfter⟩
        exact ⟨between, left, .stay found opened idle leadsBefore, leadsAfter⟩
  | leave found opened rest ih =>
      rcases before with _ | ⟨segment, before⟩
      · rw [List.nil_append] at whole
        subst whole
        exact atOnce (.leave found opened rest)
      · rcases List.cons.inj whole with ⟨rfl, rfl⟩
        rcases ih rfl with ⟨between, left, leadsBefore, leadsAfter⟩
        exact ⟨between, left, .leave found opened leadsBefore, leadsAfter⟩
  | enter found opened named isChild solid rest ih =>
      rcases before with _ | ⟨segment, before⟩
      · rw [List.nil_append] at whole
        subst whole
        exact atOnce (.enter found opened named isChild solid rest)
      · rcases List.cons.inj whole with ⟨rfl, rfl⟩
        rcases ih rfl with ⟨between, left, leadsBefore, leadsAfter⟩
        exact ⟨between, left, .enter found opened named isChild solid leadsBefore, leadsAfter⟩
  | halt found opened named isChild kept =>
      rcases before with _ | ⟨segment, before⟩
      · rw [List.nil_append] at whole
        subst whole
        exact atOnce (.halt found opened named isChild kept)
      · rcases goesOn with followed | more
        · rw [kept] at followed
          contradiction
        · exact absurd (List.append_eq_nil_iff.mp (List.cons.inj whole).2).2 more
  | @jump links place later final segment tree target found opened named isChild taken rest ih =>
      rcases before with _ | ⟨segment, before⟩
      · rw [List.nil_append] at whole
        subst whole
        exact atOnce (.jump found opened named isChild taken rest)
      · rcases List.cons.inj whole with ⟨rfl, rfl⟩
        rcases ih (List.append_assoc (segmentsOf target.bytes) before after) with
          ⟨between, left, leadsBefore, leadsAfter⟩
        exact ⟨between, left, .jump found opened named isChild (by simp) leadsBefore, leadsAfter⟩

/-- Segments that name no place of their own may follow a way that ends at a folder. -/
theorem Leads.append_void (leads : Leads root true links place segments final) {tree : FileTree}
    (there : root.at? final = some tree) (folder : tree.isFolder = true) {idle : List Name}
    (void : ∀ segment ∈ idle, isVoid segment = true) :
    Leads root true links place (segments ++ idle) final := by
  induction leads with
  | @arrive links place =>
      induction idle with
      | nil => exact .arrive
      | cons segment later ih =>
          exact .stay there folder (void segment List.mem_cons_self)
            (ih fun other member => void other (List.mem_cons_of_mem segment member))
  | stay found opened blank rest ih => exact .stay found opened blank (ih there)
  | leave found opened rest ih => exact .leave found opened (ih there)
  | enter found opened named isChild solid rest ih =>
      exact .enter found opened named isChild solid (ih there)
  | halt found opened named isChild kept => contradiction
  | jump found opened named isChild taken rest ih =>
      have joined := ih there
      rw [List.append_assoc] at joined
      exact .jump found opened named isChild (by simp) joined

/-- Segments that name no places of their own lead nowhere else. -/
theorem Leads.eq_of_void (leads : Leads root follow links place segments final)
    (idle : ∀ segment ∈ segments, isVoid segment = true) : final = place := by
  induction leads with
  | arrive => rfl
  | stay _ _ _ _ ih => exact ih fun segment member => idle segment (List.mem_cons_of_mem _ member)
  | leave => exact absurd (idle parentName List.mem_cons_self) (by decide)
  | enter _ _ named | halt _ _ named | jump _ _ named =>
      have := idle _ List.mem_cons_self
      rw [named.1] at this
      contradiction

/-- Something is there where a way ends. -/
theorem Leads.exists_at? (leads : Leads root follow links place segments final)
    (some_segments : segments ≠ []) : ∃ tree, root.at? final = some tree := by
  induction leads with
  | arrive => contradiction
  | @stay links place later final segment tree found opened idle rest ih =>
      rcases later with _ | ⟨next, later⟩
      · cases rest
        exact ⟨tree, found⟩
      · exact ih (List.cons_ne_nil next later)
  | @leave links place later final tree found opened rest ih =>
      rcases later with _ | ⟨next, later⟩
      · cases rest
        rw [List.dropLast_eq_take]
        rw [← List.take_append_drop (place.length - 1) place, FileTree.at?_append] at found
        rcases Option.bind_eq_some_iff.mp found with ⟨outer, foundOuter, _⟩
        exact ⟨outer, foundOuter⟩
      · exact ih (List.cons_ne_nil next later)
  | @enter links place later final segment tree child found opened named isChild solid rest ih =>
      rcases later with _ | ⟨next, later⟩
      · cases rest
        exact ⟨child, by rw [FileTree.at?_concat found, isChild]⟩
      · exact ih (List.cons_ne_nil next later)
  | halt found opened named isChild kept =>
      exact ⟨_, by rw [FileTree.at?_concat found, isChild]⟩
  | @jump links place later final segment tree target found opened named isChild taken rest ih =>
      exact ih (List.append_ne_nil_of_left_ne_nil (segmentsOf_ne_nil target.bytes) later)

/-- Where a way leads, the way without the last link leads somewhere too. -/
theorem Leads.exists_unfollowed (leads : Leads root true links place segments final) :
    ∃ before, Leads root false links place segments before := by
  induction leads with
  | arrive => exact ⟨_, .arrive⟩
  | stay found opened idle rest ih =>
      rcases ih with ⟨before, leadsBefore⟩
      exact ⟨before, .stay found opened idle leadsBefore⟩
  | leave found opened rest ih =>
      rcases ih with ⟨before, leadsBefore⟩
      exact ⟨before, .leave found opened leadsBefore⟩
  | enter found opened named isChild solid rest ih =>
      rcases ih with ⟨before, leadsBefore⟩
      exact ⟨before, .enter found opened named isChild solid leadsBefore⟩
  | halt found opened named isChild kept => contradiction
  | @jump links place later final segment tree target found opened named isChild taken rest ih =>
      rcases later with _ | ⟨next, later⟩
      · exact ⟨_, .halt found opened named isChild rfl⟩
      · rcases ih with ⟨before, leadsBefore⟩
        exact ⟨before, .jump found opened named isChild (by simp) leadsBefore⟩

/-- A way that does not end at a link is the same with the last link followed. -/
theorem Leads.followed (leads : Leads root follow links place segments final)
    (solid : ∀ target, root.at? final ≠ some (.link target)) :
    Leads root true links place segments final := by
  induction leads with
  | arrive => exact .arrive
  | stay found opened idle rest ih => exact .stay found opened idle (ih solid)
  | leave found opened rest ih => exact .leave found opened (ih solid)
  | enter found opened named isChild plain rest ih =>
      exact .enter found opened named isChild plain (ih solid)
  | @halt links place segment tree target found opened named isChild kept =>
      exact absurd (by rw [FileTree.at?_concat found, isChild]) (solid target)
  | jump found opened named isChild taken rest ih =>
      exact .jump found opened named isChild (by simp) (ih solid)

/-- A way stays when the tree grows. -/
theorem Leads.grows {grown : FileTree} (leads : Leads root follow links place segments final)
    (grows : root.Grows grown) : Leads grown follow links place segments final := by
  induction leads with
  | arrive => exact .arrive
  | stay found opened idle rest ih =>
      rcases grows.exists_folder found opened with ⟨after, foundAfter, openedAfter⟩
      exact .stay foundAfter openedAfter idle ih
  | leave found opened rest ih =>
      rcases grows.exists_folder found opened with ⟨after, foundAfter, openedAfter⟩
      exact .leave foundAfter openedAfter ih
  | enter found opened named isChild solid rest ih =>
      rcases grows.exists_folder found opened with ⟨after, foundAfter, openedAfter⟩
      rcases grows.exists_child found foundAfter isChild with
        ⟨other, isOther, rfl | ⟨_, openedOther⟩⟩
      · exact .enter foundAfter openedAfter named isOther solid ih
      · refine .enter foundAfter openedAfter named isOther ?_ ih
        rintro target rfl
        contradiction
  | halt found opened named isChild kept =>
      rcases grows.exists_folder found opened with ⟨after, foundAfter, openedAfter⟩
      rcases grows.exists_child found foundAfter isChild with ⟨other, isOther, rfl | ⟨closed, _⟩⟩
      · exact .halt foundAfter openedAfter named isOther kept
      · contradiction
  | jump found opened named isChild taken rest ih =>
      rcases grows.exists_folder found opened with ⟨after, foundAfter, openedAfter⟩
      rcases grows.exists_child found foundAfter isChild with ⟨other, isOther, rfl | ⟨closed, _⟩⟩
      · exact .jump foundAfter openedAfter named isOther taken ih
      · contradiction

end DocIndex.Files.FileSystem
