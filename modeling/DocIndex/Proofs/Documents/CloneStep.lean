import DocIndex.Proofs.Documents.Cloning
import DocIndex.Proofs.Files.Around

/-!
# One clone in a folder of checkouts

Between clones a folder of checkouts holds folders alone, and it is found without what is in it. A
clone keeps it so. It clears the place of its checkout in every case, and what it comes to then is
decided by the latest commit of the repository and by whether the path of the checkout can be looked
up at all.
-/

namespace DocIndex.Documents

open DocIndex.Files DocIndex.Split DocIndex.Text

variable {files after : FileSystem} {cloneRoot : Path} {place : List Name} {name : Name}

/-- A folder of checkouts between two clones. -/
structure Ready (cloneRoot : Path) (place : List Name) (files : FileSystem) : Prop where
  /-- The folder would be found if nothing was in it. -/
  alone : (files.set place (some .emptyFolder)).locate true cloneRoot.orHere = .ok place
  folder : ∃ entries, files.root.at? place = some (.folder entries)
  checkouts : ∀ name tree, files.root.at? (place ++ [name]) = some tree →
    ∃ entries, tree = .folder entries

/-- To empty a folder only takes away from what is there. -/
theorem extends_emptied {entries : List (Name × FileTree)}
    (agree : files.AgreeApart place after)
    (folder : files.root.at? place = some (.folder entries))
    (folderAfter : ∃ entries, after.root.at? place = some (.folder entries)) :
    (files.set place (some .emptyFolder)).Extends after := by
  apply ((FileSystem.agreeApart_set _ place files).symm.trans agree).extends_of_bare
  intro found there
  rw [FileSystem.set, FileTree.at?_set_self .emptyFolder folder, Option.some.injEq] at there
  exact ⟨there.symm, folderAfter⟩

theorem Ready.extends_of_agreeApart (ready : Ready cloneRoot place files)
    (agree : files.AgreeApart place after) (readyAfter : Ready cloneRoot place after) :
    (files.set place (some .emptyFolder)).Extends after := by
  rcases ready.folder with ⟨entries, folder⟩
  exact extends_emptied agree folder readyAfter.folder

theorem Ready.located (ready : Ready cloneRoot place files) :
    files.locate true cloneRoot.orHere = .ok place :=
  (ready.extends_of_agreeApart (.refl place files) ready).locate ready.alone

/-- The folder stays ready when nothing else changes and it has folders alone as its entries. -/
theorem Ready.of_agreeApart (ready : Ready cloneRoot place files)
    (agree : files.AgreeApart place after)
    (folder : ∃ entries, after.root.at? place = some (.folder entries))
    (checkouts : ∀ name tree, after.root.at? (place ++ [name]) = some tree →
      ∃ entries, tree = .folder entries) : Ready cloneRoot place after := by
  refine ⟨?_, folder, checkouts⟩
  rcases ready.folder with ⟨entries, folderBefore⟩
  rcases folder with ⟨others, folderAfter⟩
  have emptied := agree.trans (FileSystem.agreeApart_set (some .emptyFolder) place after)
  exact (extends_emptied emptied folderBefore ⟨[], FileTree.at?_set_self _ folderAfter⟩).locate
    ready.alone

/-- The folder stays ready when one of its entries changes, to a folder or to nothing. -/
theorem Ready.of_checkout (ready : Ready cloneRoot place files)
    (agree : files.AgreeApart (place ++ [name]) after)
    (checkout : ∀ tree, after.root.at? (place ++ [name]) = some tree →
      ∃ entries, tree = .folder entries) : Ready cloneRoot place after := by
  refine ready.of_agreeApart (agree.around (List.prefix_append place [name])) ?_ ?_
  · have around : ¬ place ++ [name] <+: place := by
      intro isPrefix
      have := isPrefix.length_le
      rw [List.length_append, List.length_singleton] at this
      omega
    rcases ready.folder with ⟨entries, folder⟩
    rcases agree.trees.exists_persists around folder with
      ⟨kept, thereKept, rfl | ⟨_, others, _, rfl⟩⟩
    · exact ⟨entries, thereKept⟩
    · exact ⟨others, thereKept⟩
  · intro other tree there
    by_cases same : other = name
    · subst same
      exact checkout tree there
    · have apart : ¬ place ++ [name] <+: place ++ [other] := by
        intro isPrefix
        rw [List.prefix_append_right_inj, List.cons_prefix_cons] at isPrefix
        exact same isPrefix.1.symm
      rcases agree.trees _ apart with found | ⟨isPrefix, _⟩
      · exact ready.checkouts other tree (found.trans there)
      · rw [List.prefix_append_right_inj, List.cons_prefix_cons] at isPrefix
        exact absurd isPrefix.1 same

theorem Ready.locate_entry (ready : Ready cloneRoot place files) (plain : IsPlain name)
    (follow : Bool) :
    files.locate follow (cloneRoot.entry name) =
      match FileSystem.unfit? (cloneRoot.entry name) name with
      | some fault => .error fault
      | none =>
        match files.root.at? (place ++ [name]) with
        | none => .error .notFound
        | some _ => .ok (place ++ [name]) := by
  rcases ready.folder with ⟨entries, folder⟩
  have solid : ∀ target, (FileTree.folder entries).child? name ≠ some (.link target) := by
    intro target isChild
    rcases ready.checkouts name (.link target) (by rw [FileTree.at?_concat folder, isChild]) with
      ⟨_, same⟩
    contradiction
  rw [FileTree.at?_concat folder]
  exact FileSystem.locate_entry plain ready.located folder rfl solid follow

theorem proper_of_unfit?_eq_none (plain : IsPlain name)
    (fits : FileSystem.unfit? (cloneRoot.entry name) name = none) :
    FileSystem.Proper (cloneRoot.entry name).bytes ∧ name.length ≤ longestName := by
  rw [FileSystem.unfit?] at fits
  split at fits
  · contradiction
  · split at fits
    · contradiction
    · split at fits
      · contradiction
      · rename_i zero long longName
        exact ⟨⟨by simpa using zero, Path.bytes_ne_nil_of_isPlain plain cloneRoot,
          Nat.le_of_not_lt long⟩, Nat.le_of_not_lt longName⟩

theorem ne_notFound_of_unfit? {fault : Fault} {path : Path}
    (unfit : FileSystem.unfit? path name = some fault) : fault ≠ .notFound := by
  rintro rfl
  rw [FileSystem.unfit?] at unfit
  split at unfit
  · contradiction
  · split at unfit
    · contradiction
    · split at unfit
      · contradiction
      · contradiction

/-- The place of a checkout is cleared in every case, and nothing else changes. -/
theorem Ready.exists_clearAway (ready : Ready cloneRoot place files) (plain : IsPlain name) :
    ∃ cleared, clearAway files (cloneRoot.entry name) = (cleared, .ok ()) ∧
      Ready cloneRoot place cleared ∧ files.AgreeApart (place ++ [name]) cleared ∧
      cleared.Extends files ∧
      (FileSystem.unfit? (cloneRoot.entry name) name = none →
        cleared.root.at? (place ++ [name]) = none) := by
  have locate_eq := ready.locate_entry plain
  rcases fits : FileSystem.unfit? (cloneRoot.entry name) name with _ | fault
  · rcases there : files.root.at? (place ++ [name]) with _ | tree
    · refine ⟨files, ?_, ready, .refl _ files, .refl files, fun _ => there⟩
      simp [clearAway, FileSystem.exists?, FileSystem.find, locate_eq, fits, there]
    · rcases ready.checkouts name tree there with ⟨entries, rfl⟩
      -- The checkout is emptied before its entry is removed, and the path is looked up in between.
      let emptied := files.set (place ++ [name]) (some .emptyFolder)
      have thereEmptied : emptied.root.at? (place ++ [name]) = some .emptyFolder :=
        FileTree.at?_set_self _ there
      have emptiedReady : Ready cloneRoot place emptied := by
        refine ready.of_checkout (FileSystem.agreeApart_set _ _ files) ?_
        intro tree found
        rw [thereEmptied, Option.some.injEq] at found
        exact ⟨[], found.symm⟩
      rcases emptiedReady.folder with ⟨others, folder⟩
      have locatedOuter := FileSystem.locate_splitEntry_entry plain
        (proper_of_unfit?_eq_none plain fits).1 emptiedReady.located folder rfl
      have removed := FileSystem.removeEntry_entry plain locatedOuter
      have gone : (emptied.set (place ++ [name]) none).root.at? (place ++ [name]) = none :=
        FileTree.at?_set none folder name []
      have agree : files.AgreeApart (place ++ [name]) (emptied.set (place ++ [name]) none) :=
        (FileSystem.agreeApart_set _ _ files).trans (FileSystem.agreeApart_set _ _ emptied)
      refine ⟨emptied.set (place ++ [name]) none, ?_, ?_, agree, agree.symm.extends_of_bare ?_,
        fun _ => gone⟩
      · have deeper : (place ++ [name]).isEmpty = false := by simp
        have found : files.exists? (cloneRoot.entry name) = true := by
          simp [FileSystem.exists?, FileSystem.find, locate_eq, fits, there]
        rw [clearAway, if_pos found, FileSystem.removeAll, locate_eq, fits]
        simp only [there, deeper, Bool.false_eq_true, if_false]
        rw [removed]
      · refine ready.of_checkout agree ?_
        intro tree found
        rw [gone] at found
        contradiction
      · intro tree found
        rw [gone] at found
        contradiction
  · refine ⟨files, ?_, ready, .refl _ files, .refl files, fun none_unfit => by contradiction⟩
    simp [clearAway, FileSystem.exists?, FileSystem.find, locate_eq, fits]

/-- The tree that a clone puts in place where nothing is in its way, or why it fails. -/
def outcome (cloning : Cloning) (url : String) (fits : Bool) (latest? : Option FileTree) :
    Except CloneFailure FileTree :=
  if url.toList.contains (Char.ofNat 0) then .error .nulByte
  else if ! cloning.isAvailable then .error .notStarted
  else if isOption url.toList then .error .misused
  else match latest? with
    | none => .error .failed
    | some commit => if fits then .ok (workingCopy commit) else .error .failed

theorem exists_of_outcome_eq_ok {cloning : Cloning} {url : String} {free : Bool}
    {latest? : Option FileTree} {copy : FileTree}
    (succeeds : outcome cloning url free latest? = .ok copy) :
    ∃ commit, latest? = some commit ∧ copy = workingCopy commit ∧ free = true := by
  rw [outcome.eq_def] at succeeds
  split at succeeds
  · contradiction
  · split at succeeds
    · contradiction
    · split at succeeds
      · contradiction
      · split at succeeds
        · contradiction
        · split at succeeds
          · rename_i _ commit isFree
            exact ⟨commit, rfl, (Except.ok.inj succeeds).symm, isFree⟩
          · contradiction

theorem runClone_of_error {cloning : Cloning} {url : String} {path : Path} {failure : CloneFailure}
    (fails : outcome cloning url (isFree files path) (latestCommit? files cloning url) =
      .error failure) : runClone files cloning url path = (files, .error failure) := by
  rw [outcome.eq_def] at fails
  rw [runClone]
  by_cases zero : url.toList.contains (Char.ofNat 0) = true
  · rw [if_pos zero] at fails ⊢
    cases fails
    rfl
  · rw [if_neg zero] at fails ⊢
    by_cases missing : (! cloning.isAvailable) = true
    · rw [if_pos missing] at fails ⊢
      cases fails
      rfl
    · rw [if_neg missing] at fails ⊢
      by_cases misused : isOption url.toList = true
      · rw [if_pos misused] at fails ⊢
        cases fails
        rfl
      · rw [if_neg misused] at fails ⊢
        rcases latest : latestCommit? files cloning url with _ | commit
        · simp only [latest] at fails
          cases fails
          rfl
        · by_cases free : isFree files path = true
          · simp only [latest, if_pos free] at fails
            contradiction
          · simp only [latest, if_neg free] at fails
            cases fails
            simp only [if_neg free]

theorem runClone_of_ok {cloning : Cloning} {url : String} {path : Path} {copy : FileTree}
    (succeeds : outcome cloning url (isFree files path) (latestCommit? files cloning url) =
      .ok copy) : runClone files cloning url path = fill files path copy := by
  rcases exists_of_outcome_eq_ok succeeds with ⟨commit, latest, rfl, free⟩
  rw [outcome.eq_def] at succeeds
  rw [runClone]
  split at succeeds
  · contradiction
  · rename_i zero
    rw [if_neg zero]
    split at succeeds
    · contradiction
    · rename_i available
      rw [if_neg available]
      split at succeeds
      · contradiction
      · rename_i plain
        rw [if_neg plain, latest]
        exact if_pos free

/-- Where nothing is in the way, a clone puts a working copy of the latest commit in place. -/
theorem clone_of_free {made cleared : FileSystem} {cloning : Cloning} {url : String}
    {path : Path} {commit : FileTree}
    (solid : url.toList.contains (Char.ofNat 0) = false)
    (available : cloning.isAvailable = true) (plain : isOption url.toList = false)
    (clears : clearAway files path = (cleared, .ok ()))
    (makes : cleared.makeFolders (path.parent?.getD ⟨[]⟩) = .ok made)
    (latest : latestCommit? made cloning url = some commit) (free : isFree made path = true)
    (fills : fill made path (workingCopy commit) = (after, .ok ())) :
    clone files cloning url path = (after, .ok ()) := by
  have succeeds : outcome cloning url (isFree made path) (latestCommit? made cloning url) =
      .ok (workingCopy commit) := by
    rw [outcome.eq_def, latest, free, solid, available, plain]
    rfl
  rw [clone, clears]
  simp only [makes, runClone_of_ok succeeds, fills]

/-- Whether an entry of the name can be looked up in the folder of checkouts. -/
def fits (cloneRoot : Path) (name : Name) : Bool :=
  (FileSystem.unfit? (cloneRoot.entry name) name).isNone

theorem Ready.isFree_eq (ready : Ready cloneRoot place files) (plain : IsPlain name)
    (vacant : FileSystem.unfit? (cloneRoot.entry name) name = none →
      files.root.at? (place ++ [name]) = none) :
    isFree files (cloneRoot.entry name) = fits cloneRoot name := by
  have locate_eq := ready.locate_entry plain false
  rw [isFree, fits, FileSystem.find, locate_eq]
  rcases unfit : FileSystem.unfit? (cloneRoot.entry name) name with _ | fault
  · simp [vacant unfit]
  · have other := ne_notFound_of_unfit? unfit
    cases fault with
    | notFound => contradiction
    | _ => rfl

/-- In a ready folder with nothing in the way the tree of a checkout is put in its place. -/
theorem Ready.exists_fill (ready : Ready cloneRoot place files) (plain : IsPlain name)
    (unfit : FileSystem.unfit? (cloneRoot.entry name) name = none)
    (vacant : files.root.at? (place ++ [name]) = none) (entries : List (Name × FileTree)) :
    ∃ filled, fill files (cloneRoot.entry name) (.folder entries) = (filled, .ok ()) ∧
      Ready cloneRoot place filled ∧ files.AgreeApart (place ++ [name]) filled ∧
      filled.root.at? (place ++ [name]) = some (.folder entries) := by
  rcases proper_of_unfit?_eq_none plain unfit with ⟨proper, short⟩
  rcases ready.folder with ⟨others, folder⟩
  have locatedOuter := FileSystem.locate_splitEntry_entry plain proper ready.located folder rfl
  have isFolder := FileSystem.isFolder_of_locate locatedOuter folder rfl
  rcases FileSystem.exists_splitEntry_entry plain cloneRoot with ⟨outer, split, _⟩
  have absent : (FileTree.folder others).child? name = none := by
    rw [← FileTree.at?_concat folder, vacant]
  let made := files.set (place ++ [name]) (some .emptyFolder)
  have makes : files.makeFolder (cloneRoot.entry name) = .ok made := by
    rw [split] at locatedOuter
    rw [FileSystem.makeFolder, FileSystem.refuse?_of_proper proper, split]
    simp [locatedOuter, folder, FileTree.isFolder, plain.solid, plain.down,
      Nat.not_lt.mpr short, absent, made]
  have thereMade : made.root.at? (place ++ [name]) = some .emptyFolder :=
    FileTree.at?_set _ folder name []
  have madeReady : Ready cloneRoot place made := by
    refine ready.of_checkout (FileSystem.agreeApart_set _ _ files) ?_
    intro tree found
    rw [thereMade, Option.some.injEq] at found
    exact ⟨[], found.symm⟩
  have thereFilled : (made.set (place ++ [name]) (some (.folder entries))).root.at?
      (place ++ [name]) = some (.folder entries) := FileTree.at?_set_self _ thereMade
  have agree := FileSystem.agreeApart_set (some (.folder entries)) (place ++ [name]) made
  refine ⟨made.set (place ++ [name]) (some (.folder entries)), ?_, ?_,
    (FileSystem.agreeApart_set _ _ files).trans agree, thereFilled⟩
  · have nowhere : files.locate true (cloneRoot.entry name) = .error .notFound := by
      rw [ready.locate_entry plain, unfit, vacant]
    have somewhere : made.locate true (cloneRoot.entry name) = .ok (place ++ [name]) := by
      rw [madeReady.locate_entry plain, unfit, thereMade]
    rw [fill, nowhere]
    simp only [FileSystem.makeFolders_of_isFolder isFolder, makes, somewhere]
  · refine madeReady.of_checkout agree ?_
    intro tree found
    rw [thereFilled, Option.some.injEq] at found
    exact ⟨entries, found.symm⟩

theorem Ready.exists_runClone (ready : Ready cloneRoot place files) (plain : IsPlain name)
    (vacant : FileSystem.unfit? (cloneRoot.entry name) name = none →
      files.root.at? (place ++ [name]) = none) (cloning : Cloning) (url : String) :
    ∃ after, Ready cloneRoot place after ∧ files.AgreeApart (place ++ [name]) after ∧
      (∀ failure, outcome cloning url (fits cloneRoot name) (latestCommit? files cloning url) =
        .error failure →
          runClone files cloning url (cloneRoot.entry name) = (after, .error failure)) ∧
      ∀ copy, outcome cloning url (fits cloneRoot name) (latestCommit? files cloning url) =
        .ok copy → runClone files cloning url (cloneRoot.entry name) = (after, .ok ()) ∧
          after.root.at? (place ++ [name]) = some copy := by
  rw [← ready.isFree_eq plain vacant]
  rcases result : outcome cloning url (isFree files (cloneRoot.entry name))
    (latestCommit? files cloning url) with failure | copy
  · refine ⟨files, ready, .refl _ files, ?_, ?_⟩
    · rintro _ ⟨⟩
      exact runClone_of_error result
    · intro copy succeeds
      contradiction
  · rcases exists_of_outcome_eq_ok result with ⟨commit, _, rfl, free⟩
    rw [ready.isFree_eq plain vacant, fits, Option.isNone_iff_eq_none] at free
    rcases ready.exists_fill plain free (vacant free) _ with
      ⟨filled, fills, filledReady, agree, there⟩
    refine ⟨filled, filledReady, agree, ?_, ?_⟩
    · intro failure fails
      contradiction
    · rintro _ ⟨⟩
      exact ⟨(runClone_of_ok result).trans fills, there⟩

theorem Ready.makeFolders_parent (ready : Ready cloneRoot place files) (plain : IsPlain name) :
    files.makeFolders ((cloneRoot.entry name).parent?.getD ⟨[]⟩) = .ok files := by
  rcases ready.folder with ⟨entries, folder⟩
  rw [Path.parent?_entry plain, Option.getD_some]
  exact FileSystem.makeFolders_trimmed ready.located folder rfl

/-- What a clone in a ready folder comes to, and what it leaves. -/
theorem Ready.exists_clone (ready : Ready cloneRoot place files) (plain : IsPlain name)
    (cloning : Cloning) (url : String) :
    ∃ cleared after, Ready cloneRoot place cleared ∧ files.AgreeApart (place ++ [name]) cleared ∧
      cleared.Extends files ∧ Ready cloneRoot place after ∧
      files.AgreeApart (place ++ [name]) after ∧
      (∀ failure, outcome cloning url (fits cloneRoot name) (latestCommit? cleared cloning url) =
        .error failure → clone files cloning url (cloneRoot.entry name) =
          (after, .error (.clone url failure.message))) ∧
      ∀ copy, outcome cloning url (fits cloneRoot name) (latestCommit? cleared cloning url) =
        .ok copy → clone files cloning url (cloneRoot.entry name) = (after, .ok ()) ∧
          after.root.at? (place ++ [name]) = some copy := by
  rcases ready.exists_clearAway plain with
    ⟨cleared, clears, clearedReady, agree, extended, vacant⟩
  rcases clearedReady.exists_runClone plain vacant cloning url with
    ⟨after, afterReady, agreeAfter, failing, succeeding⟩
  refine ⟨cleared, after, clearedReady, agree, extended, afterReady, agree.trans agreeAfter, ?_, ?_⟩
  · intro failure fails
    rw [clone, clears]
    simp only [clearedReady.makeFolders_parent plain, failing failure fails]
  · intro copy succeeds
    rcases succeeding copy succeeds with ⟨runs, there⟩
    rw [clone, clears]
    simp only [clearedReady.makeFolders_parent plain, runs]
    exact ⟨trivial, there⟩

end DocIndex.Documents
