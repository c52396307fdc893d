import Mathlib
import DocIndex.Proofs.Documents.CheckoutName
import DocIndex.Proofs.Files.Below
import DocIndex.Proofs.Files.Setting

/-!
# What a clone changes

A clone first takes away what lies where the checkout goes; from then on it only adds files. So
whatever lies elsewhere persists, through any number of clones, as long as the name of a checkout is
the name of an entry.
-/

namespace DocIndex

namespace Files.FileSystem

variable {files after : FileSystem} {base : Path} {place : List Name} {name : Name}

theorem removeEntry_entry (plain : IsPlain name)
    (located : files.locate true (splitEntry (base.entry name)).1 = .ok place) :
    files.removeEntry (base.entry name) = .ok (files.set (place ++ [name]) none) := by
  rcases exists_splitEntry_entry plain base with ⟨outer, split, _⟩
  have named : name.isEmpty = false := by simpa using plain.ne_nil
  rw [split] at located
  rw [removeEntry, split]
  simp only [located, named, beq_eq_false_iff_ne.mpr plain.ne_selfName,
    beq_eq_false_iff_ne.mpr plain.down, Bool.false_eq_true, if_false]

/-- What removing the entry of a folder leaves, be the folder found or not. -/
theorem eq_of_removeEntry (plain : IsPlain name)
    (located : ∀ other, files.locate true (splitEntry (base.entry name)).1 = .ok other →
      other = place) (removed : files.removeEntry (base.entry name) = .ok after) :
    after = files ∨ after = files.set (place ++ [name]) none := by
  rcases found : files.locate true (splitEntry (base.entry name)).1 with fault | other
  · rw [removeEntry] at removed
    simp only [found] at removed
    split at removed
    · cases removed
      exact .inl rfl
    · contradiction
    · contradiction
  · cases located other found
    rw [removeEntry_entry plain found, Except.ok.injEq] at removed
    exact .inr removed.symm

/-- Once a folder is empty, paths lead no farther than before. -/
theorem grows_set_emptyFolder {folder : FileTree}
    (found : files.root.at? (place ++ [name]) = some folder) (opened : folder.isFolder = true) :
    (files.set (place ++ [name]) (some .emptyFolder)).root.Grows files.root := by
  apply (FileTree.agreeApart_set (some .emptyFolder) (place ++ [name]) files.root).symm.grows
  intro other there
  rw [FileTree.at?_set_self .emptyFolder found, Option.some.injEq] at there
  exact ⟨there.symm, folder, found, opened⟩

/-- What removing the entry of a folder leaves, once the entry has been emptied. -/
theorem agreeApart_removeEntry {folder : FileTree} (plain : IsPlain name)
    (proper : Proper (base.entry name).bytes) (located : files.locate true base.orHere = .ok place)
    (found : files.root.at? (place ++ [name]) = some folder) (opened : folder.isFolder = true)
    (removed : (files.set (place ++ [name]) (some .emptyFolder)).removeEntry (base.entry name) =
      .ok after) :
    files.AgreeApart (place ++ [name]) after := by
  rcases FileTree.exists_folder_of_at?_concat found with ⟨entries, foundOuter⟩
  have emptied := agreeApart_set (some .emptyFolder) (place ++ [name]) files
  have again : ∀ other, (files.set (place ++ [name]) (some .emptyFolder)).locate true
      (splitEntry (base.entry name)).1 = .ok other → other = place := by
    intro other locatedOther
    have before := locate_splitEntry_entry plain proper located foundOuter rfl
    have stays := locate_of_grows locatedOther (grows_set_emptyFolder found opened)
    exact Except.ok.inj (stays.symm.trans before)
  rcases eq_of_removeEntry plain again removed with rfl | rfl
  · exact emptied
  · exact emptied.trans (agreeApart_set none _ _)

/-- To remove an entry of a folder with all that is in it changes nothing outside of the entry. -/
theorem agreeApart_removeAll (plain : IsPlain name) (files : FileSystem) (base : Path) :
    (files.removeAll (base.entry name)).1 = files ∨
      ∃ place, files.locate true base.orHere = .ok place ∧
        files.AgreeApart (place ++ [name]) (files.removeAll (base.entry name)).1 := by
  rcases located : files.locate false (base.entry name) with fault | final
  · left
    rw [removeAll, located]
  · rcases exists_place_of_locate_entry plain located with ⟨place, locatedBase, rfl⟩
    have proper := (locate_eq_ok_iff.mp located).1
    have deeper : (place ++ [name]).isEmpty = false := by simp
    have agree (tree? : Option FileTree) := agreeApart_set tree? (place ++ [name]) files
    rcases found : files.root.at? (place ++ [name]) with _ | tree
    · left
      rw [removeAll, located]
      simp only [found]
    · cases tree with
      | file bytes =>
          left
          rw [removeAll, located]
          simp only [found]
      | link target =>
          right
          refine ⟨place, locatedBase, ?_⟩
          rw [removeAll, located]
          simp only [found]
          exact agree none
      | folder _ | repository _ =>
          right
          refine ⟨place, locatedBase, ?_⟩
          rw [removeAll, located]
          simp only [found, deeper, Bool.false_eq_true, if_false]
          split
          · rename_i removed
            exact agreeApart_removeEntry plain proper locatedBase found rfl removed
          · exact agree (some .emptyFolder)

end Files.FileSystem

namespace Documents

open DocIndex.Files DocIndex.Split DocIndex.Text

variable {files after : FileSystem} {cloneRoot path : Path} {place : List Name}

theorem at?_of_isFree (free : isFree files path = true)
    (located : files.locate true path = .ok place) :
    files.root.at? place = some .emptyFolder := by
  rcases FileSystem.exists_find_false located with ⟨tree, found⟩
  rw [isFree, found] at free
  simp only at free
  split at free
  · rename_i foundEmpty
    rcases FileSystem.exists_place_of_find foundEmpty with ⟨other, locatedOther, thereOther⟩
    cases located.symm.trans locatedOther
    exact thereOther
  · contradiction

/-- Where a clone can be made, making it only adds to what is there. -/
theorem extends_fill (free : isFree files path = true) (entries : List (Name × FileTree)) :
    files.Extends (fill files path (.folder entries)).1 := by
  rw [fill]
  split
  · rename_i place located
    apply FileSystem.extends_set
    intro found there
    rw [at?_of_isFree free located, Option.some.injEq] at there
    exact there.symm
  · split
    · exact .refl files
    · rename_i around madeAround
      have extended := FileSystem.extends_of_makeFolders madeAround
      split
      · exact extended
      · rename_i made madeSelf
        have extendedSelf := extended.trans (FileSystem.extends_of_makeFolder madeSelf)
        split
        · exact extendedSelf
        · rename_i place located
          apply extendedSelf.trans
          apply FileSystem.extends_set
          intro found there
          rw [FileSystem.at?_of_makeFolder madeSelf located, Option.some.injEq] at there
          exact there.symm

theorem extends_runClone (files : FileSystem) (cloning : Cloning) (url : String) (path : Path) :
    files.Extends (runClone files cloning url path).1 := by
  rw [runClone]
  split
  · exact .refl files
  · split
    · exact .refl files
    · split
      · exact .refl files
      · split
        · exact .refl files
        · split
          · rename_i free
            exact extends_fill free _
          · exact .refl files

theorem entry_entryName (cloneRoot : Path) (url : String) :
    cloneRoot.entry (entryName url) = cloneRoot.join (.ofString (checkoutName url)) := by
  rw [Path.entry, entryName, Path.ofString]

theorem cloneAndLoad_of_ok {cloning : Cloning} {url : String} (limits : Limits) (docsPath : Path)
    (cloned : clone files cloning url (cloneRoot.entry (entryName url)) = (after, .ok ())) :
    cloneAndLoad files cloning cloneRoot limits url docsPath =
      (after, loadDocs after limits url (cloneRoot.entry (entryName url)) docsPath) := by
  rw [entry_entryName] at cloned ⊢
  unfold cloneAndLoad
  generalize cloneRoot.join (.ofString (checkoutName url)) = checkout at *
  simp only [cloned]

theorem cloneAndLoad_of_error {cloning : Cloning} {url : String} (limits : Limits)
    (docsPath : Path) {error : Error}
    (cloned : clone files cloning url (cloneRoot.entry (entryName url)) = (after, .error error)) :
    cloneAndLoad files cloning cloneRoot limits url docsPath = (after, .error error) := by
  rw [entry_entryName] at cloned
  unfold cloneAndLoad
  generalize cloneRoot.join (.ofString (checkoutName url)) = checkout at *
  simp only [cloned]

/-- A clone only adds to what is left once its place has been cleared. -/
theorem extends_clone (files : FileSystem) (cloning : Cloning) (url : String) (checkout : Path) :
    (clearAway files checkout).1.Extends (clone files cloning url checkout).1 := by
  rw [clone]
  rcases clearAway files checkout with ⟨cleared, fault | _⟩
  · exact .refl cleared
  · simp only
    split
    · exact .refl cleared
    · rename_i made makes
      apply (FileSystem.extends_of_makeFolders makes).trans
      have extended := extends_runClone made cloning url checkout
      split
      · rename_i cloned _ outcome
        rw [outcome] at extended
        exact extended
      · rename_i cloned outcome
        rw [outcome] at extended
        exact extended

/-- Loading changes no files. -/
theorem fst_cloneAndLoad (files : FileSystem) (cloning : Cloning) (cloneRoot : Path)
    (limits : Limits) (url : String) (docsPath : Path) :
    (cloneAndLoad files cloning cloneRoot limits url docsPath).1 =
      (clone files cloning url (cloneRoot.entry (entryName url))).1 := by
  rcases cloned : clone files cloning url (cloneRoot.entry (entryName url)) with
    ⟨after, error | _⟩
  · rw [cloneAndLoad_of_error limits docsPath cloned]
  · rw [cloneAndLoad_of_ok limits docsPath cloned]

/-- Whatever is found persists, unless it lies where the folder of checkouts has the name. -/
def Spares (cloneRoot : Path) (name : Name) (files after : FileSystem) : Prop :=
  ∀ names found, files.root.at? names = some found →
    (∀ place, files.locate true cloneRoot.orHere = .ok place → ¬ place ++ [name] <+: names) →
      ∃ kept, after.root.at? names = some kept ∧ FileTree.Persists found kept

theorem spares_clearAway (files : FileSystem) (cloneRoot : Path) {name : Name}
    (plain : IsPlain name) :
    Spares cloneRoot name files (clearAway files (cloneRoot.entry name)).1 := by
  intro names found there apart
  rw [clearAway]
  split
  · rcases FileSystem.agreeApart_removeAll plain files cloneRoot with
      same | ⟨place, located, agree⟩
    · rw [same]
      exact ⟨found, there, .inl rfl⟩
    · exact agree.trees.exists_persists (apart place located) there
  · exact ⟨found, there, .inl rfl⟩

/-- What is asked for when a repository is cloned, and how repositories are found then. -/
structure CloneRequest where
  cloning : Cloning
  limits : Limits
  url : String
  docsPath : Path

/-- The files that are left when a request has been answered. -/
def CloneRequest.run (cloneRoot : Path) (files : FileSystem) (request : CloneRequest) :
    FileSystem :=
  (cloneAndLoad files request.cloning cloneRoot request.limits request.url request.docsPath).1

theorem spares_run (files : FileSystem) (cloneRoot : Path) (request : CloneRequest)
    (plain : IsPlain (entryName request.url)) :
    Spares cloneRoot (entryName request.url) files (request.run cloneRoot files) := by
  intro names found there apart
  rcases spares_clearAway files cloneRoot plain names found there apart with
    ⟨between, thereBetween, persists⟩
  rcases (extends_clone files request.cloning request.url _).keeps names between thereBetween with
    ⟨kept, thereKept, persistsOn⟩
  rw [CloneRequest.run, fst_cloneAndLoad]
  exact ⟨kept, thereKept, persists.trans persistsOn⟩

/-- The places of the checkouts, each where the folder of checkouts is found before the clone. -/
def checkoutPlaces (cloneRoot : Path) : FileSystem → List CloneRequest → List (List Name)
  | _, [] => []
  | files, request :: later =>
    let places := checkoutPlaces cloneRoot (request.run cloneRoot files) later
    match files.locate true cloneRoot.orHere with
    | .ok place => (place ++ [entryName request.url]) :: places
    | .error _ => places

/-- Through any number of clones everything persists that lies in the place of no checkout. -/
theorem persists_of_run (cloneRoot : Path) (requests : List CloneRequest)
    (plain : ∀ request ∈ requests, IsPlain (entryName request.url)) (files : FileSystem)
    {names : List Name} {found : FileTree} (there : files.root.at? names = some found)
    (apart : ∀ place ∈ checkoutPlaces cloneRoot files requests, ¬ place <+: names) :
    ∃ kept, (requests.foldl (CloneRequest.run cloneRoot) files).root.at? names = some kept ∧
      FileTree.Persists found kept := by
  -- A clone may change where the folder of checkouts is found, so the places follow the run.
  induction requests generalizing files found with
  | nil => exact ⟨found, there, .inl rfl⟩
  | cons request later ih =>
      rw [checkoutPlaces] at apart
      have first : ∀ place, files.locate true cloneRoot.orHere = .ok place →
          ¬ place ++ [entryName request.url] <+: names := by
        intro place located
        rw [located] at apart
        exact apart _ List.mem_cons_self
      have rest : ∀ place ∈ checkoutPlaces cloneRoot (request.run cloneRoot files) later,
          ¬ place <+: names := by
        intro place member
        apply apart
        split
        · exact List.mem_cons_of_mem _ member
        · exact member
      rcases spares_run files cloneRoot request (plain request List.mem_cons_self) names found there
        first with ⟨between, thereBetween, persists⟩
      rcases ih (fun other member => plain other (List.mem_cons_of_mem request member))
        (request.run cloneRoot files) thereBetween rest with ⟨kept, thereKept, persistsOn⟩
      rw [List.foldl_cons]
      exact ⟨kept, thereKept, persists.trans persistsOn⟩

/--
The name of a checkout is one segment, and unless the address ends in dots it names an entry of the
folder of checkouts. As long as no address does, a checkout goes into the folder of checkouts, and
any number of clones leaves everything as it was that lies outside of their checkouts.
-/
theorem clones_stay_inside (cloneRoot : Path) :
    (∀ url, entryName url ≠ [] ∧ slash ∉ entryName url ∧
      (IsPlain (entryName url) ↔ ¬ EndsInDots url)) ∧
    (∀ (files : FileSystem) (url : String) (place : List Name), ¬ EndsInDots url →
      files.locate false (cloneRoot.entry (entryName url)) = .ok place →
        ∃ outer, files.locate true cloneRoot.orHere = .ok outer ∧
          place = outer ++ [entryName url]) ∧
    ∀ (files : FileSystem) (requests : List CloneRequest) (names : List Name) (found : FileTree),
      (∀ request ∈ requests, ¬ EndsInDots request.url) →
      (∀ place ∈ checkoutPlaces cloneRoot files requests, ¬ place <+: names) →
      files.root.at? names = some found →
        ∃ kept, (requests.foldl (CloneRequest.run cloneRoot) files).root.at? names = some kept ∧
          FileTree.Persists found kept := by
  refine ⟨?_, ?_, ?_⟩
  · intro url
    exact ⟨entryName_ne_nil url, slash_not_mem_entryName url, isPlain_entryName_iff url⟩
  · intro files url place solid located
    exact FileSystem.exists_place_of_locate_entry ((isPlain_entryName_iff url).mpr solid) located
  · intro files requests names found solid apart there
    have plain : ∀ request ∈ requests, IsPlain (entryName request.url) := fun request member =>
      (isPlain_entryName_iff request.url).mpr (solid request member)
    exact persists_of_run cloneRoot requests plain files there apart

/-- A file beside a folder of checkouts that has the given entries. -/
def besideCheckouts (entries : List (Name × FileTree)) : FileSystem :=
  ⟨.folder [(Utf8.ofString "w", .folder
    [(Utf8.ofString "clones", .folder entries),
      (Utf8.ofString "notes", .file (Utf8.ofString "A"))])], []⟩

/-- A request to clone when the program that clones cannot be started. -/
def requestOf (url : String) : CloneRequest := ⟨⟨false, id⟩, ⟨1000, 200⟩, url, ⟨selfName⟩⟩

theorem run_requestOf {between : FileSystem} {url : String} {name : Name}
    (named : entryName url = name) (solid : url.toList.contains (Char.ofNat 0) = false)
    (cleared : clearAway files (cloneRoot.entry name) = (between, .ok ()))
    (made : between.makeFolders ((cloneRoot.entry name).parent?.getD ⟨[]⟩) = .ok after) :
    (requestOf url).run cloneRoot files = after := by
  rw [CloneRequest.run, fst_cloneAndLoad, requestOf, named, clone, cleared]
  simp only [made, runClone, solid, Bool.false_eq_true, if_false, Bool.not_false, if_true]

theorem run_checkout_of_a :
    (requestOf "x/a.git").run (.ofString "w/clones")
      (besideCheckouts [(Utf8.ofString "a", .folder [])]) = besideCheckouts [] := by
  have named : entryName "x/a.git" = Utf8.ofString "a" := by decide
  have cleared : clearAway (besideCheckouts [(Utf8.ofString "a", .folder [])])
      ((Path.ofString "w/clones").entry (Utf8.ofString "a")) = (besideCheckouts [], .ok ()) := by
    cbv
  exact run_requestOf named (by decide) cleared (by cbv)

/-- A file beside the folder of checkouts is kept when a checkout is replaced, twice over. -/
theorem clones_stay_inside_of_two :
    ∃ kept, ([requestOf "x/a.git", requestOf "y/a/"].foldl
        (CloneRequest.run (.ofString "w/clones"))
          (besideCheckouts [(Utf8.ofString "a", .folder [])])).root.at?
          [Utf8.ofString "w", Utf8.ofString "notes"] = some kept ∧
      FileTree.Persists (.file (Utf8.ofString "A")) kept := by
  have named : entryName "x/a.git" = Utf8.ofString "a" ∧ entryName "y/a/" = Utf8.ofString "a" := by
    decide
  have plain : IsPlain (Utf8.ofString "a") := ⟨by decide, by decide, by decide⟩
  have located (entries : List (Name × FileTree)) :
      (besideCheckouts entries).locate true (Path.ofString "w/clones").orHere =
        .ok [Utf8.ofString "w", Utf8.ofString "clones"] := by
    cbv
  apply (clones_stay_inside (.ofString "w/clones")).2.2
  · intro request member
    rw [← isPlain_entryName_iff]
    rcases List.mem_pair.mp member with rfl | rfl
    · exact named.1 ▸ plain
    · exact named.2 ▸ plain
  · intro place member
    rw [checkoutPlaces, located, checkoutPlaces, run_checkout_of_a, located, checkoutPlaces,
      requestOf, requestOf, named.1, named.2] at member
    have place_eq : place = [Utf8.ofString "w", Utf8.ofString "clones", Utf8.ofString "a"] := by
      rcases List.mem_pair.mp member with same | same
      · exact same
      · exact same
    rw [place_eq]
    decide
  · rfl

/-- The folder around the folder of checkouts is emptied by a clone whose address ends in `..`. -/
theorem clone_of_dots_empties_outer_folder :
    entryName "https://example.com/docs/.." = parentName ∧
      (besideCheckouts []).root.at? [Utf8.ofString "w", Utf8.ofString "notes"] =
        some (.file (Utf8.ofString "A")) ∧
      ((requestOf "https://example.com/docs/..").run (.ofString "w/clones")
        (besideCheckouts [])).root.at? [Utf8.ofString "w", Utf8.ofString "notes"] = none := by
  have named : entryName "https://example.com/docs/.." = parentName := by decide
  have cleared : clearAway (besideCheckouts []) ((Path.ofString "w/clones").entry parentName) =
      (⟨.folder [(Utf8.ofString "w", .folder [])], []⟩, .ok ()) := by cbv
  have made : FileSystem.makeFolders ⟨.folder [(Utf8.ofString "w", .folder [])], []⟩
      (((Path.ofString "w/clones").entry parentName).parent?.getD ⟨[]⟩) =
      .ok ⟨.folder [(Utf8.ofString "w", .folder [(Utf8.ofString "clones", .folder [])])], []⟩ := by
    cbv
  refine ⟨named, rfl, ?_⟩
  rw [run_requestOf named (by decide) cleared made]
  rfl

end Documents

end DocIndex
