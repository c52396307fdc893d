import DocIndex.Proofs.Documents.CloneStep
import DocIndex.Proofs.Documents.Links
import DocIndex.Proofs.Files.Confined

/-!
# Clones one after another

Whatever has been cloned before, a clone answers as it does where nothing has been cloned yet. Its
place is cleared first, so the checkout that it makes is the same; and loading from a checkout does
not see what is beside it, as long as the path of the documents keeps to the checkout.
-/

namespace DocIndex.Documents

open DocIndex.Files DocIndex.Split DocIndex.Text

variable {files after others : FileSystem} {cloneRoot checkout docsPath : Path}
  {place : List Name} {name : Name} {tree : FileTree}

theorem loadFile_congr {path : Path} (same : after.find true path = files.find true path)
    (limits : Limits) (kind : TextKind) (source named : String) :
    loadFile after limits kind path source named =
      loadFile files limits kind path source named := by
  rw [loadFile, loadFile, FileSystem.readText, FileSystem.readText, FileSystem.readBytes,
    FileSystem.readBytes, same]

theorem loadEach_congr {load other : Path → Except Error (List Chunk)} {paths : List Path}
    (same : ∀ path ∈ paths, load path = other path) :
    loadEach load paths = loadEach other paths := by
  have all : paths.mapM load = paths.mapM other := by
    induction paths with
    | nil => rfl
    | cons path later ih =>
        rw [List.mapM_cons, List.mapM_cons, same path List.mem_cons_self,
          ih fun next member => same next (List.mem_cons_of_mem path member)]
  rw [loadEach, loadEach, all]

/-- What loading gives from a checkout stays the same when files are added around it. -/
theorem loadDocs_congr (extended : files.Extends after)
    (located : files.locate true checkout = .ok place) (there : files.root.at? place = some tree)
    (stays : after.root.at? place = some tree) (proper : tree.IsProper)
    (kept : docsPath.isAbsolute = true ∨ tree.Confines docsPath) (limits : Limits) (url : String) :
    loadDocs after limits url checkout docsPath = loadDocs files limits url checkout docsPath := by
  rcases relative : docsPath.isAbsolute with _ | _
  · have some_bytes := (FileSystem.locate_eq_ok_iff.mp located).1.2.1
    rw [← Path.orHere_of_ne_nil some_bytes] at located
    have keeps : tree.Confines docsPath := kept.resolve_left (by simp [relative])
    have nonempty := Path.bytes_join_ne_nil some_bytes relative
    have same := FileSystem.find_join_confined located there extended stays relative nonempty keeps
    have isFolder_eq : after.isFolder (checkout.join docsPath) =
        files.isFolder (checkout.join docsPath) := by
      rw [FileSystem.isFolder, FileSystem.isFolder, same true]
    rw [loadDocs, loadDocs, relative, isFolder_eq]
    rcases found : files.find true (checkout.join docsPath) with fault | docs
    · simp [FileSystem.isFolder, found]
    · rcases opened : docs.isFolder with _ | _
      · simp [FileSystem.isFolder, found, opened]
      · have foundAfter := (same true).trans found
        rw [listMarkdown_of_find found opened, listMarkdown_of_find foundAfter opened,
          FileSystem.isFolder, found]
        simp only [opened, Bool.not_true, Bool.or_false, Bool.false_eq_true, if_false]
        rcases FileSystem.exists_at?_of_find_confined located there relative keeps found with
          ⟨inner, reached⟩
        rcases listing : listFolder (checkout.join docsPath) docs with error | paths
        · rfl
        · rw [eq_markdownBelow_of_listFolder listing]
          apply loadEach_congr
          -- No link is met on the way to a file that is listed, since the folder has it there.
          intro path listed
          rcases exists_of_mem_markdownBelow (proper.of_at? reached) listed with
            ⟨names, bytes, plain, rfl, isFile⟩
          exact loadFile_congr
            (FileSystem.find_below_congr extended found foundAfter plain isFile) limits _ _ _
  · rw [loadDocs, loadDocs, relative]
    rfl

/-- Files as they are with nothing left in the folder of checkouts, where it is found. -/
def emptied (cloneRoot : Path) (files : FileSystem) : FileSystem :=
  match files.locate true cloneRoot.orHere with
  | .ok place => files.set place (some .emptyFolder)
  | .error _ => files

/-- Every repository that an address may stand for is found without what is in the checkouts. -/
def LiesOutside (cloneRoot : Path) (files : FileSystem) (request : CloneRequest) : Prop :=
  ∀ suffix ∈ administrationSuffixes, ∀ commit,
    files.find true (.ofString (request.cloning.resolve request.url ++ suffix)) =
        .ok (.repository commit) →
      (emptied cloneRoot files).find true
        (.ofString (request.cloning.resolve request.url ++ suffix)) = .ok (.repository commit)

theorem latestCommit?_congr {cloning : Cloning} {url : String}
    (same : ∀ suffix ∈ administrationSuffixes, ∀ commit,
      files.find true (.ofString (cloning.resolve url ++ suffix)) = .ok (.repository commit) ↔
        others.find true (.ofString (cloning.resolve url ++ suffix)) = .ok (.repository commit)) :
    latestCommit? files cloning url = latestCommit? others cloning url := by
  rw [latestCommit?, latestCommit?]
  generalize administrationSuffixes = suffixes at same
  induction suffixes with
  | nil => rfl
  | cons suffix later ih =>
      have first := same suffix List.mem_cons_self
      have rest := ih fun next member => same next (List.mem_cons_of_mem suffix member)
      rw [List.findSome?_cons, List.findSome?_cons, rest]
      split
      · rename_i commit found
        split at found
        · rename_i foundHere
          cases found
          rw [(first commit).mp foundHere]
        · contradiction
      · rename_i absent
        split
        · rename_i commit found
          split at found
          · rename_i foundThere
            rw [(first _).mpr foundThere] at absent
            contradiction
          · contradiction
        · rfl

theorem find_repository_of_extends {commit : FileTree} {path : Path} {follow : Bool}
    (extended : files.Extends after) (found : files.find follow path = .ok (.repository commit)) :
    after.find follow path = .ok (.repository commit) := by
  rcases FileSystem.exists_place_of_find found with ⟨place, located, there⟩
  rcases extended.keeps place _ there with ⟨kept, thereKept, rfl | ⟨_, _, same, _⟩⟩
  · rw [FileSystem.find, extended.locate located]
    simp only [thereKept]
  · contradiction

theorem Ready.emptied_eq (ready : Ready cloneRoot place files) :
    emptied cloneRoot files = files.set place (some .emptyFolder) := by
  rw [emptied, ready.located]

theorem Ready.emptied (ready : Ready cloneRoot place files) :
    Ready cloneRoot place (emptied cloneRoot files) := by
  rcases ready.folder with ⟨entries, folder⟩
  rw [ready.emptied_eq]
  have bare := FileTree.at?_set_self .emptyFolder folder
  refine ready.of_agreeApart (FileSystem.agreeApart_set _ place files) ⟨[], bare⟩ ?_
  intro name tree found
  rw [FileSystem.set, FileTree.at?_concat bare] at found
  contradiction

/-- The latest commit is the same whatever is in the folder of checkouts. -/
theorem latestCommit?_of_extends {request : CloneRequest}
    (outside : LiesOutside cloneRoot files request) (extended : after.Extends files)
    (extendedEmptied : (emptied cloneRoot files).Extends after) :
    latestCommit? after request.cloning request.url =
      latestCommit? files request.cloning request.url := by
  apply latestCommit?_congr
  intro suffix member commit
  constructor
  · exact find_repository_of_extends extended
  · intro found
    exact find_repository_of_extends extendedEmptied (outside suffix member commit found)

/-- A folder of checkouts that is not there yet and is empty once it has been made. -/
structure Unmade (cloneRoot : Path) (files : FileSystem) : Prop where
  nowhere : ∀ place, files.locate true cloneRoot.orHere ≠ .ok place
  bare : ∀ made, files.makeFolders cloneRoot.trimmed = .ok made →
    made.find true cloneRoot.orHere = .ok .emptyFolder

/-- The folder of checkouts has what it had, and it is where it was also without that. -/
def SameCheckouts (cloneRoot : Path) (files after : FileSystem) : Prop :=
  ∃ place, files.locate true cloneRoot.orHere = .ok place ∧
    after.root.at? place = files.root.at? place ∧
    (after.set place (some .emptyFolder)).locate true cloneRoot.orHere = .ok place

/--
What clones may leave behind, when the folder of checkouts is empty at first or not there. Between
clones everything outside of the folder may change.
-/
inductive FromEmpty (cloneRoot : Path) : FileSystem → Prop
  | empty {files : FileSystem} (bare : files.find true cloneRoot.orHere = .ok .emptyFolder) :
      FromEmpty cloneRoot files
  | unmade {files : FileSystem} (unmade : Unmade cloneRoot files) : FromEmpty cloneRoot files
  | clone {files : FileSystem} (before : FromEmpty cloneRoot files) (request : CloneRequest)
      (plain : IsPlain (entryName request.url)) : FromEmpty cloneRoot (request.run cloneRoot files)
  | change {files after : FileSystem} (before : FromEmpty cloneRoot files)
      (same : SameCheckouts cloneRoot files after) : FromEmpty cloneRoot after

theorem exists_ready_of_bare (bare : files.find true cloneRoot.orHere = .ok .emptyFolder) :
    ∃ place, Ready cloneRoot place files ∧ files.root.at? place = some .emptyFolder := by
  rcases FileSystem.exists_place_of_find bare with ⟨place, located, there⟩
  refine ⟨place, ⟨?_, ⟨[], there⟩, ?_⟩, there⟩
  · apply FileSystem.Extends.locate (FileSystem.extends_set [] ?_) located
    intro found thereFound
    rw [there, Option.some.injEq] at thereFound
    exact thereFound.symm
  · intro name tree found
    rw [FileTree.at?_concat there] at found
    contradiction

theorem Ready.run (ready : Ready cloneRoot place files) (request : CloneRequest)
    (plain : IsPlain (entryName request.url)) :
    Ready cloneRoot place (request.run cloneRoot files) := by
  rcases ready.exists_clone plain request.cloning request.url with
    ⟨cleared, after, _, _, _, afterReady, _, failing, succeeding⟩
  rw [CloneRequest.run, fst_cloneAndLoad]
  rcases result : outcome request.cloning request.url (fits cloneRoot (entryName request.url))
    (latestCommit? cleared request.cloning request.url) with failure | copy
  · rw [failing failure result]
    exact afterReady
  · rw [(succeeding copy result).1]
    exact afterReady

/-- A clone leaves the folder of checkouts unmade, or makes it. -/
theorem Unmade.run (unmade : Unmade cloneRoot files) (request : CloneRequest)
    (plain : IsPlain (entryName request.url)) :
    Unmade cloneRoot (request.run cloneRoot files) ∨
      ∃ place, Ready cloneRoot place (request.run cloneRoot files) := by
  have missing : files.exists? (cloneRoot.entry (entryName request.url)) = false := by
    rw [FileSystem.exists?]
    rcases found : files.find true (cloneRoot.entry (entryName request.url)) with fault | tree
    · rfl
    · rcases FileSystem.orHere_join_of_find found (Path.isAbsolute_of_isPlain plain) with
        ⟨_, foundRoot⟩
      rcases FileSystem.exists_place_of_find foundRoot with ⟨place, located, _⟩
      exact absurd located (unmade.nowhere place)
  rw [CloneRequest.run, fst_cloneAndLoad, Documents.clone, clearAway, missing]
  simp only [Bool.false_eq_true, if_false]
  rw [Path.parent?_entry plain, Option.getD_some]
  rcases makes : files.makeFolders cloneRoot.trimmed with fault | made
  · exact .inl unmade
  · right
    rcases exists_ready_of_bare (unmade.bare made makes) with ⟨place, madeReady, there⟩
    have vacant : made.root.at? (place ++ [entryName request.url]) = none := by
      rw [FileTree.at?_concat there]
      rfl
    rcases madeReady.exists_runClone plain (fun _ => vacant) request.cloning request.url with
      ⟨after, afterReady, _, failing, succeeding⟩
    refine ⟨place, ?_⟩
    rcases result : outcome request.cloning request.url (fits cloneRoot (entryName request.url))
      (latestCommit? made request.cloning request.url) with failure | copy
    · simp only [failing failure result]
      exact afterReady
    · simp only [(succeeding copy result).1]
      exact afterReady

theorem Ready.of_sameCheckouts (ready : Ready cloneRoot place files)
    (same : SameCheckouts cloneRoot files after) : Ready cloneRoot place after := by
  rcases same with ⟨other, located, there, alone⟩
  cases ready.located.symm.trans located
  refine ⟨alone, ?_, ?_⟩
  · rw [there]
    exact ready.folder
  · intro name tree found
    rw [FileTree.at?_append, there, ← FileTree.at?_append] at found
    exact ready.checkouts name tree found

/-- After any number of clones the folder of checkouts is ready for the next, or not made yet. -/
theorem FromEmpty.ready_or_unmade (history : FromEmpty cloneRoot files) :
    (∃ place, Ready cloneRoot place files) ∨ Unmade cloneRoot files := by
  induction history with
  | empty bare =>
      rcases exists_ready_of_bare bare with ⟨place, ready, _⟩
      exact .inl ⟨place, ready⟩
  | unmade unmade => exact .inr unmade
  | clone before request plain ih =>
      rcases ih with ⟨place, ready⟩ | unmade
      · exact .inl ⟨place, ready.run request plain⟩
      · exact (unmade.run request plain).symm
  | change before same ih =>
      rcases ih with ⟨place, ready⟩ | unmade
      · exact .inl ⟨place, ready.of_sameCheckouts same⟩
      · rcases same with ⟨place, located, _⟩
        exact absurd located (unmade.nowhere place)

/-- A folder of checkouts with a single checkout in it. -/
def withCheckout (files : FileSystem) (place : List Name) (name : Name) (copy : FileTree) :
    FileSystem :=
  files.set place (some (.folder [(name, copy)]))

theorem Ready.at?_withCheckout (ready : Ready cloneRoot place files) (name other : Name)
    (copy : FileTree) : (withCheckout files place name copy).root.at? (place ++ [other]) =
      if other == name then some copy else none := by
  rcases ready.folder with ⟨entries, folder⟩
  rw [withCheckout, FileSystem.set, FileTree.at?_concat (FileTree.at?_set_self _ folder),
    FileTree.child?, FileTree.entries, List.lookup_cons, List.lookup_nil]
  rcases other == name with _ | _
  · rfl
  · rfl

theorem Ready.ready_withCheckout (ready : Ready cloneRoot place files) (name : Name)
    (entries : List (Name × FileTree)) :
    Ready cloneRoot place (withCheckout files place name (.folder entries)) := by
  rcases ready.folder with ⟨others, folder⟩
  refine ready.of_agreeApart (FileSystem.agreeApart_set _ place files)
    ⟨_, FileTree.at?_set_self _ folder⟩ ?_
  intro other tree found
  rw [ready.at?_withCheckout] at found
  split at found
  · exact ⟨entries, (Option.some.inj found).symm⟩
  · contradiction

theorem Ready.withCheckout_extends (ready : Ready cloneRoot place files)
    (agree : files.AgreeApart place after) (there : after.root.at? (place ++ [name]) = some tree) :
    (withCheckout files place name tree).Extends after := by
  have apart := (FileSystem.agreeApart_set (some (.folder [(name, tree)])) place files).symm.trans
    agree
  refine ⟨apart.working, ?_⟩
  intro names found thereFound
  by_cases inside : place <+: names
  · rcases inside with ⟨later, rfl⟩
    rcases later with _ | ⟨other, later⟩
    · rcases ready.folder with ⟨entries, folder⟩
      rcases FileTree.exists_folder_of_at?_concat there with ⟨others, folderAfter⟩
      rw [List.append_nil, withCheckout, FileSystem.set,
        FileTree.at?_set_self _ folder, Option.some.injEq] at thereFound
      rw [List.append_nil]
      exact ⟨_, folderAfter, .inr ⟨_, others, thereFound.symm, rfl⟩⟩
    · rw [← List.singleton_append, ← List.append_assoc, FileTree.at?_append,
        ready.at?_withCheckout] at thereFound
      split at thereFound
      · rename_i same
        rw [eq_of_beq same, ← List.singleton_append, ← List.append_assoc, FileTree.at?_append,
          there]
        exact ⟨found, thereFound, .inl rfl⟩
      · contradiction
  · exact apart.trees.exists_persists inside thereFound

/-- What a request is answered with: the chunks of the documents, or why there are none. -/
def CloneRequest.answer (cloneRoot : Path) (files : FileSystem) (request : CloneRequest) :
    Except Error (List Chunk) :=
  (cloneAndLoad files request.cloning cloneRoot request.limits request.url request.docsPath).2

/-- The answer to a request as the latest commit determines it. -/
def answerOf (cloneRoot : Path) (place : List Name) (files : FileSystem) (request : CloneRequest)
    (latest? : Option FileTree) : Except Error (List Chunk) :=
  let name := entryName request.url
  match outcome request.cloning request.url (fits cloneRoot name) latest? with
  | .error failure => .error (.clone request.url failure.message)
  | .ok copy =>
    loadDocs (withCheckout files place name copy) request.limits request.url (cloneRoot.entry name)
      request.docsPath

/-- What a clone answers does not depend on what is in the folder of checkouts. -/
theorem Ready.answer_eq {request : CloneRequest} {latest? : Option FileTree}
    (ready : Ready cloneRoot place files) (readyOther : Ready cloneRoot place others)
    (agree : others.AgreeApart place files) (plain : IsPlain (entryName request.url))
    (latest : ∀ cleared, Ready cloneRoot place cleared → files.AgreeApart place cleared →
      cleared.Extends files → latestCommit? cleared request.cloning request.url = latest?)
    (proper : ∀ commit, latest? = some commit → (workingCopy commit).IsProper)
    (kept : ∀ commit, latest? = some commit →
      request.docsPath.isAbsolute = true ∨ (workingCopy commit).Confines request.docsPath) :
    request.answer cloneRoot files = answerOf cloneRoot place others request latest? := by
  rcases ready.exists_clone plain request.cloning request.url with
    ⟨cleared, after, clearedReady, agreeCleared, extended, _, agreeAfter, failing, succeeding⟩
  have isPrefix : place <+: place ++ [entryName request.url] := List.prefix_append _ _
  rw [latest cleared clearedReady (agreeCleared.around isPrefix) extended] at failing succeeding
  rw [answerOf, CloneRequest.answer]
  rcases result : outcome request.cloning request.url (fits cloneRoot (entryName request.url))
    latest? with failure | copy
  · rw [cloneAndLoad_of_error _ _ (failing failure result)]
  · rcases succeeding copy result with ⟨clones, there⟩
    rcases exists_of_outcome_eq_ok result with ⟨commit, isLatest, rfl, free⟩
    -- What comes of the clone has whatever there is when the checkout is alone in its folder.
    have thereAlone : (withCheckout others place (entryName request.url)
        (workingCopy commit)).root.at? (place ++ [entryName request.url]) =
          some (workingCopy commit) := by
      rw [readyOther.at?_withCheckout, beq_self_eq_true, if_pos rfl]
    have located : (withCheckout others place (entryName request.url)
        (workingCopy commit)).locate true (cloneRoot.entry (entryName request.url)) =
          .ok (place ++ [entryName request.url]) := by
      rw [fits, Option.isNone_iff_eq_none] at free
      have aloneReady := readyOther.ready_withCheckout (entryName request.url)
        (commit.entries ++ [(administrationName, .repository commit)])
      rw [← workingCopy] at aloneReady
      rw [aloneReady.locate_entry plain, free, thereAlone]
    have extendedAlone := readyOther.withCheckout_extends
      (agree.trans (agreeAfter.around isPrefix)) there
    rw [cloneAndLoad_of_ok _ _ clones]
    exact loadDocs_congr extendedAlone located thereAlone there (proper commit isLatest)
      (kept commit isLatest) request.limits request.url

/--
Whatever clones have gone before, a clone answers as if the folder of checkouts was empty: no file
of another checkout gets into its chunks, and no failure before makes it fail. The path of the
documents has to keep to the checkout.
-/
theorem clones_forget (history : FromEmpty cloneRoot files) (request : CloneRequest)
    (plain : IsPlain (entryName request.url)) (outside : LiesOutside cloneRoot files request)
    (proper : ∀ commit, latestCommit? files request.cloning request.url = some commit →
      (workingCopy commit).IsProper)
    (kept : ∀ commit, latestCommit? files request.cloning request.url = some commit →
      request.docsPath.isAbsolute = true ∨ (workingCopy commit).Confines request.docsPath) :
    request.answer cloneRoot files = request.answer cloneRoot (emptied cloneRoot files) := by
  rcases history.ready_or_unmade with ⟨place, ready⟩ | unmade
  · have emptied_eq := ready.emptied_eq
    have agree : files.AgreeApart place (emptied cloneRoot files) := by
      rw [emptied_eq]
      exact FileSystem.agreeApart_set _ place files
    have emptiedReady := ready.emptied
    have extendedEmptied := ready.extends_of_agreeApart (.refl place files) ready
    rw [← emptied_eq] at extendedEmptied
    -- Whatever the first clearing takes away, the repository is found as it is found before.
    have latest : ∀ cleared, Ready cloneRoot place cleared → files.AgreeApart place cleared →
        cleared.Extends files → latestCommit? cleared request.cloning request.url =
          latestCommit? files request.cloning request.url := by
      intro cleared clearedReady agreeCleared extended
      apply latestCommit?_of_extends outside extended
      rw [emptied_eq]
      exact ready.extends_of_agreeApart agreeCleared clearedReady
    have answers := ready.answer_eq ready (.refl place files) plain latest proper kept
    have answersEmptied := emptiedReady.answer_eq ready agree plain
      (fun cleared clearedReady agreeCleared extended => latest cleared clearedReady
        (agree.trans agreeCleared) (extended.trans extendedEmptied)) proper kept
    exact answers.trans answersEmptied.symm
  · rw [emptied]
    rcases located : files.locate true cloneRoot.orHere with fault | place
    · rfl
    · exact absurd located (unmade.nowhere place)

/-- Two repositories, and a folder of checkouts beside them. -/
def upstreams (first second : FileTree) (checkouts : List (Name × FileTree)) : FileSystem :=
  ⟨.folder [(Utf8.ofString "up", .folder
      [(Utf8.ofString "a", workingCopy first), (Utf8.ofString "b", workingCopy second)]),
    (Utf8.ofString "clones", .folder checkouts)], []⟩

/-- The folder of checkouts. -/
def besideUpstreams : Path := .ofString "clones"

theorem locate_upstreams (first second : FileTree) (checkouts : List (Name × FileTree)) :
    (upstreams first second checkouts).locate true besideUpstreams.orHere =
      .ok [Utf8.ofString "clones"] := by
  cbv

theorem emptied_upstreams (first second : FileTree) (checkouts : List (Name × FileTree)) :
    emptied besideUpstreams (upstreams first second checkouts) = upstreams first second [] := by
  rw [emptied, locate_upstreams]
  rfl

theorem fromEmpty_upstreams (first second : FileTree) :
    FromEmpty besideUpstreams (upstreams first second []) := by
  apply FromEmpty.empty
  rw [FileSystem.find, locate_upstreams]
  rfl

/-- A repository with one document. -/
def singleDocument (name : String) : FileTree :=
  .folder [(Utf8.ofString name, .file (Utf8.ofString "A"))]

/-- A folder with a link to the checkout of the other repository. -/
def linkToOther : FileTree := .folder [(Utf8.ofString "docs", .link (.ofString "../a"))]

/-- The entry that a clone makes in the folder of checkouts. -/
def checkoutAs (name : String) (commit : FileTree) : Name × FileTree :=
  (Utf8.ofString name, workingCopy commit)

/-- A request for a repository at a local path, under the limits by default. -/
def localRequest (url docsPath : String) : CloneRequest :=
  ⟨⟨true, id⟩, ⟨1000, 200⟩, url, .ofString docsPath⟩

theorem clone_first {first second : FileTree}
    (latest : latestCommit? (upstreams first second []) ⟨true, id⟩ "up/a" = some first) :
    clone (upstreams first second []) ⟨true, id⟩ "up/a"
        (besideUpstreams.entry (Utf8.ofString "a")) =
      (upstreams first second [checkoutAs "a" first], .ok ()) := by
  have clears : clearAway (upstreams first second [])
      (besideUpstreams.entry (Utf8.ofString "a")) = (upstreams first second [], .ok ()) := by cbv
  have makes : (upstreams first second []).makeFolders
      ((besideUpstreams.entry (Utf8.ofString "a")).parent?.getD ⟨[]⟩) =
        .ok (upstreams first second []) := by cbv
  exact clone_of_free (by decide) rfl (by decide) clears makes latest (by cbv) (by cbv)

theorem run_first (docsPath : String) :
    (localRequest "up/a" docsPath).run besideUpstreams
        (upstreams (singleDocument "a.md") linkToOther []) =
      upstreams (singleDocument "a.md") linkToOther [checkoutAs "a" (singleDocument "a.md")] := by
  have named : entryName "up/a" = Utf8.ofString "a" := by decide
  rw [CloneRequest.run, fst_cloneAndLoad, localRequest, named, clone_first (by cbv)]

theorem answer_localRequest {url : String} {name : Name} (named : entryName url = name)
    (cloned : clone files ⟨true, id⟩ url (besideUpstreams.entry name) = (after, .ok ()))
    (docsPath : String) :
    (localRequest url docsPath).answer besideUpstreams files =
      loadDocs after ⟨1000, 200⟩ url (besideUpstreams.entry name) (.ofString docsPath) := by
  rw [← named] at cloned ⊢
  rw [CloneRequest.answer, localRequest, cloneAndLoad_of_ok _ _ cloned]

theorem isProper_workingCopy {name : Name} {tree : FileTree} (proper : tree.IsProper)
    (plain : IsPlain name) (other : name ≠ administrationName) :
    (workingCopy (.folder [(name, tree)])).IsProper := by
  have administration : (FileTree.folder
      [(administrationName, .repository (.folder [(name, tree)]))]).IsProper :=
    .cons (.repository _) (by decide) List.not_mem_nil FileTree.isProper_emptyFolder
  exact .cons proper plain (by simpa using other) administration

/-- The new document alone is loaded when a repository has got a commit since it was cloned. -/
theorem clones_forget_old_commit :
    (localRequest "up/a" ".").answer besideUpstreams
        (upstreams (singleDocument "b.md") linkToOther [checkoutAs "a" (singleDocument "a.md")]) =
      .ok (Chunk.ofPieces "up/a" "b.md" ["A"]) := by
  let request := localRequest "up/a" "."
  let files := upstreams (singleDocument "b.md") linkToOther
    [checkoutAs "a" (singleDocument "a.md")]
  have named : entryName "up/a" = Utf8.ofString "a" := by decide
  have plain : IsPlain (entryName "up/a") := by
    rw [named]
    decide
  have history : FromEmpty besideUpstreams files := by
    apply FromEmpty.change (.clone (fromEmpty_upstreams _ _) request plain)
    rw [run_first]
    exact ⟨_, locate_upstreams _ _ _, rfl, locate_upstreams _ _ []⟩
  have emptied_eq := emptied_upstreams (singleDocument "b.md") linkToOther
    [checkoutAs "a" (singleDocument "a.md")]
  have latest : latestCommit? files ⟨true, id⟩ "up/a" = some (singleDocument "b.md") := by cbv
  have outside : LiesOutside besideUpstreams files request := by
    intro suffix member commit found
    rw [administrationSuffixes] at member
    rw [emptied_eq, ← found]
    simp only [List.mem_cons, List.not_mem_nil, or_false] at member
    rcases member with rfl | rfl | rfl | rfl
    · cbv
    · cbv
    · cbv
    · cbv
  have fresh : request.answer besideUpstreams (emptied besideUpstreams files) =
      .ok (Chunk.ofPieces "up/a" "b.md" ["A"]) := by
    let alone := upstreams (singleDocument "b.md") linkToOther
      [checkoutAs "a" (singleDocument "b.md")]
    have listed : listMarkdown alone ((besideUpstreams.entry (Utf8.ofString "a")).join
        (.ofString ".")) = .ok [.ofString "clones/a/./b.md"] := by cbv
    have read : alone.readText (.ofString "clones/a/./b.md") = .ok ['A'] := by cbv
    have loaded : loadDocs alone ⟨1000, 200⟩ "up/a" (besideUpstreams.entry (Utf8.ofString "a"))
        (.ofString ".") = .ok (Chunk.ofPieces "up/a" "b.md" ["A"]) :=
      loadDocs_of_single rfl (by cbv) listed (by cbv) read pieces_of_letter
    rw [emptied_eq]
    exact (answer_localRequest named (clone_first (by cbv)) ".").trans loaded
  refine (clones_forget history request plain outside ?_ ?_).trans fresh
  · intro commit isLatest
    cases latest.symm.trans isLatest
    exact isProper_workingCopy (.file _) (by decide) (by decide)
  · intro commit isLatest
    right
    have names_eq : request.docsPath.names = [] := by decide
    apply FileTree.confines_of_noLinkOn
    · rw [names_eq]
      exact FileTree.noLinkOn_of_at? rfl (by simp [workingCopy])
    · rw [names_eq]
      exact List.not_mem_nil

theorem clone_second {first second : FileTree} {checkouts : List (Name × FileTree)}
    (latest : latestCommit? (upstreams first second checkouts) ⟨true, id⟩ "up/b" = some second)
    (history : checkouts = [] ∨ checkouts = [checkoutAs "a" first]) :
    clone (upstreams first second checkouts) ⟨true, id⟩ "up/b"
        (besideUpstreams.entry (Utf8.ofString "b")) =
      (upstreams first second (checkouts ++ [checkoutAs "b" second]), .ok ()) := by
  have makes : (upstreams first second checkouts).makeFolders
      ((besideUpstreams.entry (Utf8.ofString "b")).parent?.getD ⟨[]⟩) =
        .ok (upstreams first second checkouts) := by cbv
  have clears : clearAway (upstreams first second checkouts)
      (besideUpstreams.entry (Utf8.ofString "b")) =
        (upstreams first second checkouts, .ok ()) := by
    rcases history with rfl | rfl
    · cbv
    · cbv
  have free : isFree (upstreams first second checkouts)
      (besideUpstreams.entry (Utf8.ofString "b")) = true := by
    rcases history with rfl | rfl
    · cbv
    · cbv
  apply clone_of_free (by decide) rfl (by decide) clears makes latest free
  rcases history with rfl | rfl
  · cbv
  · cbv

/-- A document of another checkout is loaded when the path of the documents is a link to it. -/
theorem clone_reads_other_checkout :
    let request := localRequest "up/b" "docs"
    let files := upstreams (singleDocument "a.md") linkToOther
      [checkoutAs "a" (singleDocument "a.md")]
    FromEmpty besideUpstreams files ∧ IsPlain (entryName request.url) ∧
      LiesOutside besideUpstreams files request ∧
      (∀ commit, latestCommit? files request.cloning request.url = some commit →
        (workingCopy commit).IsProper) ∧
      request.answer besideUpstreams files = .ok (Chunk.ofPieces "up/b" "docs/a.md" ["A"]) ∧
      request.answer besideUpstreams (emptied besideUpstreams files) =
        .error (.docsPathMissing "up/b" (.ofString "docs")) := by
  intro request files
  have named : entryName "up/b" = Utf8.ofString "b" := by decide
  have plainFirst : IsPlain (entryName "up/a") := by decide
  have history : FromEmpty besideUpstreams files := by
    have before := fromEmpty_upstreams (singleDocument "a.md") linkToOther
    have cloned := before.clone (localRequest "up/a" ".") plainFirst
    rw [run_first] at cloned
    exact cloned
  have emptied_eq := emptied_upstreams (singleDocument "a.md") linkToOther
    [checkoutAs "a" (singleDocument "a.md")]
  have latest : latestCommit? files ⟨true, id⟩ "up/b" = some linkToOther := by cbv
  refine ⟨history, by decide, ?_, ?_, ?_, ?_⟩
  · intro suffix member commit found
    rw [administrationSuffixes] at member
    rw [emptied_eq, ← found]
    simp only [List.mem_cons, List.not_mem_nil, or_false] at member
    rcases member with rfl | rfl | rfl | rfl
    · cbv
    · cbv
    · cbv
    · cbv
  · intro commit isLatest
    cases latest.symm.trans isLatest
    exact isProper_workingCopy (.link _) (by decide) (by decide)
  · let both := upstreams (singleDocument "a.md") linkToOther
      [checkoutAs "a" (singleDocument "a.md"), checkoutAs "b" linkToOther]
    have listed : listMarkdown both ((besideUpstreams.entry (Utf8.ofString "b")).join
        (.ofString "docs")) = .ok [.ofString "clones/b/docs/a.md"] := by cbv
    have read : both.readText (.ofString "clones/b/docs/a.md") = .ok ['A'] := by cbv
    have loaded : loadDocs both ⟨1000, 200⟩ "up/b" (besideUpstreams.entry (Utf8.ofString "b"))
        (.ofString "docs") = .ok (Chunk.ofPieces "up/b" "docs/a.md" ["A"]) :=
      loadDocs_of_single rfl (by cbv) listed (by cbv) read pieces_of_letter
    exact (answer_localRequest named (clone_second latest (.inr rfl)) "docs").trans loaded
  · have missing : (upstreams (singleDocument "a.md") linkToOther
        [checkoutAs "b" linkToOther]).isFolder ((besideUpstreams.entry (Utf8.ofString "b")).join
          (.ofString "docs")) = false := by cbv
    rw [emptied_eq]
    refine (answer_localRequest named (clone_second (by cbv) (.inl rfl)) "docs").trans ?_
    rw [loadDocs, List.nil_append, missing]
    rfl

end DocIndex.Documents
