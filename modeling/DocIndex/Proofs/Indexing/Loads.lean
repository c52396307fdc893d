import DocIndex.Indexing.Standard
import DocIndex.Proofs.Documents.CloneHistory
import DocIndex.Proofs.Documents.Positions
import DocIndex.Proofs.Indexing.Protocol
import DocIndex.Proofs.Store.Build

/-!
# What a run loads

The chunks that a run loads come source by source and then from the help file, up to the first load
that fails. Every load keeps the names of all files text, so that the next one gives chunks with
different keys too. Where sources can be read off the keys, no two chunks of a run have the same.
Stored tables are no concern of a load, but the folder of a database may lie in a checkout.
-/

namespace DocIndex.Indexing

open DocIndex.Action DocIndex.Documents DocIndex.Files DocIndex.Split DocIndex.Store DocIndex.Text

variable {World Model Result Other Component Memory : Type}

/--
The loads of an action come under names in turn, up to where it breaks off. When it does not, the
world it leaves is as it should be.
-/
def LoadsInTurn (before after : World → Prop) (holds : String → List Chunk → Prop)
    (names : List String) (action : Action (Watched World) Result) : Prop :=
  ∀ session, before (bare session).world → ∃ replies reached,
    (action.run.run session).2.world.world.replies = session.world.world.replies ++ replies ∧
    reached <+: names ∧ List.Forall₂ holds reached (loadedOf replies) ∧
    ∀ value, (action.run.run session).1 = .ok value →
      reached = names ∧ after (bare (action.run.run session).2).world

/-- Work that succeeds gives chunks of a kind and leaves the world as it should be. -/
def Delivers (kept : World → Prop) (holds : List Chunk → Prop) (work : Action World (List Chunk)) :
    Prop :=
  ∀ world, kept world → ∃ result after, Yields work world result after ∧
    ∀ chunks, result = .ok chunks → holds chunks ∧ kept after

theorem yields_watched (call : Call) (reply : Result → Reply) {work : Action World Result}
    {world after : World} {result : Except Error Result} (yields : Yields work world result after)
    (replies : List Reply) (calls : List Call) :
    Yields (record call (hear reply work)) ⟨⟨world, replies⟩, calls⟩ result
      ⟨⟨after, replies ++ [Reply.of reply result]⟩, calls ++ [call]⟩ := by
  intro printed
  rcases yields printed with ⟨printedAfter, ran⟩
  have ranBare : work.run.run (bare ⟨⟨⟨world, replies⟩, calls⟩, printed⟩) =
      (result, ⟨after, printedAfter⟩) := ran
  refine ⟨printedAfter, ?_⟩
  rw [run_watched, ranBare]
  rfl

section InTurn

variable {before between after kept : World → Prop} {holds : String → List Chunk → Prop}
  {names more : List String}

theorem loadsInTurn_pure (value : Result) :
    LoadsInTurn kept kept holds [] (pure value : Action (Watched World) Result) :=
  fun _ keeps => ⟨[], [], (List.append_nil _).symm, List.nil_prefix, .nil, fun _ _ => ⟨rfl, keeps⟩⟩

theorem loadsInTurn_print_bind {next : Unit → Action (Watched World) Result} (line : String)
    (loads : LoadsInTurn before after holds names (next ())) :
    LoadsInTurn before after holds names (print line >>= next) :=
  fun session keeps => loads ⟨session.world, session.printed ++ [line]⟩ keeps

theorem loadsInTurn_watched {name : String} {work : Action World (List Chunk)} (call : Call)
    (delivers : Delivers kept (holds name) work) :
    LoadsInTurn kept kept holds [name] (record call (hear .loaded work)) := by
  rintro ⟨⟨⟨world, replies⟩, calls⟩, printed⟩ keeps
  rcases delivers world keeps with ⟨result, after, yields, gives⟩
  rcases yields_watched call .loaded yields replies calls printed with ⟨_, ran⟩
  rw [ran]
  rcases result with error | chunks
  · exact ⟨[.failed error], [], rfl, List.nil_prefix, .nil, fun _ succeeded => nomatch succeeded⟩
  · rcases gives chunks rfl with ⟨holdsChunks, keepsOn⟩
    exact ⟨[.loaded chunks], [name], rfl, List.prefix_refl _, .cons holdsChunks .nil,
      fun _ _ => ⟨rfl, keepsOn⟩⟩

theorem LoadsInTurn.bind {first : Action (Watched World) Result}
    {next : Result → Action (Watched World) Other}
    (begins : LoadsInTurn before between holds names first)
    (continues : ∀ value, LoadsInTurn between after holds more (next value)) :
    LoadsInTurn before after holds (names ++ more) (first >>= next) := by
  intro session keeps
  rcases begins session keeps with ⟨replies, reached, told, isPrefix, each, ends⟩
  have whole := run_bind first next session
  rcases ran : first.run.run session with ⟨error | value, later⟩
  · rw [ran] at whole told
    refine ⟨replies, reached, ?_, isPrefix.trans (List.prefix_append _ _), each, ?_⟩
    · rw [whole, told]
    · intro value succeeded
      rw [whole] at succeeded
      contradiction
  · rw [ran] at whole told ends
    rcases ends value rfl with ⟨rfl, keepsOn⟩
    rcases continues value later keepsOn with
      ⟨repliesOn, reachedOn, toldOn, isPrefixOn, eachOn, endsOn⟩
    refine ⟨replies ++ repliesOn, reached ++ reachedOn, ?_, ?_, ?_, ?_⟩
    · rw [whole, toldOn, told, List.append_assoc]
    · exact (List.prefix_append_right_inj _).mpr isPrefixOn
    · rw [loadedOf_append]
      exact List.rel_append each eachOn
    · intro other succeeded
      rw [whole] at succeeded ⊢
      rcases endsOn other succeeded with ⟨rfl, keepsAfter⟩
      exact ⟨rfl, keepsAfter⟩

variable {collaborators : Collaborators World Model} {config : Config}

theorem loadsInTurn_loadSources (limits : Limits) (sources : List Source)
    (loads : ∀ source ∈ sources,
      Delivers kept (holds source.url) (collaborators.loadSource source limits)) :
    LoadsInTurn kept kept holds (sources.map (·.url))
      (loadSources collaborators.heard.recorded limits sources) := by
  induction sources with
  | nil => exact loadsInTurn_pure []
  | cons source later ih =>
      rw [List.forall_mem_cons] at loads
      rw [loadSources]
      apply loadsInTurn_print_bind
      apply (loadsInTurn_watched (.loadSource source limits) loads.1).bind
      intro chunks
      apply loadsInTurn_print_bind
      rw [← List.append_nil (later.map (·.url))]
      exact (ih loads.2).bind fun others => loadsInTurn_pure _

theorem loadsInTurn_loadHelp
    (loads : Delivers kept (holds config.helpFile.text)
      (collaborators.loadFiles [config.helpFile] config.limits)) :
    LoadsInTurn kept kept holds [config.helpFile.text]
      (loadHelp collaborators.heard.recorded config) := by
  apply loadsInTurn_print_bind
  apply (loadsInTurn_watched (.loadFiles [config.helpFile] config.limits) loads).bind
  intro chunks
  exact loadsInTurn_print_bind _ (loadsInTurn_pure _)

/-- To build and to count loads nothing. -/
theorem loadsInTurn_buildAndCount (chunks : List Chunk) :
    LoadsInTurn kept (fun _ => True) holds []
      (buildAndCount collaborators.heard.recorded config chunks) := by
  intro session _
  -- Which calls are made does not depend on what is viewed, so a view of nothing gives them.
  have nothing : collaborators.Spares fun _ => () :=
    ⟨fun _ _ _ => rfl, fun _ _ _ => rfl, fun _ _ => rfl⟩
  rcases talks_buildAndCount nothing config chunks session with ⟨exchanges, adds, follows, _⟩
  refine ⟨exchanges.map (·.2), [], adds.replies, List.nil_prefix, ?_, fun _ _ => ⟨rfl, trivial⟩⟩
  rw [follows.loadedOf_eq_nil (by simp [Reply.answers])]
  exact .nil

theorem loadsInTurn_run
    (loadSource : ∀ source ∈ config.sources,
      Delivers kept (holds source.url) (collaborators.loadSource source config.limits))
    (loadHelp : Delivers kept (holds config.helpFile.text)
      (collaborators.loadFiles [config.helpFile] config.limits)) :
    LoadsInTurn kept (fun _ => True) holds (config.sources.map (·.url) ++ [config.helpFile.text])
      (run collaborators.heard.recorded config) := by
  apply loadsInTurn_print_bind
  apply loadsInTurn_print_bind
  apply (loadsInTurn_loadSources config.limits config.sources loadSource).bind
  intro sources
  apply (loadsInTurn_loadHelp loadHelp).bind
  intro help
  exact (loadsInTurn_buildAndCount _).bind fun verified => loadsInTurn_pure _

end InTurn

/-- Whether all names in the files of a workspace are text. -/
def HasLegibleFiles (workspace : Workspace Component Memory) : Prop :=
  IsLegible workspace.storage.files.root

theorem yields_cloneSource {cloning : Cloning} {cloneRoot : Path} {source : Source}
    {limits : Limits} {after : FileSystem} {result : Except Error (List Chunk)}
    (workspace : Workspace Component Memory)
    (cloned : cloneAndLoad workspace.storage.files cloning cloneRoot limits source.url
      source.docsPath = (after, result)) :
    Yields (cloneSource cloning cloneRoot source limits) workspace result
      { workspace with storage := { workspace.storage with files := after } } := by
  rw [cloneSource]
  exact Workspace.yields_onStorage (yields_change_of_eq (by simp only [cloned]))

theorem keeps_of_yields {View : Type} {view : World → View} {action : Action World Result}
    (yields : ∀ world, ∃ result after, Yields action world result after ∧
      view after = view world) : Keeps view action := by
  rintro ⟨world, printed⟩
  rcases yields world with ⟨result, after, ran, kept⟩
  rcases ran printed with ⟨printedAfter, ran⟩
  rw [ran]
  exact kept

theorem yields_readFiles (paths : List Path) (limits : Limits)
    (workspace : Workspace Component Memory) :
    Yields (readFiles paths limits) workspace
      (Documents.loadFiles workspace.storage.files limits paths) workspace :=
  Yields.bind (yields_world workspace) (yields_ofExcept workspace rfl)

theorem yields_findKeptModel (modelDir : Path) (name : String)
    (workspace : Workspace Component Memory) :
    Yields (findKeptModel modelDir name) workspace
      (DocIndex.Model.loadModel workspace.storage.files modelDir name) workspace :=
  Yields.bind (yields_world workspace) (yields_ofExcept workspace rfl)

theorem keeps_databases_cloneSource (cloning : Cloning) (cloneRoot : Path) (source : Source)
    (limits : Limits) :
    Keeps (fun workspace : Workspace Component Memory => workspace.storage.databases)
      (cloneSource cloning cloneRoot source limits) := by
  apply keeps_of_yields
  intro workspace
  rcases cloned : cloneAndLoad workspace.storage.files cloning cloneRoot limits source.url
    source.docsPath with ⟨after, result⟩
  exact ⟨result, _, yields_cloneSource workspace cloned, rfl⟩

/--
The loads of the command, and its search for models, leave the tables of all databases alone. What
becomes of tables whose folder a clone takes away shows when it is connected to the folder again.
-/
theorem spares_databases (cloning : Cloning) (cloneRoot modelDir : Path)
    (start : DocIndex.Model.KeptModel → Embedder Memory Component) :
    (standard cloning cloneRoot modelDir start).Spares fun workspace =>
      workspace.storage.databases where
  loadSource := keeps_databases_cloneSource cloning cloneRoot
  loadFiles paths limits :=
    keeps_of_yields fun workspace => ⟨_, _, yields_readFiles paths limits workspace, rfl⟩
  findModel name :=
    keeps_of_yields fun workspace => ⟨_, _, yields_findKeptModel modelDir name workspace, rfl⟩

/--
A clone takes away what lies in the place of its checkout. A folder of collections that is gone then
shows no rows when it is connected to, and any other shows what its place had before the clone.
-/
theorem rowsAt_cloneSource {cloning : Cloning} {cloneRoot folder : Path} {source : Source}
    {limits : Limits} {before after : Workspace Component Memory} {place : List Name}
    {result : Except Error (List Chunk)} {connected : Storage Component}
    (cloned : Yields (cloneSource cloning cloneRoot source limits) before result after)
    (connects : Yields (Storage.connect folder) after.storage (.ok place) connected)
    (collection : String) :
    after.storage.rowsAt folder collection =
      if after.storage.files.root.at? place = none then []
      else (before.storage.database place).rowsOf collection := by
  rcases made : cloneAndLoad before.storage.files cloning cloneRoot limits source.url
    source.docsPath with ⟨files, loaded⟩
  rcases cloned.unique (yields_cloneSource before made) with ⟨_, rfl⟩
  exact Storage.rowsAt_of_place connects collection

theorem delivers_cloneSource (cloning : Cloning) {cloneRoot : Path}
    (legiblePath : IsLegiblePath cloneRoot) (source : Source) (limits : Limits) :
    Delivers HasLegibleFiles (Chunk.ComeFrom source.url)
      (cloneSource cloning cloneRoot source limits :
        Action (Workspace Component Memory) (List Chunk)) := by
  intro workspace legible
  rcases cloned : clone workspace.storage.files cloning source.url
      (cloneRoot.entry (entryName source.url)) with ⟨after, error | ⟨⟩⟩
  · refine ⟨_, _, yields_cloneSource workspace (cloneAndLoad_of_error _ _ cloned), ?_⟩
    intro chunks loaded
    cases loaded
  · refine ⟨_, _, yields_cloneSource workspace (cloneAndLoad_of_ok _ _ cloned), ?_⟩
    intro chunks loaded
    have legiblePath := legiblePath.join (isLegiblePath_entryName source.url)
    have legibleAfter := IsLegible.clone legible legiblePath cloned
    exact ⟨comeFrom_of_loadDocs legibleAfter loaded, legibleAfter⟩

theorem delivers_readFiles (file : Path) (limits : Limits) :
    Delivers HasLegibleFiles (Chunk.ComeFrom file.text)
      (readFiles [file] limits : Action (Workspace Component Memory) (List Chunk)) := by
  intro workspace legible
  refine ⟨_, workspace, yields_readFiles [file] limits workspace, ?_⟩
  intro chunks loaded
  rcases exists_groups_of_loadEach loaded with ⟨groups, rfl, each⟩
  cases each with
  | cons loads rest =>
      cases rest
      rcases exists_of_loadFile loads with ⟨_, _, pieces, _, _, _, rfl⟩
      rw [List.flatten_singleton]
      exact ⟨Chunk.comeFrom_ofPieces _ _ pieces, legible⟩

/-- The loads of a run are those of its sources and the help file, as far as it gets. -/
theorem exists_names_of_runWatched (kept : World → Prop) (holds : String → List Chunk → Prop)
    (collaborators : Collaborators World Model) (config : Config) {world : World}
    (loadSource : ∀ source limits,
      Delivers kept (holds source.url) (collaborators.loadSource source limits))
    (loadFile : ∀ file limits,
      Delivers kept (holds file.text) (collaborators.loadFiles [file] limits))
    (keeps : kept world) :
    ∃ names, names <+: config.sources.map (·.url) ++ [config.helpFile.text] ∧
      List.Forall₂ holds names
        (loadedOf (runWatched collaborators config world).2.world.world.replies) := by
  rcases loadsInTurn_run (fun source _ => loadSource source config.limits)
      (loadFile config.helpFile config.limits) ⟨⟨⟨world, []⟩, []⟩, []⟩ keeps with
    ⟨replies, names, told, isPrefix, each, _⟩
  have replies_eq : (runWatched collaborators config world).2.world.world.replies = replies := told
  rw [replies_eq]
  exact ⟨names, isPrefix, each⟩

/--
Chunks that are loaded under different names, each with different keys, have different keys
altogether if their paths have no `#`.
-/
theorem nodup_keys_of_comeFrom {names : List String} {groups : List (List Chunk)}
    (each : List.Forall₂ Chunk.ComeFrom names groups) (distinct : names.Nodup)
    (free : ∀ chunk ∈ groups.flatten, '#' ∉ chunk.metadata.path.toList) :
    (Chunk.keys groups.flatten).Nodup := by
  apply Chunk.nodup_keys_flatten each distinct
  · intro group member
    rcases exists_of_forall₂_of_mem each member with ⟨name, _, comes⟩
    exact comes.distinct
  · intro name _ other _ different group inGroups next nextInGroups comes comesToo
      chunk inGroup further inNext same
    have sources := Metadata.source_of_key (free chunk (List.mem_flatten_of_mem inGroups inGroup))
      (free further (List.mem_flatten_of_mem nextInGroups inNext)) same
    rw [comes.source_eq chunk inGroup, comesToo.source_eq further inNext] at sources
    exact different sources

/--
Where all names of files are text, those on the way to the checkouts among them, no two chunks that
a run loads have the same key, from which their identifiers are made, if the addresses and the path
of the help file are different and no path of a chunk has a `#`. The chunks of one folder have
different keys whatever stands in their paths and the address.
-/
theorem nodup_keys_of_run (cloning : Cloning) (cloneRoot : Path)
    (findModel : String → Action (Workspace Component Memory) Model)
    (build : String → Model → List Chunk → Path →
      Action (Workspace Component Memory) (Action (Workspace Component Memory) (Option Nat)))
    (config : Config) (workspace : Workspace Component Memory)
    (legible : HasLegibleFiles workspace) (legiblePath : IsLegiblePath cloneRoot) :
    let loaders := ⟨cloneSource cloning cloneRoot, readFiles, findModel, build⟩
    let watched := runWatched loaders config workspace
    let chunks := (loadedOf watched.2.world.world.replies).flatten
    (∀ chunk ∈ chunks, chunk.id = chunk.metadata.id) ∧
      ((config.sources.map (·.url) ++ [config.helpFile.text]).Nodup →
        (∀ chunk ∈ chunks, '#' ∉ chunk.metadata.path.toList) → (Chunk.keys chunks).Nodup) ∧
      ∀ files limits url checkout docsPath loaded, IsLegible files.root →
        loadDocs files limits url checkout docsPath = .ok loaded →
          (∀ chunk ∈ loaded, chunk.id = chunk.metadata.id) ∧ (Chunk.keys loaded).Nodup := by
  intro loaders watched chunks
  have loadSource (source : Source) (limits : Limits) :
      Delivers HasLegibleFiles (Chunk.ComeFrom source.url) (loaders.loadSource source limits) :=
    delivers_cloneSource cloning legiblePath source limits
  have loadFile (file : Path) (limits : Limits) :
      Delivers HasLegibleFiles (Chunk.ComeFrom file.text) (loaders.loadFiles [file] limits) :=
    delivers_readFiles file limits
  rcases exists_names_of_runWatched HasLegibleFiles Chunk.ComeFrom loaders config loadSource
      loadFile legible with ⟨names, isPrefix, each⟩
  refine ⟨?_, ?_, ?_⟩
  · intro chunk member
    rcases List.mem_flatten.mp member with ⟨group, inGroups, inGroup⟩
    rcases exists_of_forall₂_of_mem each inGroups with ⟨name, _, comes⟩
    exact comes.id_eq chunk inGroup
  · intro distinct free
    exact nodup_keys_of_comeFrom each (distinct.sublist isPrefix.sublist) free
  · intro files limits url checkout docsPath loaded legibleFiles succeeded
    have comes := comeFrom_of_loadDocs legibleFiles succeeded
    exact ⟨comes.id_eq, comes.distinct⟩

/-- A repository with one document and a place for checkouts. -/
def besideOneDocument : FileSystem := upstreams (singleDocument "a.md") .emptyFolder []

/-- A workspace with files in which nothing is stored. -/
def workspaceWith (files : FileSystem) : Workspace Nat Unit := ⟨⟨files, []⟩, ()⟩

/-- Collaborators that clone into the place beside the repositories, and know no model. -/
def loadersBeside : Collaborators (Workspace Nat Unit) Unit where
  loadSource := cloneSource ⟨true, id⟩ besideUpstreams
  loadFiles := readFiles
  findModel name := throw (.unknownModel name)
  build _ _ _ _ := pure (pure none)

theorem isLegible_besideOneDocument : IsLegible besideOneDocument.root := by
  have document : IsLegible (singleDocument "a.md") :=
    .cons (.file _) (isLegibleName_ofString (by decide)) List.not_mem_nil isLegible_emptyFolder
  have copy : IsLegible (workingCopy (singleDocument "a.md")) :=
    (IsLegible.repository document (by decide)).workingCopy
  have emptyCopy : IsLegible (workingCopy .emptyFolder) :=
    (IsLegible.repository isLegible_emptyFolder (by decide)).workingCopy
  have repositories : IsLegible (.folder [(Utf8.ofString "a", workingCopy (singleDocument "a.md")),
      (Utf8.ofString "b", workingCopy .emptyFolder)]) :=
    copy.cons (isLegibleName_ofString (by decide)) (by decide)
      (emptyCopy.cons (isLegibleName_ofString (by decide)) List.not_mem_nil isLegible_emptyFolder)
  exact repositories.cons (isLegibleName_ofString (by decide)) (by decide)
    (isLegible_emptyFolder.cons (isLegibleName_ofString (by decide)) List.not_mem_nil
      isLegible_emptyFolder)

theorem isLegiblePath_besideUpstreams : IsLegiblePath besideUpstreams := by
  intro segment member
  have segments : segmentsOf besideUpstreams.bytes = [Utf8.ofString "clones"] := by cbv
  rw [segments, List.mem_singleton] at member
  exact ⟨_, member.symm⟩

/-- The document of a repository, and the same file as the help file. -/
def configBeside : Config :=
  { Config.standard with
    sources := [⟨"up/a", .ofString "."⟩]
    helpFile := .ofString "up/a/a.md" }

theorem yields_cloneSource_beside :
    Yields (cloneSource ⟨true, id⟩ besideUpstreams ⟨"up/a", .ofString "."⟩ ⟨1000, 200⟩)
      (workspaceWith besideOneDocument) (.ok (Chunk.ofPieces "up/a" "a.md" ["A"]))
      (workspaceWith (upstreams (singleDocument "a.md") .emptyFolder
        [checkoutAs "a" (singleDocument "a.md")])) := by
  let after := upstreams (singleDocument "a.md") .emptyFolder
    [checkoutAs "a" (singleDocument "a.md")]
  have named : entryName "up/a" = Utf8.ofString "a" := by decide
  have listed : listMarkdown after ((besideUpstreams.entry (Utf8.ofString "a")).join
      (.ofString ".")) = .ok [.ofString "clones/a/./a.md"] := by cbv
  have read : after.readText (.ofString "clones/a/./a.md") = .ok ['A'] := by cbv
  have loaded : loadDocs after ⟨1000, 200⟩ "up/a" (besideUpstreams.entry (Utf8.ofString "a"))
      (.ofString ".") = .ok (Chunk.ofPieces "up/a" "a.md" ["A"]) :=
    loadDocs_of_single rfl (by cbv) listed (by cbv) read pieces_of_letter
  have cloned : cloneAndLoad besideOneDocument ⟨true, id⟩ besideUpstreams ⟨1000, 200⟩ "up/a"
      (.ofString ".") = (after, .ok (Chunk.ofPieces "up/a" "a.md" ["A"])) := by
    rw [cloneAndLoad_of_ok _ _ (named.symm ▸ clone_first (by cbv)), named, loaded]
  exact yields_cloneSource (workspaceWith besideOneDocument) cloned

theorem yields_readFiles_beside (files : FileSystem)
    (read : files.readText (.ofString "up/a/a.md") = .ok ['A']) :
    Yields (readFiles [.ofString "up/a/a.md"] ⟨1000, 200⟩) (workspaceWith files)
      (.ok (Chunk.ofPieces "up/a/a.md" "a.md" ["A"])) (workspaceWith files) := by
  have markdown : TextKind.ofPath (.ofString "up/a/a.md") = .markdown := by cbv
  have shown : (Path.ofString "up/a/a.md").text = "up/a/a.md" := by cbv
  have named : Utf8.toStringLossy ((Path.ofString "up/a/a.md").fileName?.getD []) = "a.md" := by
    cbv
  have loaded : loadFiles files ⟨1000, 200⟩ [.ofString "up/a/a.md"] =
      .ok (Chunk.ofPieces "up/a/a.md" "a.md" ["A"]) := by
    apply loadEach_of_single
    rw [markdown, shown, named]
    exact loadFile_of_pieces read pieces_of_letter
  exact Yields.bind (yields_world _) (yields_ofExcept _ loaded)

/-- What is told in a run with one source that finds no model. -/
theorem replies_of_single {collaborators : Collaborators World Model} {config : Config}
    {source : Source} {world between after last : World} {chunks help : List Chunk} {error : Error}
    (single : config.sources = [source])
    (loads : Yields (collaborators.loadSource source config.limits) world (.ok chunks) between)
    (helps : Yields (collaborators.loadFiles [config.helpFile] config.limits) between (.ok help)
      after)
    (fails : Yields (collaborators.findModel config.model) after (.error error) last) :
    (runWatched collaborators config world).2.world.world.replies =
      [.loaded chunks, .loaded help, .failed error] := by
  have sourceLoads := yields_watched (.loadSource source config.limits) .loaded loads [] []
  have helpLoads := yields_watched (.loadFiles [config.helpFile] config.limits) .loaded helps
    [.loaded chunks] [.loadSource source config.limits]
  have searches := yields_watched (.findModel config.model) (fun _ => .found) fails
    [.loaded chunks, .loaded help]
    [.loadSource source config.limits, .loadFiles [config.helpFile] config.limits]
  have gathered : Yields (loadSources collaborators.heard.recorded config.limits config.sources)
      ⟨⟨world, []⟩, []⟩ (.ok [(source.url, chunks)])
      ⟨⟨between, [.loaded chunks]⟩, [.loadSource source config.limits]⟩ := by
    rw [single, loadSources]
    apply Yields.bind (yields_print _ _)
    apply Yields.bind sourceLoads
    apply Yields.bind (yields_print _ _)
    exact Yields.bind (yields_pure _ _) (yields_pure _ _)
  have helped : Yields (loadHelp collaborators.heard.recorded config)
      ⟨⟨between, [.loaded chunks]⟩, [.loadSource source config.limits]⟩
      (.ok (config.helpFile.text, help)) _ :=
    Yields.bind (yields_print _ _) (Yields.bind helpLoads
      (Yields.bind (yields_print _ _) (yields_pure _ _)))
  have ends : Yields (run collaborators.heard.recorded config) ⟨⟨world, []⟩, []⟩ (.error error)
      ⟨⟨last, [.loaded chunks, .loaded help, .failed error]⟩,
        [.loadSource source config.limits, .loadFiles [config.helpFile] config.limits,
          .findModel config.model]⟩ := by
    rw [run]
    apply Yields.bind (yields_print _ _)
    apply Yields.bind (yields_print _ _)
    apply Yields.bind gathered
    apply Yields.bind helped
    apply Yields.bind_error
    rw [buildAndCount]
    apply Yields.bind (yields_print _ _)
    apply Yields.bind (yields_print _ _)
    exact Yields.bind_error _ searches
  rw [runWatched, ends.world_runOn]

theorem replies_beside :
    let watched := runWatched loadersBeside configBeside (workspaceWith besideOneDocument)
    watched.2.world.world.replies =
      [.loaded (Chunk.ofPieces "up/a" "a.md" ["A"]),
        .loaded (Chunk.ofPieces "up/a/a.md" "a.md" ["A"]),
        .failed (.unknownModel "qwen-small")] := by
  have read : (upstreams (singleDocument "a.md") .emptyFolder
      [checkoutAs "a" (singleDocument "a.md")]).readText (.ofString "up/a/a.md") = .ok ['A'] := by
    cbv
  exact replies_of_single rfl yields_cloneSource_beside (yields_readFiles_beside _ read)
    (yields_throw _ _)

/-- A document and the help file of the same name have different keys. -/
theorem nodup_keys_of_run_beside :
    let watched := runWatched loadersBeside configBeside (workspaceWith besideOneDocument)
    let chunks := (loadedOf watched.2.world.world.replies).flatten
    chunks = Chunk.ofPieces "up/a" "a.md" ["A"] ++ Chunk.ofPieces "up/a/a.md" "a.md" ["A"] ∧
      (Chunk.keys chunks).Nodup := by
  intro watched chunks
  have chunks_eq : chunks = Chunk.ofPieces "up/a" "a.md" ["A"] ++
      Chunk.ofPieces "up/a/a.md" "a.md" ["A"] := by
    have replies_eq : watched.2.world.world.replies = _ := replies_beside
    rw [show chunks = (loadedOf watched.2.world.world.replies).flatten from rfl, replies_eq]
    exact congrArg (Chunk.ofPieces "up/a" "a.md" ["A"] ++ ·) (List.append_nil _)
  rcases nodup_keys_of_run ⟨true, id⟩ besideUpstreams loadersBeside.findModel loadersBeside.build
      configBeside (workspaceWith besideOneDocument) isLegible_besideOneDocument
      isLegiblePath_besideUpstreams with ⟨_, distinct, _⟩
  have different :
      (configBeside.sources.map (·.url) ++ [configBeside.helpFile.text]).Nodup := by
    have text : configBeside.helpFile.text = "up/a/a.md" := by cbv
    rw [text]
    decide
  have free : ∀ chunk ∈ chunks, '#' ∉ chunk.metadata.path.toList := by
    rw [chunks_eq, List.forall_mem_append]
    constructor
    · intro chunk member
      rw [(Chunk.metadata_of_mem_ofPieces member).2]
      decide
    · intro chunk member
      rw [(Chunk.metadata_of_mem_ofPieces member).2]
      decide
  exact ⟨chunks_eq, distinct different free⟩

end DocIndex.Indexing
