import DocIndex.Indexing.Standard
import DocIndex.Proofs.Store.Build

/-!
# Attempts to index

The loaders and models of an attempt may give any results and errors, but leave the storage alone;
the collection is a stored one. Then all steps before the collection is written are requests, and an
attempt either leaves the rows of its collection or comes to those of its chunks with the vectors
that its model has given.
-/

namespace DocIndex.Indexing

open DocIndex.Action DocIndex.Embedding DocIndex.Files DocIndex.Split DocIndex.Store
open DocIndex.Store.Workspace

variable {Component Memory Result Other : Type} {folder : Path} {name : String}

/-- An action that is a request to those who have the memory, and leaves storage alone. -/
def Asks (action : Action (Workspace Component Memory) Result)
    (request : ExceptT Error (StateM Memory) Result) : Prop :=
  ∀ before, Yields action before (request.run.run before.memory).1
    { before with memory := (request.run.run before.memory).2 }

theorem asks_onMemory (request : ExceptT Error (StateM Memory) Result) :
    Asks (onMemory request : Action (Workspace Component Memory) Result) request :=
  yields_onMemory request

theorem asks_pure (value : Result) :
    Asks (pure value : Action (Workspace Component Memory) Result) (pure value) :=
  fun before => yields_pure before value

theorem asks_print (line : String) :
    Asks (print line : Action (Workspace Component Memory) Unit) (pure ()) :=
  fun before => yields_print before line

theorem Asks.bind {first : Action (Workspace Component Memory) Result}
    {next : Result → Action (Workspace Component Memory) Other}
    {request : ExceptT Error (StateM Memory) Result}
    {later : Result → ExceptT Error (StateM Memory) Other} (begins : Asks first request)
    (continues : ∀ value, Asks (next value) (later value)) :
    Asks (first >>= next) (request >>= later) := by
  intro before
  have yields := begins before
  rw [ExceptT.run_bind, StateT.run_bind]
  rcases answered : request.run.run before.memory with ⟨error | value, memory⟩
  · rw [answered] at yields
    exact Yields.bind_error next yields
  · rw [answered] at yields
    exact Yields.bind yields (continues value _)

/-- A request, and then an action that spares the rows of a collection whatever is answered. -/
theorem Asks.spares_bind {first : Action (Workspace Component Memory) Result}
    {next : Result → Action (Workspace Component Memory) Other}
    {request : ExceptT Error (StateM Memory) Result} {before : Workspace Component Memory}
    {done : Other → Workspace Component Memory → Prop} (begins : Asks first request)
    (continues : ∀ value memory, request.run.run before.memory = (.ok value, memory) →
      Spares folder name (next value) { before with memory } done) :
    Spares folder name (first >>= next) before done := by
  have yields := begins before
  rcases answered : request.run.run before.memory with ⟨error | value, memory⟩
  · rw [answered] at yields
    exact ⟨.error error, _, Yields.bind_error next yields, .of_error _ _⟩
  · rw [answered] at yields
    rcases continues value memory answered with ⟨result, after, ran, spares⟩
    exact ⟨result, after, Yields.bind yields ran, spares⟩

theorem spares_print_bind {next : Unit → Action (Workspace Component Memory) Result}
    {before : Workspace Component Memory} {done : Result → Workspace Component Memory → Prop}
    (line : String) (spares : Spares folder name (next ()) before done) :
    Spares folder name (print line >>= next) before done := by
  rcases spares with ⟨result, after, ran, spares⟩
  exact ⟨result, after, Yields.bind (yields_print before line) ran, spares⟩

/-- An action that spares the rows of a collection, and then one that does not fail. -/
theorem spares_bind {first : Action (Workspace Component Memory) Result}
    {next : Result → Action (Workspace Component Memory) Other}
    {before : Workspace Component Memory} {between : Result → Workspace Component Memory → Prop}
    {done : Other → Workspace Component Memory → Prop}
    (spares : Spares folder name first before between)
    (continues : ∀ value after, between value after → ∃ result final,
      Yields (next value) after (.ok result) final ∧
        (after.storage.Kept → final.storage.Kept) ∧ done result final) :
    Spares folder name (first >>= next) before done := by
  rcases spares with ⟨error | value, after, ran, spares⟩
  · refine ⟨.error error, after, Yields.bind_error next ran, spares.kept, ?_, ?_⟩
    · intro _ _
      exact spares.rows_of_error error rfl
    · intro _ succeeded
      contradiction
  · rcases continues value after (spares.done_of_ok value rfl) with
      ⟨result, final, ranOn, kept, reached⟩
    refine ⟨.ok result, final, Yields.bind ran ranOn, fun keptAll => kept (spares.kept keptAll),
      ?_, ?_⟩
    · intro _ failed
      contradiction
    · intro _ succeeded
      cases succeeded
      exact reached

/-- An indexing run to attempt, with loaders and models that may give anything. -/
structure Attempt (Memory Component : Type) where
  config : Config
  /-- The number of texts that are embedded together. -/
  batchSize : Nat
  loadSource : Source → Limits → ExceptT Error (StateM Memory) (List Chunk)
  loadFiles : List Path → Limits → ExceptT Error (StateM Memory) (List Chunk)
  findModel : String → ExceptT Error (StateM Memory) (Embedder Memory Component)
  /-- What loaders and models remember. -/
  memory : Memory

namespace Attempt

/-- The collaborators of an attempt: its loaders and models, and stored collections. -/
def collaborators (attempt : Attempt Memory Component) :
    Collaborators (Workspace Component Memory) (Embedder Memory Component) where
  loadSource source limits := onMemory (attempt.loadSource source limits)
  loadFiles paths limits := onMemory (attempt.loadFiles paths limits)
  findModel model := onMemory (attempt.findModel model)
  build := buildStored attempt.batchSize

/-- The configuration of an attempt, for the collection with a name in a folder. -/
def configFor (attempt : Attempt Memory Component) (folder : Path) (name : String) : Config :=
  { attempt.config with persistDir := folder, collection := name }

/-- The run of an attempt, for the collection with a name in a folder. -/
def run (attempt : Attempt Memory Component) (folder : Path) (name : String)
    (storage : Storage Component) : Except Error Report × Session (Workspace Component Memory) :=
  Action.runOn (Indexing.run attempt.collaborators (attempt.configFor folder name))
    ⟨storage, attempt.memory⟩

/-- What a loader gives for every source, with the names of the sources. -/
def loadAll (attempt : Attempt Memory Component) (limits : Limits) (sources : List Source) :
    ExceptT Error (StateM Memory) (List (String × List Chunk)) :=
  sources.mapM fun source => do return (source.url, ← attempt.loadSource source limits)

/-- The chunks that the loaders of an attempt give, and the vectors of its model for them. -/
def answers (attempt : Attempt Memory Component) :
    ExceptT Error (StateM Memory) (List Chunk × List (List Component)) := do
  let sources ← attempt.loadAll attempt.config.limits attempt.config.sources
  let help ← attempt.loadFiles [attempt.config.helpFile] attempt.config.limits
  let chunks := sources.flatMap (·.2) ++ help
  let embedder ← attempt.findModel attempt.config.model
  let replies ← repliesTo embedder (batches attempt.batchSize chunks)
  return (chunks, replies.flatten)

theorem asks_loadSources (attempt : Attempt Memory Component) (limits : Limits)
    (sources : List Source) :
    Asks (loadSources attempt.collaborators limits sources) (attempt.loadAll limits sources) := by
  induction sources with
  | nil => exact asks_pure []
  | cons source later ih =>
      have asks := (asks_print ("Loading from: " ++ source.url)).bind fun _ =>
        (asks_onMemory (attempt.loadSource source limits)).bind fun chunks =>
        (asks_print ("Loaded " ++ toString chunks.length ++ " chunks from " ++ source.url)).bind
          fun _ => ih.bind fun others => asks_pure ((source.url, chunks) :: others)
      simp only [loadAll, List.mapM_cons, bind_assoc, pure_bind] at asks ⊢
      exact asks

theorem asks_loadHelp (attempt : Attempt Memory Component) (config : Config) :
    Asks (loadHelp attempt.collaborators config) (do
      return (config.helpFile.text, ← attempt.loadFiles [config.helpFile] config.limits)) := by
  have begins : Asks (print "Loading krknctl help file..." :
      Action (Workspace Component Memory) Unit) (pure ()) := asks_print _
  have asks := begins.bind fun _ =>
    (asks_onMemory (attempt.loadFiles [config.helpFile] config.limits)).bind fun chunks =>
    (asks_print ("Loaded " ++ toString chunks.length ++ " chunks from krknctl help")).bind
      fun _ => asks_pure (config.helpFile.text, chunks)
  simp only [pure_bind] at asks
  exact asks

end Attempt

/-- Counting finds the rows that a collection has, and leaves them. -/
theorem exists_yields_count {rows : List (Row Component)} {before : Workspace Component Memory}
    (shows : before.storage.Shows folder name rows) :
    ∃ after, Yields (onStorage (Storage.inDatabase folder (countRows name))) before
        (.ok rows.length) after ∧
      (before.storage.Kept → after.storage.Kept) ∧ after.memory = before.memory ∧
      after.storage.rowsAt folder name = rows := by
  rcases shows with ⟨place, table, connected, opened, rfl⟩
  have counts : Yields (countRows name) (before.storage.database place) (.ok table.rows.length)
      (before.storage.database place) :=
    Yields.bind (yields_openTable opened) (yields_pure _ _)
  refine ⟨_, yields_onStorage (connected.yields_inDatabase counts), ?_, rfl, ?_⟩
  · intro kept
    exact kept.setDatabase fun other => kept place other
  · rw [(connected.setDatabase _).rowsAt_eq, Storage.database_setDatabase_self,
      Database.rowsOf_eq opened]

/-- A stored collection is built with the rows of its chunks, and then counts them. -/
theorem spares_buildStored (batchSize : Nat) (embedder : Embedder Memory Component)
    (chunks : List Chunk) (before : Workspace Component Memory)
    (kept : before.storage.KeptFor folder name) :
    Spares folder name (buildStored batchSize name embedder chunks folder) before
      fun count after => ∃ vectors,
        (embedChunks embedder batchSize chunks).run.run before.memory =
          (.ok vectors, after.memory) ∧
        ∃ final, Yields count after (.ok (some (Table.loaded chunks vectors).length)) final ∧
          (after.storage.Kept → final.storage.Kept) ∧ final.memory = after.memory ∧
          final.storage.rowsAt folder name = Table.loaded chunks vectors := by
  apply spares_bind (spares_build batchSize embedder chunks before kept)
  rintro _ after ⟨vectors, place, answered, holds⟩
  rcases exists_yields_count holds.shows with ⟨final, counts, keptFinal, remembered, rows_eq⟩
  refine ⟨_, after, yields_pure after _, id, vectors, answered, final, ?_, keptFinal, remembered,
    rows_eq⟩
  exact Yields.bind counts (yields_pure final _)

namespace Attempt

/-- Where the collection can be built, it is counted. -/
theorem spares_buildAndCount (attempt : Attempt Memory Component) (config : Config)
    (chunks : List Chunk) (before : Workspace Component Memory)
    (kept : before.storage.KeptFor config.persistDir config.collection) :
    Spares config.persistDir config.collection
      (buildAndCount attempt.collaborators config chunks) before fun count after =>
        ∃ embedder memory vectors,
          (attempt.findModel config.model).run.run before.memory = (.ok embedder, memory) ∧
          (embedChunks embedder attempt.batchSize chunks).run.run memory =
            (.ok vectors, after.memory) ∧
          after.storage.rowsAt config.persistDir config.collection =
            Table.loaded chunks vectors ∧
          count = some (Table.loaded chunks vectors).length := by
  apply spares_print_bind
  apply spares_print_bind
  apply (asks_onMemory _).spares_bind
  intro embedder memory found
  apply spares_print_bind
  have builds := spares_buildStored attempt.batchSize embedder chunks { before with memory } kept
  apply spares_bind builds
  rintro count after ⟨vectors, answered, final, counts, keptFinal, remembered, rows_eq⟩
  refine ⟨some (Table.loaded chunks vectors).length, final, ?_, keptFinal, embedder, memory,
    vectors, found, ?_, rows_eq, rfl⟩
  · apply Yields.bind (yields_print after _)
    apply Yields.bind (yields_print after _)
    apply Yields.bind (yields_print after _)
    apply Yields.bind counts
    apply Yields.bind (yields_print final _)
    exact yields_pure final _
  · rw [remembered]
    exact answered

/--
A run that succeeds leaves the rows of the chunks that its loaders have given, with the vectors that
its model has given, and reports their numbers.
-/
theorem spares_run (attempt : Attempt Memory Component) (storage : Storage Component)
    (kept : storage.KeptFor folder name) :
    Spares folder name (Indexing.run attempt.collaborators (attempt.configFor folder name))
      ⟨storage, attempt.memory⟩ fun report after => ∃ chunks vectors,
        (attempt.answers.run.run attempt.memory).1 = .ok (chunks, vectors) ∧
        chunks.length = vectors.length ∧
        after.storage.rowsAt folder name = Table.loaded chunks vectors ∧
        report.totalChunks = chunks.length ∧
        report.verifiedCount = some (Table.loaded chunks vectors).length := by
  apply spares_print_bind
  apply spares_print_bind
  apply (attempt.asks_loadSources _ _).spares_bind
  intro sources memory loaded
  apply (attempt.asks_loadHelp _).spares_bind
  intro help afterHelp loadedHelp
  rcases exists_of_run_bind_eq_ok loadedHelp with ⟨helpChunks, _, given, ended⟩
  cases ended
  apply spares_bind (attempt.spares_buildAndCount (attempt.configFor folder name) _
    ⟨storage, afterHelp⟩ kept)
  rintro count after ⟨embedder, memoryFound, vectors, found, embedded, rows_eq, counted⟩
  rcases embedChunks_eq_ok embedded with ⟨⟨replies, answered, rfl⟩, paired, _⟩
  refine ⟨_, after, yields_pure after _, id, _, _, ?_, paired, rows_eq, rfl, counted⟩
  have chunks_eq : (sources ++ [(attempt.config.helpFile.text, helpChunks)]).flatMap (·.2) =
      sources.flatMap (·.2) ++ helpChunks := by simp
  simp only [configFor, chunks_eq] at loaded given found answered ⊢
  rw [answers, run_bind_of_eq_ok _ loaded, run_bind_of_eq_ok _ given, run_bind_of_eq_ok _ found,
    run_bind_of_eq_ok _ answered]
  rfl

end Attempt

end DocIndex.Indexing
