import DocIndex.Proofs.Embedding
import DocIndex.Proofs.Store.Storage

/-!
# Building collections

A build that succeeds leaves the rows of its chunks with the vectors of its embedder, and a build
that fails leaves the rows that were there. All that is used of the collection before is the
invariant that builds keep.
-/

namespace DocIndex.Store

open DocIndex.Action DocIndex.Files Storage

variable {Component Memory Result : Type} {folder : Path} {name : String}

/-- What is kept true of the collection that is found when one connects to a folder. -/
def Storage.KeptFor (storage : Storage Component) (folder : Path) (name : String) : Prop :=
  ∀ place after, Yields (connect folder) storage (.ok place) after →
    (after.database place).KeptAt name

theorem Database.keptAt_nil (name : String) : Database.KeptAt ([] : Database Component) name :=
  fun _ found => by contradiction

theorem Storage.Kept.of_connect {storage after : Storage Component} (kept : storage.Kept)
    (others : ∀ place, after.database place = storage.database place ∨ after.database place = []) :
    after.Kept := by
  intro place name
  rcases others place with same | empty
  · rw [same]
    exact kept place name
  · rw [empty]
    exact Database.keptAt_nil name

theorem Storage.Kept.keptFor {storage : Storage Component} (kept : storage.Kept) (folder : Path)
    (name : String) : storage.KeptFor folder name := by
  intro place after ran
  rcases connect_cases storage folder with
    ⟨error, other, fails, _⟩ | ⟨other, final, ranAlso, connects⟩
  · rcases fails.unique ran with ⟨_, _⟩
    contradiction
  · rcases ran.unique ranAlso with ⟨same, rfl⟩
    cases same
    exact kept.of_connect connects.others place name

theorem Storage.Connected.keptFor {storage : Storage Component} {place : List Name}
    (connected : storage.Connected folder place) (kept : (storage.database place).KeptAt name) :
    storage.KeptFor folder name := by
  intro other after ran
  rcases connected.yields_connect.unique ran with ⟨same, rfl⟩
  cases same
  exact kept

theorem Storage.Kept.setDatabase {storage : Storage Component} (kept : storage.Kept)
    {place : List Name} {database : Database Component} (keptAlso : ∀ name, database.KeptAt name) :
    (setDatabase place database storage).Kept := by
  intro other name
  rw [database_setDatabase]
  split
  · exact keptAlso name
  · exact kept other name

/--
A change of storage that keeps the invariant of all collections, leaves the rows of a collection
where it fails, and comes to what is given where it succeeds.
-/
structure Storage.Spares (folder : Path) (name : String) (storage after : Storage Component)
    (result : Except Error Result) (done : Result → Prop) : Prop where
  kept : storage.Kept → after.Kept
  rows_of_error : ∀ error, result = .error error →
    after.rowsAt folder name = storage.rowsAt folder name
  done_of_ok : ∀ value, result = .ok value → done value

theorem Storage.Spares.of_error {error : Error} (done : Result → Prop)
    (storage : Storage Component) : storage.Spares folder name storage (.error error) done :=
  ⟨id, fun _ _ => rfl, fun _ succeeded => by contradiction⟩

/-- What a folder has when the rows of chunks have been written to a collection in it. -/
structure Storage.Holds (folder : Path) (name : String) (chunks : List Chunk)
    (vectors : List (List Component)) (place : List Name) (storage : Storage Component) : Prop where
  connected : storage.Connected folder place
  kept : (storage.database place).KeptAt name
  opened : ∃ table, tableAt (storage.database place) name = .ok table ∧
    table.rows = Table.loaded chunks vectors

theorem Storage.Holds.shows {storage : Storage Component} {chunks : List Chunk}
    {vectors : List (List Component)} {place : List Name}
    (holds : storage.Holds folder name chunks vectors place) :
    storage.Shows folder name (Table.loaded chunks vectors) := by
  rcases holds.opened with ⟨table, opened, rows_eq⟩
  exact ⟨place, table, holds.connected, opened, rows_eq⟩

/-- A load in a folder replaces all rows of a collection or none. -/
theorem exists_yields_inDatabase_load {storage : Storage Component} {chunks : List Chunk}
    {vectors : List (List Component)} (kept : storage.KeptFor folder name)
    (some_chunks : chunks ≠ []) (paired : chunks.length = vectors.length)
    (uniform : ∀ vector ∈ vectors, vector.length = (vectors.head?.map List.length).getD 0) :
    ∃ result after, Yields (inDatabase folder (load name chunks vectors)) storage result after ∧
      storage.Spares folder name after result
        fun _ => ∃ place, after.Holds folder name chunks vectors place := by
  rcases connect_cases storage folder with
    ⟨error, after, fails, refuses⟩ | ⟨place, between, connects, made⟩
  · refine ⟨.error error, after, Yields.bind_error _ fails, ?_, ?_, ?_⟩
    · intro keptAll place other
      rw [database, refuses.databases_eq]
      exact keptAll place other
    · intro _ _
      rw [rowsAt_of_error fails, rowsAt_of_error refuses.again]
    · intro _ loaded
      contradiction
  · rcases exists_yields_load (kept place between connects) some_chunks paired rfl uniform with
      ⟨result, database, ran, loads⟩
    have connected := made.connected.setDatabase database
    have found := database_setDatabase_self place database between
    refine ⟨result, setDatabase place database between, ?_, ?_, ?_, ?_⟩
    · apply Yields.bind connects
      apply Yields.onPart
      exact ran
    · intro keptAll
      have keptBetween := keptAll.of_connect made.others
      apply keptBetween.setDatabase
      intro other
      by_cases here : other = name
      · rw [here]
        exact loads.kept
      · intro table foundTable
        rw [loads.others other here] at foundTable
        exact keptBetween place other table foundTable
    · intro error failed
      rw [connected.rowsAt_eq, found, loads.rows_of_error error failed, rowsAt_of_connect connects]
    · intro _ loaded
      refine ⟨place, connected, ?_, ?_⟩
      · rw [found]
        exact loads.kept
      · rw [found]
        exact loads.loaded_of_ok loaded

namespace Workspace

/-- An action that spares the rows of a collection unless it comes to what is given. -/
def Spares (folder : Path) (name : String) (action : Action (Workspace Component Memory) Result)
    (before : Workspace Component Memory) (done : Result → Workspace Component Memory → Prop) :
    Prop :=
  ∃ result after, Yields action before result after ∧
    before.storage.Spares folder name after.storage result (done · after)

theorem yields_onMemory (request : ExceptT Error (StateM Memory) Result)
    (before : Workspace Component Memory) :
    Yields (onMemory request) before (request.run.run before.memory).1
      { before with memory := (request.run.run before.memory).2 } :=
  yields_change _ before

theorem yields_onStorage {action : Action (Storage Component) Result}
    {before : Workspace Component Memory} {result : Except Error Result}
    {storage : Storage Component} (yields : Yields action before.storage result storage) :
    Yields (onStorage action) before result { before with storage } := by
  apply Yields.onPart
  exact yields

/-- A build replaces all rows of a collection or none. -/
theorem spares_build (batchSize : Nat) (embedder : Embedder Memory Component) (chunks : List Chunk)
    (before : Workspace Component Memory) (kept : before.storage.KeptFor folder name) :
    Spares folder name (build batchSize name embedder chunks folder) before fun _ after =>
      ∃ vectors place, (Embedding.embedChunks embedder batchSize chunks).run.run before.memory =
        (.ok vectors, after.memory) ∧ after.storage.Holds folder name chunks vectors place := by
  by_cases some_chunks : chunks = []
  · subst some_chunks
    exact ⟨.error .noChunks, before, Yields.bind_error _ (yields_throw before _), .of_error _ _⟩
  · have begins : build batchSize name embedder chunks folder = (do
        let vectors ← onMemory (Embedding.embedChunks embedder batchSize chunks)
        onStorage (inDatabase folder (load name chunks vectors))) := by
      rw [build, if_neg (by simpa using some_chunks)]
    rw [begins]
    have asks := yields_onMemory (Embedding.embedChunks embedder batchSize chunks) before
    rcases answered : (Embedding.embedChunks embedder batchSize chunks).run.run before.memory with
      ⟨error | vectors, memory⟩
    · rw [answered] at asks
      exact ⟨.error error, _, Yields.bind_error _ asks, .of_error _ _⟩
    · rw [answered] at asks
      rcases Embedding.embedChunks_eq_ok answered with ⟨_, paired, uniform⟩
      rcases exists_yields_inDatabase_load kept some_chunks paired uniform with
        ⟨result, storage, ran, spares⟩
      refine ⟨result, { storage, memory }, Yields.bind asks (yields_onStorage ran), spares.kept,
        spares.rows_of_error, ?_⟩
      intro value built
      rcases spares.done_of_ok value built with ⟨place, holds⟩
      exact ⟨vectors, place, rfl, holds⟩

end Workspace

/-- A file system with an empty working folder, and no databases. -/
def emptyStorage : Storage Nat := ⟨⟨.emptyFolder, []⟩, []⟩

/-- Embeds every text as its length. -/
def embedLength : Embedder Unit Nat := fun texts => pure (texts.map fun text => [text.length])

/-- Chunks with the given identifiers. -/
def chunksFor (ids : List String) : List Chunk :=
  ids.map fun id => ⟨id, id, ⟨"docs", id, 0⟩⟩

end DocIndex.Store
