import DocIndex.Proofs.Store.Repeats

/-!
# Histories of operations

Collections are asked about, made, built, changed and read one operation after the other, each of
which connects to the folder of its collection first. What an operation comes to is that of its
action on the database that connecting finds.
-/

namespace DocIndex.Store

open DocIndex.Action DocIndex.Files Storage

variable {Component Memory Result : Type} {folder : Path} {name : String}
  {storage between after : Storage Component}

/-- What an operation on a collection gives. -/
inductive Value (Component : Type)
  | done
  | truth (isThere : Bool)
  | number (count : Nat)
  | rows (rows : List (Row Component))

/-- An operation on the collection with a name in a database. -/
inductive Request (Component : Type)
  | isThere
  | create (width : Nat)
  | upsert (chunks : List Chunk) (vectors : List (List Component))
  | removeStale (chunks : List Chunk)
  | count
  | rows

/-- The action that a request asks for. -/
def Request.action (name : String) :
    Request Component → Action (Database Component) (Value Component)
  | .isThere => do return .truth (← collectionExists name)
  | .create width => do
    createIfMissing name width
    return .done
  | .upsert chunks vectors => do
    Store.upsert name chunks vectors
    return .done
  | .removeStale chunks => do return .number (← Store.removeStale name chunks)
  | .count => do return .number (← countRows name)
  | .rows => do return .rows (← openTable name).rows

/-- A request, or a call that builds a collection. -/
inductive Operation (Component Memory : Type)
  | request (request : Request Component)
  | build (call : BuildCall Component Memory)

/-- What is seen of an operation; of a build also what its embedder remembers. -/
structure Answer (Component Memory : Type) where
  result : Except Error (Value Component)
  printed : List String
  memory? : Option Memory

/-- What an operation on the collection with a name in a folder answers, and what it leaves. -/
def Operation.run (folder : Path) (name : String) (storage : Storage Component) :
    Operation Component Memory → Answer Component Memory × Storage Component
  | .request asked =>
    let (result, session) := Action.runOn (inDatabase folder (asked.action name)) storage
    (⟨result, session.printed, none⟩, session.world)
  | .build call =>
    let (result, session) := call.run folder name storage
    (⟨result.map fun _ => .done, session.printed, some session.world.memory⟩, session.world.storage)

theorem printed_connect (storage : Storage Component) (folder : Path) (printed : List String) :
    ((connect folder).run.run ⟨storage, printed⟩).2.printed = printed := by
  have looks : (Action.world : Action (Storage Component) _).run.run ⟨storage, printed⟩ =
      (.ok storage, ⟨storage, printed⟩) := rfl
  rw [connect, run_bind, looks]
  simp only
  rcases storage.files.makeFolders folder with fault | files
  · rfl
  · have puts : (setWorld { storage with files } : Action (Storage Component) _).run.run
        ⟨storage, printed⟩ = (.ok (), ⟨{ storage with files }, printed⟩) := rfl
    simp only
    rw [run_bind, puts]
    simp only
    rcases isRemote folder with _ | _
    · rcases files.locate true folder with fault | place
      · rfl
      · simp only [Bool.false_eq_true, if_false]
        rcases storage.files.root.at? place with _ | tree
        · rfl
        · rfl
    · rfl

/-- Connecting prints nothing. -/
theorem run_connect {result : Except Error (List Name)}
    (connects : Yields (connect folder) storage result between) (printed : List String) :
    (connect folder).run.run ⟨storage, printed⟩ = (result, ⟨between, printed⟩) := by
  rcases connects printed with ⟨printedAfter, ran⟩
  have same : printedAfter = printed := by
    rw [← printed_connect storage folder printed, ran]
  rw [ran, same]

theorem run_inDatabase {place : List Name}
    (connects : Yields (connect folder) storage (.ok place) between)
    (action : Action (Database Component) Result) (printed : List String) :
    (inDatabase folder action).run.run ⟨storage, printed⟩ =
      let ran := action.run.run ⟨between.database place, printed⟩
      (ran.1, ⟨setDatabase place ran.2.world between, ran.2.printed⟩) := by
  rw [inDatabase, run_bind, run_connect connects]
  rfl

theorem run_inDatabase_of_error {error : Error}
    (fails : Yields (connect folder) storage (.error error) between)
    (action : Action (Database Component) Result) (printed : List String) :
    (inDatabase folder action).run.run ⟨storage, printed⟩ = (.error error, ⟨between, printed⟩) := by
  rw [inDatabase, run_bind, run_connect fails]

/-- A build fails without chunks, and where they cannot be embedded, and has stored nothing then. -/
theorem BuildCall.run_eq (call : BuildCall Component Memory) (folder : Path) (name : String)
    (storage : Storage Component) :
    call.run folder name storage =
      if call.chunks.isEmpty then (.error .noChunks, ⟨⟨storage, call.memory⟩, []⟩)
      else match (Embedding.embedChunks call.embedder call.batchSize call.chunks).run.run
          call.memory with
        | (.error error, memory) => (.error error, ⟨⟨storage, memory⟩, []⟩)
        | (.ok vectors, memory) =>
          let ran := (inDatabase folder (load name call.chunks vectors)).run.run ⟨storage, []⟩
          (ran.1, ⟨⟨ran.2.world, memory⟩, ran.2.printed⟩) := by
  rw [BuildCall.run, Action.runOn, Workspace.build]
  by_cases empty : call.chunks.isEmpty = true
  · rw [if_pos empty, if_pos empty]
    rfl
  · rw [if_neg empty, if_neg empty, run_bind]
    have asked : (Workspace.onMemory (Embedding.embedChunks call.embedder call.batchSize
        call.chunks) : Action (Workspace Component Memory) _).run.run ⟨⟨storage, call.memory⟩, []⟩ =
          let answer := (Embedding.embedChunks call.embedder call.batchSize call.chunks).run.run
            call.memory
          (answer.1, ⟨⟨storage, answer.2⟩, []⟩) := rfl
    rw [asked]
    rcases (Embedding.embedChunks call.embedder call.batchSize call.chunks).run.run call.memory with
      ⟨error | vectors, memory⟩
    · rfl
    · rfl

end DocIndex.Store
