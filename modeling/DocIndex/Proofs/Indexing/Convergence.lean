import Mathlib
import DocIndex.Proofs.Indexing.Attempt

/-!
# Attempts one after the other

Whatever happens in attempts to index into one collection, its rows are those of the last attempt
that has succeeded, or those of the start: nothing is left of earlier attempts, and those that fail
change no row. What is kept true of all collections by every attempt carries this from one attempt
to the next.
-/

namespace DocIndex.Indexing

open DocIndex.Action DocIndex.Files DocIndex.Store

variable {Component Memory : Type} {folder : Path} {name : String}

/--
Storage that comes about by attempts for any collections in any folders. Files may change before
each of them, as they do when loaders clone repositories, but nothing else changes the databases.
-/
inductive Reachable : Storage Component → Prop
  | fresh (files : FileSystem) : Reachable ⟨files, []⟩
  | changed {storage : Storage Component} (earlier : Reachable storage) (files : FileSystem) :
      Reachable { storage with files }
  | attempted {Memory : Type} {storage : Storage Component} (earlier : Reachable storage)
      (attempt : Attempt Memory Component) (folder : Path) (name : String) :
      Reachable (attempt.run folder name storage).2.world.storage

/-- What attempts leave: the storage, and the last one that succeeded with what it reported. -/
structure History (Memory Component : Type) where
  storage : Storage Component
  latest? : Option (Attempt Memory Component × Report)

namespace History

/-- A history with one more attempt. -/
def next (folder : Path) (name : String) (history : History Memory Component)
    (attempt : Attempt Memory Component) : History Memory Component :=
  let (result, session) := attempt.run folder name history.storage
  { storage := session.world.storage
    latest? := match result with
      | .ok report => some (attempt, report)
      | .error _ => history.latest? }

/-- The history of attempts that begins with the given storage. -/
def of (folder : Path) (name : String) (start : Storage Component)
    (attempts : List (Attempt Memory Component)) : History Memory Component :=
  attempts.foldl (next folder name) ⟨start, none⟩

end History

/--
Rows and a report that an attempt may leave. If the identifiers of its chunks are distinct, the rows
are those of its chunks, each with its vector, and the rows it has counted are as many as the
chunks.
-/
def Attempt.Leaves (attempt : Attempt Memory Component) (report : Report)
    (rows : List (Row Component)) : Prop :=
  ∃ chunks vectors, (attempt.answers.run.run attempt.memory).1 = .ok (chunks, vectors) ∧
    chunks.length = vectors.length ∧ report.totalChunks = chunks.length ∧
    ((chunks.map (·.id)).Nodup → rows = chunks.zipWith Row.ofChunk vectors ∧
      report.verifiedCount = some report.totalChunks)

theorem Attempt.spares (attempt : Attempt Memory Component) {storage : Storage Component}
    (kept : storage.KeptFor folder name) :
    storage.Spares folder name (attempt.run folder name storage).2.world.storage
      (attempt.run folder name storage).1 fun report =>
        attempt.Leaves report
          ((attempt.run folder name storage).2.world.storage.rowsAt folder name) := by
  rcases attempt.spares_run storage kept with ⟨result, after, ran, spares⟩
  rw [Attempt.run, ran.runOn_fst, ran.world_runOn]
  refine ⟨spares.kept, spares.rows_of_error, ?_⟩
  intro report succeeded
  rcases spares.done_of_ok report succeeded with
    ⟨chunks, vectors, answered, paired, rows_eq, total, counted⟩
  refine ⟨chunks, vectors, answered, paired, total, ?_⟩
  intro distinct
  have loaded := Table.loaded_of_nodup paired distinct
  refine ⟨rows_eq.trans loaded, ?_⟩
  rw [counted, loaded, total, List.length_zipWith, paired, Nat.min_self]

theorem Reachable.kept {storage : Storage Component} (reachable : Reachable storage) :
    storage.Kept := by
  induction reachable with
  | fresh files => exact fun _ name => Database.keptAt_nil name
  | changed earlier files ih => exact ih
  | attempted earlier attempt folder name ih =>
      exact (attempt.spares (ih.keptFor folder name)).kept ih

/-- What is kept true of a history. -/
structure History.Sound (folder : Path) (name : String) (start : Storage Component)
    (history : History Memory Component) : Prop where
  kept : history.storage.Kept
  rows_of_none : history.latest? = none →
    history.storage.rowsAt folder name = start.rowsAt folder name
  leaves_of_some : ∀ attempt report, history.latest? = some (attempt, report) →
    attempt.Leaves report (history.storage.rowsAt folder name)

/-- One more attempt either changes no row or replaces them all. -/
theorem History.Sound.next {start : Storage Component} {history : History Memory Component}
    (sound : history.Sound folder name start) (attempt : Attempt Memory Component) :
    (history.next folder name attempt).Sound folder name start := by
  have spares := attempt.spares (sound.kept.keptFor folder name)
  rw [History.next]
  rcases ran : attempt.run folder name history.storage with ⟨error | report, session⟩
  · rw [ran] at spares
    refine ⟨spares.kept sound.kept, ?_, ?_⟩
    · intro latest
      exact (spares.rows_of_error error rfl).trans (sound.rows_of_none latest)
    · intro earlier report latest
      rw [spares.rows_of_error error rfl]
      exact sound.leaves_of_some earlier report latest
  · rw [ran] at spares
    refine ⟨spares.kept sound.kept, ?_, ?_⟩
    · intro latest
      contradiction
    · intro _ _ latest
      cases latest
      exact spares.done_of_ok report rfl

theorem History.sound_foldl {start : Storage Component} {history : History Memory Component}
    (sound : history.Sound folder name start) (attempts : List (Attempt Memory Component)) :
    (attempts.foldl (History.next folder name) history).Sound folder name start := by
  induction attempts generalizing history with
  | nil => exact sound
  | cons attempt later ih => exact ih (sound.next attempt)

/--
After any attempts one more that fails changes no row; where none has succeeded the rows are those
of the start; and otherwise they are those of the last that has succeeded, which has counted them.
-/
theorem rows_of_history {start : Storage Component} (reachable : Reachable start) (folder : Path)
    (name : String) (attempts : List (Attempt Memory Component)) :
    let history := History.of folder name start attempts
    (∀ (attempt : Attempt Memory Component) (error : Error),
      (attempt.run folder name history.storage).1 = .error error →
      (history.next folder name attempt).storage.rowsAt folder name =
        history.storage.rowsAt folder name) ∧
    (history.latest? = none →
      history.storage.rowsAt folder name = start.rowsAt folder name) ∧
    ∀ attempt report, history.latest? = some (attempt, report) →
      attempt.Leaves report (history.storage.rowsAt folder name) := by
  intro history
  have begins : (⟨start, none⟩ : History Memory Component).Sound folder name start :=
    ⟨reachable.kept, fun _ => rfl, fun _ _ latest => by contradiction⟩
  have sound : history.Sound folder name start := History.sound_foldl begins attempts
  refine ⟨?_, sound.rows_of_none, sound.leaves_of_some⟩
  intro attempt error failed
  exact (attempt.spares (sound.kept.keptFor folder name)).rows_of_error error failed

/-- An attempt that loads chunks with the given identifiers. -/
def attemptFor (ids : List String) (embedder : Embedder Unit Nat) : Attempt Unit Nat where
  config := { Config.standard with sources := [] }
  batchSize := 32
  loadSource _ _ := pure []
  loadFiles _ _ := pure (chunksFor ids)
  findModel _ := pure embedder
  memory := ()

/-- A second attempt replaces the rows of a first one, and a third one that fails leaves them. -/
theorem rows_of_history_of_three :
    let history := History.of (.ofString "index") "docs" emptyStorage
      [attemptFor ["a", "b"] embedLength, attemptFor ["b", "cd"] embedLength,
        attemptFor ["a"] fun _ => pure []]
    Reachable emptyStorage ∧
      history.latest?.map (·.2) = some ⟨[("/app/krknctl_help.txt", 2)], 2, some 2⟩ ∧
      history.storage.rowsAt (.ofString "index") "docs" =
        (chunksFor ["b", "cd"]).zipWith Row.ofChunk [[1], [2]] := by
  intro history
  have reachable : Reachable emptyStorage := .fresh _
  have latest : history.latest? = some (attemptFor ["b", "cd"] embedLength,
      ⟨[("/app/krknctl_help.txt", 2)], 2, some 2⟩) := by
    cbv
  have given : ((attemptFor ["b", "cd"] embedLength).answers.run.run ()).1 =
      .ok (chunksFor ["b", "cd"], [[1], [2]]) := by
    cbv
  refine ⟨reachable, by rw [latest]; rfl, ?_⟩
  rcases (rows_of_history reachable _ _ _).2.2 _ _ latest with
    ⟨chunks, vectors, answered, paired, total, rows_eq⟩
  cases given.symm.trans answered
  exact (rows_eq (by decide)).1

end DocIndex.Indexing
