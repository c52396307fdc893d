import Mathlib
import DocIndex.Proofs.Store.Build

/-!
# Identifiers that repeat

Rows with one identifier are removed when a batch with this identifier is written, but not inside
the batch. So an identifier is left in several rows exactly when it occurs several times in the last
batch that has it. After any number of builds this depends on the chunks of the last build alone.
-/

namespace DocIndex.Store

open DocIndex.Action DocIndex.Files Storage

/--
Whether every identifier that occurs twice in one of the batches of a size occurs in a later batch
as well.
-/
def RepeatsAreRewritten (size : Nat) (ids : List String) : Prop :=
  ∀ (first second : Nat) (id : String), first < second → ids[first]? = some id →
    ids[second]? = some id → first / size = second / size →
    ∃ later, ids[later]? = some id ∧ second / size < later / size

variable {size : Nat} {ids : List String}

theorem repeatsAreRewritten_of_nodup (distinct : ids.Nodup) : RepeatsAreRewritten size ids := by
  intro first second id before foundFirst foundSecond _
  rcases List.getElem?_eq_some_iff.mp foundFirst with ⟨inFirst, _⟩
  have same := (List.getElem?_inj inFirst distinct).mp (foundFirst.trans foundSecond.symm)
  omega

theorem getElem?_drop_of_add {position : Nat} {id : String}
    (found : (ids.drop size)[position]? = some id) : ids[position + size]? = some id := by
  rw [List.getElem?_drop, Nat.add_comm] at found
  exact found

theorem getElem?_drop_of_le {position : Nat} {id : String} (found : ids[position]? = some id)
    (beyond : size ≤ position) : (ids.drop size)[position - size]? = some id := by
  rw [List.getElem?_drop, Nat.add_sub_cancel' beyond]
  exact found

theorem le_of_lt_div {group position : Nat} (beyond : group < position / size) :
    size ≤ position := by
  by_contra inside
  rw [Nat.div_eq_of_lt (Nat.lt_of_not_le inside)] at beyond
  exact Nat.not_lt_zero group beyond

theorem RepeatsAreRewritten.drop (positive : 0 < size) (rewritten : RepeatsAreRewritten size ids) :
    RepeatsAreRewritten size (ids.drop size) := by
  intro first second id before foundFirst foundSecond together
  rcases rewritten (first + size) (second + size) id (Nat.add_lt_add_right before size)
      (getElem?_drop_of_add foundFirst) (getElem?_drop_of_add foundSecond)
      (by rw [Nat.add_div_right _ positive, Nat.add_div_right _ positive, together]) with
    ⟨later, found, beyond⟩
  have reached := le_of_lt_div beyond
  rw [Nat.add_div_right _ positive] at beyond
  refine ⟨later - size, getElem?_drop_of_le found reached, ?_⟩
  have shifted : later / size = (later - size) / size + 1 := by
    rw [← Nat.add_div_right _ positive, Nat.sub_add_cancel reached]
  omega

/-- In the first batch nothing repeats but what a later batch has. -/
theorem RepeatsAreRewritten.nodup_take (rewritten : RepeatsAreRewritten size ids) :
    ((ids.take size).filter fun id => ! (ids.drop size).contains id).Nodup := by
  rw [List.Nodup, List.pairwise_filter, List.pairwise_iff_getElem]
  intro first second inFirst inSecond before onlyFirst _ same
  rw [List.length_take] at inFirst inSecond
  have foundFirst : ids[first]? = some (ids.take size)[first] := by
    rw [List.getElem_take, List.getElem?_eq_getElem (by omega)]
  have foundSecond : ids[second]? = some (ids.take size)[first] := by
    rw [same, List.getElem_take, List.getElem?_eq_getElem (by omega)]
  have firstBatch : first / size = 0 := Nat.div_eq_of_lt (by omega)
  have secondBatch : second / size = 0 := Nat.div_eq_of_lt (by omega)
  rcases rewritten first second _ before foundFirst foundSecond
    (firstBatch.trans secondBatch.symm) with ⟨later, found, beyond⟩
  have inLater := List.mem_of_getElem? (getElem?_drop_of_le found (le_of_lt_div beyond))
  exact absurd inLater (by simpa using onlyFirst)

/-- Repeats are rewritten when they are in the first batch and after it. -/
theorem repeatsAreRewritten_of_drop (positive : 0 < size)
    (distinct : ((ids.take size).filter fun id => ! (ids.drop size).contains id).Nodup)
    (rewritten : RepeatsAreRewritten size (ids.drop size)) : RepeatsAreRewritten size ids := by
  intro first second id before foundFirst foundSecond together
  by_cases inside : second < size
  · have secondBatch : second / size = 0 := Nat.div_eq_of_lt inside
    have inLater : id ∈ ids.drop size := by
      by_contra onlyFirst
      have firstKept : (ids.take size)[first]? = some id := by
        rw [List.getElem?_take_of_lt (by omega), foundFirst]
      have secondKept : (ids.take size)[second]? = some id := by
        rw [List.getElem?_take_of_lt inside, foundSecond]
      rcases List.getElem?_eq_some_iff.mp firstKept with ⟨inFirst, isFirst⟩
      rcases List.getElem?_eq_some_iff.mp secondKept with ⟨inSecond, isSecond⟩
      rw [List.Nodup, List.pairwise_filter, List.pairwise_iff_getElem] at distinct
      exact distinct first second inFirst inSecond before (by simp [isFirst, onlyFirst])
        (by simp [isSecond, onlyFirst]) (isFirst.trans isSecond.symm)
    rcases List.mem_iff_getElem?.mp inLater with ⟨later, found⟩
    refine ⟨later + size, getElem?_drop_of_add found, ?_⟩
    rw [secondBatch, Nat.add_div_right _ positive]
    exact Nat.succ_pos _
  · have reached : size ≤ first := by
      by_contra outside
      rw [Nat.div_eq_of_lt (Nat.lt_of_not_le outside), eq_comm, Nat.div_eq_zero_iff] at together
      omega
    have shifted {position : Nat} (beyond : size ≤ position) :
        position / size = (position - size) / size + 1 := by
      rw [← Nat.add_div_right _ positive, Nat.sub_add_cancel beyond]
    have shiftedFirst := shifted reached
    have shiftedSecond := shifted (Nat.le_of_not_lt inside)
    rcases rewritten (first - size) (second - size) id (by omega)
        (getElem?_drop_of_le foundFirst reached)
        (getElem?_drop_of_le foundSecond (Nat.le_of_not_lt inside)) (by omega) with
      ⟨later, found, beyond⟩
    refine ⟨later + size, getElem?_drop_of_add found, ?_⟩
    rw [shiftedSecond, Nat.add_div_right _ positive]
    exact Nat.succ_lt_succ beyond

variable {Component : Type}

theorem mem_ids_of_mem_settle {batches : List (List (Row Component))} {id : String}
    (member : id ∈ Row.ids (Row.settle batches)) : id ∈ Row.ids batches.flatten := by
  rcases Row.mem_ids.mp member with ⟨row, inSettled, known⟩
  exact Row.mem_ids.mpr ⟨row, (Row.settle_sublist batches).subset inSettled, known⟩

theorem nodup_ids_settle_cons (batch : List (Row Component))
    (later : List (List (Row Component))) :
    (Row.ids (Row.settle (batch :: later))).Nodup ↔
      ((Row.ids batch).filter fun id => ! (Row.ids later.flatten).contains id).Nodup ∧
        (Row.ids (Row.settle later)).Nodup := by
  rw [Row.settle_cons, Row.ids_append, Row.ids_without, List.nodup_append]
  constructor
  · rintro ⟨first, rest, _⟩
    exact ⟨first, rest⟩
  · rintro ⟨first, rest⟩
    refine ⟨first, rest, ?_⟩
    rintro id inFirst _ inRest rfl
    have onlyFirst := (List.mem_filter.mp inFirst).2
    rw [Bool.not_eq_true', ← Bool.not_eq_true, List.contains_iff_mem] at onlyFirst
    exact onlyFirst (mem_ids_of_mem_settle inRest)

/-- Identifiers repeat in what stays of batches exactly when a repeat is not rewritten. -/
theorem nodup_ids_settle_iff (positive : 0 < size) {rows : List (Row Component)}
    (identified : rows.map (·.id) = ids.map some) :
    (Row.ids (Row.settle (batches size rows))).Nodup ↔ RepeatsAreRewritten size ids := by
  rcases Nat.exists_eq_succ_of_ne_zero (Nat.ne_of_gt positive) with ⟨before, rfl⟩
  fun_induction batches before.succ rows generalizing ids with
  | case1 =>
      rw [List.map_nil, eq_comm, List.map_eq_nil_iff] at identified
      subst identified
      constructor
      · intro _ first second id _ found
        contradiction
      · intro _
        exact List.nodup_nil
  | case2 first later ih =>
      rcases ids with _ | ⟨id, ids⟩
      · contradiction
      · rcases List.cons.inj identified with ⟨known, rest⟩
        rw [Nat.succ_sub_one] at ih ⊢
        have restDrop : (later.drop before).map (·.id) = (ids.drop before).map some := by
          rw [List.map_drop, rest, List.map_drop]
        have restTake : (first :: later.take before).map (·.id) =
            ((id :: ids).take before.succ).map some := by
          rw [List.map_cons, List.map_take, rest, ← List.map_take]
          exact congrArg (· :: _) known
        rw [nodup_ids_settle_cons, flatten_batches, Row.ids_of_map_id restDrop,
          Row.ids_of_map_id restTake, ih restDrop]
        constructor
        · rintro ⟨distinct, rewritten⟩
          exact repeatsAreRewritten_of_drop positive distinct rewritten
        · intro rewritten
          exact ⟨rewritten.nodup_take, rewritten.drop positive⟩

/-- A call that builds a collection from chunks. -/
structure BuildCall (Component Memory : Type) where
  batchSize : Nat
  embedder : Embedder Memory Component
  chunks : List Chunk
  /-- What the embedder remembers. -/
  memory : Memory

variable {Memory : Type} {folder : Path} {name : String} {start after : Storage Component}
  {calls : List (BuildCall Component Memory)}

/-- The build that a call asks for, of the collection with a name in a folder. -/
def BuildCall.run (call : BuildCall Component Memory) (folder : Path) (name : String)
    (storage : Storage Component) : Except Error Unit × Session (Workspace Component Memory) :=
  Action.runOn (Workspace.build call.batchSize name call.embedder call.chunks folder)
    ⟨storage, call.memory⟩

/-- Calls that build one collection, one after the other, and all succeed. -/
inductive Rebuilt (folder : Path) (name : String) (start : Storage Component) :
    List (BuildCall Component Memory) → Storage Component → Prop
  | start : Rebuilt folder name start [] start
  | build {calls : List (BuildCall Component Memory)} {storage : Storage Component}
      (earlier : Rebuilt folder name start calls storage) (call : BuildCall Component Memory)
      (built : (call.run folder name storage).1 = .ok ()) :
      Rebuilt folder name start (calls ++ [call]) (call.run folder name storage).2.world.storage

/-- A build that succeeds keeps the invariant, and leaves the rows of its chunks. -/
theorem BuildCall.built_of_ok {storage : Storage Component} (call : BuildCall Component Memory)
    (kept : storage.KeptFor folder name) (built : (call.run folder name storage).1 = .ok ()) :
    (call.run folder name storage).2.world.storage.KeptFor folder name ∧
      ∃ vectors, call.chunks.length = vectors.length ∧
        (call.run folder name storage).2.world.storage.rowsAt folder name =
          Table.loaded call.chunks vectors := by
  rcases Workspace.spares_build call.batchSize call.embedder call.chunks ⟨storage, call.memory⟩
    kept with ⟨result, final, ran, spares⟩
  rw [BuildCall.run, ran.runOn_fst] at built
  rw [BuildCall.run, ran.world_runOn]
  rcases spares.done_of_ok () built with ⟨vectors, place, answered, holds⟩
  exact ⟨holds.connected.keptFor holds.kept, vectors, (Embedding.embedChunks_eq_ok answered).2.1,
    holds.shows.rowsAt_eq⟩

theorem hasTable_of_looked {present : Bool} {place : List Name} {storage : Storage Component}
    (looked : (Action.runOn (inDatabase folder (collectionExists name)) start).1 = .ok present)
    (connects : Yields (connect folder) start (.ok place) storage) :
    (storage.database place).hasTable name = present := by
  have looks : Yields (inDatabase folder (collectionExists name)) start
      (.ok ((storage.database place).hasTable name))
      (setDatabase place (storage.database place) storage) := by
    apply Yields.bind connects
    apply Yields.onPart
    exact yields_collectionExists _ name
  rw [looks.runOn_fst] at looked
  exact Except.ok.inj looked

theorem keptFor_of_missing
    (missing : (Action.runOn (inDatabase folder (collectionExists name)) start).1 = .ok false) :
    start.KeptFor folder name := by
  intro place storage connects table found
  have absent := hasTable_of_looked missing connects
  rw [Database.hasTable, found] at absent
  contradiction

theorem rowsAt_of_missing
    (missing : (Action.runOn (inDatabase folder (collectionExists name)) start).1 = .ok false) :
    start.rowsAt folder name = [] := by
  rcases connect_cases start folder with ⟨error, _, fails, _⟩ | ⟨place, storage, connects, _⟩
  · exact rowsAt_of_error fails name
  · have absent := hasTable_of_looked missing connects
    rw [rowsAt_of_connect connects, Database.rowsOf]
    rcases opened : tableAt (storage.database place) name with error | table
    · rfl
    · rw [Database.hasTable, (tableAt_eq_ok_iff.mp opened).2] at absent
      contradiction

theorem Rebuilt.keptFor (rebuilt : Rebuilt folder name start calls after)
    (kept : start.KeptFor folder name) : after.KeptFor folder name := by
  induction rebuilt with
  | start => exact kept
  | build earlier call built ih => exact (call.built_of_ok ih built).1

/--
After builds of a collection that was not there, no two of its rows have the same identifier exactly
when the last build has no identifier twice in the last of its batches that has the identifier.
-/
theorem nodup_ids_of_rebuilt_iff
    (missing : (Action.runOn (inDatabase folder (collectionExists name)) start).1 = .ok false)
    (rebuilt : Rebuilt folder name start calls after) :
    (Row.ids (after.rowsAt folder name)).Nodup ↔
      ∀ call ∈ calls.getLast?,
        RepeatsAreRewritten Table.writeBatch (call.chunks.map (·.id)) := by
  have kept := keptFor_of_missing missing
  cases rebuilt with
  | start =>
      rw [rowsAt_of_missing missing]
      constructor
      · intro _ call last
        contradiction
      · intro _
        exact List.nodup_nil
  | build earlier call built =>
      rcases (call.built_of_ok (earlier.keptFor kept) built).2 with ⟨vectors, paired, rows_eq⟩
      rw [rows_eq, Table.loaded,
        nodup_ids_settle_iff (by decide) (Row.map_id_zipWith_ofChunk paired)]
      simp

/-- A call with chunks that have the given identifiers. -/
def callFor (ids : List String) : BuildCall Nat Unit := ⟨32, embedLength, chunksFor ids, ()⟩

/-- The rows with a repeated identifier are replaced by the next build. -/
theorem nodup_ids_of_rebuilt_twice :
    (Action.runOn (inDatabase (.ofString "index") (collectionExists "docs")) emptyStorage).1 =
        .ok false ∧
      ∃ after, Rebuilt (.ofString "index") "docs" emptyStorage
          [callFor ["a", "a"], callFor ["a", "b"]] after ∧
        (Row.ids (after.rowsAt (.ofString "index") "docs")).Nodup := by
  have missing : (Action.runOn (inDatabase (.ofString "index") (collectionExists "docs"))
      emptyStorage).1 = .ok false := by cbv
  have first : Rebuilt (.ofString "index") "docs" emptyStorage [callFor ["a", "a"]]
      ((callFor ["a", "a"]).run (.ofString "index") "docs" emptyStorage).2.world.storage :=
    .build .start (callFor ["a", "a"]) (by cbv)
  have rebuilt := Rebuilt.build first (callFor ["a", "b"]) (by cbv)
  refine ⟨missing, _, rebuilt, (nodup_ids_of_rebuilt_iff missing rebuilt).mpr ?_⟩
  rintro call last
  cases last
  exact repeatsAreRewritten_of_nodup (by decide)

/-- A call with two chunks of one position, as two documents with the same path give them. -/
def overlappingCall : BuildCall Nat Unit :=
  ⟨32, embedLength, Chunk.ofPieces "s" "p" ["a"] ++ Chunk.ofPieces "s" "p" ["b"], ()⟩

theorem not_repeatsAreRewritten_pair (id : String) :
    ¬ RepeatsAreRewritten Table.writeBatch [id, id] := by
  intro rewritten
  rcases rewritten 0 1 id Nat.zero_lt_one rfl rfl rfl with ⟨later, found, beyond⟩
  have several : 2 ≤ Table.writeBatch := by decide
  have outside : [id, id].length ≤ later := several.trans (le_of_lt_div beyond)
  rw [List.getElem?_eq_none outside] at found
  contradiction

set_option maxRecDepth 4000 in
/-- Both chunks of one position become rows, so that two rows have one identifier. -/
theorem repeated_ids_of_one_position :
    (Action.runOn (inDatabase (.ofString "index") (collectionExists "docs")) emptyStorage).1 =
        .ok false ∧
      ∃ after, Rebuilt (.ofString "index") "docs" emptyStorage [overlappingCall] after ∧
        ¬ (Row.ids (after.rowsAt (.ofString "index") "docs")).Nodup := by
  have missing : (Action.runOn (inDatabase (.ofString "index") (collectionExists "docs"))
      emptyStorage).1 = .ok false := by cbv
  have built : (overlappingCall.run (.ofString "index") "docs" emptyStorage).1 = .ok () := by cbv
  refine ⟨missing, _, .build .start overlappingCall built, ?_⟩
  rcases (overlappingCall.built_of_ok (keptFor_of_missing missing) built).2 with
    ⟨vectors, paired, rows_eq⟩
  rw [rows_eq, Table.loaded, nodup_ids_settle_iff (by decide) (Row.map_id_zipWith_ofChunk paired)]
  exact not_repeatsAreRewritten_pair _

end DocIndex.Store
