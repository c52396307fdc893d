import DocIndex.Proofs.Store.Writing

/-!
# Vectors of differing widths

Of the vectors of a batch only the number of all components is looked at. If it comes out as that
many rows of the width of the first vector, the components are stored in rows of that width, however
they were divided before: what is written are the vectors regrouped. So each chunk gets its own
vector exactly when all vectors have one width, and vectors of differing widths are refused exactly
when some batch of them does not come out.
-/

namespace DocIndex.Store

variable {Component : Type} {width : Nat} {chunks : List Chunk} {vectors : List (List Component)}

/-- Vectors with as many components in all as the same number of vectors of a width has. -/
def Fills (width : Nat) (vectors : List (List Component)) : Prop :=
  vectors.flatten.length = vectors.length * width

/-- Vectors that are laid end to end batch by batch, and cut into vectors of a width again. -/
def regrouped (size width : Nat) (vectors : List (List Component)) : List (List Component) :=
  (batches size vectors).flatMap fun batch => batches width batch.flatten

section Regrouped

variable {size : Nat}

theorem length_of_mem_regrouped (positive : 0 < width)
    (fills : ∀ batch ∈ batches size vectors, Fills width batch) {vector : List Component}
    (member : vector ∈ regrouped size width vectors) : vector.length = width := by
  rcases List.mem_flatMap.mp member with ⟨batch, inBatches, inBatch⟩
  exact length_of_mem_batches positive (fills batch inBatches ▸ Nat.dvd_mul_left width _) inBatch

theorem batches_regrouped (sized : 0 < size) (positive : 0 < width)
    (fills : ∀ batch ∈ batches size vectors, Fills width batch) :
    batches size (regrouped size width vectors) =
      (batches size vectors).map fun batch => batches width batch.flatten :=
  batches_flatMap sized fun batch member => length_batches_of_length positive (fills batch member)

theorem length_regrouped (positive : 0 < width)
    (fills : ∀ batch ∈ batches size vectors, Fills width batch) :
    (regrouped size width vectors).length = vectors.length := by
  have each : (batches size vectors).map (fun batch => (batches width batch.flatten).length) =
      (batches size vectors).map List.length :=
    List.map_congr_left fun batch member => length_batches_of_length positive (fills batch member)
  rw [regrouped, List.length_flatMap, each, ← List.length_flatten, flatten_batches]

theorem regrouped_of_uniform (positive : 0 < width)
    (uniform : ∀ vector ∈ vectors, vector.length = width) :
    regrouped size width vectors = vectors := by
  have each : (batches size vectors).map (fun batch => batches width batch.flatten) =
      batches size vectors := by
    rw [List.map_congr_left fun batch member => batches_flatten positive fun vector inBatch =>
      uniform vector (flatten_batches size vectors ▸ List.mem_flatten.mpr ⟨batch, member, inBatch⟩),
      List.map_id']
  rw [regrouped, List.flatMap_def, each, flatten_batches]

end Regrouped

namespace Table

variable {table : Table Component}

/-- A table is for vectors of a width, and takes those of each batch for as many rows. -/
structure Takes (width : Nat) (vectors : List (List Component)) (table : Table Component) :
    Prop where
  shape : shapeFor width = .ok table.shape
  positive : 0 < width
  fills : ∀ batch ∈ batches writeBatch vectors, Fills width batch

theorem Takes.wide (takes : table.Takes width vectors) : table.shape ≠ .chunks 0 := by
  rw [(shapeFor_eq_ok_iff.mp takes.shape).2]
  simpa using Nat.ne_of_gt takes.positive

/-- Each chunk has a row with its own vector, and no other row has its identifier. -/
def Stores (chunks : List Chunk) (vectors : List (List Component)) (table : Table Component) :
    Prop :=
  ∀ (position : Nat) (chunk : Chunk) (vector : List Component), chunks[position]? = some chunk →
    vectors[position]? = some vector →
    ∀ row, row ∈ table.rows ∧ row.id = some chunk.id ↔ row = Row.ofChunk chunk vector

/-- A table takes vectors for chunks although one of them has another width than the first. -/
def Regroups (chunks : List Chunk) (vectors : List (List Component)) (table : Table Component) :
    Prop :=
  chunks.length = vectors.length ∧ ∃ first ∈ vectors.head?, table.Takes first.length vectors ∧
    ∃ vector ∈ vectors, vector.length ≠ first.length

theorem deleteWhere_eq_ok {condition : String} {after : Table Component}
    (deleted : table.deleteWhere condition = .ok after) : after.shape = table.shape := by
  rw [deleteWhere] at deleted
  split at deleted
  · contradiction
  · split at deleted
    · cases deleted
      rfl
    · contradiction

theorem ofChunks_congr (chunks : List Chunk) {others : List (List Component)}
    (counted : others.length = vectors.length) (laid : others.flatten = vectors.flatten) :
    ofChunks width chunks others = ofChunks width chunks vectors := by
  simp only [ofChunks, counted, laid]

/-- A batch that is written has the shape of the table, and as many components as are cut. -/
theorem upsertBatch_eq_ok {after : Table Component}
    (ran : table.upsertBatch width chunks vectors = (after, .ok ())) :
    table.shape = .chunks width ∧ after.shape = table.shape ∧ Fills width vectors ∧
      (chunks ≠ [] → 0 < width) := by
  rw [upsertBatch] at ran
  split at ran
  · cases ran
  · rename_i remaining deleted
    have kept := deleteWhere_eq_ok deleted
    rcases cut : ofChunks width chunks vectors with error | addition
    · rw [cut] at ran
      cases ran
    · rw [cut, Except.bind] at ran
      rcases appended : remaining.append addition with error | written
      · rw [appended] at ran
        cases ran
      · rw [appended] at ran
        cases ran
        rcases append_eq_ok_iff.mp appended with ⟨shape, same, _⟩
        rcases ofChunks_eq_ok_iff.mp cut with ⟨fills, wide, made, _⟩
        refine ⟨?_, same.trans kept, fills, ?_⟩
        · rw [← kept, ← shape, made]
        · exact fun some_chunks => Nat.pos_of_ne_zero (wide some_chunks)

theorem upsertBatches_eq_ok {groups : List (List Chunk × List (List Component))}
    (ran : (table.upsertBatches width groups).2 = .ok ()) :
    ∀ group ∈ groups, table.shape = .chunks width ∧ Fills width group.2 ∧
      (group.1 ≠ [] → 0 < width) := by
  induction groups generalizing table with
  | nil => simp
  | cons group later ih =>
      rw [upsertBatches] at ran
      rcases first : table.upsertBatch width group.1 group.2 with ⟨after, error | _⟩
      · rw [first] at ran
        cases ran
      · rw [first] at ran
        rcases upsertBatch_eq_ok first with ⟨shape, same, fills⟩
        intro other member
        rcases List.mem_cons.mp member with rfl | inLater
        · exact ⟨shape, fills⟩
        · exact same ▸ ih ran other inLater

/-- Batches with vectors that give the same rows come to the same. -/
theorem upsertBatches_map (change : List (List Component) → List (List Component))
    {groups : List (List Chunk × List (List Component))}
    (same : ∀ group ∈ groups, ofChunks width group.1 (change group.2) =
      ofChunks width group.1 group.2) :
    table.upsertBatches width (groups.map (Prod.map id change)) =
      table.upsertBatches width groups := by
  induction groups generalizing table with
  | nil => rfl
  | cons group later ih =>
      have first : table.upsertBatch width group.1 (change group.2) =
          table.upsertBatch width group.1 group.2 := by
        rw [upsertBatch, upsertBatch, same group List.mem_cons_self]
      have rest (after : Table Component) :=
        @ih after fun other member => same other (List.mem_cons_of_mem group member)
      rw [List.map_cons, upsertBatches, upsertBatches]
      simp only [Prod.map_fst, Prod.map_snd, id_eq, first, rest]

/-- What is written are the vectors regrouped to the width of the first. -/
theorem upsert_of_takes {first : List Component} (paired : chunks.length = vectors.length)
    (head : first ∈ vectors.head?) (takes : table.Takes first.length vectors) :
    table.upsert chunks vectors =
      (table.written chunks (regrouped writeBatch first.length vectors) takes.wide, .ok ()) := by
  have same : (chunks.length != vectors.length) = false := by simpa using paired
  have sized : 0 < writeBatch := by decide
  have shape := (shapeFor_eq_ok_iff.mp takes.shape).2
  have begins : table.upsert chunks vectors = table.upsertBatches first.length
      ((batches writeBatch chunks).zip (batches writeBatch vectors)) := by
    rcases vectors with _ | ⟨vector, later⟩
    · contradiction
    · cases head
      simp only [upsert, same, Bool.false_eq_true, if_false, takes.shape]
  have sameRows : ∀ group ∈ (batches writeBatch chunks).zip (batches writeBatch vectors),
      ofChunks first.length group.1 (batches first.length group.2.flatten) =
        ofChunks first.length group.1 group.2 := by
    intro group member
    have fills := takes.fills group.2 (List.of_mem_zip member).2
    exact ofChunks_congr group.1 (length_batches_of_length takes.positive fills)
      (flatten_batches _ _)
  rw [begins, ← upsertBatches_map (fun batch => batches first.length batch.flatten) sameRows,
    ← List.zip_map_right, ← batches_regrouped sized takes.positive takes.fills]
  exact upsertBatches_uniform shape takes.wide writeBatch
    (paired.trans (length_regrouped takes.positive takes.fills).symm)
    fun vector => length_of_mem_regrouped takes.positive takes.fills

/-- Where all batches have been written, the table has taken all of them. -/
theorem taken_of_upsertBatches {size : Nat} (paired : chunks.length = vectors.length)
    (ran : (table.upsertBatches width
      ((batches size chunks).zip (batches size vectors))).2 = .ok ()) :
    ∀ batch ∈ batches size vectors,
      table.shape = .chunks width ∧ Fills width batch ∧ 0 < width := by
  intro batch member
  rw [← List.map_snd_zip (length_batches_congr paired).ge] at member
  rcases List.mem_map.mp member with ⟨group, inGroups, rfl⟩
  rcases upsertBatches_eq_ok ran group inGroups with ⟨shape, fills, positive⟩
  exact ⟨shape, fills, positive (ne_nil_of_mem_batches (List.of_mem_zip inGroups).1)⟩

/-- What a table has written it has taken. -/
theorem takes_of_upsert (ran : (table.upsert chunks vectors).2 = .ok ()) :
    chunks.length = vectors.length ∧
      ∀ first ∈ vectors.head?, table.Takes first.length vectors := by
  rw [upsert.eq_def] at ran
  split at ran
  · cases ran
  · rename_i same
    have paired : chunks.length = vectors.length := by simpa using same
    refine ⟨paired, ?_⟩
    intro first head
    rcases vectors with _ | ⟨vector, later⟩
    · contradiction
    · cases head
      rcases shaped : shapeFor first.length with error | shape
      · simp only [shaped] at ran
        cases ran
      · simp only [shaped] at ran
        have taken := taken_of_upsertBatches paired ran
        have firstBatch : first :: later.take (writeBatch - 1) ∈
            batches writeBatch (first :: later) := by
          rw [batches_cons]
          exact List.mem_cons_self
        rcases taken _ firstBatch with ⟨shapeTable, _, positive⟩
        refine ⟨?_, positive, fun batch member => (taken batch member).2.1⟩
        rw [shaped, (shapeFor_eq_ok_iff.mp shaped).2, shapeTable]

theorem uniform_of_upsert (regular : ¬ table.Regroups chunks vectors)
    (ran : (table.upsert chunks vectors).2 = .ok ()) :
    ∀ first ∈ vectors.head?, ∀ vector ∈ vectors, vector.length = first.length := by
  rcases takes_of_upsert ran with ⟨paired, each⟩
  intro first head vector member
  by_contra wide
  exact regular ⟨paired, first, head, each first head, vector, member, wide⟩

/-- Where no identifier repeats, each chunk has a row with the vector it is written with. -/
theorem stores_written (wide : table.shape ≠ .chunks 0) (paired : chunks.length = vectors.length)
    (distinct : (chunks.map (·.id)).Nodup) :
    (table.written chunks vectors wide).Stores chunks vectors := by
  intro position chunk vector foundChunk foundVector row
  have foundRow : (chunks.zipWith Row.ofChunk vectors)[position]? =
      some (Row.ofChunk chunk vector) := by
    rw [List.getElem?_zipWith_eq_some]
    exact ⟨chunk, vector, foundChunk, foundVector, rfl⟩
  have foundId : (chunks.map (·.id))[position]? = some chunk.id := by
    rw [List.getElem?_map, foundChunk]
    rfl
  rw [rows_written_of_nodup wide paired distinct]
  constructor
  · rintro ⟨member, known⟩
    rcases List.mem_append.mp member with before | new
    · have among : hasIdAmong (chunks.map (·.id)) row = true :=
        Row.hasIdAmong_iff.mpr ⟨chunk.id, List.mem_of_getElem? foundId, known⟩
      have absent := (List.mem_filter.mp before).2
      rw [among] at absent
      contradiction
    · rcases List.mem_iff_getElem?.mp new with ⟨other, foundOther⟩
      rcases List.getElem?_zipWith_eq_some.mp foundOther with
        ⟨otherChunk, otherVector, inChunks, inVectors, rfl⟩
      have otherId : (chunks.map (·.id))[other]? = some chunk.id := by
        rw [List.getElem?_map, inChunks]
        exact known
      rcases List.getElem?_eq_some_iff.mp otherId with ⟨inside, _⟩
      have together : other = position :=
        (List.getElem?_inj inside distinct).mp (otherId.trans foundId.symm)
      subst together
      rw [Option.some.inj (foundChunk.symm.trans inChunks),
        Option.some.inj (foundVector.symm.trans inVectors)]
  · rintro rfl
    exact ⟨List.mem_append_right _ (List.mem_of_getElem? foundRow), rfl⟩

/-- Vectors that are in the rows of their chunks are those that have been written. -/
theorem eq_of_stores_written {others : List (List Component)} (wide : table.shape ≠ .chunks 0)
    (paired : chunks.length = vectors.length) (pairedOthers : chunks.length = others.length)
    (distinct : (chunks.map (·.id)).Nodup)
    (stores : (table.written chunks others wide).Stores chunks vectors) : vectors = others := by
  apply List.ext_getElem (paired.symm.trans pairedOthers)
  intro position inVectors inOthers
  have inChunks : position < chunks.length := paired ▸ inVectors
  have own := (stores position _ _ (List.getElem?_eq_getElem inChunks)
    (List.getElem?_eq_getElem inVectors) _).mpr rfl
  have stored := (stores_written wide pairedOthers distinct position _ _
    (List.getElem?_eq_getElem inChunks) (List.getElem?_eq_getElem inOthers) _).mp own
  exact congrArg Row.vector stored

/--
Of chunks with distinct identifiers each has its own vector after every call that succeeds, unless
the table takes vectors of differing widths because the components of each batch come out. These are
also the only vectors of differing widths that are not refused.
-/
theorem stores_own_vectors_iff (table : Table Component) {chunks : List Chunk}
    (distinct : (chunks.map (·.id)).Nodup) (vectors : List (List Component)) :
    ((∀ after, table.upsert chunks vectors = (after, .ok ()) → after.Stores chunks vectors) ↔
      ¬ table.Regroups chunks vectors) ∧
    (((∃ vector ∈ vectors, ∃ other ∈ vectors, vector.length ≠ other.length) →
        ∃ error, (table.upsert chunks vectors).2 = .error error) ↔
      ¬ table.Regroups chunks vectors) := by
  refine ⟨⟨?_, ?_⟩, ⟨?_, ?_⟩⟩
  · rintro stores ⟨paired, first, head, takes, vector, member, wide⟩
    -- The regrouped vectors are in the rows, so they would have to be the vectors themselves.
    have counted := paired.trans (length_regrouped takes.positive takes.fills).symm
    have same := eq_of_stores_written takes.wide paired counted distinct
      (stores _ (upsert_of_takes paired head takes))
    rw [same] at member
    exact wide (length_of_mem_regrouped takes.positive takes.fills member)
  · intro regular after ran
    have succeeded := congrArg Prod.snd ran
    rcases takes_of_upsert succeeded with ⟨paired, each⟩
    rcases head : vectors.head? with _ | first
    · rw [List.head?_eq_none_iff.mp head]
      intro position chunk vector _ found
      contradiction
    · have takes := each first head
      have uniform := uniform_of_upsert regular succeeded first head
      rw [upsert_of_takes paired head takes, regrouped_of_uniform takes.positive uniform] at ran
      cases ran
      exact stores_written takes.wide paired distinct
  · rintro refuses ⟨paired, first, head, takes, vector, member, wide⟩
    rcases refuses ⟨vector, member, first, List.mem_of_mem_head? head, wide⟩ with ⟨error, failed⟩
    rw [upsert_of_takes paired head takes] at failed
    contradiction
  · rintro regular ⟨vector, member, other, memberToo, differ⟩
    rcases result : (table.upsert chunks vectors).2 with error | _
    · exact ⟨error, rfl⟩
    · exfalso
      rcases head : vectors.head? with _ | first
      · rw [List.head?_eq_none_iff.mp head] at member
        contradiction
      · have uniform := uniform_of_upsert regular result first head
        exact differ ((uniform vector member).trans (uniform other memberToo).symm)

/-- Two vectors of the width of the table are stored with their own chunks. -/
theorem stores_own_vectors_of_two :
    let chunks := chunksFor ["a", "b"]
    let vectors := [[1, 2], [3, 4]]
    (chunks.map (·.id)).Nodup ∧
      ∃ after : Table Nat, (Table.empty (.chunks 2)).upsert chunks vectors = (after, .ok ()) ∧
        after.Stores chunks vectors := by
  intro chunks vectors
  have distinct : (chunks.map (·.id)).Nodup := by decide
  have regular : ¬ (Table.empty (.chunks 2) : Table Nat).Regroups chunks vectors := by
    rintro ⟨_, first, head, _, vector, member, wide⟩
    cases head
    simp only [vectors, List.mem_cons, List.not_mem_nil, or_false] at member
    rcases member with rfl | rfl <;> exact wide rfl
  have ran : (Table.empty (.chunks 2)).upsert chunks vectors =
      (⟨.chunks 2, chunks.zipWith Row.ofChunk vectors, nofun⟩, .ok ()) := by
    cbv
  exact ⟨distinct, _, ran, (stores_own_vectors_iff _ distinct vectors).1.mpr regular _ ran⟩

/-- Three vectors of other widths come out as rows of width 2, of which the chunks get the wrong. -/
theorem stores_other_vectors_of_three :
    let chunks := chunksFor ["a", "b", "c"]
    let vectors := [[1, 2], [3], [4, 5, 6]]
    (chunks.map (·.id)).Nodup ∧
      ∃ after : Table Nat, (Table.empty (.chunks 2)).upsert chunks vectors = (after, .ok ()) ∧
        after.rows = chunks.zipWith Row.ofChunk [[1, 2], [3, 4], [5, 6]] ∧
        ¬ after.Stores chunks vectors := by
  intro chunks vectors
  have distinct : (chunks.map (·.id)).Nodup := by decide
  have ran : (Table.empty (.chunks 2)).upsert chunks vectors =
      (⟨.chunks 2, chunks.zipWith Row.ofChunk [[1, 2], [3, 4], [5, 6]], nofun⟩, .ok ()) := by
    cbv
  refine ⟨distinct, _, ran, rfl, ?_⟩
  intro stores
  have stored := (stores 1 _ _ rfl rfl (Row.ofChunk ⟨"b", "b", ⟨"docs", "b", 0⟩⟩ [3])).mpr rfl
  revert stored
  decide

end Table

end DocIndex.Store
