import DocIndex.Proofs.Store.Rows

/-!
# Operations on tables

What writing chunks and removing stale rows do to a table, for any number of batches. Writing
vectors of the width of the table does not fail unless that width is 0, and removing does not fail
in a table that has identifiers.
-/

namespace DocIndex.Store

variable {Component : Type}

namespace Table

variable {table addition after : Table Component} {width : Nat} {chunks : List Chunk}
  {vectors : List (List Component)}

/-- What there is to the rows of chunks, where they can be had. -/
theorem ofChunks_eq_ok_iff :
    ofChunks width chunks vectors = .ok addition ↔
      vectors.flatten.length = vectors.length * width ∧ (chunks ≠ [] → width ≠ 0) ∧
        addition.shape = .chunks width ∧
        addition.rows = chunks.zipWith Row.ofChunk (batches width vectors.flatten) := by
  simp only [ofChunks, bne_iff_ne]
  by_cases whole : vectors.flatten.length = vectors.length * width
  · rw [if_neg (not_not.mpr whole), and_iff_right whole, ← imp_not_comm, ← not_and]
    by_cases lost : width = 0 ∧ chunks ≠ []
    · simp [lost]
    · rw [dif_neg lost, and_iff_right lost, Except.ok.injEq, Table.ext_iff, eq_comm,
        @eq_comm _ _ addition.rows]
  · rw [if_pos whole]
    exact ⟨nofun, fun made => absurd made.1 whole⟩

theorem append_eq_ok_iff :
    table.append addition = .ok after ↔ addition.shape = table.shape ∧
      after.shape = table.shape ∧ after.rows = table.rows ++ addition.rows := by
  rw [append]
  by_cases same : addition.shape = table.shape
  · simp [same, Table.ext_iff, eq_comm]
  · simp [same]

theorem ofChunks_uniform (positive : 0 < width) (chunks : List Chunk)
    (uniform : ∀ vector ∈ vectors, vector.length = width) :
    ∃ addition, ofChunks width chunks vectors = .ok addition ∧ addition.shape = .chunks width ∧
      addition.rows = chunks.zipWith Row.ofChunk vectors := by
  have flat : Shape.chunks width ≠ .chunks 0 := by simp [Nat.ne_of_gt positive]
  refine ⟨⟨.chunks width, chunks.zipWith Row.ofChunk vectors, fun same => absurd same flat⟩,
    ofChunks_eq_ok_iff.mpr ⟨length_flatten_of_uniform uniform, ?_, rfl, ?_⟩, rfl, rfl⟩
  · exact fun _ => Nat.ne_of_gt positive
  · rw [batches_flatten positive uniform]

theorem ofChunks_zero (some_chunks : chunks ≠ []) (vectors : List (List Component)) :
    ∃ error, ofChunks 0 chunks vectors = .error error := by
  rcases cut : ofChunks 0 chunks vectors with error | addition
  · exact ⟨error, rfl⟩
  · exact absurd rfl ((ofChunks_eq_ok_iff.mp cut).2.1 some_chunks)

/-- The table with other rows, for which there is place. -/
def withRows (table : Table Component) (rows : List (Row Component))
    (wide : table.shape ≠ .chunks 0) : Table Component :=
  ⟨table.shape, rows, fun flat => absurd flat wide⟩

/-- The table without the rows that have one of the given identifiers. -/
def without (table : Table Component) (ids : List String) : Table Component :=
  table.keep fun row => ! hasIdAmong ids row

@[simp]
theorem without_nil (table : Table Component) : table.without [] = table :=
  Table.ext rfl (Row.without_nil table.rows)

theorem without_without (table : Table Component) (ids others : List String) :
    (table.without ids).without others = table.without (ids ++ others) :=
  Table.ext rfl (Row.without_without ids others table.rows)

theorem deleteWhere_write {ids : List String} (some_ids : ids ≠ [])
    (identified : table.shape.hasIds = true) :
    table.deleteWhere (Condition.write ids) = .ok (table.without ids) := by
  rw [deleteWhere, Condition.read?_write some_ids]
  simp only [identified, if_true]
  rfl

theorem hasIds_of_chunks (shape : table.shape = .chunks width) : table.shape.hasIds = true := by
  rw [shape]
  rfl

theorem pos_of_wide (shape : table.shape = .chunks width) (wide : table.shape ≠ .chunks 0) :
    0 < width := by
  apply Nat.pos_of_ne_zero
  rintro rfl
  exact wide shape

theorem upsertBatch_uniform (shape : table.shape = .chunks width)
    (wide : table.shape ≠ .chunks 0) (some_chunks : chunks ≠ [])
    (paired : chunks.length = vectors.length)
    (uniform : ∀ vector ∈ vectors, vector.length = width) :
    table.upsertBatch width chunks vectors =
      (table.withRows (Row.replace table.rows (chunks.zipWith Row.ofChunk vectors)) wide,
        .ok ()) := by
  have some_ids : chunks.map (·.id) ≠ [] := by simpa using some_chunks
  rcases ofChunks_uniform (pos_of_wide shape wide) chunks uniform with
    ⟨addition, made, shapeToo, rows_eq⟩
  have appended : (table.without (chunks.map (·.id))).append addition =
      .ok (table.withRows (Row.replace table.rows (chunks.zipWith Row.ofChunk vectors)) wide) := by
    apply append_eq_ok_iff.mpr
    refine ⟨shapeToo.trans shape.symm, rfl, ?_⟩
    rw [rows_eq, withRows, Row.replace, Row.ids_zipWith_ofChunk paired]
    rfl
  rw [upsertBatch.eq_def, deleteWhere_write some_ids (hasIds_of_chunks shape), made]
  simp only [Except.bind, appended]

/-- Writing all batches writes the rows of the chunks, batch by batch. -/
theorem upsertBatches_uniform (shape : table.shape = .chunks width)
    (wide : table.shape ≠ .chunks 0) (size : Nat) (paired : chunks.length = vectors.length)
    (uniform : ∀ vector ∈ vectors, vector.length = width) :
    table.upsertBatches width ((batches size chunks).zip (batches size vectors)) =
      (table.withRows ((batches size (chunks.zipWith Row.ofChunk vectors)).foldl Row.replace
        table.rows) wide, .ok ()) := by
  fun_induction batches size chunks generalizing table vectors with
  | case1 =>
      rw [List.zip_nil_left, upsertBatches.eq_def, List.zipWith_nil_left, batches_nil]
      rfl
  | case2 chunk chunks ih =>
      rcases vectors with _ | ⟨vector, vectors⟩
      · simp at paired
      · have paired' : chunks.length = vectors.length := Nat.succ.inj paired
        have uniform' : ∀ other ∈ vectors, other.length = width :=
          fun other member => uniform other (List.mem_cons_of_mem vector member)
        have uniformTake : ∀ other ∈ vector :: vectors.take (size - 1), other.length = width := by
          intro other member
          rcases List.mem_cons.mp member with rfl | inTake
          · exact uniform _ List.mem_cons_self
          · exact uniform' other (List.mem_of_mem_take inTake)
        have written : table.upsertBatch width (chunk :: chunks.take (size - 1))
              (vector :: vectors.take (size - 1)) =
            (table.withRows (Row.replace table.rows
              ((chunk :: chunks.take (size - 1)).zipWith Row.ofChunk
                (vector :: vectors.take (size - 1)))) wide, .ok ()) :=
          upsertBatch_uniform shape wide (List.cons_ne_nil _ _) (by simp [paired']) uniformTake
        have later (rows : List (Row Component)) :=
          @ih (table.withRows rows wide) (vectors.drop (size - 1)) shape wide (by simp [paired'])
            fun other member => uniform' other (List.mem_of_mem_drop member)
        rw [batches_cons, List.zip_cons_cons, upsertBatches.eq_def]
        simp only [written]
        rw [later, List.zipWith_cons_cons, List.zipWith_cons_cons, batches_cons, List.foldl_cons,
          List.take_zipWith, List.drop_zipWith]
        rfl

/-- The table after chunks have been written with their vectors, batch by batch. -/
def written (chunks : List Chunk) (vectors : List (List Component)) (table : Table Component)
    (wide : table.shape ≠ .chunks 0) : Table Component :=
  table.withRows ((batches writeBatch (chunks.zipWith Row.ofChunk vectors)).foldl Row.replace
    table.rows) wide

/-- Writing chunks with vectors of the width of the table does not fail. -/
theorem upsert_uniform (shape : table.shape = .chunks width) (wide : table.shape ≠ .chunks 0)
    (bounded : width ≤ greatestWidth) (paired : chunks.length = vectors.length)
    (uniform : ∀ vector ∈ vectors, vector.length = width) :
    table.upsert chunks vectors = (table.written chunks vectors wide, .ok ()) := by
  have same : (chunks.length != vectors.length) = false := by simpa using paired
  rcases vectors with _ | ⟨vector, vectors⟩
  · rw [upsert.eq_def, same, written, List.zipWith_nil_right, batches_nil, batches_nil]
    rfl
  · have width_eq : vector.length = width := uniform vector List.mem_cons_self
    simp only [upsert, same, Bool.false_eq_true, if_false, width_eq, shapeFor,
      if_neg (Nat.not_lt.mpr bounded)]
    exact upsertBatches_uniform shape wide writeBatch paired uniform

theorem deleteBatches_eq (identified : table.shape.hasIds = true) {groups : List (List String)}
    (occupied : ∀ group ∈ groups, group ≠ []) :
    table.deleteBatches groups = (table.without groups.flatten, .ok ()) := by
  induction groups generalizing table with
  | nil =>
      rw [deleteBatches.eq_def, List.flatten_nil, without_nil]
  | cons group later ih =>
      have first : group ≠ [] := occupied group List.mem_cons_self
      have rest : (table.without group).deleteBatches later =
          ((table.without group).without later.flatten, .ok ()) :=
        ih identified fun other member => occupied other (List.mem_cons_of_mem group member)
      rw [deleteBatches.eq_def]
      simp only [deleteWhere_write first identified]
      rw [rest, List.flatten_cons, without_without]

/-- Whether a row stays when the rows are removed that no chunk has made. -/
def isCurrent (chunks : List Chunk) (row : Row Component) : Bool :=
  match row.id with
  | some id => (chunks.map (·.id)).contains id
  | none => true

/-- Removing stale rows leaves the rows with identifiers of chunks and those without identifier. -/
theorem removeStale_eq (identified : table.shape.hasIds = true) (chunks : List Chunk) :
    table.removeStale chunks =
      (table.keep (isCurrent chunks),
        .ok ((Row.ids table.rows).filter fun id => ! (chunks.map (·.id)).contains id).length) := by
  have stale_eq : table.staleIds chunks =
      .ok ((Row.ids table.rows).filter fun id => ! (chunks.map (·.id)).contains id) := by
    rw [staleIds.eq_def, ids, if_pos identified]
    rfl
  rw [removeStale.eq_def, stale_eq]
  simp only
  rw [deleteBatches_eq identified fun group member => ne_nil_of_mem_batches member]
  simp only [flatten_batches]
  congr 1
  refine Table.ext rfl (List.filter_congr ?_)
  intro row member
  rcases known : row.id with _ | id
  · simp [hasIdAmong, isCurrent, known]
  · have occurs : id ∈ Row.ids table.rows := Row.mem_ids.mpr ⟨row, member, known⟩
    have stale_iff : ((Row.ids table.rows).filter fun id =>
        ! (chunks.map (·.id)).contains id).contains id = ! (chunks.map (·.id)).contains id := by
      rw [Bool.eq_iff_iff, List.contains_iff_mem, List.mem_filter]
      simp [occurs]
    simp only [hasIdAmong, isCurrent, known]
    rw [stale_iff, Bool.not_not]

end Table

end DocIndex.Store
