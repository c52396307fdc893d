import DocIndex.Proofs.Store.Repeats

/-!
# What writing leaves, chunk by chunk

A batch removes the rows with its identifiers before its own rows are added, also those that an
earlier batch of the same call has added. So the row of a chunk stays exactly when no later batch
has its identifier, and chunks with one identifier inside the last batch that has it all stay. Where
no identifier repeats, every chunk has its row, whatever the batches are.
-/

namespace DocIndex.Store

variable {Component : Type} {size : Nat} {ids : List String}

/-- A later batch of the given size has the identifier at a position as well. -/
def IsRewritten (size : Nat) (ids : List String) (position : Nat) : Prop :=
  ∃ later < ids.length, ids[later]? = ids[position]? ∧ position / size < later / size

instance (size : Nat) (ids : List String) (position : Nat) :
    Decidable (IsRewritten size ids position) :=
  inferInstanceAs (Decidable (∃ later < ids.length, _))

theorem isRewritten_iff {position : Nat} {id : String} (found : ids[position]? = some id) :
    IsRewritten size ids position ↔
      ∃ later, ids[later]? = some id ∧ position / size < later / size := by
  constructor
  · rintro ⟨later, _, same, beyond⟩
    exact ⟨later, same.trans found, beyond⟩
  · rintro ⟨later, foundLater, beyond⟩
    rcases List.getElem?_eq_some_iff.mp foundLater with ⟨inside, _⟩
    exact ⟨later, inside, foundLater.trans found.symm, beyond⟩

theorem not_isRewritten_of_nodup (distinct : ids.Nodup) (position : Nat) :
    ¬ IsRewritten size ids position := by
  rintro ⟨later, inside, same, beyond⟩
  have together : later = position := (List.getElem?_inj inside distinct).mp same
  rw [together] at beyond
  exact Nat.lt_irrefl _ beyond

/-- What is in the first batch is rewritten when it occurs after that. -/
theorem isRewritten_take_iff (positive : 0 < size) {position : Nat} {id : String}
    (inside : position < size) (found : ids[position]? = some id) :
    IsRewritten size ids position ↔ id ∈ ids.drop size := by
  rw [isRewritten_iff found, Nat.div_eq_of_lt inside]
  constructor
  · rintro ⟨later, foundLater, beyond⟩
    exact List.mem_of_getElem? (getElem?_drop_of_le foundLater (le_of_lt_div beyond))
  · intro occurs
    rcases List.mem_iff_getElem?.mp occurs with ⟨later, foundLater⟩
    refine ⟨later + size, getElem?_drop_of_add foundLater, ?_⟩
    rw [Nat.add_div_right _ positive]
    exact Nat.succ_pos _

/-- What is after the first batch is rewritten as if there were no batch before it. -/
theorem isRewritten_drop_iff (positive : 0 < size) {position : Nat} {id : String}
    (found : (ids.drop size)[position]? = some id) :
    IsRewritten size ids (position + size) ↔ IsRewritten size (ids.drop size) position := by
  rw [isRewritten_iff (getElem?_drop_of_add found), isRewritten_iff found,
    Nat.add_div_right _ positive]
  constructor
  · rintro ⟨later, foundLater, beyond⟩
    have reached := le_of_lt_div beyond
    have shifted : later / size = (later - size) / size + 1 := by
      rw [← Nat.add_div_right _ positive, Nat.sub_add_cancel reached]
    exact ⟨later - size, getElem?_drop_of_le foundLater reached, by omega⟩
  · rintro ⟨later, foundLater, beyond⟩
    refine ⟨later + size, getElem?_drop_of_add foundLater, ?_⟩
    rw [Nat.add_div_right _ positive]
    exact Nat.succ_lt_succ beyond

namespace Row

/-- The rows at the positions whose identifiers no later batch has. -/
def latest (size : Nat) (ids : List String) (rows : List (Row Component)) : List (Row Component) :=
  (rows.zipIdx.filter fun entry => ¬ IsRewritten size ids entry.2).map (·.1)

theorem latest_of_nodup (distinct : ids.Nodup) (rows : List (Row Component)) :
    latest size ids rows = rows := by
  have all : (rows.zipIdx.filter fun entry => ¬ IsRewritten size ids entry.2) = rows.zipIdx := by
    rw [List.filter_eq_self]
    intro entry _
    simpa using not_isRewritten_of_nodup distinct entry.2
  rw [latest, all, List.zipIdx_map_fst]

theorem id_of_mem_zipIdx {rows : List (Row Component)} {entry : Row Component × Nat}
    (identified : rows.map (·.id) = ids.map some) (member : entry ∈ rows.zipIdx) :
    ∃ id, ids[entry.2]? = some id ∧ entry.1.id = some id := by
  have found := List.mem_zipIdx_iff_getElem?.mp member
  have known : (ids.map some)[entry.2]? = some entry.1.id := by
    rw [← identified, List.getElem?_map, found]
    rfl
  rw [List.getElem?_map, Option.map_eq_some_iff] at known
  rcases known with ⟨id, foundId, same⟩
  exact ⟨id, foundId, same.symm⟩

/-- Of the first batch those rows are the latest whose identifiers do not occur after it. -/
theorem latest_take (positive : 0 < size) {rows : List (Row Component)}
    (identified : rows.map (·.id) = ids.map some) :
    ((rows.take size).zipIdx.filter fun entry => ¬ IsRewritten size ids entry.2).map (·.1) =
      without (ids.drop size) (rows.take size) := by
  nth_rewrite 2 [← List.zipIdx_map_fst 0 (rows.take size)]
  rw [without, List.filter_map]
  congr 1
  apply List.filter_congr
  intro entry member
  have inFirst := List.mem_zipIdx_iff_getElem?.mp member
  have inside : entry.2 < size := by
    rcases List.getElem?_eq_some_iff.mp inFirst with ⟨short, _⟩
    rw [List.length_take] at short
    omega
  rw [List.getElem?_take_of_lt inside, ← List.mem_zipIdx_iff_getElem?] at inFirst
  rcases id_of_mem_zipIdx identified inFirst with ⟨id, found, same⟩
  rw [Function.comp_apply, Bool.eq_iff_iff, decide_eq_true_iff, Bool.not_eq_true',
    ← Bool.not_eq_true, hasIdAmong_iff, isRewritten_take_iff positive inside found, same]
  simp

/-- After the first batch the latest rows are those of the batches after it. -/
theorem latest_drop (positive : 0 < size) {rows : List (Row Component)}
    (identified : rows.map (·.id) = ids.map some) :
    (((rows.drop size).zipIdx size).filter fun entry => ¬ IsRewritten size ids entry.2).map (·.1) =
      latest size (ids.drop size) (rows.drop size) := by
  have identifiedDrop : (rows.drop size).map (·.id) = (ids.drop size).map some := by
    rw [List.map_drop, identified, List.map_drop]
  rw [← Nat.add_zero size, ← List.map_snd_add_zipIdx_eq_zipIdx, Nat.add_zero, List.filter_map,
    List.map_map, latest]
  congr 1
  apply List.filter_congr
  intro entry member
  rcases id_of_mem_zipIdx identifiedDrop member with ⟨id, found, _⟩
  rw [Function.comp_apply, Bool.eq_iff_iff, decide_eq_true_iff, decide_eq_true_iff]
  exact not_congr (isRewritten_drop_iff positive found)

theorem latest_eq (positive : 0 < size) {rows : List (Row Component)}
    (identified : rows.map (·.id) = ids.map some) :
    latest size ids rows =
      without (ids.drop size) (rows.take size) ++ latest size (ids.drop size) (rows.drop size) := by
  rw [latest, ← latest_take positive identified, ← latest_drop positive identified,
    ← List.map_append, ← List.filter_append]
  congr 2
  nth_rewrite 1 [← List.take_append_drop size rows]
  rw [List.zipIdx_append, Nat.zero_add]
  by_cases long : size ≤ rows.length
  · rw [List.length_take, Nat.min_eq_left long]
  · rw [List.drop_eq_nil_of_le (by omega)]
    rfl

/-- What stays of rows that are written in batches where there are none. -/
theorem settle_batches (positive : 0 < size) {rows : List (Row Component)}
    (identified : rows.map (·.id) = ids.map some) :
    settle (batches size rows) = latest size ids rows := by
  rcases Nat.exists_eq_succ_of_ne_zero (Nat.ne_of_gt positive) with ⟨before, rfl⟩
  fun_induction batches before.succ rows generalizing ids with
  | case1 => rfl
  | case2 first later ih =>
      rw [Nat.succ_sub_one] at ih ⊢
      have identifiedDrop : (later.drop before).map (·.id) = (ids.drop before.succ).map some := by
        rw [List.map_drop, List.map_drop, ← identified, List.map_cons, List.drop_succ_cons]
      rw [settle_cons, flatten_batches, ih identifiedDrop, latest_eq positive identified,
        ids_of_map_id identifiedDrop]
      rfl

end Row

namespace Table

variable {width : Nat} {table : Table Component} {chunks : List Chunk}
  {vectors : List (List Component)}

/-- Where no identifier repeats, chunks are written whatever the size of the batches is. -/
theorem upsertBatches_of_nodup (shape : table.shape = .chunks width)
    (wide : table.shape ≠ .chunks 0) (size : Nat) (paired : chunks.length = vectors.length)
    (uniform : ∀ vector ∈ vectors, vector.length = width)
    (distinct : (chunks.map (·.id)).Nodup) :
    table.upsertBatches width ((batches size chunks).zip (batches size vectors)) =
      (table.withRows (Row.without (chunks.map (·.id)) table.rows ++
        chunks.zipWith Row.ofChunk vectors) wide, .ok ()) := by
  have known : (Row.ids (batches size (chunks.zipWith Row.ofChunk vectors)).flatten).Nodup := by
    rw [flatten_batches, Row.ids_zipWith_ofChunk paired]
    exact distinct
  rw [upsertBatches_uniform shape wide size paired uniform, Row.foldl_replace_batches _ paired,
    Row.settle_of_nodup known, flatten_batches]

theorem rows_written (wide : table.shape ≠ .chunks 0) (paired : chunks.length = vectors.length) :
    (table.written chunks vectors wide).rows = Row.without (chunks.map (·.id)) table.rows ++
      Row.latest writeBatch (chunks.map (·.id)) (chunks.zipWith Row.ofChunk vectors) := by
  rw [written, withRows, Row.foldl_replace_batches table.rows paired,
    Row.settle_batches (by decide) (Row.map_id_zipWith_ofChunk paired)]

theorem rows_written_of_nodup (wide : table.shape ≠ .chunks 0)
    (paired : chunks.length = vectors.length) (distinct : (chunks.map (·.id)).Nodup) :
    (table.written chunks vectors wide).rows =
      Row.without (chunks.map (·.id)) table.rows ++ chunks.zipWith Row.ofChunk vectors := by
  rw [rows_written wide paired, Row.latest_of_nodup distinct]

/--
Chunks with more or fewer vectors are not written, and nothing changes. Chunks with vectors of the
width of the table are: of the old rows those stay whose identifiers no chunk has, and of the chunks
those have a row whose identifiers no later batch has. If the identifiers are distinct every chunk
has its row, and batches of another size come to the same.
-/
theorem rows_of_upsert (table : Table Component) (chunks : List Chunk)
    (vectors : List (List Component)) :
    let ids := chunks.map (·.id)
    let others := Row.without ids table.rows
    let rowsOfChunks := chunks.zipWith Row.ofChunk vectors
    (chunks.length ≠ vectors.length →
      table.upsert chunks vectors =
        (table, .error (countMismatch vectors.length chunks.length))) ∧
    ∀ width, 0 < width → shapeFor width = .ok table.shape → chunks.length = vectors.length →
      (∀ vector ∈ vectors, vector.length = width) →
      ∃ after, table.upsert chunks vectors = (after, .ok ()) ∧ after.shape = table.shape ∧
        after.rows.Perm (others ++ Row.latest writeBatch ids rowsOfChunks) ∧
        (ids.Nodup → after.rows.Perm (others ++ rowsOfChunks) ∧
          ∀ size, table.upsertBatches width ((batches size chunks).zip (batches size vectors)) =
            (after, .ok ())) := by
  intro ids others rowsOfChunks
  constructor
  · intro unpaired
    rw [upsert.eq_def, if_pos (by simpa using unpaired)]
  · intro width positive made paired uniform
    rcases shapeFor_eq_ok_iff.mp made with ⟨bounded, shape⟩
    have wide : table.shape ≠ .chunks 0 := by
      rw [shape]
      simpa using Nat.ne_of_gt positive
    refine ⟨_, upsert_uniform shape wide bounded paired uniform, rfl, ?_, ?_⟩
    · rw [rows_written wide paired]
    · intro distinct
      have rows_eq := rows_written_of_nodup wide paired distinct
      refine ⟨by rw [rows_eq], fun size => ?_⟩
      rw [upsertBatches_of_nodup shape wide size paired uniform distinct]
      exact congrArg (·, Except.ok ()) (Table.ext rfl rows_eq.symm)

/-- One old row is replaced and one stays; both chunks with a repeated identifier become rows. -/
theorem rows_of_upsert_repeated :
    let table : Table Nat :=
      ⟨.chunks 1, [⟨some "a", "", "", [7]⟩, ⟨some "x", "", "", [8]⟩], nofun⟩
    shapeFor 1 = .ok table.shape ∧
      ∃ after, table.upsert (chunksFor ["a", "b", "b"]) [[1], [2], [3]] = (after, .ok ()) ∧
        (after.rows.map fun row => (row.id, row.vector)).Perm
          [(some "x", [8]), (some "a", [1]), (some "b", [2]), (some "b", [3])] := by
  intro table
  have made : shapeFor 1 = .ok table.shape := rfl
  rcases (rows_of_upsert table (chunksFor ["a", "b", "b"]) [[1], [2], [3]]).2 1 Nat.one_pos made rfl
    (by decide) with ⟨after, written, _, rows_eq, _⟩
  exact ⟨made, after, written, rows_eq.map fun row => (row.id, row.vector)⟩

end Table

end DocIndex.Store
