import DocIndex.Proofs.Batches
import DocIndex.Proofs.Store.Condition
import DocIndex.Store.Upsert

/-!
# What writing and removing do to rows

A batch is written in place of the rows with its identifiers. So of the rows of a table those stay
whose identifiers no batch has, and of a batch those stay whose identifiers no later batch has; rows
with one identifier inside one batch all stay. Removing what no chunk has made leaves the rows with
the identifiers of chunks, and the rows without identifier.
-/

namespace DocIndex.Store

variable {Component : Type}

namespace Row

/-- The identifiers of the rows that have one. -/
def ids (rows : List (Row Component)) : List String := rows.filterMap (·.id)

/-- The rows without those that have one of the given identifiers. -/
def without (ids : List String) (rows : List (Row Component)) : List (Row Component) :=
  rows.filter fun row => ! Table.hasIdAmong ids row

/-- The rows after a batch has been written in place of the rows with its identifiers. -/
def replace (rows batch : List (Row Component)) : List (Row Component) :=
  without (ids batch) rows ++ batch

/-- What stays of batches that are written one after the other where there are no rows. -/
def settle (batches : List (List (Row Component))) : List (Row Component) :=
  batches.foldl replace []

theorem ids_append (rows others : List (Row Component)) :
    ids (rows ++ others) = ids rows ++ ids others :=
  List.filterMap_append

theorem ids_of_map_id {rows : List (Row Component)} {known : List String}
    (identified : rows.map (·.id) = known.map some) : ids rows = known := by
  induction rows generalizing known with
  | nil =>
      rw [List.map_nil, eq_comm, List.map_eq_nil_iff] at identified
      rw [identified]
      rfl
  | cons row later ih =>
      rcases known with _ | ⟨id, known⟩
      · contradiction
      · rcases List.cons.inj identified with ⟨first, rest⟩
        rw [ids, List.filterMap_cons_some first]
        exact congrArg (id :: ·) (ih rest)

theorem map_id_zipWith_ofChunk {chunks : List Chunk} {vectors : List (List Component)}
    (paired : chunks.length = vectors.length) :
    (chunks.zipWith ofChunk vectors).map (·.id) = (chunks.map (·.id)).map some := by
  induction chunks generalizing vectors with
  | nil => rfl
  | cons chunk later ih =>
      rcases vectors with _ | ⟨vector, vectors⟩
      · simp at paired
      · have rest := ih (Nat.succ.inj paired)
        rw [List.zipWith_cons_cons, List.map_cons, rest]
        rfl

theorem ids_zipWith_ofChunk {chunks : List Chunk} {vectors : List (List Component)}
    (paired : chunks.length = vectors.length) :
    ids (chunks.zipWith ofChunk vectors) = chunks.map (·.id) :=
  ids_of_map_id (map_id_zipWith_ofChunk paired)

theorem ids_without (gone : List String) (rows : List (Row Component)) :
    ids (without gone rows) = (ids rows).filter fun id => ! gone.contains id := by
  induction rows with
  | nil => rfl
  | cons row later ih =>
      simp only [ids, without] at ih ⊢
      rcases row with ⟨_ | id, text, metadata, vector⟩
      · simpa [Table.hasIdAmong] using ih
      · by_cases among : id ∈ gone
        · simpa [Table.hasIdAmong, among] using ih
        · simpa [Table.hasIdAmong, among] using ih

theorem hasIdAmong_iff {ids : List String} {row : Row Component} :
    Table.hasIdAmong ids row = true ↔ ∃ id ∈ ids, row.id = some id := by
  rcases row with ⟨_ | id, text, metadata, vector⟩
  · simp [Table.hasIdAmong]
  · simp [Table.hasIdAmong]

@[simp]
theorem without_nil (rows : List (Row Component)) : without [] rows = rows := by
  rw [without, List.filter_eq_self]
  intro row member
  rcases row with ⟨_ | id, text, metadata, vector⟩ <;> rfl

theorem without_append_rows (ids : List String) (rows others : List (Row Component)) :
    without ids (rows ++ others) = without ids rows ++ without ids others :=
  List.filter_append rows others

theorem without_without (ids others : List String) (rows : List (Row Component)) :
    without others (without ids rows) = without (ids ++ others) rows := by
  rw [without, without, without, List.filter_filter]
  apply List.filter_congr
  intro row member
  rcases row with ⟨_ | id, text, metadata, vector⟩
  · rfl
  · simp [Table.hasIdAmong, Bool.and_comm]

theorem without_eq_self {ids : List String} {rows : List (Row Component)}
    (apart : ∀ row ∈ rows, ∀ id ∈ ids, row.id ≠ some id) : without ids rows = rows := by
  rw [without, List.filter_eq_self]
  intro row member
  rw [Bool.not_eq_true', ← Bool.not_eq_true, hasIdAmong_iff]
  rintro ⟨id, inIds, same⟩
  exact apart row member id inIds same

/-- Rows that are there before batches are written stay where no batch has their identifier. -/
theorem foldl_replace (rows : List (Row Component)) (batches : List (List (Row Component))) :
    batches.foldl replace rows = without (ids batches.flatten) rows ++ settle batches := by
  induction batches generalizing rows with
  | nil => simp [settle, ids, without_nil]
  | cons batch later ih =>
      have first : settle (batch :: later) = without (ids later.flatten) batch ++ settle later := by
        rw [settle, List.foldl_cons, ih]
        rfl
      rw [List.foldl_cons, ih, replace, without_append_rows, without_without, first,
        List.flatten_cons, ids_append, List.append_assoc]

/-- Rows stay where no chunk has their identifier when chunks are written in batches of a size. -/
theorem foldl_replace_batches {size : Nat} (rows : List (Row Component)) {chunks : List Chunk}
    {vectors : List (List Component)} (paired : chunks.length = vectors.length) :
    (batches size (chunks.zipWith ofChunk vectors)).foldl replace rows =
      without (chunks.map (·.id)) rows ++
        settle (batches size (chunks.zipWith ofChunk vectors)) := by
  rw [foldl_replace, flatten_batches, ids_zipWith_ofChunk paired]

/-- Of a batch those rows stay whose identifiers no later batch has. -/
theorem settle_cons (batch : List (Row Component)) (later : List (List (Row Component))) :
    settle (batch :: later) = without (ids later.flatten) batch ++ settle later := by
  rw [settle, List.foldl_cons, foldl_replace]
  rfl

theorem settle_sublist (batches : List (List (Row Component))) :
    (settle batches).Sublist batches.flatten := by
  induction batches with
  | nil => exact List.Sublist.refl []
  | cons batch later ih =>
      rw [settle_cons, List.flatten_cons]
      exact List.filter_sublist.append ih

theorem mem_ids {rows : List (Row Component)} {id : String} :
    id ∈ ids rows ↔ ∃ row ∈ rows, row.id = some id :=
  List.mem_filterMap

/-- Where no identifier occurs twice, everything stays that is written. -/
theorem settle_of_nodup {batches : List (List (Row Component))}
    (distinct : (ids batches.flatten).Nodup) : settle batches = batches.flatten := by
  induction batches with
  | nil => rfl
  | cons batch later ih =>
      rw [List.flatten_cons, ids_append, List.nodup_append] at distinct
      rcases distinct with ⟨_, distinctLater, apart⟩
      rw [settle_cons, List.flatten_cons, ih distinctLater]
      congr 1
      apply without_eq_self
      intro row member id inLater same
      exact apart id (mem_ids.mpr ⟨row, member, same⟩) id inLater rfl

end Row

end DocIndex.Store
