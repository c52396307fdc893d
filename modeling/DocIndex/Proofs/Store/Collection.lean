import DocIndex.Proofs.Store.Database
import DocIndex.Proofs.Store.Upsert
import DocIndex.Store.Collection

/-!
# Bringing a collection in line with chunks

A collection that has come about by such loads keeps rows with identifiers. Under this invariant a
load either replaces all rows by those of its chunks or changes none: the only step that fails after
a deletion is the writing of vectors of width 0, and a table for these has no rows.
-/

namespace DocIndex.Store

open DocIndex.Action

variable {Component : Type}

/-- What is kept true of the table of a collection whose vectors have the given width. -/
structure Table.Kept (width : Nat) (table : Table Component) : Prop where
  shape : table.shape = .chunks width
  bounded : width ≤ greatestWidth
  identified : ∀ row ∈ table.rows, row.id ≠ none

/-- What is kept true of the collection with a name, if there is one. -/
def Database.KeptAt (database : Database Component) (name : String) : Prop :=
  ∀ table, List.lookup name database = some table → ∃ width, table.Kept width

/-- The rows of the collection with a name; none where no collection can be opened. -/
def Database.rowsOf (database : Database Component) (name : String) : List (Row Component) :=
  match tableAt database name with
  | .ok table => table.rows
  | .error _ => []

/-- The rows that have no identifier. -/
def Row.unidentified (rows : List (Row Component)) : List (Row Component) :=
  rows.filter fun row => row.id.isNone

theorem Row.unidentified_eq_nil {rows : List (Row Component)}
    (identified : ∀ row ∈ rows, row.id ≠ none) : Row.unidentified rows = [] := by
  rw [unidentified, List.filter_eq_nil_iff]
  intro row member
  simpa using identified row member

/-- The rows that writing chunks with their vectors leaves where there are no others. -/
def Table.loaded (chunks : List Chunk) (vectors : List (List Component)) :
    List (Row Component) :=
  Row.settle (batches writeBatch (chunks.zipWith Row.ofChunk vectors))

namespace Table

variable {table : Table Component} {chunks : List Chunk} {vectors : List (List Component)}
  {width : Nat}

/--
Vectors of width 0 cannot be written. The rows that they were to replace are deleted before, but a
table for such vectors has none.
-/
theorem upsert_zero (shape : table.shape = .chunks 0) (some_chunks : chunks ≠ [])
    (paired : chunks.length = vectors.length) (uniform : ∀ vector ∈ vectors, vector.length = 0) :
    ∃ error, table.upsert chunks vectors = (table, .error error) := by
  have same : (chunks.length != vectors.length) = false := by simpa using paired
  have kept (ids : List String) : table.without ids = table := by
    refine Table.ext rfl ?_
    rw [without, rows_keep, table.empty_of_flat shape, List.filter_nil]
  rcases List.exists_cons_of_ne_nil some_chunks with ⟨chunk, laterChunks, rfl⟩
  rcases vectors with _ | ⟨vector, laterVectors⟩
  · simp at paired
  · have width_eq : vector.length = 0 := uniform vector List.mem_cons_self
    have some_ids : ((chunk :: laterChunks.take (writeBatch - 1)).map (·.id)) ≠ [] := by simp
    rcases ofChunks_zero (List.cons_ne_nil chunk (laterChunks.take (writeBatch - 1)))
      (vector :: laterVectors.take (writeBatch - 1)) with ⟨error, fails⟩
    have failsFirst : table.upsertBatch 0 (chunk :: laterChunks.take (writeBatch - 1))
        (vector :: laterVectors.take (writeBatch - 1)) = (table, .error error) := by
      rw [upsertBatch.eq_def, deleteWhere_write some_ids (hasIds_of_chunks shape), fails, kept]
      rfl
    refine ⟨error, ?_⟩
    simp only [upsert, same, Bool.false_eq_true, if_false, width_eq, shapeFor,
      if_neg (Nat.not_lt_zero greatestWidth)]
    rw [batches_cons, batches_cons, List.zip_cons_cons, upsertBatches.eq_def]
    simp only [failsFirst]

theorem exists_of_mem_zipWith {row : Row Component}
    (member : row ∈ chunks.zipWith Row.ofChunk vectors) :
    ∃ chunk ∈ chunks, ∃ vector ∈ vectors, Row.ofChunk chunk vector = row := by
  induction chunks generalizing vectors with
  | nil => contradiction
  | cons chunk later ih =>
      rcases vectors with _ | ⟨vector, vectors⟩
      · contradiction
      · rcases List.mem_cons.mp member with rfl | inLater
        · exact ⟨chunk, List.mem_cons_self, vector, List.mem_cons_self, rfl⟩
        · rcases ih inLater with ⟨other, inChunks, given, inVectors, same⟩
          exact ⟨other, List.mem_cons_of_mem chunk inChunks, given,
            List.mem_cons_of_mem vector inVectors, same⟩

theorem exists_chunk_of_mem_loaded {row : Row Component} (member : row ∈ loaded chunks vectors) :
    ∃ chunk ∈ chunks, row.id = some chunk.id := by
  have written := (Row.settle_sublist _).subset member
  rw [flatten_batches] at written
  rcases exists_of_mem_zipWith written with ⟨chunk, inChunks, vector, _, rfl⟩
  exact ⟨chunk, inChunks, rfl⟩

theorem loaded_of_nodup (paired : chunks.length = vectors.length)
    (distinct : (chunks.map (·.id)).Nodup) :
    loaded chunks vectors = chunks.zipWith Row.ofChunk vectors := by
  have known : (Row.ids (batches writeBatch
      (chunks.zipWith Row.ofChunk vectors)).flatten).Nodup := by
    rw [flatten_batches, Row.ids_zipWith_ofChunk paired]
    exact distinct
  rw [loaded, Row.settle_of_nodup known, flatten_batches]

/--
Of the rows before a load and those it writes, only the latter are left in the end, and those that
have no identifier.
-/
theorem filter_isCurrent_foldl (rows : List (Row Component))
    (paired : chunks.length = vectors.length) :
    ((batches writeBatch (chunks.zipWith Row.ofChunk vectors)).foldl Row.replace rows).filter
      (isCurrent chunks) = Row.unidentified rows ++ loaded chunks vectors := by
  have gone : (Row.without (chunks.map (·.id)) rows).filter (isCurrent chunks) =
      Row.unidentified rows := by
    rw [Row.without, List.filter_filter, Row.unidentified]
    apply List.filter_congr
    intro row member
    rcases known : row.id with _ | id
    · simp [isCurrent, hasIdAmong, known]
    · simp [isCurrent, hasIdAmong, known]
  have stay : (loaded chunks vectors).filter (isCurrent chunks) = loaded chunks vectors := by
    rw [List.filter_eq_self]
    intro row member
    rcases exists_chunk_of_mem_loaded member with ⟨chunk, inChunks, known⟩
    rw [isCurrent, known, List.contains_iff_mem]
    exact List.mem_map_of_mem inChunks
  rw [Row.foldl_replace_batches rows paired, List.filter_append, gone]
  exact congrArg (Row.unidentified rows ++ ·) stay

/-- Removing stale rows after writing leaves what has been written, and rows without identifier. -/
theorem removeStale_written {width : Nat} (shape : table.shape = .chunks width)
    (wide : table.shape ≠ .chunks 0) (paired : chunks.length = vectors.length) :
    ∃ count, (table.written chunks vectors wide).removeStale chunks =
      (table.withRows (Row.unidentified table.rows ++ loaded chunks vectors) wide,
        .ok count) := by
  have identified : (table.written chunks vectors wide).shape.hasIds = true :=
    hasIds_of_chunks shape
  have rows_eq := filter_isCurrent_foldl table.rows paired
  have left : (table.written chunks vectors wide).keep (isCurrent chunks) =
      table.withRows (Row.unidentified table.rows ++ loaded chunks vectors) wide :=
    Table.ext rfl rows_eq
  rw [removeStale_eq identified, left]
  exact ⟨_, rfl⟩

/-- Writing chunks either fails and changes nothing, or writes all of them. -/
theorem Kept.upsert_cases (kept : table.Kept width) (some_chunks : chunks ≠ [])
    (paired : chunks.length = vectors.length)
    (uniform : ∀ vector ∈ vectors, vector.length = width) :
    (∃ error, table.upsert chunks vectors = (table, .error error)) ∨
      ∃ wide, table.upsert chunks vectors = (table.written chunks vectors wide, .ok ()) := by
  by_cases flat : table.shape = .chunks 0
  · left
    have zero : width = 0 := Shape.chunks.inj (kept.shape.symm.trans flat)
    exact upsert_zero flat some_chunks paired (zero ▸ uniform)
  · exact .inr ⟨flat, upsert_uniform kept.shape flat kept.bounded paired uniform⟩

theorem Kept.removeStale_written (kept : table.Kept width) (wide : table.shape ≠ .chunks 0)
    (paired : chunks.length = vectors.length) :
    ∃ count, (table.written chunks vectors wide).removeStale chunks =
      (table.withRows (loaded chunks vectors) wide, .ok count) := by
  rcases Table.removeStale_written kept.shape wide paired with ⟨count, left⟩
  rw [Row.unidentified_eq_nil kept.identified, List.nil_append] at left
  exact ⟨count, left⟩

theorem Kept.withRows_loaded (kept : table.Kept width) (wide : table.shape ≠ .chunks 0) :
    (table.withRows (loaded chunks vectors) wide).Kept width where
  shape := kept.shape
  bounded := kept.bounded
  identified row member := by
    rcases exists_chunk_of_mem_loaded member with ⟨chunk, _, known⟩
    rw [known]
    exact Option.some_ne_none _

end Table

variable {database : Database Component} {name : String} {table : Table Component}
  {chunks : List Chunk} {vectors : List (List Component)} {width : Nat}

theorem Database.rowsOf_eq (opened : tableAt database name = .ok table) :
    database.rowsOf name = table.rows := by
  rw [rowsOf, opened]

@[simp]
theorem Database.rowsOf_nil (name : String) :
    Database.rowsOf ([] : Database Component) name = [] := by
  rcases opened : tableAt ([] : Database Component) name with error | table
  · rw [rowsOf, opened]
  · have found := (tableAt_eq_ok_iff.mp opened).2
    contradiction

theorem tableAt_assign (database : Database Component) (table : Table Component)
    (openable : isOpenable name = true) :
    tableAt (database.assign name table) name = .ok table :=
  tableAt_eq_ok_iff.mpr ⟨openable, database.lookup_assign_self name table⟩

theorem Database.KeptAt.assign (database : Database Component) (kept : table.Kept width) :
    (database.assign name table).KeptAt name := by
  intro there found
  rw [lookup_assign_self, Option.some.injEq] at found
  exact ⟨width, found ▸ kept⟩

theorem shapeFor_eq_ok_iff {shape : Shape} :
    shapeFor width = .ok shape ↔ width ≤ greatestWidth ∧ shape = .chunks width := by
  rw [shapeFor]
  split
  · rename_i wide
    simp [Nat.not_le.mpr wide]
  · rename_i narrow
    simp [Nat.not_lt.mp narrow, eq_comm]

/-- A database has the same tables as another apart from the one with a name. -/
def Database.SameApart (name : String) (database after : Database Component) : Prop :=
  ∀ other, other ≠ name → List.lookup other after = List.lookup other database

/--
A table for vectors of a width is there under a name, which was there before or has been made
without rows.
-/
structure Database.Prepares (name : String) (width : Nat) (database after : Database Component)
    (table : Table Component) : Prop where
  opened : tableAt after name = .ok table
  shape : table.shape = .chunks width
  origin : tableAt database name = .ok table ∨
    database.hasTable name = false ∧ width ≤ greatestWidth ∧ table = .empty (.chunks width)
  others : database.SameApart name after

theorem Database.Prepares.rows_eq {after : Database Component}
    (prepares : database.Prepares name width after table) : table.rows = database.rowsOf name := by
  rcases prepares.origin with opened | ⟨missing, _, rfl⟩
  · exact (rowsOf_eq opened).symm
  · rw [rowsOf]
    rcases opened : tableAt database name with error | table
    · rfl
    · rw [hasTable, (tableAt_eq_ok_iff.mp opened).2] at missing
      contradiction

theorem Database.Prepares.kept {after : Database Component}
    (prepares : database.Prepares name width after table) (kept : database.KeptAt name) :
    table.Kept width := by
  rcases prepares.origin with opened | ⟨_, bounded, rfl⟩
  · rcases kept table (tableAt_eq_ok_iff.mp opened).2 with ⟨other, keptOther⟩
    have same := prepares.shape
    rw [keptOther.shape, Shape.chunks.injEq] at same
    exact same ▸ keptOther
  · exact ⟨rfl, bounded, by simp [Table.empty]⟩

theorem yields_collectionExists (database : Database Component) (name : String) :
    Yields (collectionExists name) database (.ok (database.hasTable name)) database :=
  Yields.bind (yields_world database) (yields_pure database _)

theorem width?_eq_some_iff {shape : Shape} :
    shape.width? = some width ↔ shape = .chunks width := by
  cases shape with
  | chunks other => simp [Shape.width?]
  | foreign hasIds => simp [Shape.width?]

theorem openExisting_cases (present : database.hasTable name = true) (width : Nat) :
    (∃ error, Yields (createIfMissing name width) database (.error error) database) ∨
      ∃ table, Yields (createIfMissing name width) database (.ok ()) database ∧
        database.Prepares name width database table := by
  have begins := present ▸ yields_collectionExists database name
  rcases opened : tableAt database name with error | table
  · exact .inl ⟨error, Yields.bind begins (Yields.bind_error _ (yields_openTable opened))⟩
  · have opens := yields_openTable opened
    by_cases same : table.shape.width? = some width
    · right
      refine ⟨table, Yields.bind begins (Yields.bind opens ?_), opened,
        width?_eq_some_iff.mp same, .inl opened, fun other _ => rfl⟩
      rw [if_neg (by simpa using same)]
      exact yields_print database _
    · left
      refine ⟨.dimensionMismatch name (table.shape.width?.getD 0) width,
        Yields.bind begins (Yields.bind opens ?_)⟩
      rw [if_pos (by simpa using same)]
      exact Yields.bind_error _ (yields_throw database _)

theorem createMissing_cases (missing : database.hasTable name = false) (width : Nat) :
    (∃ error, Yields (createIfMissing name width) database (.error error) database) ∨
      ∃ table after, Yields (createIfMissing name width) database (.ok ()) after ∧
        database.Prepares name width after table := by
  have begins := missing ▸ yields_collectionExists database name
  rcases shaped : shapeFor width with error | shape
  · exact .inl ⟨error, Yields.bind begins (Yields.bind_error _ (yields_ofExcept database shaped))⟩
  · have shapes := yields_ofExcept database shaped
    rcases shapeFor_eq_ok_iff.mp shaped with ⟨bounded, rfl⟩
    rcases yields_createTable database name (.empty (.chunks width)) with
      ⟨error, fails⟩ | ⟨openable, makes⟩
    · exact .inl ⟨error, Yields.bind begins (Yields.bind shapes (Yields.bind_error _ fails))⟩
    · right
      refine ⟨.empty (.chunks width), _, Yields.bind begins (Yields.bind shapes
        (Yields.bind makes (yields_print _ _))), tableAt_assign database _ openable, rfl,
        .inr ⟨missing, bounded, rfl⟩, ?_⟩
      exact fun other apart => database.lookup_assign_of_ne _ apart

/-- Opening or making a collection changes no rows. -/
theorem createIfMissing_cases (database : Database Component) (name : String) (width : Nat) :
    (∃ error, Yields (createIfMissing name width) database (.error error) database) ∨
      ∃ table after, Yields (createIfMissing name width) database (.ok ()) after ∧
        database.Prepares name width after table := by
  rcases present : database.hasTable name with _ | _
  · exact createMissing_cases present width
  · rcases openExisting_cases present width with fails | ⟨table, prepares⟩
    · exact .inl fails
    · exact .inr ⟨table, database, prepares⟩

theorem Database.SameApart.assign {before : Database Component}
    (same : before.SameApart name database) (table : Table Component) :
    before.SameApart name (database.assign name table) := by
  intro other apart
  rw [database.lookup_assign_of_ne table apart]
  exact same other apart

/-- What a load may come to: a failure that leaves all rows, or success with the rows it writes. -/
structure Database.Loads (name : String) (chunks : List Chunk) (vectors : List (List Component))
    (database after : Database Component) (result : Except Error Unit) : Prop where
  kept : after.KeptAt name
  others : database.SameApart name after
  rows_of_error : ∀ error, result = .error error → after.rowsOf name = database.rowsOf name
  loaded_of_ok : result = .ok () → ∃ table, tableAt after name = .ok table ∧
    table.rows = Table.loaded chunks vectors

theorem load_eq (name : String) (chunks : List Chunk) (vectors : List (List Component))
    (first : (vectors.head?.map List.length).getD 0 = width) :
    load name chunks vectors = (do
      createIfMissing name width
      upsert name chunks vectors
      let _ ← removeStale name chunks) := by
  rw [load, first]

/-- A load replaces all rows of a collection or none. -/
theorem exists_yields_load (kept : database.KeptAt name) (some_chunks : chunks ≠ [])
    (paired : chunks.length = vectors.length)
    (first : (vectors.head?.map List.length).getD 0 = width)
    (uniform : ∀ vector ∈ vectors, vector.length = width) :
    ∃ result after, Yields (load name chunks vectors) database result after ∧
      database.Loads name chunks vectors after result := by
  rw [load_eq name chunks vectors first]
  rcases createIfMissing_cases database name width with
    ⟨error, fails⟩ | ⟨table, between, creates, prepares⟩
  · exact ⟨.error error, database, Yields.bind_error _ fails, kept, fun _ _ => rfl,
      fun _ _ => rfl, fun loaded => by contradiction⟩
  · have openable := (tableAt_eq_ok_iff.mp prepares.opened).1
    have keptTable := prepares.kept kept
    have writes := yields_inTable prepares.opened (Table.upsert chunks vectors)
    rcases keptTable.upsert_cases some_chunks paired uniform with
      ⟨error, fails⟩ | ⟨wide, written⟩
    · rw [fails] at writes
      refine ⟨.error error, between.assign name table,
        Yields.bind creates (Yields.bind_error _ writes), ?_, ?_, ?_, ?_⟩
      · exact Database.KeptAt.assign between keptTable
      · exact prepares.others.assign table
      · intro _ _
        rw [Database.rowsOf_eq (tableAt_assign between table openable), prepares.rows_eq]
      · intro loaded
        contradiction
    · rw [written] at writes
      have removes := yields_inTable
        (tableAt_assign between (table.written chunks vectors wide) openable)
        (Table.removeStale chunks)
      rcases keptTable.removeStale_written wide paired with ⟨count, left⟩
      rw [left] at removes
      have keptAfter : (table.withRows (Table.loaded chunks vectors) wide).Kept width :=
        keptTable.withRows_loaded wide
      refine ⟨.ok (), _, Yields.bind creates (Yields.bind writes (Yields.bind removes
        (yields_pure _ ()))), ?_, ?_, ?_, ?_⟩
      · exact Database.KeptAt.assign _ keptAfter
      · exact (prepares.others.assign _).assign _
      · intro _ failed
        contradiction
      · intro _
        exact ⟨_, tableAt_assign _ _ openable, rfl⟩

end DocIndex.Store
