import DocIndex.Proofs.Store.Isolation

/-!
# Consistent rows

In a collection that has been made where there was none, every row holds a position, the identifier
of that position, and a vector of the width that the collection was made for. Every step of every
operation keeps this, also those before an error: to remove rows takes nothing from the others, and
rows are only added to a table of their own shape.
-/

namespace DocIndex.Store

open DocIndex.Action DocIndex.Files Storage

variable {Component Memory Result Other : Type} {name : String} {folder : Path} {width : Nat}

/-- A chunk that has been made of a piece of a document. -/
def IsPiece (chunk : Chunk) : Prop :=
  ∃ source path pieces, chunk ∈ Chunk.ofPieces source path pieces

/-- A row with a position, the identifier of that, and a vector of the given width. -/
structure Row.Consistent (width : Nat) (row : Row Component) : Prop where
  positioned : ∃ metadata : Metadata, row.id = some metadata.id ∧ row.metadata = metadata.json
  width_eq : row.vector.length = width

/-- A table for vectors of the given width in which all rows are consistent. -/
structure Table.Consistent (width : Nat) (table : Table Component) : Prop where
  shape : table.shape = .chunks width
  rows : ∀ row ∈ table.rows, row.Consistent width
  empty_of_zero : width = 0 → table.rows = []

theorem IsPiece.id_eq {chunk : Chunk} (made : IsPiece chunk) : chunk.id = chunk.metadata.id := by
  rcases made with ⟨source, path, pieces, member⟩
  rcases List.mem_mapIdx.mp member with ⟨index, inside, rfl⟩
  rfl

namespace Table

variable {table addition : Table Component}

/-- Whatever the widths of the vectors are, they are cut into rows of the width of the table. -/
theorem consistent_of_ofChunks {chunks : List Chunk} {vectors : List (List Component)}
    (made : ∀ chunk ∈ chunks, IsPiece chunk)
    (given : ofChunks width chunks vectors = .ok addition) :
    ∀ row ∈ addition.rows, row.Consistent width := by
  rcases ofChunks_eq_ok_iff.mp given with ⟨whole, wide, _, rows_eq⟩
  intro row member
  rw [rows_eq] at member
  rcases exists_of_mem_zipWith member with ⟨chunk, inChunks, vector, inVectors, rfl⟩
  have positive : 0 < width := Nat.pos_of_ne_zero (wide (List.ne_nil_of_mem inChunks))
  have divides : width ∣ vectors.flatten.length := whole ▸ Nat.dvd_mul_left width _
  refine ⟨⟨chunk.metadata, ?_, rfl⟩, length_of_mem_batches positive divides inVectors⟩
  exact congrArg some (made chunk inChunks).id_eq

theorem consistent_of_rows (shape : table.shape = .chunks width)
    (rows : ∀ row ∈ table.rows, row.Consistent width) : table.Consistent width :=
  ⟨shape, rows, fun zero => table.empty_of_flat (zero ▸ shape)⟩

theorem consistent_empty (width : Nat) :
    (Table.empty (.chunks width) : Table Component).Consistent width :=
  consistent_of_rows rfl fun _ member => absurd member List.not_mem_nil

theorem Consistent.deleteWhere {after : Table Component} {condition : String}
    (consistent : table.Consistent width) (deleted : table.deleteWhere condition = .ok after) :
    after.Consistent width := by
  rw [Table.deleteWhere] at deleted
  split at deleted
  · contradiction
  · split at deleted
    · cases deleted
      apply consistent_of_rows ((table.shape_keep _).trans consistent.shape)
      exact fun row member => consistent.rows row (List.mem_filter.mp member).1
    · contradiction

theorem Consistent.append {after : Table Component} (consistent : table.Consistent width)
    (appended : table.append addition = .ok after)
    (each : addition.shape = .chunks width → ∀ row ∈ addition.rows, row.Consistent width) :
    after.Consistent width := by
  rcases append_eq_ok_iff.mp appended with ⟨same, shape, rows_eq⟩
  apply consistent_of_rows (shape.trans consistent.shape)
  intro row member
  rw [rows_eq] at member
  rcases List.mem_append.mp member with before | new
  · exact consistent.rows row before
  · exact each (same.trans consistent.shape) row new

/-- The old rows of a batch may be gone and its new ones not written; the others are as before. -/
theorem Consistent.upsertBatch (consistent : table.Consistent width) (given : Nat)
    {chunks : List Chunk} (made : ∀ chunk ∈ chunks, IsPiece chunk)
    (vectors : List (List Component)) :
    (table.upsertBatch given chunks vectors).1.Consistent width := by
  rcases deleted : table.deleteWhere (Condition.write (chunks.map (·.id))) with error | remaining
  · simp only [Table.upsertBatch, deleted]
    exact consistent
  · have kept := consistent.deleteWhere deleted
    rcases cut : ofChunks given chunks vectors with error | addition
    · simp only [Table.upsertBatch, deleted, cut, Except.bind]
      exact kept
    · rcases appended : remaining.append addition with error | written
      · simp only [Table.upsertBatch, deleted, cut, Except.bind, appended]
        exact kept
      · simp only [Table.upsertBatch, deleted, cut, Except.bind, appended]
        apply kept.append appended
        intro same
        rw [(ofChunks_eq_ok_iff.mp cut).2.2.1] at same
        cases same
        exact consistent_of_ofChunks made cut

theorem Consistent.upsertBatches (consistent : table.Consistent width) (given : Nat)
    {groups : List (List Chunk × List (List Component))}
    (made : ∀ group ∈ groups, ∀ chunk ∈ group.1, IsPiece chunk) :
    (table.upsertBatches given groups).1.Consistent width := by
  induction groups generalizing table with
  | nil => exact consistent
  | cons group later ih =>
      rcases group with ⟨chunks, vectors⟩
      have first := consistent.upsertBatch given (made _ List.mem_cons_self) vectors
      have rest (after : Table Component) (kept : after.Consistent width) := @ih after kept
        fun other member => made other (List.mem_cons_of_mem _ member)
      rw [Table.upsertBatches]
      rcases ran : table.upsertBatch given chunks vectors with ⟨after, _ | _⟩
      · rw [ran] at first
        exact first
      · rw [ran] at first
        exact rest after first

theorem Consistent.upsert (consistent : table.Consistent width) {chunks : List Chunk}
    (made : ∀ chunk ∈ chunks, IsPiece chunk) (vectors : List (List Component)) :
    (table.upsert chunks vectors).1.Consistent width := by
  rw [Table.upsert.eq_def]
  split
  · exact consistent
  · rcases vectors with _ | ⟨first, later⟩
    · exact consistent
    · rcases shaped : shapeFor first.length with error | shape
      · simp only [shaped]
        exact consistent
      · simp only [shaped]
        apply consistent.upsertBatches
        rintro ⟨batch, vectors⟩ member chunk inBatch
        apply made
        rw [← flatten_batches writeBatch chunks]
        exact List.mem_flatten.mpr ⟨batch, (List.of_mem_zip member).1, inBatch⟩

theorem Consistent.deleteBatches (consistent : table.Consistent width)
    (groups : List (List String)) : (table.deleteBatches groups).1.Consistent width := by
  induction groups generalizing table with
  | nil => exact consistent
  | cons ids later ih =>
      rw [Table.deleteBatches]
      rcases deleted : table.deleteWhere (Condition.write ids) with error | remaining
      · exact consistent
      · exact ih (consistent.deleteWhere deleted)

theorem Consistent.removeStale (consistent : table.Consistent width) (chunks : List Chunk) :
    (table.removeStale chunks).1.Consistent width := by
  rw [Table.removeStale]
  rcases table.staleIds chunks with error | stale
  · exact consistent
  · have kept := consistent.deleteBatches (batches writeBatch stale)
    rcases left : table.deleteBatches (batches writeBatch stale) with ⟨after, _ | _⟩
    · simp only [left] at kept ⊢
      exact kept
    · simp only [left] at kept ⊢
      exact kept

end Table

/--
How the table of a collection may change: it is made for a width that is asked for, or stays
consistent with the width that it has.
-/
inductive Evolves (asked : Nat → Prop) : Option (Table Component) → Option (Table Component) → Prop
  | absent : Evolves asked none none
  | made {table : Table Component} {width : Nat} (wanted : asked width)
      (consistent : table.Consistent width) : Evolves asked none (some table)
  | kept {table after : Table Component}
      (keeps : ∀ width, table.Consistent width → after.Consistent width) :
      Evolves asked (some table) (some after)

variable {asked : Nat → Prop}

theorem Evolves.refl (table? : Option (Table Component)) : Evolves asked table? table? := by
  rcases table? with _ | table
  · exact .absent
  · exact .kept fun _ consistent => consistent

theorem Evolves.trans {before between after : Option (Table Component)}
    (first : Evolves asked before between) (next : Evolves asked between after) :
    Evolves asked before after := by
  cases first with
  | absent => exact next
  | made wanted consistent =>
      cases next with
      | kept keeps => exact .made wanted (keeps _ consistent)
  | kept keeps =>
      cases next with
      | kept keepsOn => exact .kept fun width consistent => keepsOn width (keeps width consistent)

/-- The table with a name evolves when an action is done, whether that fails or not. -/
def Evolving (asked : Nat → Prop) (name : String) (action : Action (Database Component) Result) :
    Prop :=
  ∀ database, ∃ result after, Yields action database result after ∧
    Evolves asked (List.lookup name database) (List.lookup name after)

theorem Evolving.of_unchanged {action : Action (Database Component) Result}
    (unchanged : ∀ database, ∃ result, Yields action database result database) :
    Evolving asked name action := by
  intro database
  rcases unchanged database with ⟨result, yields⟩
  exact ⟨result, database, yields, .refl _⟩

theorem evolving_pure (value : Result) :
    Evolving asked name (pure value : Action (Database Component) Result) :=
  .of_unchanged fun database => ⟨_, yields_pure database value⟩

theorem Evolving.bind {first : Action (Database Component) Result}
    {next : Result → Action (Database Component) Other} (begins : Evolving asked name first)
    (continues : ∀ value, Evolving asked name (next value)) :
    Evolving asked name (first >>= next) := by
  intro database
  rcases begins database with ⟨error | value, between, yields, evolved⟩
  · exact ⟨.error error, between, Yields.bind_error next yields, evolved⟩
  · rcases continues value between with ⟨result, after, yieldsOn, evolvedOn⟩
    exact ⟨result, after, Yields.bind yields yieldsOn, evolved.trans evolvedOn⟩

theorem evolving_collectionExists (other : String) :
    Evolving asked name (collectionExists other : Action (Database Component) Bool) :=
  .of_unchanged fun database => ⟨_, yields_collectionExists database other⟩

theorem evolving_openTable (other : String) :
    Evolving asked name (openTable other : Action (Database Component) _) :=
  .of_unchanged fun _ => ⟨_, yields_openTable rfl⟩

theorem evolving_inTable {step : Table Component → Table Component × Except Error Result}
    (keeps : ∀ table width, table.Consistent width → (step table).1.Consistent width) :
    Evolving asked name (inTable name step) := by
  intro database
  rcases opened : tableAt database name with error | table
  · exact ⟨_, database, Yields.bind_error _ (yields_openTable opened), .refl _⟩
  · refine ⟨_, _, yields_inTable opened step, ?_⟩
    rw [(tableAt_eq_ok_iff.mp opened).2, database.lookup_assign_self]
    exact .kept (keeps table)

theorem evolving_createIfMissing (wanted : asked width) :
    Evolving asked name (createIfMissing name width : Action (Database Component) Unit) := by
  intro database
  rcases createIfMissing_cases database name width with
    ⟨error, fails⟩ | ⟨table, after, creates, prepares⟩
  · exact ⟨_, database, fails, .refl _⟩
  · refine ⟨_, after, creates, ?_⟩
    rw [(tableAt_eq_ok_iff.mp prepares.opened).2]
    rcases prepares.origin with opened | ⟨missing, _, rfl⟩
    · rw [(tableAt_eq_ok_iff.mp opened).2]
      exact .refl _
    · rw [Option.isSome_eq_false_iff.mp missing |> Option.isNone_iff_eq_none.mp]
      exact .made wanted (Table.consistent_empty width)

theorem evolving_load {chunks : List Chunk} {vectors : List (List Component)}
    (made : ∀ chunk ∈ chunks, IsPiece chunk)
    (wanted : asked ((vectors.head?.map List.length).getD 0)) :
    Evolving asked name (load name chunks vectors) := by
  refine (evolving_createIfMissing wanted).bind fun _ => ?_
  refine Evolving.bind (evolving_inTable ?_) fun _ => ?_
  · exact fun table width consistent => consistent.upsert made vectors
  refine Evolving.bind (evolving_inTable ?_) fun _ => evolving_pure ()
  exact fun table width consistent => consistent.removeStale chunks

/-- The chunks that an operation writes. -/
def Operation.written : Operation Component Memory → List Chunk
  | .request (.upsert chunks _) => chunks
  | .build call => call.chunks
  | _ => []

/-- The width of the vectors for which an operation makes its collection where there is none. -/
def Operation.Asks (width : Nat) : Operation Component Memory → Prop
  | .request (.create given) => given = width
  | .build call => ∃ vectors memory,
      (Embedding.embedChunks call.embedder call.batchSize call.chunks).run.run call.memory =
        (.ok vectors, memory) ∧ (vectors.head?.map List.length).getD 0 = width
  | _ => False

theorem evolving_action {request : Request Component}
    (made : ∀ chunk ∈ (Operation.request request : Operation Component Memory).written,
      IsPiece chunk) :
    Evolving (fun width => (Operation.request request : Operation Component Memory).Asks width) name
      (request.action name) := by
  cases request with
  | isThere => exact (evolving_collectionExists name).bind fun _ => evolving_pure _
  | create width => exact (evolving_createIfMissing rfl).bind fun _ => evolving_pure _
  | upsert chunks vectors =>
      refine Evolving.bind (evolving_inTable ?_) fun _ => evolving_pure _
      exact fun table width consistent => consistent.upsert made vectors
  | removeStale chunks =>
      refine Evolving.bind (evolving_inTable ?_) fun _ => evolving_pure _
      exact fun table width consistent => consistent.removeStale chunks
  | count =>
      exact ((evolving_openTable name).bind fun _ => evolving_pure _).bind fun _ => evolving_pure _
  | rows => exact (evolving_openTable name).bind fun _ => evolving_pure _

/-- The table of the collection with a name that is found when one connects to a folder. -/
def Storage.table? (folder : Path) (name : String) (storage : Storage Component) :
    Option (Table Component) :=
  match storage.seen folder name with
  | .ok table? => table?
  | .error _ => none

theorem Evolving.inDatabase {action : Action (Database Component) Result}
    (evolving : Evolving asked name action) (storage : Storage Component) :
    Evolves asked (storage.table? folder name)
      ((Action.runOn (inDatabase folder action) storage).2.world.table? folder name) := by
  rw [Action.runOn, Storage.table?, Storage.table?]
  rcases connect_cases storage folder with ⟨error, after, fails, refuses⟩ |
    ⟨place, after, connects, holds⟩
  · rw [run_inDatabase_of_error fails, seen_of_error fails, seen_of_error refuses.again]
    exact .absent
  · rcases evolving (after.database place) with ⟨result, changed, yields, evolved⟩
    rcases yields [] with ⟨printed, ran⟩
    rw [run_inDatabase connects, seen_of_connect connects, ran, seen_setDatabase holds.connected]
    exact evolved

theorem Operation.run_evolves (operation : Operation Component Memory)
    (made : ∀ chunk ∈ operation.written, IsPiece chunk) (storage : Storage Component) :
    Evolves operation.Asks (storage.table? folder name)
      ((operation.run folder name storage).2.table? folder name) := by
  cases operation with
  | request asked => exact (evolving_action made).inDatabase storage
  | build call =>
      simp only [Operation.run, BuildCall.run_eq]
      split
      · exact .refl _
      · split
        · exact .refl _
        · next vectors memory embedded =>
          exact (evolving_load made ⟨vectors, memory, embedded, rfl⟩).inDatabase storage

theorem Operation.table?_run_of_ne {other : String} (operation : Operation Component Memory)
    (apart : other ≠ name) (storage : Storage Component) :
    (operation.run folder name storage).2.table? folder other = storage.table? folder other := by
  rw [Storage.table?, operation.run_others apart, Storage.table?]

theorem runAll_concat (storage : Storage Component)
    (steps : List (String × Operation Component Memory)) (name : String)
    (operation : Operation Component Memory) :
    (runAll folder storage (steps ++ [(name, operation)])).2 =
      (operation.run folder name (runAll folder storage steps).2).2 := by
  induction steps generalizing storage with
  | nil => rfl
  | cons step later ih =>
      rw [List.cons_append, runAll, runAll]
      exact ih _

/-- Where there are no databases, no table is found. -/
theorem table?_of_no_databases (files : FileSystem) :
    Storage.table? folder name (⟨files, []⟩ : Storage Component) = none := by
  rw [Storage.table?]
  rcases connect_cases (⟨files, []⟩ : Storage Component) folder with ⟨error, after, fails, _⟩ |
    ⟨place, after, connects, holds⟩
  · rw [seen_of_error fails]
  · have empty : after.database place = [] := by
      rw [holds.database_eq]
      split
      · rfl
      · rfl
    rw [seen_of_connect connects, empty]
    rfl

/--
A table that is found after operations was made by one of them, for vectors of some width. Ever
since then it has been there, and its rows have been consistent with this width.
-/
theorem consistent_of_runAll (files : FileSystem) (folder : Path) (name : String)
    (steps : List (String × Operation Component Memory))
    (made : ∀ step ∈ steps, ∀ chunk ∈ step.2.written, IsPiece chunk) {table : Table Component}
    (found : (runAll folder ⟨files, []⟩ steps).2.table? folder name = some table) :
    ∃ width before operation later,
      table.Consistent width ∧ steps = before ++ (name, operation) :: later ∧
      operation.Asks width ∧ (runAll folder ⟨files, []⟩ before).2.table? folder name = none ∧
      ∀ between, between <+: later → ∃ there,
        (runAll folder ⟨files, []⟩ (before ++ (name, operation) :: between)).2.table? folder name =
          some there ∧ there.Consistent width := by
  induction steps using List.reverseRecOn generalizing table with
  | nil =>
      rw [runAll, table?_of_no_databases] at found
      contradiction
  | append_singleton steps step ih =>
      rcases step with ⟨other, last⟩
      have madeBefore : ∀ step ∈ steps, ∀ chunk ∈ step.2.written, IsPiece chunk :=
        fun step member => made step (List.mem_append_left _ member)
      have evolves : Evolves (fun width => other = name ∧ last.Asks width)
          ((runAll folder ⟨files, []⟩ steps).2.table? folder name) (some table) := by
        rw [← found, runAll_concat]
        by_cases own : other = name
        · subst own
          simpa using last.run_evolves
            (made _ (List.mem_append_right steps (List.mem_singleton_self _))) _
        · rw [last.table?_run_of_ne (Ne.symm own)]
          exact .refl _
      rcases earlier : (runAll folder ⟨files, []⟩ steps).2.table? folder name with _ | prior
      · rw [earlier] at evolves
        cases evolves with
        | made wanted consistent =>
            rcases wanted with ⟨rfl, asks⟩
            refine ⟨_, steps, last, [], consistent, rfl, asks, earlier, ?_⟩
            intro between within
            rw [List.prefix_nil.mp within]
            exact ⟨table, found, consistent⟩
      · rcases ih madeBefore earlier with
          ⟨width, before, operation, later, consistent, rfl, asks, missing, since⟩
        rw [earlier] at evolves
        cases evolves with
        | kept keeps =>
            refine ⟨width, before, operation, later ++ [(other, last)], keeps width consistent,
              by rw [List.append_assoc, List.cons_append], asks, missing, ?_⟩
            intro between within
            rcases List.prefix_concat_iff.mp within with rfl | shorter
            · refine ⟨table, ?_, keeps width consistent⟩
              rw [← found, List.append_assoc, List.cons_append]
            · exact since between shorter

/-- A collection is made, a vector of another width is refused, and one of its width is written. -/
def writingSteps : List (String × Operation Nat Unit) :=
  [("docs", .request (.create 1)),
   ("docs", .request (.upsert (Chunk.ofPieces "s" "p" ["a"]) [[5, 6]])),
   ("docs", .request (.upsert (Chunk.ofPieces "s" "p" ["a"]) [[5]]))]

theorem consistent_of_writingSteps :
    (∀ step ∈ writingSteps, ∀ chunk ∈ step.2.written, IsPiece chunk) ∧
      ∃ table, (runAll (.ofString "index") ⟨⟨.emptyFolder, []⟩, []⟩ writingSteps).2.table?
          (.ofString "index") "docs" = some table ∧
        table.rows.map (·.vector) = [[5]] ∧ table.Consistent 1 := by
  have made : ∀ step ∈ writingSteps, ∀ chunk ∈ step.2.written, IsPiece chunk := by
    intro step member chunk written
    refine ⟨"s", "p", ["a"], ?_⟩
    simp only [writingSteps, List.mem_cons, List.not_mem_nil, or_false] at member
    rcases member with rfl | rfl | rfl
    · contradiction
    · exact written
    · exact written
  have vectors : ((runAll (.ofString "index") ⟨⟨.emptyFolder, []⟩, []⟩ writingSteps).2.table?
      (.ofString "index") "docs").map (fun table => table.rows.map (·.vector)) = some [[5]] := by
    cbv
  rcases Option.map_eq_some_iff.mp vectors with ⟨table, found, rows_eq⟩
  rcases consistent_of_runAll ⟨.emptyFolder, []⟩ (.ofString "index") "docs" writingSteps made found
    with ⟨width, before, operation, later, consistent, _⟩
  have occurs : [5] ∈ table.rows.map (·.vector) := by
    rw [rows_eq]
    exact List.mem_singleton_self _
  rcases List.mem_map.mp occurs with ⟨row, member, vector_eq⟩
  have one : width = 1 := by
    rw [← (consistent.rows row member).width_eq, vector_eq]
    rfl
  exact ⟨made, table, found, rows_eq, one ▸ consistent⟩

end DocIndex.Store
