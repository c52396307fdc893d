import DocIndex.Store.Table

/-!
# Writing and removing rows

Chunks are written in place of the rows with the same identifiers, and rows without a chunk are
removed, both batch by batch. An error ends the work where it stands: earlier batches stay written,
and of the batch with the error the old rows are gone already.
-/

namespace DocIndex.Store.Table

variable {Component : Type}

/-- The number of rows that are written or deleted together. -/
def writeBatch : Nat := 512

/-- Writes a batch of chunks with their vectors in place of the rows with the same identifiers. -/
def upsertBatch (width : Nat) (table : Table Component) (chunks : List Chunk)
    (vectors : List (List Component)) : Table Component × Except Error Unit :=
  match table.deleteWhere (Condition.write (chunks.map (·.id))) with
  | .error error => (table, .error error)
  | .ok remaining =>
    match (ofChunks width chunks vectors).bind remaining.append with
    | .error error => (remaining, .error error)
    | .ok written => (written, .ok ())

/-- Writes batches of chunks with their vectors, one after the other. -/
def upsertBatches (width : Nat) (table : Table Component) :
    List (List Chunk × List (List Component)) → Table Component × Except Error Unit
  | [] => (table, .ok ())
  | (chunks, vectors) :: later =>
    match table.upsertBatch width chunks vectors with
    | (table, .error error) => (table, .error error)
    | (table, .ok ()) => upsertBatches width table later

/-- The error of writing chunks with more or fewer vectors. -/
def countMismatch (vectors chunks : Nat) : Error :=
  .embedding (toString vectors ++ " embeddings for " ++ toString chunks ++ " chunks")

/-- Writes chunks with their vectors in place of the rows with the same identifiers. -/
def upsert (chunks : List Chunk) (vectors : List (List Component)) (table : Table Component) :
    Table Component × Except Error Unit :=
  if chunks.length != vectors.length then
    (table, .error (countMismatch vectors.length chunks.length))
  else match vectors with
    | [] => (table, .ok ())
    | first :: _ =>
      match shapeFor first.length with
      | .error error => (table, .error error)
      | .ok _ =>
        table.upsertBatches first.length
          ((batches writeBatch chunks).zip (batches writeBatch vectors))

/-- Deletes the rows with the identifiers of each batch, one batch after the other. -/
def deleteBatches (table : Table Component) :
    List (List String) → Table Component × Except Error Unit
  | [] => (table, .ok ())
  | ids :: later =>
    match table.deleteWhere (Condition.write ids) with
    | .error error => (table, .error error)
    | .ok table => deleteBatches table later

/-- The identifiers of rows that no chunk has, as often as they occur. -/
def staleIds (chunks : List Chunk) (table : Table Component) : Except Error (List String) :=
  table.ids.map fun ids => ids.filter fun id => ! (chunks.map (·.id)).contains id

/-- Removes the rows whose identifiers no chunk has, and gives the number of these rows. -/
def removeStale (chunks : List Chunk) (table : Table Component) :
    Table Component × Except Error Nat :=
  match table.staleIds chunks with
  | .error error => (table, .error error)
  | .ok stale =>
    match table.deleteBatches (batches writeBatch stale) with
    | (table, .error error) => (table, .error error)
    | (table, .ok ()) => (table, .ok stale.length)

end DocIndex.Store.Table
