import DocIndex.Store.Database
import DocIndex.Store.Upsert

/-!
# Collections

A collection is a table that holds the chunks of the latest indexing run. A run opens or makes it,
writes its chunks in place of the rows with the same identifiers, and removes the rows whose chunks
the run has not made.
-/

namespace DocIndex.Store

variable {Component : Type}

/-- Whether there is a collection with the given name. -/
def collectionExists (name : String) : Action (Database Component) Bool := do
  return (← Action.world).hasTable name

/-- Opens a collection for vectors of the given width, or makes it without rows. -/
def createIfMissing (name : String) (width : Nat) : Action (Database Component) Unit := do
  if ← collectionExists name then
    let table ← openTable name
    if table.shape.width? != some width then
      throw (.dimensionMismatch name (table.shape.width?.getD 0) width)
    Action.print ("'" ++ name ++ "' collection already exists; updating it in place")
  else
    let shape ← Action.ofExcept (shapeFor width)
    createTable name (.empty shape)
    Action.print ("created collection '" ++ name ++ "'")

/-- The number of rows of a collection. -/
def countRows (name : String) : Action (Database Component) Nat := do
  return (← openTable name).count

/-- Writes chunks with their vectors to a collection. -/
def upsert (name : String) (chunks : List Chunk) (vectors : List (List Component)) :
    Action (Database Component) Unit :=
  inTable name (Table.upsert chunks vectors)

/-- Removes the rows of a collection whose identifiers no chunk has, and gives their number. -/
def removeStale (name : String) (chunks : List Chunk) : Action (Database Component) Nat :=
  inTable name (Table.removeStale chunks)

/-- Brings a collection in line with chunks and their vectors. -/
def load (name : String) (chunks : List Chunk) (vectors : List (List Component)) :
    Action (Database Component) Unit := do
  createIfMissing name ((vectors.head?.map List.length).getD 0)
  upsert name chunks vectors
  let _ ← removeStale name chunks

end DocIndex.Store
