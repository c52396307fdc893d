import DocIndex.Batches
import DocIndex.Chunk
import DocIndex.Error
import DocIndex.Store.Condition

/-!
# Tables

A table keeps rows of one shape. The tables of this program hold a chunk and its vector in every
row, and all vectors have the width of the table; tables made otherwise hold identifiers at most,
which may be missing from a row. Vectors reach a table as one sequence of components, which is cut
into rows by the width alone.
-/

namespace DocIndex.Store

/-- A stored chunk with its vector. -/
structure Row (Component : Type) where
  id : Option String
  text : String
  metadata : String
  vector : List Component
  deriving DecidableEq, Repr

/-- The row of a chunk with a vector. -/
def Row.ofChunk {Component : Type} (chunk : Chunk) (vector : List Component) : Row Component :=
  ⟨some chunk.id, chunk.text, chunk.metadata.json, vector⟩

/-- The columns of a table. -/
inductive Shape
  /-- Identifier, text, metadata and vectors of a width. -/
  | chunks (width : Nat)
  /-- Other columns, with identifiers that may be missing or without. -/
  | foreign (hasIds : Bool)
  deriving DecidableEq, Repr

namespace Shape

/-- The width of the vectors, where there are vectors. -/
def width? : Shape → Option Nat
  | chunks width => some width
  | foreign _ => none

/-- Whether there is a column of identifiers. -/
def hasIds : Shape → Bool
  | chunks _ => true
  | foreign hasIds => hasIds

end Shape

/-- The greatest width of the vectors of a table. -/
def greatestWidth : Nat := 0x7FFFFFFF

/-- The shape of tables for vectors of the given width. -/
def shapeFor (width : Nat) : Except Error Shape :=
  if greatestWidth < width then
    .error (.embedding ("embedding width " ++ toString width ++ " is too large"))
  else .ok (.chunks width)

/-- A column of a table. -/
structure Column where
  name : String
  /-- Whether values may be missing. -/
  isNullable : Bool
  /-- The width of its vectors; none for a column of texts. -/
  width? : Option Nat
  deriving DecidableEq, Repr

/-- The columns of a table for vectors of the given width. -/
def columnsFor (width : Nat) : Except Error (List Column) :=
  (shapeFor width).map fun shape =>
    [⟨"id", false, none⟩, ⟨"text", false, none⟩, ⟨"metadata", false, none⟩,
     ⟨"embedding", false, shape.width?⟩]

/--
Rows of one shape. A list of vectors of width 0 has no length, so a table for them has no rows.
-/
@[ext]
structure Table (Component : Type) where
  shape : Shape
  rows : List (Row Component)
  empty_of_flat : shape = .chunks 0 → rows = []
  deriving DecidableEq, Repr

namespace Table

variable {Component : Type}

/-- The table without rows. -/
def empty (shape : Shape) : Table Component := ⟨shape, [], fun _ => rfl⟩

/-- A table of another program, of whose rows the identifiers alone are looked at. -/
def foreign (hasIds : Bool) (rows : List (Row Component)) : Table Component :=
  ⟨.foreign hasIds, rows, nofun⟩

/-- The table with those of its rows that meet a condition. -/
def keep (table : Table Component) (stays : Row Component → Bool) : Table Component where
  shape := table.shape
  rows := table.rows.filter stays
  empty_of_flat flat := by rw [table.empty_of_flat flat, List.filter_nil]

@[simp]
theorem shape_keep (table : Table Component) (stays : Row Component → Bool) :
    (table.keep stays).shape = table.shape := rfl

@[simp]
theorem rows_keep (table : Table Component) (stays : Row Component → Bool) :
    (table.keep stays).rows = table.rows.filter stays := rfl

/-- The number of rows. -/
def count (table : Table Component) : Nat := table.rows.length

/-- The error of asking for identifiers that a table does not have. -/
def idsMissing : Error := .store (.columnMissing "id")

/-- The identifiers of all rows that have one. -/
def ids (table : Table Component) : Except Error (List String) :=
  if table.shape.hasIds then .ok (table.rows.filterMap (·.id)) else .error idsMissing

/-- Whether a row has one of the given identifiers. -/
def hasIdAmong (ids : List String) (row : Row Component) : Bool :=
  match row.id with
  | some id => ids.contains id
  | none => false

/-- The table without the rows that meet a condition on their identifiers. -/
def deleteWhere (table : Table Component) (condition : String) : Except Error (Table Component) :=
  match Condition.read? condition with
  | none => .error (.store .unreadableCondition)
  | some ids =>
    if table.shape.hasIds then
      .ok (table.keep fun row => ! hasIdAmong ids row)
    else .error idsMissing

/-- The table with the rows of another table, which has to have the same shape. -/
def append (table addition : Table Component) : Except Error (Table Component) :=
  if same : addition.shape = table.shape then
    .ok
      { shape := table.shape
        rows := table.rows ++ addition.rows
        empty_of_flat := fun flat => by
          rw [table.empty_of_flat flat, addition.empty_of_flat (same.trans flat), List.append_nil] }
  else .error (.store .shapeMismatch)

/--
The rows of chunks with vectors, as a table of their own. All components are put into one sequence,
which is cut into rows of the given width; nothing is given when its length does not come out.
-/
def ofChunks (width : Nat) (chunks : List Chunk) (vectors : List (List Component)) :
    Except Error (Table Component) :=
  let components := vectors.flatten
  if components.length != vectors.length * width then .error .abandoned
  else if lost : width = 0 ∧ chunks ≠ [] then .error (.columns .unequalLengths)
  else .ok
    { shape := .chunks width
      rows := chunks.zipWith Row.ofChunk (batches width components)
      empty_of_flat := fun flat => by
        cases flat
        rw [Decidable.not_not.mp fun some_chunks => lost ⟨rfl, some_chunks⟩,
          List.zipWith_nil_left] }

end Table

end DocIndex.Store
