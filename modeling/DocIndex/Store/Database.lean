import DocIndex.Action
import DocIndex.Store.Table

/-!
# Databases

A database keeps tables by name. Tables are opened before they are worked on; a name that cannot be
one of a table is refused when a table is made, and abandons the operation that opens it.
-/

namespace DocIndex.Store

/-- The tables of a database, by name. -/
abbrev Database (Component : Type) := List (String × Table Component)

/-- Whether a character may stand in the name of a table. -/
def isNameChar (c : Char) : Bool := c.isAlphanum || c == '_' || c == '-' || c == '.'

/-- Whether a name can be that of a table. -/
def isTableName (name : String) : Bool := ! name.isEmpty && name.toList.all isNameChar

/-- The longest name of a table, in characters. -/
def longestTableName : Nat := 249

namespace Database

variable {Component : Type}

/-- Whether a table has the given name. -/
def hasTable (database : Database Component) (name : String) : Bool :=
  (database.lookup name).isSome

/-- The database in which a name stands for the given table. -/
def assign (database : Database Component) (name : String) (table : Table Component) :
    Database Component :=
  if database.hasTable name then
    database.map fun entry => if entry.1 == name then (name, table) else entry
  else database ++ [(name, table)]

end Database

variable {Component : Type}

/-- The table with the given name. -/
def openTable (name : String) : Action (Database Component) (Table Component) := do
  if ! isTableName name then throw .abandoned
  if longestTableName < name.length then throw (.store .nameTooLong)
  match (← Action.world).lookup name with
  | some table => return table
  | none => throw (.store (.tableMissing name))

/-- Makes a table where there is none. -/
def createTable (name : String) (table : Table Component) : Action (Database Component) Unit := do
  if name.isEmpty then throw (.store .emptyName)
  if ! isTableName name then throw (.store (.invalidName name))
  if longestTableName < name.length then throw (.store .nameTooLong)
  let database ← Action.world
  if database.hasTable name then throw (.store (.tablePresent name))
  Action.setWorld (database.assign name table)

/-- Changes the table with the given name in one step, which may fail and still have changed it. -/
def inTable {Result : Type} (name : String)
    (step : Table Component → Table Component × Except Error Result) :
    Action (Database Component) Result := do
  let table ← openTable name
  Action.change fun database =>
    let (changed, result) := step table
    (database.assign name changed, result)

end DocIndex.Store
