import DocIndex.Proofs.Action
import DocIndex.Proofs.Lookup
import DocIndex.Store.Database

/-!
# Tables of a database

What opening, making and changing a table come to. Each of them touches the table with its name
alone.
-/

namespace DocIndex.Store

open DocIndex.Action

variable {Component Result : Type} {database : Database Component} {name other : String}
  {table : Table Component}

theorem Database.lookup_assign (database : Database Component) (name other : String)
    (table : Table Component) :
    (database.assign name table).lookup other =
      if other == name then some table else List.lookup other database :=
  DocIndex.lookup_assign name other table database

@[simp]
theorem Database.lookup_assign_self (database : Database Component) (name : String)
    (table : Table Component) : (database.assign name table).lookup name = some table := by
  rw [lookup_assign, beq_self_eq_true, if_pos rfl]

@[simp]
theorem Database.lookup_assign_of_ne (database : Database Component) (table : Table Component)
    (apart : other ≠ name) :
    (database.assign name table).lookup other = List.lookup other database := by
  rw [lookup_assign, beq_eq_false_iff_ne.mpr apart]
  rfl

/-- Whether a table with the given name can be made and opened. -/
def isOpenable (name : String) : Bool := isTableName name && name.length ≤ longestTableName

/-- The table that opening a name gives, or why it gives none. -/
def tableAt (database : Database Component) (name : String) : Except Error (Table Component) :=
  if ! isTableName name then .error .abandoned
  else if longestTableName < name.length then .error (.store .nameTooLong)
  else match database.lookup name with
    | some table => .ok table
    | none => .error (.store (.tableMissing name))

theorem yields_openTable {result : Except Error (Table Component)}
    (opened : tableAt database name = result) :
    Yields (openTable name) database result database := by
  rw [← opened, tableAt]
  by_cases valid : isTableName name = true
  · by_cases long : longestTableName < name.length
    · simp only [openTable, valid, long, if_true]
      exact Yields.bind_error _ (yields_throw database _)
    · rcases found : database.lookup name with _ | table
      · simp only [openTable, valid, long, if_false]
        apply Yields.bind (yields_world database)
        rw [found]
        exact yields_throw database _
      · simp only [openTable, valid, long, if_false]
        apply Yields.bind (yields_world database)
        rw [found]
        exact yields_pure database table
  · simp only [openTable, valid]
    exact Yields.bind_error _ (yields_throw database _)

theorem tableAt_eq_ok_iff : tableAt database name = .ok table ↔
    isOpenable name = true ∧ database.lookup name = some table := by
  rw [tableAt, isOpenable]
  by_cases valid : isTableName name = true
  · by_cases long : longestTableName < name.length
    · simp [valid, long, Nat.not_le.mpr long]
    · rcases found : database.lookup name with _ | there
      · simp [valid, long]
      · simp [valid, long, Nat.not_lt.mp long]
  · simp [valid]

/-- Changing a table gives what the step gives, and leaves what the step leaves. -/
theorem yields_inTable (opened : tableAt database name = .ok table)
    (step : Table Component → Table Component × Except Error Result) :
    Yields (inTable name step) database (step table).2 (database.assign name (step table).1) :=
  Yields.bind (yields_openTable opened) (yields_change _ database)

/-- A table is made, or nothing changes. -/
theorem yields_createTable (database : Database Component) (name : String)
    (table : Table Component) :
    (∃ error, Yields (createTable name table) database (.error error) database) ∨
      isOpenable name = true ∧
        Yields (createTable name table) database (.ok ()) (database.assign name table) := by
  by_cases empty : name.isEmpty = true
  · left
    simp only [createTable, empty, if_true]
    exact ⟨_, Yields.bind_error _ (yields_throw database _)⟩
  · by_cases valid : isTableName name = true
    · by_cases long : longestTableName < name.length
      · left
        simp only [createTable, empty, valid, long, if_true]
        exact ⟨_, Yields.bind_error _ (yields_throw database _)⟩
      · by_cases present : database.hasTable name = true
        · left
          simp only [createTable, empty, valid, long, if_false]
          refine ⟨.store (.tablePresent name), Yields.bind (yields_world database) ?_⟩
          rw [if_pos present]
          exact Yields.bind_error _ (yields_throw database _)
        · right
          refine ⟨by simp [isOpenable, valid, Nat.not_lt.mp long], ?_⟩
          simp only [createTable, empty, valid, long, if_false]
          apply Yields.bind (yields_world database)
          rw [if_neg present]
          exact yields_setWorld database _
    · left
      simp only [createTable, empty, valid]
      exact ⟨_, Yields.bind_error _ (yields_throw database _)⟩

end DocIndex.Store
