import DocIndex.Proofs.Store.Build

/-!
# What removing leaves

Stale identifiers are listed once for every row that has them, and rows are deleted by identifier,
batch by batch; so an identifier that repeats may be deleted in one batch and looked for again in
a later one. All the same as many rows are removed as have been listed, and afterwards none is left
to be removed. Rows without identifier are neither listed nor deleted.
-/

namespace DocIndex.Store.Table

variable {Component : Type} {chunks : List Chunk} {table : Table Component}

theorem isCurrent_iff {row : Row Component} :
    isCurrent chunks row = true ↔ row.id = none ∨ ∃ chunk ∈ chunks, row.id = some chunk.id := by
  rcases known : row.id with _ | id
  · simp [isCurrent, known]
  · simp [isCurrent, known, eq_comm]

/-- As many identifiers are stale as there are rows that do not stay. -/
theorem length_stale (chunks : List Chunk) (rows : List (Row Component)) :
    ((Row.ids rows).filter fun id => ! (chunks.map (·.id)).contains id).length =
      (rows.filter fun row => ! isCurrent chunks row).length := by
  induction rows with
  | nil => rfl
  | cons row later ih =>
      rw [Row.ids] at ih ⊢
      rcases known : row.id with _ | id
      · have stays : (! isCurrent chunks row) = false := by simp [isCurrent, known]
        rw [List.filterMap_cons_none known, List.filter_cons, stays]
        exact ih
      · have same : (! isCurrent chunks row) = ! (chunks.map (·.id)).contains id := by
          rw [isCurrent, known]
        rw [List.filterMap_cons_some known, List.filter_cons, List.filter_cons, same]
        split
        · exact congrArg Nat.succ ih
        · exact ih

/-- Removing takes away the rows that are not current, and gives their number. -/
theorem removeStale_current (identified : table.shape.hasIds = true) (chunks : List Chunk) :
    table.removeStale chunks =
      (table.keep (isCurrent chunks),
        .ok (table.rows.filter fun row => ! isCurrent chunks row).length) := by
  rw [removeStale_eq identified, length_stale]

theorem removeStale_of_current (identified : table.shape.hasIds = true)
    (current : ∀ row ∈ table.rows, isCurrent chunks row = true) :
    table.removeStale chunks = (table, .ok 0) := by
  have none_stale : (table.rows.filter fun row => ! isCurrent chunks row) = [] := by
    rw [List.filter_eq_nil_iff]
    intro row member
    simp [current row member]
  have kept : table.keep (isCurrent chunks) = table :=
    Table.ext rfl (List.filter_eq_self.mpr current)
  rw [removeStale_current identified, none_stale, kept]
  rfl

/--
Removing leaves the rows without identifier and those with the identifier of a chunk, as they were,
and gives the number of the others. Removing for the same chunks again removes nothing.
-/
theorem rows_of_removeStale (identified : table.shape.hasIds = true) (chunks : List Chunk) :
    ∃ after removed, table.removeStale chunks = (after, .ok removed) ∧
      after = table.keep (fun row =>
        row.id = none ∨ ∃ chunk ∈ chunks, row.id = some chunk.id) ∧
      after.count + removed = table.count ∧
      after.removeStale chunks = (after, .ok 0) := by
  have kept : (table.keep fun row => row.id = none ∨ ∃ chunk ∈ chunks, row.id = some chunk.id) =
      table.keep (isCurrent chunks) := by
    congr 1
    funext row
    rw [Bool.eq_iff_iff, decide_eq_true_iff, isCurrent_iff]
  refine ⟨_, _, removeStale_current identified chunks, by rw [kept], ?_, ?_⟩
  · exact (List.length_eq_length_filter_add (isCurrent chunks)).symm
  · apply removeStale_of_current
    · exact identified
    · exact fun row member => (List.mem_filter.mp member).2

/-- Both rows with a repeated identifier go, and the rows without identifier stay. -/
theorem rows_of_removeStale_repeated :
    let row (id : Option String) : Row Nat := ⟨id, "", "", []⟩
    let table : Table Nat :=
      .foreign true [row (some "x"), row none, row (some "x"), row (some "a"), row none]
    table.shape.hasIds = true ∧
      ∃ after, table.removeStale (chunksFor ["a", "b"]) = (after, .ok 2) ∧
        after.rows = [row none, row (some "a"), row none] ∧
        after.removeStale (chunksFor ["a", "b"]) = (after, .ok 0) := by
  intro row table
  have identified : table.shape.hasIds = true := rfl
  rcases rows_of_removeStale identified (chunksFor ["a", "b"]) with
    ⟨after, removed, ran, rfl, counted, again⟩
  have two : removed = 2 := Nat.add_left_cancel (n := 3) counted
  exact ⟨identified, _, two ▸ ran, rfl, again⟩

end DocIndex.Store.Table
