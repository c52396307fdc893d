import Mathlib.Data.List.Basic
import DocIndex.Store.Condition

/-!
# Reading back conditions

A condition is read as the identifiers that it was written for, whatever characters they have, so a
deletion meets the rows that it is meant for. Only the condition without identifiers is not read.
-/

namespace DocIndex.Store.Condition

theorem readLiteral?_of_ne_quote {c : Char} (other : c ≠ '\'') (text : List Char) :
    readLiteral? (c :: text) =
      (readLiteral? text).map fun (id, rest) => (c :: id, rest) := by
  rw [readLiteral?.eq_def]
  split
  · contradiction
  · rename_i same
    exact absurd (List.cons.inj same).1 other
  · rename_i same
    rcases List.cons.inj same with ⟨rfl, rfl⟩
    rw [if_neg (by simpa using other)]

/-- The end of a literal is found behind the doubled quotes. -/
theorem readLiteral?_doubleQuotes (id : List Char) {rest : List Char}
    (closed : rest.head? ≠ some '\'') :
    readLiteral? (doubleQuotes id ++ '\'' :: rest) = some (id, rest) := by
  induction id with
  | nil =>
      rw [doubleQuotes, List.flatMap_nil, List.nil_append]
      rcases rest with _ | ⟨next, rest⟩
      · rfl
      · have other : next ≠ '\'' := by simpa using closed
        rw [readLiteral?.eq_3 _ _ (by intro later; simp [other])]
        rfl
  | cons c id ih =>
      by_cases quote : c = '\''
      · subst quote
        have doubled : doubleQuotes ('\'' :: id) = '\'' :: '\'' :: doubleQuotes id := rfl
        rw [doubled, List.cons_append, List.cons_append, readLiteral?, ih]
        rfl
      · have single : doubleQuotes (c :: id) = c :: doubleQuotes id := by
          simp [doubleQuotes, quote]
        rw [single, List.cons_append, readLiteral?_of_ne_quote quote, ih]
        rfl

theorem after?_append (beginning text : List Char) :
    after? beginning (beginning ++ text) = some text := by
  rw [after?, if_pos (by simp), List.drop_left]

theorem readLiteral?_literal (id : List Char) {rest : List Char}
    (closed : rest.head? ≠ some '\'') :
    (after? ['\''] (literal id ++ rest)).bind readLiteral? = some (id, rest) := by
  have opened : literal id ++ rest = ['\''] ++ (doubleQuotes id ++ '\'' :: rest) := by
    simp [literal]
  rw [opened, after?_append]
  exact readLiteral?_doubleQuotes id closed

/-- The list that is written between the parentheses. -/
def list (ids : List (List Char)) : List Char := separator.intercalate (ids.map literal)

theorem list_cons_cons (id next : List Char) (later : List (List Char)) :
    list (id :: next :: later) = literal id ++ (separator ++ list (next :: later)) := by
  simp [list, List.intercalate]

theorem length_le_list (ids : List (List Char)) : ids.length ≤ (list ids).length := by
  induction ids with
  | nil => simp
  | cons id later ih =>
      rcases later with _ | ⟨next, later⟩
      · simp [list, List.intercalate, literal]
      · rw [list_cons_cons, List.length_cons, List.length_append, List.length_append]
        have : separator.length = 2 := rfl
        omega

theorem readList?_list {ids : List (List Char)} (some_ids : ids ≠ []) {fuel : Nat}
    (enough : ids.length ≤ fuel) : readList? fuel (list ids ++ closing) = some ids := by
  induction ids generalizing fuel with
  | nil => contradiction
  | cons id later ih =>
      rcases fuel with _ | fuel
      · simp at enough
      · rcases later with _ | ⟨next, later⟩
        · have written : list [id] ++ closing = literal id ++ closing := by
            simp [list, List.intercalate]
          rw [written, readList?, readLiteral?_literal id (by decide)]
          rfl
        · have rest := ih (List.cons_ne_nil next later) (Nat.le_of_succ_le_succ enough)
          have more : (separator ++ (list (next :: later) ++ closing) == closing) = false := rfl
          rw [list_cons_cons, List.append_assoc, List.append_assoc, readList?,
            readLiteral?_literal id (by simp [separator])]
          simp only [more, Bool.false_eq_true, if_false]
          rw [after?_append, Option.bind_some, rest]
          rfl

/-- A condition is read as the identifiers that it was written for. -/
theorem read?_write {ids : List String} (some_ids : ids ≠ []) :
    read? (write ids) = some ids := by
  have written : (write ids).toList = opening ++ (list (ids.map String.toList) ++ closing) := by
    simp [write, list, List.map_map, Function.comp_def]
  have enough : (ids.map String.toList).length ≤ (write ids).length := by
    rw [← String.length_toList, written, List.length_append, List.length_append]
    have := length_le_list (ids.map String.toList)
    omega
  rw [read?, written, after?_append, Option.bind_some,
    readList?_list (by simpa using some_ids) enough]
  simp [List.map_map, Function.comp_def]

end DocIndex.Store.Condition
