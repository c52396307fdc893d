import Mathlib.Data.List.Basic

/-!
# Looking up in lists of pairs

Folders, databases and storage keep their entries in lists of pairs with a key. What is found under
a key depends on the changes under that key alone.
-/

namespace DocIndex

variable {Key Value : Type} [BEq Key] [LawfulBEq Key]

theorem lookup_map_entry (key other : Key) (change : Value → Value) (entries : List (Key × Value)) :
    (entries.map fun entry => if entry.1 == key then (key, change entry.2) else entry).lookup
      other = if other == key then (entries.lookup other).map change else entries.lookup other := by
  induction entries with
  | nil => simp
  | cons entry later ih =>
      rcases entry with ⟨first, value⟩
      rw [List.map_cons, List.lookup_cons]
      by_cases here : first = key
      · subst here
        rw [if_pos (beq_self_eq_true first), List.lookup_cons, ih]
        cases same : other == first <;> simp
      · rw [if_neg (by simpa using here), List.lookup_cons, ih]
        cases same : other == first with
        | false => rfl
        | true =>
            rw [eq_of_beq same, beq_eq_false_iff_ne.mpr here]
            rfl

/-- Changing what is under a key twice is changing it once, where the change itself is so. -/
theorem map_entry_twice (key : Key) (change : Value → Value)
    (again : ∀ value, change (change value) = change value) (entries : List (Key × Value)) :
    (entries.map fun entry => if entry.1 == key then (key, change entry.2) else entry).map
        (fun entry => if entry.1 == key then (key, change entry.2) else entry) =
      entries.map fun entry => if entry.1 == key then (key, change entry.2) else entry := by
  rw [List.map_map]
  apply List.map_congr_left
  rintro ⟨other, value⟩ _
  rcases same : other == key with _ | _
  · simp only [Function.comp_apply, same, Bool.false_eq_true, if_false]
  · simp only [Function.comp_apply, same, if_true, beq_self_eq_true, again]

theorem any_key_eq (key : Key) (entries : List (Key × Value)) :
    (entries.any fun entry => entry.1 == key) = (entries.lookup key).isSome := by
  rw [Bool.eq_iff_iff, List.lookup_isSome_iff, List.any_eq_true]
  simp only [beq_iff_eq, eq_comm (a := key)]

/-- Putting a value in the place of the one under a key, or behind all entries. -/
theorem lookup_assign (key other : Key) (value : Value) (entries : List (Key × Value)) :
    (if (entries.lookup key).isSome then
        entries.map fun entry => if entry.1 == key then (key, value) else entry
      else entries ++ [(key, value)]).lookup other =
      if other == key then some value else entries.lookup other := by
  split
  · rename_i present
    rw [lookup_map_entry key other fun _ => value]
    cases same : other == key with
    | false => rfl
    | true =>
        rcases Option.isSome_iff_exists.mp present with ⟨before, found⟩
        rw [eq_of_beq same, found]
        rfl
  · rename_i absent
    rw [List.lookup_append, List.lookup_cons, List.lookup_nil]
    cases same : other == key with
    | false => simp
    | true =>
        rw [eq_of_beq same, Option.not_isSome_iff_eq_none.mp absent]
        rfl

theorem mem_of_lookup {entries : List (Key × Value)} {key : Key} {value : Value}
    (found : entries.lookup key = some value) : (key, value) ∈ entries := by
  rcases List.lookup_eq_some_iff.mp found with ⟨before, after, rfl, _⟩
  exact List.mem_append_right before List.mem_cons_self

/-- Where keys are distinct, every entry is found under its key. -/
theorem lookup_of_mem {entries : List (Key × Value)} (distinct : (entries.map (·.1)).Nodup)
    {entry : Key × Value} (member : entry ∈ entries) :
    entries.lookup entry.1 = some entry.2 := by
  induction entries with
  | nil => contradiction
  | cons first later ih =>
      rw [List.map_cons, List.nodup_cons] at distinct
      rw [List.lookup_cons]
      rcases List.mem_cons.mp member with rfl | inLater
      · rw [beq_self_eq_true]
      · have other : entry.1 ≠ first.1 := by
          intro same
          exact distinct.1 (same ▸ List.mem_map_of_mem inLater)
        rw [beq_eq_false_iff_ne.mpr other]
        exact ih distinct.2 inLater

theorem lookup_filter_ne (key other : Key) (entries : List (Key × Value)) :
    (entries.filter fun entry => entry.1 != key).lookup other =
      if other == key then none else entries.lookup other := by
  induction entries with
  | nil => simp
  | cons entry later ih =>
      rcases entry with ⟨first, value⟩
      rw [List.filter_cons, List.lookup_cons]
      by_cases here : first = key
      · subst here
        rw [if_neg (by simp), ih]
        cases same : other == first <;> rfl
      · rw [if_pos (by simpa using here), List.lookup_cons, ih]
        cases same : other == first with
        | false => rfl
        | true =>
            rw [eq_of_beq same, beq_eq_false_iff_ne.mpr here]
            rfl

end DocIndex
