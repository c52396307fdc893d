import Mathlib.Data.List.Basic
import DocIndex.Batches

/-!
# Cutting lists into batches

The batches of a list are what its work is done on, so the work is the same as on the list itself:
put together again they are the list, none of them is empty, and two lists are cut in step. A list
of vectors of one width is found again in the sequence of all their components.
-/

namespace DocIndex

variable {Item Other Result : Type}

@[simp]
theorem batches_nil (size : Nat) : batches size ([] : List Item) = [] := by
  rw [batches]

theorem batches_cons (size : Nat) (first : Item) (later : List Item) :
    batches size (first :: later) =
      (first :: later.take (size - 1)) :: batches size (later.drop (size - 1)) := by
  rw [batches]

@[simp]
theorem flatten_batches (size : Nat) (items : List Item) :
    (batches size items).flatten = items := by
  fun_induction batches size items with
  | case1 => rfl
  | case2 first later ih =>
      rw [List.flatten_cons, ih, List.cons_append, List.take_append_drop]

theorem ne_nil_of_mem_batches {size : Nat} {items batch : List Item}
    (member : batch ∈ batches size items) : batch ≠ [] := by
  fun_induction batches size items with
  | case1 => simp at member
  | case2 first later ih =>
      rcases List.mem_cons.mp member with rfl | inLater
      · exact List.cons_ne_nil _ _
      · exact ih inLater

theorem length_batches_congr {size : Nat} {items : List Item} {others : List Other}
    (same : items.length = others.length) :
    (batches size items).length = (batches size others).length := by
  fun_induction batches size items generalizing others with
  | case1 =>
      rw [List.eq_nil_of_length_eq_zero same.symm, batches_nil]
      rfl
  | case2 first later ih =>
      rcases others with _ | ⟨other, others⟩
      · contradiction
      · have rest : (later.drop (size - 1)).length = (others.drop (size - 1)).length := by
          rw [List.length_drop, List.length_drop, Nat.succ.inj same]
        rw [batches_cons, List.length_cons, List.length_cons, ih rest]

@[simp]
theorem batches_map (size : Nat) (make : Item → Other) (items : List Item) :
    batches size (items.map make) = (batches size items).map (List.map make) := by
  fun_induction batches size items with
  | case1 => exact batches_nil size
  | case2 first later ih =>
      rw [List.map_cons, batches_cons, ← List.map_take, ← List.map_drop, ih, List.map_cons,
        List.map_cons]

/-- Consecutive blocks of a list, all of one size but possibly the last, which may be shorter. -/
structure Blocks (size : Nat) (items : List Item) (blocks : List (List Item)) : Prop where
  whole : blocks.flatten = items
  occupied : ∀ block ∈ blocks, block ≠ []
  bounded : ∀ block ∈ blocks, block.length ≤ size
  full : ∀ block ∈ blocks.dropLast, block.length = size

/-- Batches of size 0 have one item. -/
theorem blocks_batches (size : Nat) (items : List Item) :
    Blocks (max 1 size) items (batches size items) := by
  refine ⟨flatten_batches size items, fun _ => ne_nil_of_mem_batches, ?_, ?_⟩
  · intro block member
    fun_induction batches size items with
    | case1 => contradiction
    | case2 first later ih =>
        rcases List.mem_cons.mp member with rfl | inLater
        · rw [List.length_cons, List.length_take]
          omega
        · exact ih inLater
  · intro block member
    fun_induction batches size items with
    | case1 => contradiction
    | case2 first later ih =>
        rcases rest : later.drop (size - 1) with _ | ⟨next, others⟩
        · rw [rest, batches_nil] at member
          contradiction
        · have long : size - 1 < later.length := by
            by_contra short
            rw [List.drop_eq_nil_of_le (Nat.le_of_not_lt short)] at rest
            contradiction
          have more : batches size (later.drop (size - 1)) ≠ [] := by
            rw [rest, batches_cons]
            exact List.cons_ne_nil _ _
          rw [List.dropLast_cons_of_ne_nil more] at member
          rcases List.mem_cons.mp member with rfl | inLater
          · rw [List.length_cons, List.length_take]
            omega
          · exact ih inLater

/-- The first batch of a list that is not empty, and what the other batches are made of. -/
theorem batches_of_ne_nil {size : Nat} (positive : 0 < size) {items : List Item}
    (some_items : items ≠ []) :
    batches size items = items.take size :: batches size (items.drop size) := by
  rcases Nat.exists_eq_succ_of_ne_zero (Nat.ne_of_gt positive) with ⟨size, rfl⟩
  rcases List.exists_cons_of_ne_nil some_items with ⟨first, later, rfl⟩
  rw [batches_cons]
  rfl

/-- Where a list can be cut into batches of a size, all of them have that size. -/
theorem length_of_mem_batches {size : Nat} {items batch : List Item}
    (positive : 0 < size) (whole : size ∣ items.length) (member : batch ∈ batches size items) :
    batch.length = size := by
  fun_induction batches size items with
  | case1 => contradiction
  | case2 first later ih =>
      have long : size ≤ later.length + 1 := Nat.le_of_dvd (Nat.succ_pos _) whole
      rcases List.mem_cons.mp member with rfl | inLater
      · rw [List.length_cons, List.length_take]
        omega
      · refine ih ?_ inLater
        have rest : (later.drop (size - 1)).length = (first :: later).length - size := by
          rw [List.length_drop, List.length_cons]
          omega
        rw [rest]
        exact Nat.dvd_sub whole (Nat.dvd_refl size)

/-- Vectors of one width are found again in the sequence of their components. -/
theorem batches_flatten {width : Nat} (positive : 0 < width) {vectors : List (List Item)}
    (uniform : ∀ vector ∈ vectors, vector.length = width) :
    batches width vectors.flatten = vectors := by
  induction vectors with
  | nil => exact batches_nil width
  | cons vector later ih =>
      have length_eq : vector.length = width := uniform vector List.mem_cons_self
      have components : vector ++ later.flatten ≠ [] := by
        intro empty
        rw [List.append_eq_nil_iff] at empty
        rw [empty.1, List.length_nil] at length_eq
        omega
      rw [List.flatten_cons, batches_of_ne_nil positive components, List.take_left' length_eq,
        List.drop_left' length_eq,
        ih fun other member => uniform other (List.mem_cons_of_mem vector member)]

theorem length_flatten_of_uniform {width : Nat} {vectors : List (List Item)}
    (uniform : ∀ vector ∈ vectors, vector.length = width) :
    vectors.flatten.length = vectors.length * width := by
  induction vectors with
  | nil => simp
  | cons vector later ih =>
      have length_eq : vector.length = width := uniform vector List.mem_cons_self
      have later_eq := ih fun other member => uniform other (List.mem_cons_of_mem vector member)
      rw [List.flatten_cons, List.length_append, later_eq, length_eq, List.length_cons,
        Nat.succ_mul, Nat.add_comm]

/-- A sequence that fills a number of rows of a width is cut into as many. -/
theorem length_batches_of_length {width count : Nat} (positive : 0 < width) {items : List Item}
    (filled : items.length = count * width) : (batches width items).length = count := by
  have whole : width ∣ items.length := filled ▸ Nat.dvd_mul_left width count
  have cut := length_flatten_of_uniform fun batch (member : batch ∈ batches width items) =>
    length_of_mem_batches positive whole member
  rw [flatten_batches, filled] at cut
  exact (Nat.eq_of_mul_eq_mul_right positive cut).symm

/-- Batches that are changed without getting longer or shorter are batches again. -/
theorem batches_flatMap {size : Nat} (positive : 0 < size) {items : List Item}
    {change : List Item → List Other}
    (keeps : ∀ batch ∈ batches size items, (change batch).length = batch.length) :
    batches size ((batches size items).flatMap change) = (batches size items).map change := by
  fun_induction batches size items with
  | case1 => exact batches_nil size
  | case2 first later ih =>
      have rest := ih fun batch member => keeps batch (List.mem_cons_of_mem _ member)
      have length_eq := keeps _ List.mem_cons_self
      rw [List.length_cons, List.length_take] at length_eq
      rw [List.flatMap_cons, List.map_cons, ← rest]
      generalize change (first :: later.take (size - 1)) = changed at length_eq ⊢
      have occupied : changed ++ (batches size (later.drop (size - 1))).flatMap change ≠ [] := by
        rw [Ne, List.append_eq_nil_iff, ← List.length_eq_zero_iff]
        omega
      rw [batches_of_ne_nil positive occupied]
      by_cases long : size - 1 ≤ later.length
      · have full : changed.length = size := by omega
        rw [List.take_left' full, List.drop_left' full]
      · rw [List.drop_eq_nil_of_le (Nat.le_of_not_le long), batches_nil, List.flatMap_nil,
          List.append_nil, List.take_of_length_le (by omega), List.drop_eq_nil_of_le (by omega)]

end DocIndex
