/-!
# Batches

A list is worked on in batches: consecutive parts of one size, of which only the last may be
smaller.
-/

namespace DocIndex

/-- The batches of a list; a size of 0 counts as 1. -/
def batches {Item : Type} (size : Nat) (items : List Item) : List (List Item) :=
  match items with
  | [] => []
  | first :: later =>
    (first :: later.take (size - 1)) :: batches size (later.drop (size - 1))
termination_by items.length
decreasing_by simp only [List.length_drop, List.length_cons]; omega

end DocIndex
