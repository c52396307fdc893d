/-!
# Units of text

Grapheme clusters, words and sentences are found in one way: a unit begins with any character and
goes on, in a state that tells what has been seen of it, for as long as its rules say so.
-/

namespace DocIndex.Unicode

/-- The rules by which units of one sort begin and go on. -/
structure Rules (State : Type) where
  /-- The state of a unit that begins with a character. -/
  start : Char → State
  /-- The state of a unit that has gone on with a character. -/
  next : State → Char → State
  /-- Whether a unit goes on with a character, after which a text follows. -/
  continues : State → Char → List Char → Bool

namespace Rules

variable {State : Type}

/-- The number of characters with which a unit in the given state goes on. -/
def continuation (rules : Rules State) (state : State) : List Char → Nat
  | [] => 0
  | c :: rest =>
    if rules.continues state c rest then rules.continuation (rules.next state c) rest + 1 else 0

/-- The length of the first unit of a text; 0 for the empty text alone. -/
def firstLength (rules : Rules State) : List Char → Nat
  | [] => 0
  | c :: rest => rules.continuation (rules.start c) rest + 1

theorem continuation_le (rules : Rules State) (state : State) (text : List Char) :
    rules.continuation state text ≤ text.length := by
  induction text generalizing state with
  | nil => simp [continuation]
  | cons c rest ih =>
      simp only [continuation]
      split
      · exact Nat.succ_le_succ (ih _)
      · exact Nat.zero_le _

/-- The first unit of a text that is not empty takes a part of it. -/
theorem firstLength_bounds (rules : Rules State) (first : Char) (rest : List Char) :
    0 < rules.firstLength (first :: rest) ∧
      rules.firstLength (first :: rest) ≤ (first :: rest).length :=
  ⟨Nat.succ_pos _, Nat.succ_le_succ (rules.continuation_le _ rest)⟩

end Rules

end DocIndex.Unicode
