import DocIndex.Settings.EnvFile
import DocIndex.Proofs.Text.Utf8

/-!
# Lines of a file of variables

What kind of line a line is does not depend on the variables: they give a value its text and decide
neither whether it can be read nor to which variable it belongs. The characters of a value are those
of the line, line feeds, and characters of variables that the line names.
-/

namespace DocIndex.Settings

open DocIndex.Text

variable {lookup other : Lookup} {draft next twin : Draft} {c x : Char}
  {text value key rest : List Char} {allowed : Char → Prop}

/-- The values of all variables have characters of a given kind alone. -/
def Gives (lookup : Lookup) (allowed : Char → Prop) : Prop :=
  ∀ name value, lookup name = some value → ∀ x ∈ value.toList, allowed x

namespace Draft

/-- What of a value that is being read decides how the reading goes on. -/
def bare (draft : Draft) : Draft := { draft with value := [] }

/-- The variables have no say in how the reading of a value goes on. -/
theorem bare_read? (alike : draft.bare = twin.bare) (lookup other : Lookup) (c : Char) :
    (draft.read? lookup c).map bare = (twin.read? other c).map bare := by
  rcases draft with ⟨mode, isQuoted, value⟩
  rcases twin with ⟨mode, isQuoted, held⟩
  cases alike
  cases mode with
  | plain =>
      simp only [read?, readPlain]
      split_ifs <;> rfl
  | escaped | literal | ended =>
      simp only [read?]
      split_ifs <;> rfl
  | comment => rfl
  | name letters | braced letters =>
      -- What the variables give is added to the value, which is left out of the comparison.
      simp only [read?, readName, expand]
      split_ifs <;> rfl

theorem isSome_finish? (alike : draft.bare = twin.bare) (lookup other : Lookup) :
    (draft.finish? lookup).isSome = (twin.finish? other).isSome := by
  rcases draft with ⟨mode, isQuoted, value⟩
  rcases twin with ⟨mode, isQuoted, held⟩
  cases alike
  simp only [finish?]
  split_ifs
  · rfl
  · cases mode <;> rfl

theorem bare_foldlM_read? (lookup other : Lookup) (text : List Char)
    (alike : draft.bare = twin.bare) :
    (text.foldlM (read? lookup) draft).map bare =
      (text.foldlM (read? other) twin).map bare := by
  induction text generalizing draft twin with
  | nil => exact congrArg some alike
  | cons c later ih =>
      have steps := bare_read? alike lookup other c
      rw [List.foldlM_cons, List.foldlM_cons]
      rcases read : draft.read? lookup c with _ | next
      · rw [read, Option.map_none, eq_comm, Option.map_eq_none_iff] at steps
        rw [steps]
        rfl
      · rw [read, Option.map_some, eq_comm, Option.map_eq_some_iff] at steps
        rcases steps with ⟨after, readToo, alikeToo⟩
        rw [readToo]
        exact ih alikeToo.symm

/-- All characters read so far are of a given kind. -/
def Within (allowed : Char → Prop) (draft : Draft) : Prop := ∀ x ∈ draft.value, allowed x

theorem Within.push (within : draft.Within allowed) (good : allowed c) :
    (draft.push c).Within allowed := by
  intro x member
  rcases List.mem_append.mp member with held | pushed
  · exact within x held
  · rwa [List.mem_singleton.mp pushed]

theorem Within.expand (within : draft.Within allowed) (given : Gives lookup allowed)
    (letters : List Char) : (draft.expand lookup letters).Within allowed := by
  intro x member
  rcases List.mem_append.mp member with held | found
  · exact within x held
  · rcases value_eq : lookup (String.ofList letters) with _ | value
    · rw [value_eq] at found
      contradiction
    · rw [value_eq] at found
      exact given _ value value_eq x found

theorem Within.readName (within : draft.Within allowed) (given : Gives lookup allowed)
    (good : allowed c) (letters : List Char) :
    (draft.readName lookup letters c).Within allowed := by
  have expanded := within.expand given letters
  simp only [Draft.readName]
  split_ifs
  · exact within
  · exact within
  · exact expanded
  · exact expanded.push good

/-- A step adds the character or a line feed to the value, or the value of a variable. -/
theorem Within.read? (within : draft.Within allowed) (given : Gives lookup allowed)
    (good : allowed c) (lineFeed : allowed '\n') (read : draft.read? lookup c = some next) :
    next.Within allowed := by
  rcases draft with ⟨mode, isQuoted, value⟩
  cases mode with
  | plain =>
      cases read
      simp only [readPlain]
      split_ifs <;> first | exact within | exact within.push good
  | escaped =>
      simp only [Draft.read?] at read
      split_ifs at read <;> cases read
      · exact Within.push within lineFeed
      · exact Within.push within good
  | literal =>
      cases read
      split_ifs
      · exact within
      · exact within.push good
  | name letters =>
      cases read
      exact within.readName given good letters
  | braced letters =>
      cases read
      split_ifs
      · exact within.expand given letters
      · exact within
  | ended =>
      simp only [Draft.read?] at read
      split_ifs at read <;> cases read <;> exact within
  | comment =>
      cases read
      exact within

theorem Within.foldlM_read? (within : draft.Within allowed) (given : Gives lookup allowed)
    (good : ∀ x ∈ text, allowed x) (lineFeed : allowed '\n')
    (read : text.foldlM (Draft.read? lookup) draft = some next) : next.Within allowed := by
  induction text generalizing draft with
  | nil =>
      cases read
      exact within
  | cons c later ih =>
      rw [List.foldlM_cons] at read
      rcases Option.bind_eq_some_iff.mp read with ⟨between, first, rest⟩
      rw [List.forall_mem_cons] at good
      exact ih (within.read? given good.1 lineFeed first) good.2 rest

theorem Within.finish? (within : draft.Within allowed) (given : Gives lookup allowed)
    (finished : draft.finish? lookup = some value) : ∀ x ∈ value, allowed x := by
  rcases draft with ⟨mode, isQuoted, held⟩
  simp only [Draft.finish?] at finished
  split_ifs at finished
  cases mode with
  | literal | braced _ => contradiction
  | name letters =>
      cases finished
      exact within.expand given letters
  | plain | escaped | ended | comment =>
      cases finished
      exact within

end Draft

/-- Whether a value can be read does not depend on the variables. -/
theorem isSome_readValue? (lookup other : Lookup) (text : List Char) :
    (readValue? lookup text).isSome = (readValue? other text).isSome := by
  have steps := Draft.bare_foldlM_read? lookup other text (rfl : Draft.start.bare = _)
  rw [readValue?, readValue?]
  rcases read : text.foldlM (Draft.read? lookup) Draft.start with _ | draft
  · rw [read, Option.map_none, eq_comm, Option.map_eq_none_iff] at steps
    rw [steps]
    rfl
  · rw [read, Option.map_some, eq_comm, Option.map_eq_some_iff] at steps
    rcases steps with ⟨twin, readToo, alike⟩
    rw [readToo]
    exact Draft.isSome_finish? alike.symm lookup other

theorem mem_of_readKey? (read : readKey? text = some (key, rest)) : ∀ x ∈ rest, x ∈ text := by
  rcases text with _ | ⟨first, later⟩
  · contradiction
  · simp only [readKey?] at read
    split_ifs at read
    cases read
    exact fun x member => (List.dropWhile_suffix _).mem member

theorem mem_of_afterEquals? (found : afterEquals? text = some rest) : ∀ x ∈ rest, x ∈ text := by
  rw [afterEquals?] at found
  split at found
  · rename_i later begins
    cases found
    intro x member
    apply (List.dropWhile_suffix isSpace).mem
    rw [← trimStart, begins]
    exact List.mem_cons_of_mem _ ((List.dropWhile_suffix isSpace).mem member)
  · contradiction

/-- What is assigned is a part of the line. -/
theorem mem_of_splitAssignment? (split : splitAssignment? text = some (key, value)) :
    ∀ x ∈ value, x ∈ text := by
  rw [splitAssignment?] at split
  rcases read : readKey? text with _ | ⟨word, rest⟩
  · rw [read] at split
    contradiction
  · have inText := mem_of_readKey? read
    simp only [read] at split
    rcases found : afterEquals? rest with _ | assigned
    · simp only [found] at split
      split_ifs at split
      rcases Option.bind_eq_some_iff.mp split with ⟨⟨name, after⟩, named, more⟩
      rcases Option.map_eq_some_iff.mp more with ⟨assigned, found, pair_eq⟩
      cases pair_eq
      intro x member
      have inRest := mem_of_readKey? named x (mem_of_afterEquals? found x member)
      exact inText x ((List.dropWhile_suffix isSpace).mem inRest)
    · simp only [found] at split
      cases split
      exact fun x member => inText x (mem_of_afterEquals? found x member)

/-- A value has the characters of its line, line feeds, and those of variables. -/
theorem allowed_of_read {name assigned : String} (given : Gives lookup allowed)
    (good : ∀ x ∈ text, allowed x) (lineFeed : allowed '\n')
    (read : Line.read lookup text = .assignment name assigned) :
    ∀ x ∈ assigned.toList, allowed x := by
  have trimmed : ∀ x ∈ trimStart (trimEnd text), x ∈ text := fun x member =>
    (List.take_prefix _ text).mem ((List.dropWhile_suffix isSpace).mem member)
  simp only [Line.read] at read
  split_ifs at read
  split at read
  · contradiction
  · rename_i key value split
    split_ifs at read
    · cases read
      exact fun x member => absurd member List.not_mem_nil
    · split at read
      · contradiction
      · rename_i held valueRead
        cases read
        rcases Option.bind_eq_some_iff.mp valueRead with ⟨draft, ran, finished⟩
        have start : Draft.start.Within allowed := fun x member => absurd member List.not_mem_nil
        have goodValue : ∀ x ∈ value, allowed x := fun x member =>
          good x (trimmed x (mem_of_splitAssignment? split x member))
        rw [String.toList_ofList]
        exact (start.foldlM_read? given goodValue lineFeed ran).finish? given finished

/-- A line without the value that it assigns. -/
def Line.bare : Line → Line
  | assignment name _ => assignment name ""
  | line => line

/-- Of what kind a line is and which variable it sets does not depend on the variables. -/
theorem bare_read (lookup other : Lookup) (text : List Char) :
    (Line.read lookup text).bare = (Line.read other text).bare := by
  simp only [Line.read]
  split_ifs
  · rfl
  · rcases splitAssignment? (trimStart (trimEnd text)) with _ | ⟨name, value⟩
    · rfl
    · simp only
      split_ifs
      · rfl
      · have readable := isSome_readValue? lookup other value
        rcases left : readValue? lookup value with _ | held
        · rw [left, eq_comm, Option.isSome_none, Option.isSome_eq_false_iff,
            Option.isNone_iff_eq_none] at readable
          rw [readable]
        · rw [left, eq_comm, Option.isSome_some, Option.isSome_iff_exists] at readable
          rcases readable with ⟨heldToo, read⟩
          rw [read]
          rfl

end DocIndex.Settings
