import DocIndex.Proofs.Store.Upsert

/-!
# What a condition means

A condition is a text of a language in which blanks may stand between marks and words, and in which
two quotes inside quotes stand for one. By the rules of that language the condition written for
identifiers lists these identifiers in their order and cannot be read in another way, whatever
quotes, commas, parentheses or blanks they contain. So a deletion meets the rows with one of these
identifiers, and no others.
-/

namespace DocIndex.Store.Condition

variable {body other before after rest later : List Char} {id text : List Char} {mark sign : Char}
  {others : List (List Char)}

/-- The blanks between the words and marks of a condition. -/
def blanks : List Char := [' ', '\t', '\n', '\r']

/-- Nothing but blanks. -/
def IsGap (text : List Char) : Prop := ∀ c ∈ text, c ∈ blanks

/-- What stands between quotes for a text: two quotes for one, and all else for itself. -/
inductive Spells : List Char → List Char → Prop
  | nil : Spells [] []
  | plain {c : Char} {body text : List Char} (other : c ≠ '\'') (rest : Spells body text) :
      Spells (c :: body) (c :: text)
  | quote {body text : List Char} (rest : Spells body text) :
      Spells ('\'' :: '\'' :: body) ('\'' :: text)

/--
What stands behind the opening parenthesis of a list of texts, which are quoted, have commas between
them and are closed by a parenthesis.
-/
inductive IsListing : List Char → List (List Char) → Prop
  | last {before body text after final : List Char} (gap : IsGap before)
      (spells : Spells body text) (gapAfter : IsGap after) (gapFinal : IsGap final) :
      IsListing (before ++ '\'' :: (body ++ '\'' :: (after ++ ')' :: final))) [text]
  | more {before body text after later : List Char} {texts : List (List Char)}
      (gap : IsGap before) (spells : Spells body text) (gapAfter : IsGap after)
      (rest : IsListing later texts) :
      IsListing (before ++ '\'' :: (body ++ '\'' :: (after ++ ',' :: later))) (text :: texts)

/-- The identifiers that a condition names: one of them is the identifier of a row that meets it. -/
def Names (condition : String) (ids : List String) : Prop :=
  ∃ first second listing, first ≠ [] ∧ IsGap first ∧ IsGap second ∧
    condition.toList = 'i' :: 'd' :: (first ++ 'I' :: 'N' :: (second ++ '(' :: listing)) ∧
      IsListing listing (ids.map String.toList)

/-- Blanks are told apart from the mark behind them. -/
theorem eq_of_gap_append (gap : IsGap before) (gapToo : IsGap after) (solid : mark ∉ blanks)
    (solidToo : sign ∉ blanks) (same : before ++ mark :: rest = after ++ sign :: later) :
    mark = sign ∧ rest = later := by
  induction before generalizing after with
  | nil =>
      rcases after with _ | ⟨first, after⟩
      · exact List.cons.inj same
      · rw [(List.cons.inj same).1] at solid
        exact absurd (gapToo first List.mem_cons_self) solid
  | cons blank before ih =>
      rcases after with _ | ⟨first, after⟩
      · rw [← (List.cons.inj same).1] at solidToo
        exact absurd (gap blank List.mem_cons_self) solidToo
      · exact ih (fun c member => gap c (List.mem_cons_of_mem blank member))
          (fun c member => gapToo c (List.mem_cons_of_mem first member)) (List.cons.inj same).2

theorem head?_gap_append (gap : IsGap before) (other : mark ≠ '\'') :
    (before ++ mark :: rest).head? ≠ some '\'' := by
  rcases before with _ | ⟨blank, before⟩
  · simpa using other
  · have isBlank := gap blank List.mem_cons_self
    simp only [List.cons_append, List.head?_cons, ne_eq, Option.some.injEq]
    rintro rfl
    contradiction

theorem spells_doubleQuotes (text : List Char) : Spells (doubleQuotes text) text := by
  induction text with
  | nil => exact .nil
  | cons c text ih =>
      rw [doubleQuotes, List.flatMap_cons]
      split
      · rename_i isQuote
        rw [eq_of_beq isQuote]
        exact .quote ih
      · rename_i isOther
        exact .plain (by simpa using isOther) ih

/-- A quoted text ends at the first quote that stands alone, so it can be read in one way. -/
theorem Spells.unique (spells : Spells body text) (closed : rest.head? ≠ some '\'')
    (spellsToo : Spells other id) (closedToo : later.head? ≠ some '\'')
    (same : body ++ '\'' :: rest = other ++ '\'' :: later) : text = id ∧ rest = later := by
  induction spells generalizing other id with
  | nil =>
      cases spellsToo with
      | nil => exact ⟨rfl, (List.cons.inj same).2⟩
      | plain different => exact absurd (List.cons.inj same).1.symm different
      | quote =>
          rw [(List.cons.inj same).2] at closed
          exact absurd rfl closed
  | plain different _ ih =>
      cases spellsToo with
      | nil => exact absurd (List.cons.inj same).1 different
      | plain _ further =>
          rcases List.cons.inj same with ⟨rfl, sameBody⟩
          rcases ih further sameBody with ⟨rfl, rest_eq⟩
          exact ⟨rfl, rest_eq⟩
      | quote => exact absurd (List.cons.inj same).1 different
  | quote _ ih =>
      cases spellsToo with
      | nil =>
          rw [← (List.cons.inj same).2] at closedToo
          exact absurd rfl closedToo
      | plain different => exact absurd (List.cons.inj same).1.symm different
      | quote further =>
          rcases ih further (List.cons.inj (List.cons.inj same).2).2 with ⟨rfl, rest_eq⟩
          exact ⟨rfl, rest_eq⟩

theorem literal_append (id rest : List Char) :
    literal id ++ rest = '\'' :: (doubleQuotes id ++ '\'' :: rest) := by
  simp [literal]

theorem list_singleton (id : List Char) :
    list [id] ++ closing = '\'' :: (doubleQuotes id ++ '\'' :: [')']) := by
  rw [← literal_append]
  simp [list, List.intercalate, closing]

theorem list_more (id next : List Char) (later : List (List Char)) :
    list (id :: next :: later) ++ closing =
      '\'' :: (doubleQuotes id ++ '\'' :: ',' :: ([' '] ++ (list (next :: later) ++ closing))) := by
  rw [list_cons_cons, List.append_assoc, literal_append, List.append_assoc]
  rfl

/-- A listing that begins with a literal begins with its text. -/
theorem IsListing.cases_literal (gap : IsGap before) (closed : rest.head? ≠ some '\'')
    (listing : IsListing (before ++ '\'' :: (doubleQuotes id ++ '\'' :: rest)) others) :
    (∃ after final, IsGap after ∧ rest = after ++ ')' :: final ∧ others = [id]) ∨
      ∃ after later texts, IsGap after ∧ rest = after ++ ',' :: later ∧ IsListing later texts ∧
        others = id :: texts := by
  generalize whole : before ++ '\'' :: (doubleQuotes id ++ '\'' :: rest) = written at listing
  cases listing with
  | last gapToo spells gapAfter =>
      have bodies := (eq_of_gap_append gap gapToo (by decide) (by decide) whole).2
      rcases (spells_doubleQuotes id).unique closed spells
        (head?_gap_append gapAfter (by decide)) bodies with ⟨rfl, rest_eq⟩
      exact .inl ⟨_, _, gapAfter, rest_eq, rfl⟩
  | more gapToo spells gapAfter further =>
      have bodies := (eq_of_gap_append gap gapToo (by decide) (by decide) whole).2
      rcases (spells_doubleQuotes id).unique closed spells
        (head?_gap_append gapAfter (by decide)) bodies with ⟨rfl, rest_eq⟩
      exact .inr ⟨_, _, _, gapAfter, rest_eq, further, rfl⟩

theorem isGap_nil : IsGap [] := fun _ member => absurd member List.not_mem_nil

theorem isGap_space : IsGap [' '] := by simp [IsGap, blanks]

/-- The list that is written is a listing of its identifiers. -/
theorem isListing_list (gap : IsGap before) (id : List Char) (ids : List (List Char)) :
    IsListing (before ++ (list (id :: ids) ++ closing)) (id :: ids) := by
  induction ids generalizing before id with
  | nil =>
      rw [list_singleton]
      exact .last gap (spells_doubleQuotes id) isGap_nil isGap_nil
  | cons next later ih =>
      rw [list_more]
      exact .more gap (spells_doubleQuotes id) isGap_nil (ih isGap_space next)

/-- The list that is written is a listing of nothing else. -/
theorem IsListing.eq_of_list (gap : IsGap before) {ids : List (List Char)}
    (listing : IsListing (before ++ (list (id :: ids) ++ closing)) others) :
    others = id :: ids := by
  induction ids generalizing before id others with
  | nil =>
      rw [list_singleton] at listing
      rcases listing.cases_literal gap (by decide) with ⟨_, _, _, _, rfl⟩ |
        ⟨after, later, _, gapAfter, rest_eq, _, _⟩
      · rfl
      · have marks := eq_of_gap_append isGap_nil gapAfter (by decide) (by decide) rest_eq
        exact absurd marks.1 (by decide)
  | cons next ids ih =>
      rw [list_more] at listing
      rcases listing.cases_literal gap (by simp) with ⟨after, final, gapAfter, rest_eq, _⟩ |
        ⟨after, later, texts, gapAfter, rest_eq, further, rfl⟩
      · have marks := eq_of_gap_append isGap_nil gapAfter (by decide) (by decide) rest_eq
        exact absurd marks.1 (by decide)
      · have marks := eq_of_gap_append isGap_nil gapAfter (by decide) (by decide) rest_eq
        rw [← marks.2] at further
        rw [ih isGap_space further]

/-- The condition written for identifiers names these identifiers, and no others. -/
theorem names_write_iff {ids : List String} (some_ids : ids ≠ []) (others : List String) :
    Names (write ids) others ↔ others = ids := by
  have written : (write ids).toList = 'i' :: 'd' :: ([' '] ++ 'I' :: 'N' :: ([' '] ++ '(' ::
      ([] ++ (list (ids.map String.toList) ++ closing)))) := by
    rw [write, String.toList_ofList, list, List.map_map]
    rfl
  rcases List.exists_cons_of_ne_nil some_ids with ⟨id, later, rfl⟩
  constructor
  · rintro ⟨first, second, listing, _, gap, gapToo, text, listed⟩
    rw [written] at text
    have words := (List.cons.inj (List.cons.inj text).2).2
    have front := (eq_of_gap_append isGap_space gap (by decide) (by decide) words).2
    have behind := eq_of_gap_append isGap_space gapToo (by decide) (by decide)
      (List.cons.inj front).2
    rw [← behind.2] at listed
    have same := listed.eq_of_list isGap_nil
    exact List.map_injective_iff.mpr (fun _ _ => String.toList_inj.mp) same
  · rintro rfl
    exact ⟨[' '], [' '], _, by simp, isGap_space, isGap_space, written,
      isListing_list isGap_nil _ _⟩

theorem not_hasIdAmong {Component : Type} (ids : List String) (row : Row Component) :
    (! Table.hasIdAmong ids row) = decide (∀ id ∈ ids, row.id ≠ some id) := by
  rw [Bool.eq_iff_iff, decide_eq_true_iff, Table.hasIdAmong]
  rcases row.id with _ | known
  · simp
  · simp only [Bool.not_eq_true', List.contains_eq_mem, decide_eq_false_iff_not, ne_eq,
      Option.some.injEq]
    constructor
    · rintro absent id member rfl
      exact absent member
    · exact fun other member => other known member rfl

/--
The condition written for identifiers is read as just these identifiers in their order, by the
reader of conditions and by the rules of their language. So it is written for no other identifiers,
and a deletion with it removes just the rows that have one of them.
-/
theorem write_names_exactly {ids : List String} (some_ids : ids ≠ []) :
    read? (write ids) = some ids ∧ (∀ others, Names (write ids) others ↔ others = ids) ∧
      (∀ others, others ≠ [] → write others = write ids → others = ids) ∧
      ∀ {Component : Type} (table : Table Component), table.shape.hasIds = true →
        table.deleteWhere (write ids) =
          .ok (table.keep fun row => ∀ id ∈ ids, row.id ≠ some id) := by
  refine ⟨read?_write some_ids, names_write_iff some_ids, ?_, ?_⟩
  · intro others some_others same
    have named : Names (write others) ids := same ▸ (names_write_iff some_ids ids).mpr rfl
    exact ((names_write_iff some_others ids).mp named).symm
  · intro Component table identified
    rw [Table.deleteWhere_write some_ids identified, Table.without]
    simp only [not_hasIdAmong]

/-- An identifier that looks like the end of one and the beginning of another is one identifier. -/
theorem write_names_exactly_quotes :
    let row (id : Option String) : Row Nat := ⟨id, "", "", []⟩
    ["a', 'b", "'", ""] ≠ [] ∧ read? (write ["a', 'b", "'", ""]) = some ["a', 'b", "'", ""] ∧
      (Table.foreign true [row (some "a"), row (some "a', 'b"), row none, row (some "'"),
          row (some "''")]).deleteWhere (write ["a', 'b", "'", ""]) =
        .ok (.foreign true [row (some "a"), row none, row (some "''")]) := by
  intro row
  rcases @write_names_exactly ["a', 'b", "'", ""] (by decide) with ⟨reads, _, _, deletes⟩
  exact ⟨by decide, reads, deletes _ rfl⟩

end DocIndex.Store.Condition
