import DocIndex.Json.Value
import DocIndex.Proofs.Json.Number
import DocIndex.Proofs.Json.Quoted

/-!
# Reading values and members back

A written string and a written whole number are read as values wherever they stand, so far as a
number ends where its digits end. Written members are read one after the other, each by itself.
-/

namespace DocIndex.Json

open DocIndex.Text

variable {written rest after : List UInt8} {value : Value} {members : List (List Char × Value)}
  {index fuel depth : Nat}

/-- A text that is read as a value unless a number may go on behind it. -/
def IsReadAs (written : List UInt8) (value : Value) : Prop :=
  ∀ fuel depth rest, EndsNumber rest →
    valueWithin (fuel + 1) depth (written ++ rest) = .ok (value, rest)

theorem encode_quoted (text : List Char) (rest : List UInt8) :
    Utf8.encode (quoted text) ++ rest =
      '"'.toUInt8 :: (Utf8.encode (text.flatMap escape) ++ '"'.toUInt8 :: rest) :=
  encode_string (text.flatMap escape) rest

theorem isReadAs_quoted (text : List Char) :
    IsReadAs (Utf8.encode (quoted text)) (.string text) := by
  intro fuel depth rest _
  have begins : ∀ later, skipBlanks ('"'.toUInt8 :: later) = '"'.toUInt8 :: later := fun _ => rfl
  have marks : ('"'.toUInt8 == 'n'.toUInt8) = false ∧ ('"'.toUInt8 == 't'.toUInt8) = false ∧
      ('"'.toUInt8 == 'f'.toUInt8) = false ∧ ('"'.toUInt8 == '-'.toUInt8) = false ∧
      isDigit '"'.toUInt8 = false := by decide
  rw [encode_quoted, valueWithin, begins]
  simp only [marks, stringText_quoted, Bool.false_eq_true, if_false, beq_self_eq_true, if_true]
  rfl

theorem isReadAs_toDigits (fits : index ≤ largest) :
    IsReadAs (Utf8.encode (Nat.toDigits 10 index)) (.number (.natural index)) := by
  intro fuel depth rest ends
  rw [Utf8.encode_of_ascii fun _ member => toNat_lt_of_isDigit (isDigit_of_mem_toDigits member)]
  have read := number_toDigits fits ends
  rcases digits : Nat.toDigits 10 index with _ | ⟨first, later⟩
  · exact absurd digits Nat.toDigits_ne_nil
  · have decimal : isDigit first.toUInt8 := isDigit_toUInt8
      (isDigit_of_mem_toDigits (digits ▸ List.mem_cons_self))
    rw [digits, List.map_cons, List.cons_append] at read
    rw [List.map_cons, List.cons_append, valueWithin, skipBlanks, List.dropWhile_cons,
      isBlankByte_of_isDigit decimal]
    simp only [decimal, read,
      beq_eq_false_of_isDigit decimal (show isDigit 'n'.toUInt8 = false by rfl),
      beq_eq_false_of_isDigit decimal (show isDigit 't'.toUInt8 = false by rfl),
      beq_eq_false_of_isDigit decimal (show isDigit 'f'.toUInt8 = false by rfl),
      beq_eq_false_of_isDigit decimal (show isDigit '-'.toUInt8 = false by rfl),
      Bool.false_eq_true, if_false, if_true]
    rfl

theorem memberKey_quoted (name : List Char) (rest : List UInt8) :
    memberKey (Utf8.encode (name.flatMap escape) ++ '"'.toUInt8 :: ':'.toUInt8 :: rest) =
      .ok (name, rest) := by
  rw [memberKey, stringText_quoted]
  rfl

theorem membersWithin_end (first : Bool) (rest : List UInt8) :
    membersWithin (fuel + 1) depth first ('}'.toUInt8 :: rest) = .ok ([], rest) := by
  rw [membersWithin]
  rfl

/-- A member is read with its name and value, and the other members after it. -/
theorem membersWithin_member (first : Bool) (name : List Char) (readAs : IsReadAs written value)
    (ends : EndsNumber rest)
    (later : membersWithin (fuel + 1) depth false rest = .ok (members, after)) :
    membersWithin (fuel + 2) depth first
      ((if first then [] else [','.toUInt8]) ++
        (Utf8.encode (quoted name) ++ ':'.toUInt8 :: (written ++ rest))) =
          .ok ((name, value) :: members, after) := by
  have quote : ∀ later, skipBlanks ('"'.toUInt8 :: later) = '"'.toUInt8 :: later := fun _ => rfl
  have comma : ∀ later, skipBlanks (','.toUInt8 :: later) = ','.toUInt8 :: later := fun _ => rfl
  have opens : ∀ later, openKey ('"'.toUInt8 :: later) = .ok later := fun _ => rfl
  have notEnd : ('"'.toUInt8 == '}'.toUInt8) = false ∧ (','.toUInt8 == '}'.toUInt8) = false := by
    decide
  rw [encode_quoted, membersWithin]
  cases first with
  | true =>
      simp only [if_true, List.nil_append, quote, notEnd, beq_self_eq_true, Bool.false_eq_true,
        if_false, memberKey_quoted, readAs fuel depth rest ends, later]
      rfl
  | false =>
      simp only [List.singleton_append, comma, notEnd, beq_self_eq_true, Bool.false_eq_true,
        if_false, if_true, opens, Except.bind, memberKey_quoted, readAs fuel depth rest ends, later]
      rfl

theorem valueWithin_object (room : 1 < depth)
    (read : membersWithin fuel (depth - 1) true written = .ok (members, rest)) :
    valueWithin (fuel + 1) depth ('{'.toUInt8 :: written) = .ok (.object members, rest) := by
  have begins : skipBlanks ('{'.toUInt8 :: written) = '{'.toUInt8 :: written := rfl
  have marks : ('{'.toUInt8 == 'n'.toUInt8) = false ∧ ('{'.toUInt8 == 't'.toUInt8) = false ∧
      ('{'.toUInt8 == 'f'.toUInt8) = false ∧ ('{'.toUInt8 == '-'.toUInt8) = false ∧
      isDigit '{'.toUInt8 = false ∧ ('{'.toUInt8 == '"'.toUInt8) = false ∧
      ('{'.toUInt8 == '['.toUInt8) = false := by decide
  rw [valueWithin, begins]
  simp only [marks, Nat.not_le.mpr room, read, beq_self_eq_true, Bool.false_eq_true, if_false,
    if_true]
  rfl

end DocIndex.Json
