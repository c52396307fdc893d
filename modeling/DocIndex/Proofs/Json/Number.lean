import DocIndex.Json.Number
import DocIndex.Proofs.Text.Utf8

/-!
# Reading whole numbers back

A whole number of 64 bits is read back from its decimal digits. They have no needless zero at the
front, and no step of adding a digit leaves the 64 bits, as the number only grows.
-/

namespace DocIndex.Json

open DocIndex.Text

variable {c : Char} {digits : List Char} {significand index : Nat} {byte : UInt8}
  {front rest : List UInt8}

/-- A rest of a text that does not go on with a number. -/
def EndsNumber : List UInt8 → Prop
  | [] => True
  | byte :: _ => isDigit byte = false ∧ byte ≠ '.'.toUInt8 ∧ beginsExponent byte = false

/-- A rest of a text that does not go on with digits. -/
def EndsDigits (rest : List UInt8) : Prop := ∀ byte ∈ rest.head?, isDigit byte = false

theorem EndsNumber.endsDigits (ends : EndsNumber rest) : EndsDigits rest := by
  intro byte first
  rcases rest with _ | ⟨head, later⟩
  · contradiction
  · cases first
    exact ends.1

theorem toNat_toUInt8 (ascii : c.toNat < 128) : c.toUInt8.toNat = c.toNat := by
  change c.val.toUInt8.toNat = c.toNat
  rw [UInt32.toNat_toUInt8]
  exact Nat.mod_eq_of_lt (Nat.lt_trans ascii (by decide))

theorem toNat_lt_of_isDigit (decimal : c.isDigit) : c.toNat < 128 :=
  Nat.lt_of_le_of_lt (Char.isDigit_iff_toNat.mp decimal).2 (by decide)

theorem isDigit_toUInt8 (decimal : c.isDigit) : isDigit c.toUInt8 := by
  rcases Char.isDigit_iff_toNat.mp decimal with ⟨least, greatest⟩
  simp only [isDigit, Bool.and_eq_true, decide_eq_true_eq, UInt8.le_iff_toNat_le,
    toNat_toUInt8 (toNat_lt_of_isDigit decimal)]
  exact ⟨least, greatest⟩

theorem beq_eq_false_of_isDigit {mark : UInt8} (decimal : isDigit byte = true)
    (other : isDigit mark = false) : (byte == mark) = false := by
  rw [beq_eq_false_iff_ne]
  rintro rfl
  rw [decimal] at other
  contradiction

theorem isBlankByte_of_isDigit (decimal : isDigit byte = true) : isBlankByte byte = false := by
  simp only [isBlankByte, beq_eq_false_of_isDigit decimal (show isDigit 0x20 = false by rfl),
    beq_eq_false_of_isDigit decimal (show isDigit 0x0A = false by rfl),
    beq_eq_false_of_isDigit decimal (show isDigit 0x0D = false by rfl),
    beq_eq_false_of_isDigit decimal (show isDigit 0x09 = false by rfl), Bool.or_self]

theorem skipBlanks_of_solid (solid : isBlankByte byte = false) (later : List UInt8) :
    skipBlanks (byte :: later) = byte :: later := by
  rw [skipBlanks, List.dropWhile_cons_of_neg (by simp [solid])]

theorem digitValue_toUInt8 (decimal : c.isDigit) :
    digitValue c.toUInt8 = c.toNat - '0'.toNat := by
  rw [digitValue, toNat_toUInt8 (toNat_lt_of_isDigit decimal)]
  rfl

theorem le_ofDigitChars (digits : List Char) (significand : Nat) :
    significand ≤ Nat.ofDigitChars 10 digits significand := by
  induction digits generalizing significand with
  | nil => exact Nat.le_refl significand
  | cons c later ih =>
      rw [Nat.ofDigitChars_cons]
      exact Nat.le_trans (by omega) (ih _)

/-- Digits whose number fits are all taken up. -/
theorem absorb_digits (decimal : ∀ c ∈ digits, c.isDigit)
    (fits : Nat.ofDigitChars 10 digits significand ≤ largest) :
    absorb significand (digits.map Char.toUInt8) =
      (Nat.ofDigitChars 10 digits significand, []) := by
  induction digits generalizing significand with
  | nil => rfl
  | cons c later ih =>
      rw [List.forall_mem_cons] at decimal
      rw [Nat.ofDigitChars_cons] at fits ⊢
      have small : ¬ largest < 10 * significand + (c.toNat - '0'.toNat) :=
        Nat.not_lt.mpr (Nat.le_trans (le_ofDigitChars later _) fits)
      simp only [List.map_cons, absorb, digitValue_toUInt8 decimal.1, small, if_false]
      exact ih decimal.2 fits

theorem isDigit_of_mem_toDigits (member : c ∈ Nat.toDigits 10 index) : c.isDigit :=
  Nat.isDigit_of_mem_toDigits (by decide) (by decide) member

/-- Only the digits of zero begin with a zero. -/
theorem eq_nil_of_toDigits_eq (begins : Nat.toDigits 10 index = '0' :: digits) : digits = [] := by
  induction index using Nat.strongRecOn generalizing digits with
  | ind index ih =>
      by_cases single : index < 10
      · rw [Nat.toDigits_of_lt_base single] at begins
        exact (List.cons.inj begins).2.symm
      · have several : 10 ≤ index := Nat.not_lt.mp single
        rw [Nat.toDigits_of_base_le (by decide) several] at begins
        rcases front : Nat.toDigits 10 (index / 10) with _ | ⟨first, later⟩
        · exact absurd front Nat.toDigits_ne_nil
        · rw [front, List.cons_append] at begins
          rcases (List.cons.inj begins).1 with rfl
          -- The digits in front of the last one would be those of zero, but `index / 10` is not.
          have later_eq := ih (index / 10) (by omega) front
          have zero := Nat.ofDigitChars_toDigits (b := 10) (n := index / 10) (by decide) (by decide)
          rw [front, later_eq] at zero
          have : index / 10 = 0 := zero.symm
          omega

theorem splitDigits_append (decimal : ∀ byte ∈ front, isDigit byte) (ends : EndsDigits rest) :
    splitDigits (front ++ rest) = (front, rest) := by
  have stops : rest.takeWhile isDigit = [] ∧ rest.dropWhile isDigit = rest := by
    rcases rest with _ | ⟨byte, later⟩
    · exact ⟨rfl, rfl⟩
    · simp [ends byte rfl]
  rw [splitDigits, List.takeWhile_append_of_pos decimal, List.dropWhile_append_of_pos decimal,
    stops.1, stops.2, List.append_nil]

/-- Digits of which none is a needless zero are read up to their end. -/
theorem wholeDigits_append (some_digits : digits ≠ []) (decimal : ∀ c ∈ digits, c.isDigit)
    (single : digits.head? = some '0' → digits = ['0']) (ends : EndsDigits rest) :
    wholeDigits (digits.map Char.toUInt8 ++ rest) = .ok (digits.map Char.toUInt8, rest) := by
  rcases digits with _ | ⟨first, later⟩
  · contradiction
  by_cases zero : first = '0'
  · rw [single (congrArg some zero)]
    rcases rest with _ | ⟨next, rest⟩
    · rfl
    · simp [wholeDigits, ends next rfl]
  · have notZero : (first.toUInt8 == '0'.toUInt8) = false := by
      rw [beq_eq_false_iff_ne]
      intro same
      have ascii := toNat_lt_of_isDigit (decimal first List.mem_cons_self)
      have toNat_eq := congrArg UInt8.toNat same
      rw [toNat_toUInt8 ascii] at toNat_eq
      exact zero (Char.toNat_inj.mp toNat_eq)
    have decimalBytes : ∀ byte ∈ (first :: later).map Char.toUInt8, isDigit byte := by
      rw [List.forall_mem_map]
      exact fun c member => isDigit_toUInt8 (decimal c member)
    have split := splitDigits_append decimalBytes ends
    rw [List.map_cons, List.cons_append] at split ⊢
    simp only [wholeDigits, notZero, decimalBytes first.toUInt8 List.mem_cons_self, split,
      Bool.false_eq_true, if_false, if_true]

theorem eq_singleton_of_toDigits (begins : (Nat.toDigits 10 index).head? = some '0') :
    Nat.toDigits 10 index = ['0'] := by
  rcases List.head?_eq_some_iff.mp begins with ⟨later, written⟩
  rw [written, eq_nil_of_toDigits_eq written]

/-- The written form of a whole number of 64 bits is read as the number. -/
theorem number_toDigits (fits : index ≤ largest) (ends : EndsNumber rest) :
    number false ((Nat.toDigits 10 index).map Char.toUInt8 ++ rest) =
      .ok (.natural index, rest) := by
  have back : Nat.ofDigitChars 10 (Nat.toDigits 10 index) 0 = index :=
    Nat.ofDigitChars_toDigits (by decide) (by decide)
  have taken := absorb_digits (fun c => @isDigit_of_mem_toDigits c index)
    (Nat.le_trans (Nat.le_of_eq back) fits)
  rw [number, wholeDigits_append Nat.toDigits_ne_nil (fun _ => isDigit_of_mem_toDigits)
    eq_singleton_of_toDigits ends.endsDigits]
  simp only [withDigits, taken, back, whole, List.isEmpty_nil, if_true, Bool.not_false]
  rcases rest with _ | ⟨byte, later⟩
  · rfl
  · simp [ends.2.1, ends.2.2]

end DocIndex.Json
