import Mathlib.Data.Bool.AllAny
import DocIndex.Json.Lexeme
import DocIndex.Proofs.Json.Grammar
import DocIndex.Proofs.Text.Utf8

/-!
# Reading strings back

A string may spell a text in many ways: a character stands for itself, or for an escape with a
letter or with hexadecimal digits stands for it. Each spelling is read as the text, and so is the
written form of a string, whatever follows it. Characters that stand for themselves are copied byte
by byte, and no byte of them is taken for a quote, a backslash or a control character.
-/

namespace DocIndex.Json

open DocIndex.Text

variable {byte : UInt8} {bytes front rest : List UInt8} {c : Char}

/-- The value of a hexadecimal digit, in lower or upper case. -/
def hexPlace (c : Char) : Nat := "0123456789abcdef".toList.idxOf c.toLower

/-- The number that hexadecimal digits stand for. -/
def codeOf (digits : List Char) : Nat := digits.foldl (fun code c => code * 16 + hexPlace c) 0

/-- The letters that stand for a character behind a backslash. -/
def letterTable : List (Char × Char) :=
  [('"', '"'), ('\\', '\\'), ('/', '/'), ('b', '\x08'), ('f', '\x0C'), ('n', '\n'), ('r', '\r'),
    ('t', '\t')]

/-- The text that is spelt by what stands between the quotes of a string. -/
inductive Spells : List Char → List Char → Prop
  | nil : Spells [] []
  | plain {c : Char} {body text : List Char} (visible : 0x20 ≤ c.toNat) (notQuote : c ≠ '"')
      (notBackslash : c ≠ '\\') (rest : Spells body text) : Spells (c :: body) (c :: text)
  | letter {letter c : Char} {body text : List Char} (known : (letter, c) ∈ letterTable)
      (rest : Spells body text) : Spells ('\\' :: letter :: body) (c :: text)
  | code {first second third fourth c : Char} {body text : List Char}
      (digits : ∀ digit ∈ [first, second, third, fourth], IsHexDigit digit)
      (code_eq : codeOf [first, second, third, fourth] = c.toNat) (rest : Spells body text) :
      Spells ('\\' :: 'u' :: first :: second :: third :: fourth :: body) (c :: text)
  /-- Two codes that stand for a character from U+10000 on, as in UTF-16. -/
  | pair {first second third fourth fifth sixth seventh eighth c : Char} {body text : List Char}
      {high low : Nat} (digits : ∀ digit ∈ [first, second, third, fourth], IsHexDigit digit)
      (digitsLow : ∀ digit ∈ [fifth, sixth, seventh, eighth], IsHexDigit digit)
      (high_eq : codeOf [first, second, third, fourth] = 0xD800 + high) (small : high < 0x400)
      (low_eq : codeOf [fifth, sixth, seventh, eighth] = 0xDC00 + low) (smallLow : low < 0x400)
      (code_eq : c.toNat = 0x10000 + high * 0x400 + low) (rest : Spells body text) :
      Spells ('\\' :: 'u' :: first :: second :: third :: fourth :: '\\' :: 'u' :: fifth :: sixth ::
        seventh :: eighth :: body) (c :: text)

/-- A string names the text that it spells. -/
def Names (string text : List Char) : Prop :=
  ∃ body, string = '"' :: (body ++ ['"']) ∧ Spells body text

theorem Spells.isBody {body text : List Char} (spells : Spells body text) : IsBody body := by
  induction spells with
  | nil => exact .nil
  | plain visible notQuote notBackslash _ ih => exact .plain visible notQuote notBackslash ih
  | letter known _ ih =>
      have letters : ∀ entry ∈ letterTable,
          entry.1 ∈ ['"', '\\', '/', 'b', 'f', 'n', 'r', 't'] := by decide
      exact .letter (letters _ known) ih
  | code digits _ _ ih => exact .code digits ih
  | pair digits digitsLow _ _ _ _ _ _ ih => exact .code digits (.code digitsLow ih)

theorem Names.isString {string text : List Char} (names : Names string text) :
    IsString string := by
  rcases names with ⟨body, rfl, spells⟩
  exact ⟨body, rfl, spells.isBody⟩

theorem Spells.plain_append {front body text : List Char}
    (plain : ∀ c ∈ front, 0x20 ≤ c.toNat ∧ c ≠ '"' ∧ c ≠ '\\') (spells : Spells body text) :
    Spells (front ++ body) (front ++ text) := by
  induction front with
  | nil => exact spells
  | cons c front ih =>
      rw [List.forall_mem_cons] at plain
      exact .plain plain.1.1 plain.1.2.1 plain.1.2.2 (ih plain.2)

/-- A byte that stands for itself between the quotes of a string. -/
structure IsOrdinary (byte : UInt8) : Prop where
  notQuote : byte ≠ '"'.toUInt8
  notBackslash : byte ≠ '\\'.toUInt8
  visible : ¬ byte < 0x20

theorem stringBytes_of_isOrdinary (ordinary : ∀ byte ∈ front, IsOrdinary byte)
    (rest : List UInt8) :
    stringBytes (front ++ rest) =
      (stringBytes rest).map fun (held, later) => (front ++ held, later) := by
  induction front with
  | nil =>
      rcases read : stringBytes rest with fault | ⟨held, later⟩
      · simp [read, Except.map]
      · simp [read, Except.map]
  | cons byte front ih =>
      rw [List.forall_mem_cons] at ordinary
      rcases ordinary with ⟨⟨notQuote, notBackslash, visible⟩, more⟩
      rw [List.cons_append, stringBytes.eq_def]
      simp only [beq_eq_false_iff_ne.mpr notQuote, beq_eq_false_iff_ne.mpr notBackslash, visible,
        ih more, Bool.false_eq_true, if_false]
      rcases stringBytes rest with fault | ⟨held, later⟩
      · rfl
      · rfl

theorem stringBytes_of_escapedChar (read : escapedChar bytes = .ok (c, rest)) :
    stringBytes ('\\'.toUInt8 :: bytes) =
      (stringBytes rest).map fun (held, later) => (String.utf8EncodeChar c ++ held, later) := by
  have notQuote : ('\\'.toUInt8 == '"'.toUInt8) = false := by decide
  rw [stringBytes.eq_def]
  simp only [notQuote, beq_self_eq_true, Bool.false_eq_true, if_false, if_true]
  split
  · rename_i fails
    rw [read] at fails
    contradiction
  · rename_i reads
    rw [read] at reads
    cases reads
    rfl

theorem isOrdinary_of_mem_utf8EncodeChar (visible : 0x20 ≤ c.toNat) (notQuote : c ≠ '"')
    (notBackslash : c ≠ '\\') (member : byte ∈ String.utf8EncodeChar c) : IsOrdinary byte := by
  by_cases ascii : byte.toNat < 128
  · have same := (Utf8.utf8EncodeChar_of_mem member ascii).1
    refine ⟨?_, ?_, ?_⟩
    · rintro rfl
      exact notQuote same
    · rintro rfl
      exact notBackslash same
    · intro control
      rw [UInt8.lt_iff_toNat_lt] at control
      rw [same, Utf8.toNat_ofNat_of_isValidChar (.inl (by omega))] at visible
      exact absurd control (Nat.not_lt.mpr visible)
  · refine ⟨?_, ?_, ?_⟩
    · rintro rfl
      exact ascii (by decide)
    · rintro rfl
      exact ascii (by decide)
    · intro control
      rw [UInt8.lt_iff_toNat_lt] at control
      exact ascii (Nat.lt_of_lt_of_le control (by decide))

theorem hexValue?_of_isHexDigit : ∀ c, IsHexDigit c →
    c.toNat < 128 ∧ hexValue? c.toUInt8 = some (hexPlace c) := by
  unfold IsHexDigit
  -- Deciding the list alone: deciding the statement itself would go through every character.
  exact List.all_iff_forall_prop.mp (by decide)

theorem hexCode_encode {first second third fourth : Char}
    (digits : ∀ digit ∈ [first, second, third, fourth], IsHexDigit digit) (rest : List UInt8) :
    hexCode (Utf8.encode [first, second, third, fourth] ++ rest) =
      .ok (codeOf [first, second, third, fourth], rest) := by
  have value (digit : Char) (member : digit ∈ [first, second, third, fourth]) :=
    hexValue?_of_isHexDigit digit (digits digit member)
  rw [Utf8.encode_of_ascii fun digit member => (value digit member).1]
  simp only [List.map_cons, List.map_nil, List.cons_append, List.nil_append, hexCode,
    (value first (by simp)).2, (value second (by simp)).2, (value third (by simp)).2,
    (value fourth (by simp)).2, codeOf, List.foldl_cons, List.foldl_nil, Nat.zero_mul,
    Nat.zero_add]

theorem encode_code (first second third fourth : Char) (body : List Char) (rest : List UInt8) :
    Utf8.encode ('\\' :: 'u' :: first :: second :: third :: fourth :: body) ++ rest =
      '\\'.toUInt8 :: 'u'.toUInt8 :: (Utf8.encode [first, second, third, fourth] ++
        (Utf8.encode body ++ rest)) := by
  have apart : first :: second :: third :: fourth :: body =
      [first, second, third, fourth] ++ body := rfl
  rw [Utf8.encode_cons_of_ascii (by decide), Utf8.encode_cons_of_ascii (by decide), apart,
    Utf8.encode_append, List.cons_append, List.cons_append, List.append_assoc]

/-- No character has the code of a surrogate. -/
theorem not_surrogate (c : Char) :
    isLowSurrogate c.toNat = false ∧ isHighSurrogate c.toNat = false := by
  have valid : c.toNat.isValidChar := c.valid
  simp only [isLowSurrogate, isHighSurrogate, Bool.and_eq_false_imp, decide_eq_true_eq,
    decide_eq_false_iff_not]
  rcases valid with small | large
  · omega
  · omega

theorem escapedChar_letter {letter c : Char} (known : (letter, c) ∈ letterTable)
    (rest : List UInt8) : letter.toNat < 128 ∧
      escapedChar (letter.toUInt8 :: rest) = .ok (c, rest) := by
  have table : ∀ entry ∈ letterTable, entry.1.toNat < 128 ∧
      (entry.1.toUInt8 == 'u'.toUInt8) = false ∧
      escapedLetter? entry.1.toUInt8 = some entry.2 := by decide
  rcases table _ known with ⟨ascii, notCode, stands⟩
  refine ⟨ascii, ?_⟩
  simp only [escapedChar, notCode, stands, Bool.false_eq_true, if_false]

theorem encode_string (body : List Char) (rest : List UInt8) :
    Utf8.encode ('"' :: (body ++ ['"'])) ++ rest =
      '"'.toUInt8 :: (Utf8.encode body ++ '"'.toUInt8 :: rest) := by
  have quote : '"'.toNat < 128 := by decide
  rw [Utf8.encode_cons_of_ascii quote, Utf8.encode_append, Utf8.encode_cons_of_ascii quote,
    List.cons_append, List.append_assoc]
  rfl

/-- What spells a text is read as the text. -/
theorem Spells.stringBytes_eq {body text : List Char} (spells : Spells body text)
    (rest : List UInt8) :
    stringBytes (Utf8.encode body ++ '"'.toUInt8 :: rest) = .ok (Utf8.encode text, rest) := by
  have step {c : Char} {body text : List Char} {bytes : List UInt8}
      (read : escapedChar bytes = .ok (c, Utf8.encode body ++ '"'.toUInt8 :: rest))
      (ih : stringBytes (Utf8.encode body ++ '"'.toUInt8 :: rest) =
        .ok (Utf8.encode text, rest)) :
      stringBytes ('\\'.toUInt8 :: bytes) = .ok (Utf8.encode (c :: text), rest) := by
    rw [stringBytes_of_escapedChar read, ih]
    rfl
  induction spells with
  | nil =>
      rw [Utf8.encode, List.flatMap_nil, List.nil_append, stringBytes.eq_def]
      rfl
  | @plain c body text visible notQuote notBackslash _ ih =>
      have apart : Utf8.encode (c :: body) = String.utf8EncodeChar c ++ Utf8.encode body := rfl
      rw [apart, List.append_assoc, stringBytes_of_isOrdinary (fun _ member =>
        isOrdinary_of_mem_utf8EncodeChar visible notQuote notBackslash member), ih]
      rfl
  | letter known _ ih =>
      rw [Utf8.encode_cons_of_ascii (by decide),
        Utf8.encode_cons_of_ascii (escapedChar_letter known []).1]
      exact step (escapedChar_letter known _).2 ih
  | @code _ _ _ _ c _ _ digits code_eq _ ih =>
      rw [encode_code]
      refine step ?_ ih
      rw [escapedChar, if_pos (beq_self_eq_true _), unicodeEscape, hexCode_encode digits, code_eq]
      simp [not_surrogate c, Char.ofNat_toNat]
  | @pair _ _ _ _ _ _ _ _ c _ _ high low digits digitsLow high_eq small low_eq smallLow code_eq
      _ ih =>
      rw [encode_code, encode_code]
      refine step ?_ ih
      have marks : isLowSurrogate (0xD800 + high) = false ∧
          isHighSurrogate (0xD800 + high) = true ∧ isLowSurrogate (0xDC00 + low) = true := by
        simp only [isLowSurrogate, isHighSurrogate, Bool.and_eq_false_imp, Bool.and_eq_true,
          decide_eq_true_eq, decide_eq_false_iff_not]
        omega
      rw [escapedChar, if_pos (beq_self_eq_true _), unicodeEscape, hexCode_encode digits, high_eq]
      simp [marks, hexCode_encode digitsLow, low_eq, ← code_eq, Char.ofNat_toNat]

theorem Spells.stringText_eq {body text : List Char} (spells : Spells body text)
    (rest : List UInt8) :
    stringText (Utf8.encode body ++ '"'.toUInt8 :: rest) = .ok (text, rest) := by
  rw [stringText, spells.stringBytes_eq]
  simp only [Utf8.decode?_encode]

theorem Spells.escape_append {body text : List Char} (c : Char) (spells : Spells body text) :
    Spells (escape c ++ body) (c :: text) := by
  have place : ∀ value < 16, hexPlace (hexDigit value) = value := by decide
  unfold escape
  split
  case h_8 notQuote notBackslash _ _ _ _ _ =>
    split
    · rename_i small
      refine .code ?_ ?_ spells
      · have high := isHexDigit_hexDigit (c.toNat / 16) (by omega)
        have low := isHexDigit_hexDigit (c.toNat % 16) (by omega)
        have zero : IsHexDigit '0' := by simp [IsHexDigit]
        simp only [List.forall_mem_cons, zero, high, low, List.not_mem_nil, false_imp_iff,
          implies_true, and_self]
      · have zero : hexPlace '0' = 0 := by decide
        simp only [codeOf, List.foldl_cons, List.foldl_nil, zero, place (c.toNat / 16) (by omega),
          place (c.toNat % 16) (by omega)]
        omega
    · rename_i visible
      exact .plain (Nat.not_lt.mp visible) notQuote notBackslash spells
  all_goals exact .letter (by decide) spells

/-- The written form of a string is read as the string, behind its opening quote. -/
theorem stringText_quoted (text : List Char) (rest : List UInt8) :
    stringText (Utf8.encode (text.flatMap escape) ++ '"'.toUInt8 :: rest) = .ok (text, rest) := by
  have spells : Spells (text.flatMap escape) text := by
    induction text with
    | nil => exact .nil
    | cons c later ih =>
        rw [List.flatMap_cons]
        exact ih.escape_append c
  exact spells.stringText_eq rest

end DocIndex.Json
