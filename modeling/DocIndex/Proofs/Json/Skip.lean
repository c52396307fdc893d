import Mathlib.Data.List.DropRight
import DocIndex.Json.Skip
import DocIndex.Proofs.Json.Quoted

/-!
# Passing over values

Every value of the grammar is passed over, whatever it holds and however deep it is nested, and what
is left begins just behind it. A value is followed by the constructors of the grammar. The number of
values and brackets within a text is bounded by its length, so the fuel is never used up.
-/

namespace DocIndex.Json

open DocIndex.Text

variable {text gap body item others before behind digits whole fraction exponent : List Char}
  {front bytes rest later : List UInt8} {fuel : Nat} {first : Bool}

theorem skipBlanks_gap (isGap : IsGap gap) (rest : List UInt8) :
    skipBlanks (Utf8.encode gap ++ rest) = skipBlanks rest := by
  have blank : ∀ c ∈ [' ', '\t', '\n', '\r'], c.toNat < 128 ∧ isBlankByte c.toUInt8 = true :=
    List.all_iff_forall_prop.mp (by decide)
  induction gap with
  | nil => rfl
  | cons c later ih =>
      rw [IsGap, List.forall_mem_cons] at isGap
      rw [Utf8.encode_cons_of_ascii (blank c isGap.1).1, List.cons_append, skipBlanks,
        List.dropWhile_cons_of_pos (blank c isGap.1).2]
      exact ih isGap.2

theorem skipString_of_isOrdinary (ordinary : ∀ byte ∈ front, IsOrdinary byte)
    (rest : List UInt8) : skipString (front ++ rest) = skipString rest := by
  induction front with
  | nil => rfl
  | cons byte front ih =>
      rw [List.forall_mem_cons] at ordinary
      rcases ordinary with ⟨⟨notQuote, notBackslash, visible⟩, more⟩
      rw [List.cons_append, skipString.eq_def]
      simp only [beq_eq_false_iff_ne.mpr notQuote, beq_eq_false_iff_ne.mpr notBackslash, visible,
        ih more, Bool.false_eq_true, if_false]

theorem skipString_of_escapedLetter {letter : UInt8} (known : (escapedLetter? letter).isSome)
    (rest : List UInt8) :
    skipString ('\\'.toUInt8 :: letter :: rest) = skipString rest := by
  have notQuote : ('\\'.toUInt8 == '"'.toUInt8) = false := by decide
  have notCode : (letter == 'u'.toUInt8) = false := by
    rw [beq_eq_false_iff_ne]
    rintro rfl
    contradiction
  rw [skipString.eq_def]
  simp only [notQuote, beq_self_eq_true, notCode, known, Bool.false_eq_true, if_false, if_true]

theorem skipString_of_hexCode {code : Nat} (read : hexCode bytes = .ok (code, rest)) :
    skipString ('\\'.toUInt8 :: 'u'.toUInt8 :: bytes) = skipString rest := by
  have notQuote : ('\\'.toUInt8 == '"'.toUInt8) = false := by decide
  rw [skipString.eq_def]
  simp only [notQuote, beq_self_eq_true, Bool.false_eq_true, if_false, if_true]
  split
  · rename_i fails
    rw [read] at fails
    contradiction
  · rename_i reads
    rw [read] at reads
    cases reads
    rfl

theorem skipExponent_append {sign : List Char} (known : sign ∈ [[], ['+'], ['-']])
    (isDigits : IsDigits digits) (ends : EndsDigits rest) :
    skipExponent ((sign ++ digits).map Char.toUInt8 ++ rest) = .ok rest := by
  rcases isDigits with ⟨some_digits, decimal⟩
  rcases List.exists_cons_of_ne_nil some_digits with ⟨first, later, rfl⟩
  have decimalBytes : ∀ byte ∈ (first :: later).map Char.toUInt8, isDigit byte :=
    List.forall_mem_map.mpr fun c member => isDigit_toUInt8 (decimal c member)
  rw [List.map_cons, List.forall_mem_cons] at decimalBytes
  have split : (splitDigits (later.map Char.toUInt8 ++ rest)).2 = rest := by
    rw [splitDigits_append decimalBytes.2 ends]
  have notPlus := beq_eq_false_of_isDigit decimalBytes.1 (show isDigit '+'.toUInt8 = false by rfl)
  have notMinus := beq_eq_false_of_isDigit decimalBytes.1 (show isDigit '-'.toUInt8 = false by rfl)
  simp only [List.mem_cons, List.not_mem_nil, or_false] at known
  rcases known with rfl | rfl | rfl
  · simp [skipExponent, notPlus, notMinus, decimalBytes.1, split]
  · simp [skipExponent, decimalBytes.1, split]
  · simp [skipExponent, decimalBytes.1, split]

/-- What follows the digits of a number, where no fraction or no more of it follows. -/
def skipPower : List UInt8 → Except Fault (List UInt8)
  | [] => .ok []
  | byte :: later => if beginsExponent byte then skipExponent later else .ok (byte :: later)

theorem skipPower_append (isExponent : IsExponent exponent) (ends : EndsNumber rest) :
    skipPower (exponent.map Char.toUInt8 ++ rest) = .ok rest ∧
      EndsDigits (exponent.map Char.toUInt8 ++ rest) ∧
      ∀ byte ∈ (exponent.map Char.toUInt8 ++ rest).head?, byte ≠ '.'.toUInt8 := by
  rcases isExponent with rfl | ⟨letter, known, sign, isSign, digits, rfl, isDigits⟩
  · rcases rest with _ | ⟨byte, later⟩
    · exact ⟨rfl, ends.endsDigits, fun _ member => absurd member (by simp)⟩
    · refine ⟨?_, ends.endsDigits, ?_⟩
      · simp [skipPower, ends.2.2]
      · simp [ends.2.1]
  · have begins : ∀ letter ∈ ['e', 'E'], beginsExponent letter.toUInt8 = true ∧
        isDigit letter.toUInt8 = false ∧ letter.toUInt8 ≠ '.'.toUInt8 :=
      List.all_iff_forall_prop.mp (by decide)
    rcases begins letter known with ⟨exponent, notDigit, notPoint⟩
    refine ⟨?_, ?_, ?_⟩
    · rw [List.map_cons, List.cons_append, skipPower, if_pos exponent]
      exact skipExponent_append isSign isDigits ends.endsDigits
    · simpa [EndsDigits] using notDigit
    · simpa using notPoint

theorem skipNumber_of_wholeDigits (read : wholeDigits bytes = .ok (front, rest)) :
    skipNumber bytes =
      match rest with
      | [] => .ok []
      | byte :: later =>
        if byte == '.'.toUInt8 then
          match splitDigits later with
          | ([], rest) => .error (.at .invalidNumber rest)
          | (_, rest) => skipPower rest
        else skipPower (byte :: later) := by
  rcases bytes with _ | ⟨first, bytes⟩
  · contradiction
  · simp only [skipNumber, read]
    rcases rest with _ | ⟨byte, later⟩
    · rfl
    · by_cases point : byte = '.'.toUInt8
      · have noExponent : beginsExponent '.'.toUInt8 = false := rfl
        simp only [point, noExponent, beq_self_eq_true, Bool.false_eq_true, if_false, if_true]
        rcases splitDigits later with ⟨_ | ⟨digit, digits⟩, _ | ⟨next, others⟩⟩
        · rfl
        · rfl
        · rfl
        · rfl
      · simp only [beq_eq_false_iff_ne.mpr point, Bool.false_eq_true, if_false]
        rfl

/-- A number is passed over behind its sign, with its fraction and its exponent. -/
theorem skipNumber_append (isWhole : IsWhole whole) (isFraction : IsFraction fraction)
    (isExponent : IsExponent exponent) (ends : EndsNumber rest) :
    skipNumber ((whole ++ (fraction ++ exponent)).map Char.toUInt8 ++ rest) = .ok rest := by
  rcases isWhole with ⟨⟨some_digits, decimal⟩, single⟩
  rcases skipPower_append isExponent ends with ⟨powers, endsDigits, noPoint⟩
  rw [List.map_append, List.append_assoc, List.map_append, List.append_assoc]
  generalize exponent.map Char.toUInt8 ++ rest = tail at powers endsDigits noPoint ⊢
  rcases isFraction with rfl | ⟨digits, rfl, some_fraction, decimalFraction⟩
  · rw [List.map_nil, List.nil_append,
      skipNumber_of_wholeDigits (wholeDigits_append some_digits decimal single endsDigits)]
    rcases tail with _ | ⟨byte, later⟩
    · exact powers
    · simp only [beq_eq_false_iff_ne.mpr (noPoint byte rfl), Bool.false_eq_true, if_false]
      exact powers
  · have decimalBytes : ∀ byte ∈ digits.map Char.toUInt8, isDigit byte :=
      List.forall_mem_map.mpr fun c member => isDigit_toUInt8 (decimalFraction c member)
    have point : EndsDigits ('.'.toUInt8 :: (digits.map Char.toUInt8 ++ tail)) := by
      intro byte first
      cases first
      rfl
    rw [List.map_cons, List.cons_append,
      skipNumber_of_wholeDigits (wholeDigits_append some_digits decimal single point)]
    simp only [beq_self_eq_true, if_true, splitDigits_append decimalBytes endsDigits]
    rcases List.exists_cons_of_ne_nil some_fraction with ⟨first, later, rfl⟩
    exact powers

theorem skipString_body (isBody : IsBody body) (rest : List UInt8) :
    skipString (Utf8.encode body ++ '"'.toUInt8 :: rest) = .ok rest := by
  induction isBody with
  | nil =>
      rw [Utf8.encode, List.flatMap_nil, List.nil_append, skipString.eq_def]
      rfl
  | @plain c body visible notQuote notBackslash _ ih =>
      have apart : Utf8.encode (c :: body) = String.utf8EncodeChar c ++ Utf8.encode body := rfl
      rw [apart, List.append_assoc, skipString_of_isOrdinary fun _ member =>
        isOrdinary_of_mem_utf8EncodeChar visible notQuote notBackslash member]
      exact ih
  | @letter letter body known _ ih =>
      have table : ∀ letter ∈ ['"', '\\', '/', 'b', 'f', 'n', 'r', 't'],
          letter.toNat < 128 ∧ (escapedLetter? letter.toUInt8).isSome :=
        List.all_iff_forall_prop.mp (by decide)
      rw [Utf8.encode_cons_of_ascii (by decide), Utf8.encode_cons_of_ascii (table letter known).1,
        List.cons_append, List.cons_append, skipString_of_escapedLetter (table letter known).2]
      exact ih
  | code digits _ ih =>
      rw [encode_code, skipString_of_hexCode (hexCode_encode digits _)]
      exact ih

/-! ### Where values begin and end -/

/-- A value other than the two truth values begins with a mark or a digit of its own. -/
theorem IsValue.eq_or_exists_cons (isValue : IsValue text) :
    text = "true".toList ∨ text = "false".toList ∨
      ∃ c later, text = c :: later ∧ (c ∈ ['n', '-', '"', '[', '{'] ∨ c.isDigit) := by
  cases isValue with
  | word known =>
      simp only [List.mem_cons, List.not_mem_nil, or_false] at known
      rcases known with rfl | rfl | rfl
      · exact .inr (.inr ⟨'n', _, rfl, .inl (by decide)⟩)
      · exact .inl rfl
      · exact .inr (.inl rfl)
  | number isNumber =>
      rcases isNumber with ⟨sign, known, whole, fraction, exponent, rfl, isWhole, _⟩
      rcases isWhole with ⟨⟨some_digits, decimal⟩, _⟩
      rcases List.exists_cons_of_ne_nil some_digits with ⟨first, later, rfl⟩
      simp only [List.mem_cons, List.not_mem_nil, or_false] at known
      rcases known with rfl | rfl
      · exact .inr (.inr ⟨first, _, rfl, .inr (decimal first List.mem_cons_self)⟩)
      · exact .inr (.inr ⟨'-', _, rfl, .inl (by decide)⟩)
  | string isString =>
      rcases isString with ⟨body, rfl, _⟩
      exact .inr (.inr ⟨'"', _, rfl, .inl (by decide)⟩)
  | list _ => exact .inr (.inr ⟨'[', _, rfl, .inl (by decide)⟩)
  | object _ => exact .inr (.inr ⟨'{', _, rfl, .inl (by decide)⟩)

theorem IsValue.exists_cons (isValue : IsValue text) :
    ∃ c later, text = c :: later ∧ (c ∈ ['n', 't', 'f', '-', '"', '[', '{'] ∨ c.isDigit) := by
  rcases isValue.eq_or_exists_cons with rfl | rfl | ⟨c, later, rfl, known | decimal⟩
  · exact ⟨'t', _, rfl, .inl (by decide)⟩
  · exact ⟨'f', _, rfl, .inl (by decide)⟩
  · have among : ∀ c ∈ ['n', '-', '"', '[', '{'], c ∈ ['n', 't', 'f', '-', '"', '[', '{'] :=
      List.all_iff_forall_prop.mp (by decide)
    exact ⟨c, later, rfl, .inl (among c known)⟩
  · exact ⟨c, later, rfl, .inr decimal⟩

/-- The first byte of a value is no blank and closes nothing. -/
theorem IsValue.exists_byte (isValue : IsValue text) :
    ∃ byte later, Utf8.encode text = byte :: later ∧ isBlankByte byte = false ∧
      byte ≠ ']'.toUInt8 := by
  rcases isValue.exists_cons with ⟨c, later, rfl, known | decimal⟩
  · have marks : ∀ c ∈ ['n', 't', 'f', '-', '"', '[', '{'], c.toNat < 128 ∧
        isBlankByte c.toUInt8 = false ∧ c.toUInt8 ≠ ']'.toUInt8 :=
      List.all_iff_forall_prop.mp (by decide)
    exact ⟨_, _, Utf8.encode_cons_of_ascii (marks c known).1 later, (marks c known).2⟩
  · have digit := isDigit_toUInt8 decimal
    refine ⟨_, _, Utf8.encode_cons_of_ascii (toNat_lt_of_isDigit decimal) later,
      isBlankByte_of_isDigit digit, ?_⟩
    rw [← beq_eq_false_iff_ne]
    exact beq_eq_false_of_isDigit digit rfl

theorem endsNumber_gap (isGap : IsGap gap) (ends : EndsNumber rest) :
    EndsNumber (Utf8.encode gap ++ rest) := by
  rcases gap with _ | ⟨c, gap⟩
  · exact ends
  · have blank : ∀ c ∈ [' ', '\t', '\n', '\r'], c.toNat < 128 ∧ isDigit c.toUInt8 = false ∧
        c.toUInt8 ≠ '.'.toUInt8 ∧ beginsExponent c.toUInt8 = false :=
      List.all_iff_forall_prop.mp (by decide)
    rcases blank c (isGap c List.mem_cons_self) with ⟨ascii, noNumber⟩
    rw [Utf8.encode_cons_of_ascii ascii]
    exact noNumber

@[simp]
theorem skipBlanks_skipBlanks (bytes : List UInt8) :
    skipBlanks (skipBlanks bytes) = skipBlanks bytes :=
  List.dropWhile_idempotent isBlankByte bytes

theorem skipWithin_skipBlanks (fuel : Nat) (bytes : List UInt8) :
    skipWithin (fuel + 1) (skipBlanks bytes) = skipWithin (fuel + 1) bytes := by
  rw [skipWithin, skipWithin, skipBlanks_skipBlanks]

/-! ### Values -/

/-- The value is passed over, as long as a number does not go on behind it. -/
def Skips (text : List Char) : Prop := ∀ fuel rest, 2 * text.length ≤ fuel → EndsNumber rest →
  skipWithin fuel (Utf8.encode text ++ rest) = .ok rest

theorem skips_of_succ (some_text : text ≠ []) (skips : ∀ fuel rest, 2 * text.length ≤ fuel + 1 →
    EndsNumber rest → skipWithin (fuel + 1) (Utf8.encode text ++ rest) = .ok rest) :
    Skips text := by
  intro fuel rest room ends
  have : 0 < text.length := List.length_pos_of_ne_nil some_text
  rcases fuel with _ | fuel
  · omega
  · exact skips fuel rest room ends

theorem skips_word {word : String} (known : word ∈ ["null", "true", "false"]) :
    Skips word.toList := by
  simp only [List.mem_cons, List.not_mem_nil, or_false] at known
  rcases known with rfl | rfl | rfl
  · exact skips_of_succ (by decide) fun fuel rest _ _ => rfl
  · exact skips_of_succ (by decide) fun fuel rest _ _ => rfl
  · exact skips_of_succ (by decide) fun fuel rest _ _ => rfl

theorem ascii_of_isNumber (isNumber : IsNumber text) : ∀ c ∈ text, c.toNat < 128 := by
  have ofDigits {digits : List Char} (isDigits : IsDigits digits) : ∀ c ∈ digits, c.toNat < 128 :=
    fun c member => toNat_lt_of_isDigit (isDigits.2 c member)
  have minus : ∀ sign ∈ [[], ['-']], ∀ c ∈ sign, c.toNat < 128 := by simp
  have signs : ∀ sign ∈ [[], ['+'], ['-']], ∀ c ∈ sign, c.toNat < 128 := by simp
  have letters : ∀ letter ∈ ['e', 'E'], letter.toNat < 128 := by simp
  rcases isNumber with ⟨sign, known, whole, fraction, exponent, rfl, isWhole, isFraction,
    isExponent⟩
  rw [List.forall_mem_append, List.forall_mem_append, List.forall_mem_append]
  refine ⟨?_, ofDigits isWhole.1, ?_, ?_⟩
  · exact minus sign known
  · rcases isFraction with rfl | ⟨digits, rfl, isDigits⟩
    · exact List.forall_mem_nil _
    · exact List.forall_mem_cons.mpr ⟨by decide, ofDigits isDigits⟩
  · rcases isExponent with rfl | ⟨letter, letterKnown, sign, signKnown, digits, rfl, isDigits⟩
    · exact List.forall_mem_nil _
    · rw [List.forall_mem_cons, List.forall_mem_append]
      refine ⟨?_, ?_, ofDigits isDigits⟩
      · exact letters letter letterKnown
      · exact signs sign signKnown

theorem skipWithin_digit {byte : UInt8} (decimal : isDigit byte = true) (fuel : Nat)
    (later : List UInt8) :
    skipWithin (fuel + 1) (byte :: later) = skipNumber (byte :: later) := by
  rw [skipWithin, skipBlanks_of_solid (isBlankByte_of_isDigit decimal)]
  simp only [decimal, beq_eq_false_of_isDigit decimal (show isDigit 'n'.toUInt8 = false by rfl),
    beq_eq_false_of_isDigit decimal (show isDigit 't'.toUInt8 = false by rfl),
    beq_eq_false_of_isDigit decimal (show isDigit 'f'.toUInt8 = false by rfl),
    beq_eq_false_of_isDigit decimal (show isDigit '-'.toUInt8 = false by rfl),
    Bool.false_eq_true, if_false, if_true]

theorem skips_number (isNumber : IsNumber text) : Skips text := by
  have ascii := ascii_of_isNumber isNumber
  rcases (IsValue.number isNumber).exists_cons with ⟨c, later, text_eq, _⟩
  refine skips_of_succ (by simp [text_eq]) fun fuel rest _ ends => ?_
  rcases isNumber with ⟨sign, known, whole, fraction, exponent, rfl, isWhole, isFraction,
    isExponent⟩
  have skipped := skipNumber_append isWhole isFraction isExponent ends
  rw [Utf8.encode_of_ascii ascii]
  simp only [List.mem_cons, List.not_mem_nil, or_false] at known
  rcases known with rfl | rfl
  · rcases List.exists_cons_of_ne_nil isWhole.1.1 with ⟨first, others, rfl⟩
    have decimal := isDigit_toUInt8 (isWhole.1.2 first List.mem_cons_self)
    rw [List.nil_append]
    exact (skipWithin_digit decimal fuel _).trans skipped
  · exact skipped

theorem skips_string (isString : IsString text) : Skips text := by
  rcases isString with ⟨body, rfl, isBody⟩
  refine skips_of_succ (by simp) fun fuel rest _ _ => ?_
  have marks : ('"'.toUInt8 == 'n'.toUInt8) = false ∧ ('"'.toUInt8 == 't'.toUInt8) = false ∧
      ('"'.toUInt8 == 'f'.toUInt8) = false ∧ ('"'.toUInt8 == '-'.toUInt8) = false ∧
      isDigit '"'.toUInt8 = false := by decide
  rw [encode_string, skipWithin, skipBlanks_of_solid rfl]
  simp only [marks, Bool.false_eq_true, if_false, beq_self_eq_true, if_true]
  exact skipString_body isBody rest

/-! ### Lists and objects -/

/-- What stands in front of an item or a member: nothing if it is the first, a comma if not. -/
def lead (first : Bool) : List UInt8 := if first then [] else [','.toUInt8]

/--
How the items of a list or the members of an object are passed over: from the mark in front of them
to the one behind them, whatever blanks there are.
-/
structure Encloses (skip : Nat → Bool → List UInt8 → Except Fault (List UInt8))
    (mark close : Char) : Prop where
  ascii : mark.toNat < 128 ∧ close.toNat < 128
  begins : ∀ fuel bytes, skipWithin (fuel + 1) (mark.toUInt8 :: bytes) = skip fuel true bytes
  stops : ∀ fuel first rest, skip (fuel + 1) first (close.toUInt8 :: rest) = .ok rest
  ends : ∀ rest, EndsNumber (close.toUInt8 :: rest)
  blanks : ∀ fuel first bytes, skip (fuel + 1) first (skipBlanks bytes) =
    skip (fuel + 1) first bytes

/-- The text is passed over with the comma in front of it, and then what follows. -/
def SkipsPart (skip : Nat → Bool → List UInt8 → Except Fault (List UInt8)) (text : List Char) :
    Prop :=
  ∀ fuel first rest later, 2 * text.length ≤ fuel → EndsNumber rest →
    skip fuel false rest = .ok later →
      skip (fuel + 1) first (lead first ++ (Utf8.encode text ++ rest)) = .ok later

/-- The text is passed over up to the mark behind it; it is blank only behind the first mark. -/
def SkipsParts (skip : Nat → Bool → List UInt8 → Except Fault (List UInt8)) (close : Char)
    (isBlank : Bool) (text : List Char) : Prop :=
  ∀ fuel first rest, 2 * text.length + 2 ≤ fuel → (isBlank = true → first = true) →
    skip fuel first (lead first ++ (Utf8.encode text ++ close.toUInt8 :: rest)) = .ok rest

section Enclosed

variable {skip : Nat → Bool → List UInt8 → Except Fault (List UInt8)} {mark close : Char}
  {isBlank : Bool}

theorem Encloses.skip_gap (encloses : Encloses skip mark close) (isGap : IsGap gap) (fuel : Nat)
    (first : Bool) (rest : List UInt8) :
    skip (fuel + 1) first (Utf8.encode gap ++ rest) = skip (fuel + 1) first rest := by
  rw [← encloses.blanks, skipBlanks_gap isGap, encloses.blanks]

theorem Encloses.blank (encloses : Encloses skip mark close) (isGap : IsGap gap) :
    SkipsParts skip close true gap := by
  intro fuel first rest room only
  rcases fuel with _ | fuel
  · contradiction
  · rw [only rfl, lead, if_pos rfl, List.nil_append, encloses.skip_gap isGap]
    exact encloses.stops fuel true rest

theorem Encloses.last (encloses : Encloses skip mark close) (part : SkipsPart skip text) :
    SkipsParts skip close false text := by
  intro fuel first rest room _
  rcases fuel with _ | _ | fuel
  · contradiction
  · omega
  · exact part _ _ _ _ (by omega) (encloses.ends rest) (encloses.stops fuel false rest)

theorem SkipsPart.more (part : SkipsPart skip text) (more : SkipsParts skip close false others) :
    SkipsParts skip close false (text ++ ',' :: others) := by
  intro fuel first rest room _
  rw [List.length_append, List.length_cons] at room
  rcases fuel with _ | fuel
  · contradiction
  · rw [Utf8.encode_append, Utf8.encode_cons_of_ascii (by decide), List.append_assoc,
      List.cons_append]
    refine part _ _ _ _ (by omega) ⟨rfl, by decide, rfl⟩ ?_
    exact more fuel false rest (by omega) Bool.noConfusion

theorem Encloses.skips (encloses : Encloses skip mark close)
    (parts : SkipsParts skip close isBlank text) : Skips (mark :: (text ++ [close])) := by
  refine skips_of_succ (by simp) fun fuel rest room _ => ?_
  rw [List.length_cons, List.length_append, List.length_singleton] at room
  have skipped := parts fuel true rest (by omega) fun _ => rfl
  rw [lead, if_pos rfl, List.nil_append] at skipped
  rw [Utf8.encode_cons_of_ascii encloses.ascii.1, Utf8.encode_append,
    Utf8.encode_cons_of_ascii encloses.ascii.2, List.cons_append, List.append_assoc,
    encloses.begins]
  exact skipped

end Enclosed

theorem encloses_skipItems : Encloses skipItems '[' ']' := by
  refine ⟨by decide, fun fuel bytes => rfl, fun fuel first rest => rfl,
    fun rest => ⟨rfl, by decide, rfl⟩, fun fuel first bytes => ?_⟩
  rw [skipItems, skipItems, skipBlanks_skipBlanks]

theorem encloses_skipMembers : Encloses skipMembers '{' '}' := by
  refine ⟨by decide, fun fuel bytes => rfl, fun fuel first rest => rfl,
    fun rest => ⟨rfl, by decide, rfl⟩, fun fuel first bytes => ?_⟩
  rw [skipMembers, skipMembers, skipBlanks_skipBlanks]

/-- The text is a value that is passed over, with blanks around it. -/
def SkipsItem (text : List Char) : Prop :=
  ∃ before item behind, text = before ++ (item ++ behind) ∧ IsGap before ∧ IsGap behind ∧
    IsValue item ∧ Skips item

/-- The text is a key and a value that is passed over. -/
def SkipsMember (text : List Char) : Prop :=
  ∃ before key behind item, text = before ++ (key ++ (behind ++ ':' :: item)) ∧ IsGap before ∧
    IsString key ∧ IsGap behind ∧ SkipsItem item

/-- An item is passed over up to the blanks behind it. -/
theorem SkipsItem.skipWithin_eq (skips : SkipsItem text) (room : 2 * text.length ≤ fuel)
    (ends : EndsNumber rest) : ∃ behind, IsGap behind ∧
      skipWithin fuel (Utf8.encode text ++ rest) = .ok (Utf8.encode behind ++ rest) := by
  rcases skips with ⟨before, item, behind, rfl, gap, gapBehind, isValue, skips⟩
  rcases isValue.exists_cons with ⟨c, others, item_eq, _⟩
  have some_item : 0 < item.length := by simp [item_eq]
  rw [List.length_append, List.length_append] at room
  rcases fuel with _ | fuel
  · omega
  refine ⟨behind, gapBehind, ?_⟩
  rw [Utf8.encode_append, Utf8.encode_append, List.append_assoc, List.append_assoc,
    ← skipWithin_skipBlanks, skipBlanks_gap gap, skipWithin_skipBlanks]
  exact skips _ _ (by omega) (endsNumber_gap gapBehind ends)

theorem SkipsItem.exists_byte (skips : SkipsItem text) (rest : List UInt8) :
    ∃ byte others, skipBlanks (Utf8.encode text ++ rest) = byte :: others ∧
      byte ≠ ']'.toUInt8 := by
  rcases skips with ⟨before, item, behind, rfl, gap, gapBehind, isValue, skips⟩
  rcases isValue.exists_byte with ⟨byte, others, encoded, solid, notClosing⟩
  refine ⟨byte, others ++ (Utf8.encode behind ++ rest), ?_, notClosing⟩
  rw [Utf8.encode_append, Utf8.encode_append, List.append_assoc, List.append_assoc,
    skipBlanks_gap gap, encoded, List.cons_append, skipBlanks_of_solid solid]

/-- An item is passed over with the comma in front of it, and then what follows. -/
theorem SkipsItem.skipsPart (skips : SkipsItem text) : SkipsPart skipItems text := by
  intro fuel first rest later room ends goesOn
  rcases fuel with _ | fuel
  · contradiction
  rcases skips.skipWithin_eq room ends with ⟨behind, gapBehind, reads⟩
  rw [← encloses_skipItems.skip_gap gapBehind] at goesOn
  -- Only the first item can be taken for the end of the list, so its first byte matters there.
  cases first with
  | true =>
      rcases skips.exists_byte rest with ⟨byte, others, begins, notClosing⟩
      rw [← skipWithin_skipBlanks, begins] at reads
      rw [lead, if_pos rfl, List.nil_append, skipItems, begins]
      simp only [beq_eq_false_iff_ne.mpr notClosing, Bool.false_eq_true, if_false, if_true, reads,
        goesOn]
  | false =>
      have notEnd : (','.toUInt8 == ']'.toUInt8) = false := rfl
      rw [lead, if_neg Bool.false_ne_true, List.singleton_append, skipItems,
        skipBlanks_of_solid rfl]
      simp only [notEnd, beq_self_eq_true, Bool.false_eq_true, if_false, if_true, reads, goesOn]

theorem skipColon_gap (isGap : IsGap gap) (rest : List UInt8) :
    skipColon (Utf8.encode gap ++ ':'.toUInt8 :: rest) = .ok rest := by
  rw [skipColon, skipBlanks_gap isGap]
  rfl

/-- A member is passed over with the comma in front of it, and then what follows. -/
theorem SkipsMember.skipsPart (skips : SkipsMember text) : SkipsPart skipMembers text := by
  intro fuel first rest later room ends goesOn
  rcases skips with ⟨before, key, behind, item, rfl, gap, ⟨body, rfl, isBody⟩, gapBehind, skips⟩
  rcases fuel with _ | fuel
  · contradiction
  have roomItem : 2 * item.length ≤ fuel + 1 := by
    simp only [List.length_append, List.length_cons] at room
    omega
  rcases skips.skipWithin_eq roomItem ends with ⟨gapAfter, isGapAfter, reads⟩
  rw [← encloses_skipMembers.skip_gap isGapAfter] at goesOn
  have notEnd : ('"'.toUInt8 == '}'.toUInt8) = false ∧ (','.toUInt8 == '}'.toUInt8) = false := by
    decide
  have readsKey (gap : List Char) (isGap : IsGap gap) : skipKey (Utf8.encode gap ++
      '"'.toUInt8 :: (Utf8.encode body ++ '"'.toUInt8 :: (Utf8.encode behind ++ ':'.toUInt8 ::
        (Utf8.encode item ++ rest)))) = .ok (Utf8.encode item ++ rest) := by
    rw [skipKey, skipBlanks_gap isGap, skipBlanks_of_solid rfl]
    simp only [beq_self_eq_true, if_true, skipString_body isBody, skipColon_gap gapBehind]
  have colon : ':'.toNat < 128 := by decide
  rw [Utf8.encode_append, Utf8.encode_append, Utf8.encode_append, Utf8.encode_cons_of_ascii colon,
    List.append_assoc, List.append_assoc, encode_string, List.append_assoc, List.cons_append]
  -- In front of the first key the blanks are gone already; behind a comma they are still there.
  cases first with
  | true =>
      rw [lead, if_pos rfl, List.nil_append, encloses_skipMembers.skip_gap gap, skipMembers,
        skipBlanks_of_solid rfl]
      have readsAtOnce := readsKey [] isGap_nil
      rw [Utf8.encode, List.flatMap_nil, List.nil_append] at readsAtOnce
      simp only [notEnd, Bool.false_eq_true, if_false, if_true, readsAtOnce, reads, goesOn]
  | false =>
      rw [lead, if_neg Bool.false_ne_true, List.singleton_append, skipMembers,
        skipBlanks_of_solid rfl]
      simp only [notEnd, beq_self_eq_true, Bool.false_eq_true, if_false, if_true,
        readsKey before gap, reads, goesOn]

mutual

/-- Every value is passed over. -/
theorem skips_of_isValue {text : List Char} : IsValue text → Skips text
  | .word known => skips_word known
  | .number isNumber => skips_number isNumber
  | .string isString => skips_string isString
  | .list isItems => encloses_skipItems.skips (skipsParts_of_isItems isItems)
  | .object isMembers => encloses_skipMembers.skips (skipsParts_of_isMembers isMembers)

theorem skipsParts_of_isItems {items : List (List Char)} {text : List Char} :
    IsItems items text → SkipsParts skipItems ']' items.isEmpty text
  | .none isGap => encloses_skipItems.blank isGap
  | .last isItem => encloses_skipItems.last (skipsItem_of_isItem isItem).skipsPart
  | .more isItem rest => (skipsItem_of_isItem isItem).skipsPart.more (skipsParts_of_isItems rest)

theorem skipsItem_of_isItem {item text : List Char} : IsItem item text → SkipsItem text
  | .around isValue gap gapBehind =>
    ⟨_, _, _, rfl, gap, gapBehind, isValue, skips_of_isValue isValue⟩

theorem skipsParts_of_isMembers {members : List (List Char × List Char)} {text : List Char} :
    IsMembers members text → SkipsParts skipMembers '}' members.isEmpty text
  | .none isGap => encloses_skipMembers.blank isGap
  | .last isMember => encloses_skipMembers.last (skipsMember_of_isMember isMember).skipsPart
  | .more isMember rest =>
    (skipsMember_of_isMember isMember).skipsPart.more (skipsParts_of_isMembers rest)

theorem skipsMember_of_isMember {member : List Char × List Char} {text : List Char} :
    IsMember member text → SkipsMember text
  | .around isKey gap gapBehind isItem =>
    ⟨_, _, _, _, rfl, gap, isKey, gapBehind, skipsItem_of_isItem isItem⟩

end

theorem length_le_encode (text : List Char) : text.length ≤ (Utf8.encode text).length := by
  induction text with
  | nil => exact Nat.le_refl 0
  | cons c later ih =>
      have apart : Utf8.encode (c :: later) = String.utf8EncodeChar c ++ Utf8.encode later := rfl
      have some_bytes := List.length_pos_of_ne_nil (String.utf8EncodeChar_ne_nil (c := c))
      rw [apart, List.length_append, List.length_cons]
      omega

/-- A value that nobody asks for is passed over, whatever it holds. -/
theorem skipValue_item (isItem : IsItem item text) (ends : EndsNumber rest) :
    ∃ behind, IsGap behind ∧
      skipValue (Utf8.encode text ++ rest) = .ok (Utf8.encode behind ++ rest) := by
  refine (skipsItem_of_isItem isItem).skipWithin_eq ?_ ends
  have := length_le_encode text
  rw [List.length_append]
  omega

end DocIndex.Json
