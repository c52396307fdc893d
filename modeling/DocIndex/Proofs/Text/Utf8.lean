import Mathlib.Algebra.Group.Nat.Defs
import Mathlib.Data.List.Basic
import DocIndex.Text.Utf8

/-!
# Reading texts back

A text is read back from its bytes, whatever comes after them. A byte below 0x80 is a character by
itself wherever it stands, also between bytes that are no text: what stands before it and after it
is read as if it stood alone, and where all bytes are below 0x80 the text is read off them one by
one.
-/

namespace DocIndex.Text.Utf8

variable {byte first second : UInt8} {bytes others : List UInt8} {lead : Lead} {value : Nat}
  {text : List Char}

/-- Bytes that hold a text. -/
def IsText (bytes : List UInt8) : Prop := ∃ text, encode text = bytes

theorem isText_nil : IsText [] := ⟨[], rfl⟩

theorem encode_append (text other : List Char) :
    encode (text ++ other) = encode text ++ encode other :=
  List.flatMap_append

theorem IsText.append (isText : IsText bytes) (isTextToo : IsText others) :
    IsText (bytes ++ others) := by
  rcases isText with ⟨text, rfl⟩
  rcases isTextToo with ⟨other, rfl⟩
  exact ⟨text ++ other, encode_append text other⟩

theorem toNat_ofNat_of_lt (small : value < 256) : (UInt8.ofNat value).toNat = value := by
  rw [UInt8.toNat_ofNat', Nat.mod_eq_of_lt small]

theorem lead?_two (least : 194 ≤ byte.toNat) (greatest : byte.toNat ≤ 223) :
    lead? byte = some ⟨1, byte.toNat % 32, 0x80, 0xBF⟩ := by
  simp [lead?, UInt8.le_iff_toNat_le, least, greatest]

/-- The second byte is kept from shorter forms after the least first byte, and from surrogates. -/
theorem lead?_three (least : 224 ≤ byte.toNat) (greatest : byte.toNat ≤ 239) :
    ∃ low high, lead? byte = some ⟨2, byte.toNat % 16, low, high⟩ ∧
      low.toNat = (if byte.toNat = 224 then 160 else 128) ∧
      high.toNat = if byte.toNat = 237 then 159 else 191 := by
  by_cases short : byte.toNat = 224
  · have byte_eq : byte = 224 := UInt8.toNat_inj.mp short
    subst byte_eq
    exact ⟨0xA0, 0xBF, rfl, rfl, rfl⟩
  · by_cases surrogate : byte.toNat = 237
    · have byte_eq : byte = 237 := UInt8.toNat_inj.mp surrogate
      subst byte_eq
      exact ⟨0x80, 0x9F, rfl, rfl, rfl⟩
    · refine ⟨0x80, 0xBF, ?_, by simp [short], by simp [surrogate]⟩
      have notShort : byte ≠ 224 := fun same => short (by rw [same]; rfl)
      have notSurrogate : byte ≠ 237 := fun same => surrogate (by rw [same]; rfl)
      have above : ¬ byte.toNat ≤ 223 := by omega
      have range : 225 ≤ byte.toNat := by omega
      simp [lead?, UInt8.le_iff_toNat_le, notShort, notSurrogate, above, range, greatest]

/-- The second byte is kept from shorter forms, and from code points beyond the last one. -/
theorem lead?_four (least : 240 ≤ byte.toNat) (greatest : byte.toNat ≤ 244) :
    ∃ low high, lead? byte = some ⟨3, byte.toNat % 8, low, high⟩ ∧
      low.toNat = (if byte.toNat = 240 then 144 else 128) ∧
      high.toNat = if byte.toNat = 244 then 143 else 191 := by
  have byte_eq : byte = 240 ∨ byte = 241 ∨ byte = 242 ∨ byte = 243 ∨ byte = 244 := by
    simp only [← UInt8.toNat_inj, UInt8.reduceToNat]
    omega
  rcases byte_eq with rfl | rfl | rfl | rfl | rfl <;> exact ⟨_, _, rfl, rfl, rfl⟩

theorem step_of_lead {owed bits : Nat} {low high : UInt8} (several : 128 ≤ first.toNat)
    (found : lead? first = some ⟨owed + 1, bits, low, high⟩) (least : low.toNat ≤ second.toNat)
    (greatest : second.toNat ≤ high.toNat) (rest : List UInt8) :
    step first (second :: rest) = continued owed (64 * bits + second.toNat % 64) rest := by
  have notSingle : ¬ first < 0x80 := by
    rw [UInt8.lt_iff_toNat_lt]
    exact Nat.not_lt.mpr several
  rw [step.eq_def, if_neg notSingle, found]
  simp [UInt8.le_iff_toNat_le, least, greatest]

theorem continued_zero (bits : Nat) (rest : List UInt8) :
    continued 0 bits rest = (some (Char.ofNat bits), rest) := by
  cases rest <;> rfl

theorem continued_succ (least : 128 ≤ byte.toNat) (greatest : byte.toNat ≤ 191) (owed bits : Nat)
    (rest : List UInt8) :
    continued (owed + 1) bits (byte :: rest) =
      continued owed (64 * bits + byte.toNat % 64) rest := by
  have continues : isContinuation byte = true := by
    simp [isContinuation, UInt8.le_iff_toNat_le, least, greatest]
  rw [continued, if_pos continues]

theorem step_one (single : first.toNat < 128) (rest : List UInt8) :
    step first rest = (some (Char.ofNat first.toNat), rest) := by
  have isSingle : first < 0x80 := by
    rw [UInt8.lt_iff_toNat_lt]
    exact single
  rw [step.eq_def, if_pos isSingle]

theorem step_two (above : 127 < value) (within : value ≤ 2047) (rest : List UInt8) :
    step (UInt8.ofNat (value / 64 % 32 + 192)) (UInt8.ofNat (value % 64 + 128) :: rest) =
      (some (Char.ofNat value), rest) := by
  have firstByte : (UInt8.ofNat (value / 64 % 32 + 192)).toNat = value / 64 % 32 + 192 :=
    toNat_ofNat_of_lt (by omega)
  have lastByte : (UInt8.ofNat (value % 64 + 128)).toNat = value % 64 + 128 :=
    toNat_ofNat_of_lt (by omega)
  have whole : 64 * ((value / 64 % 32 + 192) % 32) + (value % 64 + 128) % 64 = value := by omega
  rw [step_of_lead (by omega) (lead?_two (by omega) (by omega))
    (by rw [lastByte]; exact Nat.le_add_left _ _) (by rw [lastByte]; change _ ≤ 191; omega),
    continued_zero, firstByte, lastByte, whole]

theorem step_three (above : 2047 < value) (within : value ≤ 65535)
    (valid : value < 0xD800 ∨ 0xDFFF < value) (rest : List UInt8) :
    step (UInt8.ofNat (value / 4096 % 16 + 224)) (UInt8.ofNat (value / 64 % 64 + 128) ::
        UInt8.ofNat (value % 64 + 128) :: rest) = (some (Char.ofNat value), rest) := by
  have firstByte : (UInt8.ofNat (value / 4096 % 16 + 224)).toNat = value / 4096 % 16 + 224 :=
    toNat_ofNat_of_lt (by omega)
  have secondByte : (UInt8.ofNat (value / 64 % 64 + 128)).toNat = value / 64 % 64 + 128 :=
    toNat_ofNat_of_lt (by omega)
  have lastByte : (UInt8.ofNat (value % 64 + 128)).toNat = value % 64 + 128 :=
    toNat_ofNat_of_lt (by omega)
  have whole : 64 * (64 * ((value / 4096 % 16 + 224) % 16) + (value / 64 % 64 + 128) % 64) +
      (value % 64 + 128) % 64 = value := by omega
  rcases @lead?_three (UInt8.ofNat (value / 4096 % 16 + 224)) (by omega) (by omega) with
    ⟨low, high, found, low_eq, high_eq⟩
  rw [firstByte] at low_eq high_eq
  have least : low.toNat ≤ value / 64 % 64 + 128 := by
    rw [low_eq]
    split <;> omega
  have greatest : value / 64 % 64 + 128 ≤ high.toNat := by
    rw [high_eq]
    split <;> omega
  rw [step_of_lead (by omega) found (by rwa [secondByte]) (by rwa [secondByte]),
    continued_succ (by omega) (by omega), continued_zero, firstByte, secondByte, lastByte, whole]

theorem step_four (above : 65535 < value) (within : value < 0x110000) (rest : List UInt8) :
    step (UInt8.ofNat (value / 262144 % 8 + 240)) (UInt8.ofNat (value / 4096 % 64 + 128) ::
        UInt8.ofNat (value / 64 % 64 + 128) :: UInt8.ofNat (value % 64 + 128) :: rest) =
      (some (Char.ofNat value), rest) := by
  have firstByte : (UInt8.ofNat (value / 262144 % 8 + 240)).toNat = value / 262144 % 8 + 240 :=
    toNat_ofNat_of_lt (by omega)
  have secondByte : (UInt8.ofNat (value / 4096 % 64 + 128)).toNat = value / 4096 % 64 + 128 :=
    toNat_ofNat_of_lt (by omega)
  have thirdByte : (UInt8.ofNat (value / 64 % 64 + 128)).toNat = value / 64 % 64 + 128 :=
    toNat_ofNat_of_lt (by omega)
  have lastByte : (UInt8.ofNat (value % 64 + 128)).toNat = value % 64 + 128 :=
    toNat_ofNat_of_lt (by omega)
  have whole : 64 * (64 * (64 * ((value / 262144 % 8 + 240) % 8) +
      (value / 4096 % 64 + 128) % 64) + (value / 64 % 64 + 128) % 64) +
        (value % 64 + 128) % 64 = value := by omega
  rcases @lead?_four (UInt8.ofNat (value / 262144 % 8 + 240)) (by omega) (by omega) with
    ⟨low, high, found, low_eq, high_eq⟩
  rw [firstByte] at low_eq high_eq
  have least : low.toNat ≤ value / 4096 % 64 + 128 := by
    rw [low_eq]
    split <;> omega
  have greatest : value / 4096 % 64 + 128 ≤ high.toNat := by
    rw [high_eq]
    split <;> omega
  rw [step_of_lead (by omega) found (by rwa [secondByte]) (by rwa [secondByte]),
    continued_succ (by omega) (by omega), continued_succ (by omega) (by omega), continued_zero,
    firstByte, secondByte, thirdByte, lastByte, whole]

/-- A character is read back from its bytes. -/
theorem exists_step_of_utf8EncodeChar (c : Char) : ∃ first bytes,
    String.utf8EncodeChar c = first :: bytes ∧
      ∀ rest, step first (bytes ++ rest) = (some c, rest) := by
  have same : Char.ofNat c.val.toNat = c := Char.ofNat_toNat c
  have valid : c.val.toNat < 0xD800 ∨ 0xDFFF < c.val.toNat ∧ c.val.toNat < 0x110000 := c.valid
  generalize value_eq : c.val.toNat = value at same valid
  rw [String.utf8EncodeChar, value_eq, ← same]
  by_cases one : value ≤ 127
  · have single : (UInt8.ofNat value).toNat = value := toNat_ofNat_of_lt (by omega)
    refine ⟨_, _, if_pos one, fun rest => ?_⟩
    rw [List.nil_append, step_one (by omega), single]
  · simp only [if_neg one]
    by_cases two : value ≤ 2047
    · exact ⟨_, _, if_pos two, fun rest => step_two (by omega) two rest⟩
    · simp only [if_neg two]
      by_cases three : value ≤ 65535
      · exact ⟨_, _, if_pos three, fun rest => step_three (by omega) three (by omega) rest⟩
      · exact ⟨_, _, if_neg three, fun rest => step_four (by omega) (by omega) rest⟩

theorem decodeLossy_cons (first : UInt8) (bytes : List UInt8) :
    decodeLossy (first :: bytes) =
      (step first bytes).1.getD (Char.ofNat 0xFFFD) :: decodeLossy (step first bytes).2 := by
  rw [decodeLossy]

theorem decodeLossy_encode_append (text : List Char) (rest : List UInt8) :
    decodeLossy (encode text ++ rest) = text ++ decodeLossy rest := by
  induction text with
  | nil => rfl
  | cons c later ih =>
      rcases exists_step_of_utf8EncodeChar c with ⟨first, bytes, encoded, reads⟩
      have apart : encode (c :: later) ++ rest = first :: (bytes ++ (encode later ++ rest)) := by
        rw [encode, List.flatMap_cons, encoded, List.append_assoc, List.cons_append]
        rfl
      rw [apart, decodeLossy_cons, reads, ih]
      rfl

@[simp]
theorem decode?_encode (text : List Char) : decode? (encode text) = some text := by
  induction text with
  | nil =>
      rw [encode, List.flatMap_nil, decode?]
  | cons c later ih =>
      rcases exists_step_of_utf8EncodeChar c with ⟨first, bytes, encoded, reads⟩
      have apart : encode (c :: later) = first :: (bytes ++ encode later) := by
        rw [encode, List.flatMap_cons, encoded, List.cons_append]
        rfl
      rw [apart, decode?, reads, ih]
      rfl

@[simp]
theorem toString?_ofString (text : String) : toString? (ofString text) = some text := by
  rw [toString?, ofString, decode?_encode]
  exact congrArg some String.ofList_toList

@[simp]
theorem decodeLossy_encode (text : List Char) : decodeLossy (encode text) = text := by
  have whole := decodeLossy_encode_append text []
  rw [List.append_nil] at whole
  rw [whole, decodeLossy, List.append_nil]

/-- Different texts are held by different bytes, and shown differently. -/
theorem IsText.eq_of_decodeLossy (isText : IsText bytes) (isTextToo : IsText others)
    (same : decodeLossy bytes = decodeLossy others) : bytes = others := by
  rcases isText with ⟨text, rfl⟩
  rcases isTextToo with ⟨other, rfl⟩
  rw [decodeLossy_encode, decodeLossy_encode] at same
  rw [same]

theorem continued_append (single : byte.toNat < 128) (owed bits : Nat) (bytes rest : List UInt8) :
    continued owed bits (bytes ++ byte :: rest) =
      ((continued owed bits bytes).1, (continued owed bits bytes).2 ++ byte :: rest) := by
  have ends : isContinuation byte = false := by
    simp [isContinuation, UInt8.le_iff_toNat_le, Nat.not_le.mpr single]
  induction bytes generalizing owed bits with
  | nil =>
      rcases owed with _ | owed
      · rfl
      · rw [List.nil_append, continued, continued, ends]
        rfl
  | cons next later ih =>
      rcases owed with _ | owed
      · rfl
      · rw [List.cons_append, continued, continued]
        split
        · exact ih owed _
        · rfl

theorem low_of_lead? (found : lead? byte = some lead) : 128 ≤ lead.low.toNat := by
  revert found
  fun_cases lead? byte <;> intro found <;> cases found <;> simp

/-- The bytes of a character go no further than to the next byte below 0x80. -/
theorem step_append (single : byte.toNat < 128) (first : UInt8) (bytes rest : List UInt8) :
    step first (bytes ++ byte :: rest) =
      ((step first bytes).1, (step first bytes).2 ++ byte :: rest) := by
  rw [step.eq_def, step.eq_def]
  split
  · rfl
  · rcases found : lead? first with _ | lead
    · rfl
    · rcases bytes with _ | ⟨second, later⟩
      · have below : ¬ lead.low ≤ byte := by
          rw [UInt8.le_iff_toNat_le, Nat.not_le]
          exact Nat.lt_of_lt_of_le single (low_of_lead? found)
        simp [below]
      · simp only [List.cons_append]
        split
        · exact continued_append single _ _ later rest
        · rfl

/-- What stands before a byte below 0x80 and after it is shown as if it stood alone. -/
theorem decodeLossy_append (single : byte.toNat < 128) (bytes rest : List UInt8) :
    decodeLossy (bytes ++ byte :: rest) =
      decodeLossy bytes ++ Char.ofNat byte.toNat :: decodeLossy rest := by
  fun_induction decodeLossy bytes with
  | case1 =>
      rw [List.nil_append, decodeLossy_cons, step_one single]
      rfl
  | case2 first bytes ih =>
      rw [List.cons_append, decodeLossy_cons, step_append single, ih]
      rfl

/-- A byte below 0x80 is a character by itself. -/
theorem utf8EncodeChar_of_mem {c : Char} (member : byte ∈ String.utf8EncodeChar c)
    (ascii : byte.toNat < 128) :
    c = Char.ofNat byte.toNat ∧ String.utf8EncodeChar c = [byte] := by
  have same : Char.ofNat c.val.toNat = c := Char.ofNat_toNat c
  revert member
  rw [String.utf8EncodeChar]
  split
  · intro member
    rw [List.mem_singleton] at member
    subst member
    rename_i short
    rw [UInt8.toNat_ofNat', Nat.mod_eq_of_lt (by omega), same]
    exact ⟨rfl, rfl⟩
  · -- Every other character has bytes from 0x80 on alone.
    have high {value : Nat} (same : byte = UInt8.ofNat value) (large : 128 ≤ value)
        (small : value < 256) : False := by
      rw [same, UInt8.toNat_ofNat', Nat.mod_eq_of_lt small] at ascii
      omega
    intro member
    exfalso
    split at member
    · simp only [List.mem_cons, List.not_mem_nil, or_false] at member
      rcases member with same | same <;> exact high same (by omega) (by omega)
    · split at member
      · simp only [List.mem_cons, List.not_mem_nil, or_false] at member
        rcases member with same | same | same <;> exact high same (by omega) (by omega)
      · simp only [List.mem_cons, List.not_mem_nil, or_false] at member
        rcases member with same | same | same | same <;> exact high same (by omega) (by omega)

theorem mem_of_mem_encode (member : byte ∈ encode text) (ascii : byte.toNat < 128) :
    Char.ofNat byte.toNat ∈ text := by
  rcases List.mem_flatMap.mp member with ⟨c, inText, inBytes⟩
  rw [← (utf8EncodeChar_of_mem inBytes ascii).1]
  exact inText

/-- A text is read off its bytes where these are all below 0x80. -/
theorem eq_map_of_encode_eq {bytes : List UInt8} (encoded : encode text = bytes)
    (ascii : ∀ byte ∈ bytes, byte.toNat < 128) :
    text = bytes.map fun byte => Char.ofNat byte.toNat := by
  subst encoded
  induction text with
  | nil => rfl
  | cons c later ih =>
      have apart : encode (c :: later) = String.utf8EncodeChar c ++ encode later := rfl
      rw [apart] at ascii ⊢
      rw [List.map_append, ← ih fun byte member => ascii byte (List.mem_append_right _ member)]
      rcases List.exists_cons_of_ne_nil (String.utf8EncodeChar_ne_nil (c := c)) with
        ⟨byte, bytes, encoded⟩
      have inBytes : byte ∈ String.utf8EncodeChar c := by rw [encoded]; exact List.mem_cons_self
      rcases utf8EncodeChar_of_mem inBytes (ascii byte (List.mem_append_left _ inBytes)) with
        ⟨c_eq, single⟩
      rw [single, c_eq]
      rfl

theorem encode_cons_of_ascii {c : Char} (ascii : c.toNat < 128) (text : List Char) :
    encode (c :: text) = c.toUInt8 :: encode text := by
  have single : String.utf8EncodeChar c = [c.toUInt8] := by
    rw [String.utf8EncodeChar]
    exact if_pos (Nat.le_of_lt_succ ascii)
  rw [encode, List.flatMap_cons, single]
  rfl

theorem encode_of_ascii (ascii : ∀ c ∈ text, c.toNat < 128) :
    encode text = text.map Char.toUInt8 := by
  induction text with
  | nil => rfl
  | cons c later ih =>
      rw [List.forall_mem_cons] at ascii
      rw [encode_cons_of_ascii ascii.1, ih ascii.2, List.map_cons]

theorem continued_suffix (owed bits : Nat) (bytes : List UInt8) :
    (continued owed bits bytes).2 <:+ bytes := by
  induction bytes generalizing owed bits with
  | nil => cases owed <;> exact List.suffix_refl _
  | cons byte later ih =>
      cases owed with
      | zero => exact List.suffix_refl _
      | succ owed =>
          rw [continued]
          split
          · exact (ih owed _).trans (List.suffix_cons byte later)
          · exact List.suffix_refl _

theorem step_suffix (first : UInt8) (bytes : List UInt8) : (step first bytes).2 <:+ bytes := by
  rw [step.eq_def]
  split
  · exact List.suffix_refl bytes
  · split
    · split
      · exact (continued_suffix _ _ _).trans (List.suffix_cons _ _)
      · exact List.suffix_refl _
    · exact List.suffix_refl _

/-- Every further byte adds six bits to those that are there. -/
theorem exists_of_continued {owed bits : Nat} {c : Char}
    (read : (continued owed bits bytes).1 = some c) :
    ∃ code, bits * 64 ^ owed ≤ code ∧ code < (bits + 1) * 64 ^ owed ∧ c = Char.ofNat code := by
  induction bytes generalizing owed bits with
  | nil =>
      cases owed with
      | zero =>
          cases read
          exact ⟨bits, by simp, by simp, rfl⟩
      | succ owed => contradiction
  | cons byte later ih =>
      cases owed with
      | zero =>
          cases read
          exact ⟨bits, by simp, by simp, rfl⟩
      | succ owed =>
          rw [continued] at read
          split at read
          · rcases ih read with ⟨code, least, greatest, c_eq⟩
            have digit : byte.toNat % 64 < 64 := Nat.mod_lt _ (by decide)
            refine ⟨code, ?_, ?_, c_eq⟩
            · rw [Nat.pow_succ', ← Nat.mul_assoc]
              exact Nat.le_trans (Nat.mul_le_mul_right _ (by omega)) least
            · rw [Nat.pow_succ', ← Nat.mul_assoc]
              exact Nat.lt_of_lt_of_le greatest (Nat.mul_le_mul_right _ (by omega))
          · contradiction

/-- The code of a character of several bytes is valid, and none has a shorter form. -/
theorem code_of_lead? (found : lead? first = some lead) (least : lead.low ≤ second)
    (greatest : second ≤ lead.high) (code : Nat)
    (atLeast : (64 * lead.bits + second.toNat % 64) * 64 ^ (lead.owed - 1) ≤ code)
    (below : code < (64 * lead.bits + second.toNat % 64 + 1) * 64 ^ (lead.owed - 1)) :
    0 < code ∧ code.isValidChar := by
  rw [UInt8.le_iff_toNat_le] at least greatest
  rw [Nat.isValidChar]
  revert found
  fun_cases lead? first <;> intro found <;> cases found <;>
    simp_all [UInt8.le_iff_toNat_le, ← UInt8.toNat_inj] <;> omega

theorem toNat_ofNat_of_isValidChar (valid : value.isValidChar) :
    (Char.ofNat value).toNat = value := by
  rw [Char.ofNat, dif_pos valid]
  rfl

/-- The character 0 is its own byte, and no other bytes hold it. -/
theorem eq_zero_of_step (read : (step first bytes).1 = some '\x00') : first = 0 := by
  rw [step.eq_def] at read
  split at read
  · rename_i single
    rw [UInt8.lt_iff_toNat_lt] at single
    have small : first.toNat < 128 := single
    have code := congrArg Char.toNat (Option.some.inj read)
    rw [toNat_ofNat_of_isValidChar (.inl (by omega))] at code
    exact UInt8.toNat_inj.mp code
  · exfalso
    rcases found : lead? first with _ | lead
    · rw [found] at read
      contradiction
    · rcases bytes with _ | ⟨second, later⟩
      · rw [found] at read
        contradiction
      · simp only [found] at read
        split at read
        · rename_i range
          rw [Bool.and_eq_true, decide_eq_true_eq, decide_eq_true_eq] at range
          rcases exists_of_continued read with ⟨code, least, greatest, zero⟩
          rcases code_of_lead? found range.1 range.2 code least greatest with ⟨positive, valid⟩
          have code_eq := congrArg Char.toNat zero
          rw [toNat_ofNat_of_isValidChar valid] at code_eq
          exact absurd code_eq (Nat.ne_of_lt positive)
        · contradiction

theorem zero_mem_of_decode? (decoded : decode? bytes = some text) (member : '\x00' ∈ text) :
    0 ∈ bytes := by
  fun_induction decode? bytes generalizing text with
  | case1 =>
      cases decoded
      contradiction
  | case2 first bytes c read ih =>
      rcases Option.map_eq_some_iff.mp decoded with ⟨later, decodedLater, rfl⟩
      rcases List.mem_cons.mp member with rfl | inLater
      · rw [eq_zero_of_step read]
        exact List.mem_cons_self
      · exact List.mem_cons_of_mem first ((step_suffix first bytes).mem (ih decodedLater inLater))
  | case3 => contradiction

end DocIndex.Text.Utf8
