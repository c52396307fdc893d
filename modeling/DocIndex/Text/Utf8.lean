/-!
# UTF-8

Texts are stored as bytes. `decode?` reads bytes that hold a text and refuses all others;
`decodeLossy` reads any bytes and puts the replacement character for what is no text. Both go by
`step`, which reads one character and, where there is none, passes over the longest beginning of
one.
-/

namespace DocIndex.Text.Utf8

/-- The bytes of a text. -/
def encode (text : List Char) : List UInt8 := text.flatMap String.utf8EncodeChar

/-- Whether a byte continues a character. -/
def isContinuation (byte : UInt8) : Bool := 0x80 ≤ byte && byte ≤ 0xBF

/-- How a character of several bytes begins. -/
structure Lead where
  /-- The number of bytes that continue the character. -/
  owed : Nat
  /-- The upper bits of the code point. -/
  bits : Nat
  /-- The least second byte. -/
  low : UInt8
  /-- The greatest second byte. -/
  high : UInt8

/--
What the first byte of a character of several bytes says. The second byte is restricted where code
points would have a shorter form, be surrogates or lie beyond the last code point.
-/
def lead? (byte : UInt8) : Option Lead :=
  if 0xC2 ≤ byte && byte ≤ 0xDF then some ⟨1, byte.toNat % 32, 0x80, 0xBF⟩
  else if byte == 0xE0 then some ⟨2, 0, 0xA0, 0xBF⟩
  else if byte == 0xED then some ⟨2, 13, 0x80, 0x9F⟩
  else if 0xE1 ≤ byte && byte ≤ 0xEF then some ⟨2, byte.toNat % 16, 0x80, 0xBF⟩
  else if byte == 0xF0 then some ⟨3, 0, 0x90, 0xBF⟩
  else if 0xF1 ≤ byte && byte ≤ 0xF3 then some ⟨3, byte.toNat % 8, 0x80, 0xBF⟩
  else if byte == 0xF4 then some ⟨3, 4, 0x80, 0x8F⟩
  else none

/-- The character that ends with `owed` more bytes, and the bytes after it. -/
def continued : Nat → Nat → List UInt8 → Option Char × List UInt8
  | 0, bits, bytes => (some (Char.ofNat bits), bytes)
  | _ + 1, _, [] => (none, [])
  | owed + 1, bits, byte :: bytes =>
    if isContinuation byte then continued owed (64 * bits + byte.toNat % 64) bytes
    else (none, byte :: bytes)

/-- The character that begins with `first`, if one does, and the bytes after it. -/
def step (first : UInt8) (bytes : List UInt8) : Option Char × List UInt8 :=
  if first < 0x80 then (some (Char.ofNat first.toNat), bytes)
  else match lead? first, bytes with
    | some lead, second :: rest =>
      if lead.low ≤ second && second ≤ lead.high then
        continued (lead.owed - 1) (64 * lead.bits + second.toNat % 64) rest
      else (none, bytes)
    | _, _ => (none, bytes)

theorem length_continued_le (owed bits : Nat) (bytes : List UInt8) :
    (continued owed bits bytes).2.length ≤ bytes.length := by
  induction bytes generalizing owed bits with
  | nil => cases owed <;> simp [continued]
  | cons byte bytes ih =>
    cases owed with
    | zero => simp [continued]
    | succ owed =>
      simp only [continued]
      split
      · exact Nat.le_succ_of_le (ih _ _)
      · exact Nat.le_refl _

theorem length_step_le (first : UInt8) (bytes : List UInt8) :
    (step first bytes).2.length ≤ bytes.length := by
  unfold step
  split
  · exact Nat.le_refl _
  · split
    · split
      · exact Nat.le_succ_of_le (length_continued_le _ _ _)
      · exact Nat.le_refl _
    · exact Nat.le_refl _

/-- The text that bytes hold, if they hold one. -/
def decode? : List UInt8 → Option (List Char)
  | [] => some []
  | first :: bytes =>
    match (step first bytes).1 with
    | some c => (decode? (step first bytes).2).map (c :: ·)
    | none => none
termination_by bytes => bytes.length
decreasing_by exact Nat.lt_succ_of_le (length_step_le first bytes)

/-- The text that bytes hold, with U+FFFD for each stretch of them that is no character. -/
def decodeLossy : List UInt8 → List Char
  | [] => []
  | first :: bytes =>
    (step first bytes).1.getD (Char.ofNat 0xFFFD) :: decodeLossy (step first bytes).2
termination_by bytes => bytes.length
decreasing_by exact Nat.lt_succ_of_le (length_step_le first bytes)

/-- The bytes of a string. -/
def ofString (text : String) : List UInt8 := encode text.toList

/-- The string that bytes hold, if they hold one. -/
def toString? (bytes : List UInt8) : Option String := (decode? bytes).map String.ofList

/-- The string that bytes hold, with U+FFFD for what is no character. -/
def toStringLossy (bytes : List UInt8) : String := String.ofList (decodeLossy bytes)

end DocIndex.Text.Utf8
