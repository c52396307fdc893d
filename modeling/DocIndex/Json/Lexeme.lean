import DocIndex.Json.Fault

/-!
# Lexemes

The parts of a JSON text that hold no other values: blanks, words, strings and the marks between
values. Every reader takes the bytes that are left and gives what it has read with the bytes after
it. `stringText` reads a string that is wanted; `skipString` passes over one that is not, without
looking at the characters it stands for.
-/

namespace DocIndex.Json

open DocIndex.Text

/-- What is read from the front of a text, with the rest. -/
abbrev Reading (Result : Type) := Except Fault (Result × List UInt8)

/-- Whether a byte separates lexemes. -/
def isBlankByte (byte : UInt8) : Bool :=
  byte == 0x20 || byte == 0x0A || byte == 0x0D || byte == 0x09

/-- The text without the blanks at its front. -/
def skipBlanks (bytes : List UInt8) : List UInt8 := bytes.dropWhile isBlankByte

/-- Whether a byte is a decimal digit. -/
def isDigit (byte : UInt8) : Bool := 0x30 ≤ byte && byte ≤ 0x39

/-- What follows the given letters. -/
def skipWord : List Char → List UInt8 → Except Fault (List UInt8)
  | [], bytes => .ok bytes
  | _ :: _, [] => .error (.before .endInValue [])
  | letter :: letters, byte :: bytes =>
    if byte == letter.toUInt8 then skipWord letters bytes else .error (.before .expectedWord bytes)

/-- The value of a hexadecimal digit. -/
def hexValue? (byte : UInt8) : Option Nat :=
  if isDigit byte then some (byte.toNat - 0x30)
  else if 0x41 ≤ byte && byte ≤ 0x46 then some (byte.toNat - 0x41 + 10)
  else if 0x61 ≤ byte && byte ≤ 0x66 then some (byte.toNat - 0x61 + 10)
  else none

/-- The number that four hexadecimal digits stand for. -/
def hexCode : List UInt8 → Reading Nat
  | first :: second :: third :: fourth :: bytes =>
    match hexValue? first, hexValue? second, hexValue? third, hexValue? fourth with
    | some first, some second, some third, some fourth =>
      .ok (((first * 16 + second) * 16 + third) * 16 + fourth, bytes)
    | _, _, _, _ => .error (.before .invalidEscape bytes)
  | _ => .error (.before .endInString [])

/-- Whether a code is the first or the second of a pair that stands for one character. -/
def isHighSurrogate (code : Nat) : Bool := 0xD800 ≤ code && code ≤ 0xDBFF

/-- Whether a code is the second of a pair that stands for one character. -/
def isLowSurrogate (code : Nat) : Bool := 0xDC00 ≤ code && code ≤ 0xDFFF

/-- The character after a backslash and `u`: four hexadecimal digits, or a pair of such escapes. -/
def unicodeEscape (bytes : List UInt8) : Reading Char :=
  match hexCode bytes with
  | .error fault => .error fault
  | .ok (high, later) =>
    if isLowSurrogate high then .error (.before .loneSurrogate later)
    else if ! isHighSurrogate high then .ok (Char.ofNat high, later)
    else match later with
      | [] => .error (.before .endInString [])
      | [mark] =>
        if mark == '\\'.toUInt8 then .error (.before .endInString [])
        else .error (.before .brokenSurrogatePair [])
      | mark :: letter :: second =>
        if mark != '\\'.toUInt8 then .error (.before .brokenSurrogatePair (letter :: second))
        else if letter != 'u'.toUInt8 then .error (.before .brokenSurrogatePair second)
        else match hexCode second with
          | .error fault => .error fault
          | .ok (low, later) =>
            if isLowSurrogate low then
              .ok (Char.ofNat (0x10000 + (high - 0xD800) * 1024 + (low - 0xDC00)), later)
            else .error (.before .loneSurrogate later)

/-- The character that a letter after a backslash stands for. -/
def escapedLetter? (letter : UInt8) : Option Char :=
  if letter == '"'.toUInt8 then some '"'
  else if letter == '\\'.toUInt8 then some '\\'
  else if letter == '/'.toUInt8 then some '/'
  else if letter == 'b'.toUInt8 then some '\x08'
  else if letter == 'f'.toUInt8 then some '\x0C'
  else if letter == 'n'.toUInt8 then some '\n'
  else if letter == 'r'.toUInt8 then some '\r'
  else if letter == 't'.toUInt8 then some '\t'
  else none

/-- The character after a backslash. -/
def escapedChar : List UInt8 → Reading Char
  | [] => .error (.before .endInString [])
  | letter :: bytes =>
    if letter == 'u'.toUInt8 then unicodeEscape bytes
    else match escapedLetter? letter with
      | some c => .ok (c, bytes)
      | none => .error (.before .invalidEscape bytes)

theorem length_of_hexCode {bytes rest : List UInt8} {code : Nat}
    (read : hexCode bytes = .ok (code, rest)) : rest.length ≤ bytes.length := by
  unfold hexCode at read
  split at read
  · split at read
    · simp only [Except.ok.injEq, Prod.mk.injEq] at read
      simp only [← read.2, List.length_cons]
      omega
    · simp at read
  · simp at read

theorem length_of_unicodeEscape {bytes rest : List UInt8} {c : Char}
    (read : unicodeEscape bytes = .ok (c, rest)) : rest.length ≤ bytes.length := by
  unfold unicodeEscape at read
  split at read
  · simp at read
  · rename_i high later first
    have firstLength := length_of_hexCode first
    split at read
    · simp at read
    · split at read
      · simp only [Except.ok.injEq, Prod.mk.injEq] at read
        exact read.2 ▸ firstLength
      · split at read
        · simp at read
        · split at read <;> simp at read
        · split at read
          · simp at read
          · split at read
            · simp at read
            · split at read
              · simp at read
              · rename_i second
                have secondLength := length_of_hexCode second
                split at read
                · simp only [Except.ok.injEq, Prod.mk.injEq] at read
                  simp only [← read.2, List.length_cons] at *
                  omega
                · simp at read

theorem length_of_escapedChar {bytes rest : List UInt8} {c : Char}
    (read : escapedChar bytes = .ok (c, rest)) : rest.length ≤ bytes.length := by
  unfold escapedChar at read
  split at read
  · simp at read
  · split at read
    · exact Nat.le_succ_of_le (length_of_unicodeEscape read)
    · split at read
      · simp only [Except.ok.injEq, Prod.mk.injEq] at read
        simp [← read.2]
      · simp at read

/-- The bytes that a string holds, read after the opening quote. -/
def stringBytes : List UInt8 → Reading (List UInt8)
  | [] => .error (.before .endInString [])
  | byte :: bytes =>
    if byte == '"'.toUInt8 then .ok ([], bytes)
    else if byte == '\\'.toUInt8 then
      match read : escapedChar bytes with
      | .error fault => .error fault
      | .ok (c, rest) =>
        have : rest.length ≤ bytes.length := length_of_escapedChar read
        (stringBytes rest).map fun (held, later) => (String.utf8EncodeChar c ++ held, later)
    else if byte < 0x20 then .error (.before .controlCharacter bytes)
    else (stringBytes bytes).map fun (held, later) => (byte :: held, later)
termination_by bytes => bytes.length
decreasing_by all_goals simp only [List.length_cons]; omega

/--
The text that a string holds, read after the opening quote. That the bytes are no text is found at
the closing quote.
-/
def stringText (bytes : List UInt8) : Reading (List Char) :=
  match stringBytes bytes with
  | .error fault => .error fault
  | .ok (held, later) =>
    match Utf8.decode? held with
    | none => .error ⟨.notText, later.length + 1⟩
    | some text => .ok (text, later)

/-- What follows a string, read after the opening quote. -/
def skipString : List UInt8 → Except Fault (List UInt8)
  | [] => .error (.before .endInString [])
  | byte :: bytes =>
    if byte == '"'.toUInt8 then .ok bytes
    else if byte == '\\'.toUInt8 then
      match bytes with
      | [] => .error (.before .endInString [])
      | letter :: rest =>
        if letter == 'u'.toUInt8 then
          match read : hexCode rest with
          | .error fault => .error fault
          | .ok (_, later) =>
            have : later.length ≤ rest.length := length_of_hexCode read
            skipString later
        else if (escapedLetter? letter).isSome then skipString rest
        else .error (.before .invalidEscape rest)
    else if byte < 0x20 then .error (.before .controlCharacter (byte :: bytes))
    else skipString bytes
termination_by bytes => bytes.length
decreasing_by all_goals simp only [List.length_cons]; omega

/-- What follows the colon between the key and the value of a member. -/
def skipColon (bytes : List UInt8) : Except Fault (List UInt8) :=
  match skipBlanks bytes with
  | [] => .error (.at .endInObject [])
  | byte :: later =>
    if byte == ':'.toUInt8 then .ok later else .error (.at .expectedColon (byte :: later))

/--
What follows the comma before a member of an object, up to and with the quote that opens its key.
-/
def openKey (bytes : List UInt8) : Except Fault (List UInt8) :=
  match skipBlanks bytes with
  | [] => .error (.at .endInValue [])
  | byte :: later =>
    if byte == '"'.toUInt8 then .ok later
    else if byte == '}'.toUInt8 then .error (.at .trailingComma (byte :: later))
    else .error (.at .keyNotString (byte :: later))

/-- What follows the comma before an item of a list, which is no closing bracket. -/
def openItem (bytes : List UInt8) : Except Fault (List UInt8) :=
  match skipBlanks bytes with
  | [] => .error (.at .endInValue [])
  | byte :: later =>
    if byte == ']'.toUInt8 then .error (.at .trailingComma (byte :: later)) else .ok (byte :: later)

/-- Refuses everything but blanks. -/
def expectEnd (bytes : List UInt8) : Except Fault Unit :=
  match skipBlanks bytes with
  | [] => .ok ()
  | rest => .error (.at .trailingText rest)

end DocIndex.Json
