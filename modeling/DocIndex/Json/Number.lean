import DocIndex.Json.Lexeme

/-!
# Numbers

A number that is a whole number of 64 bits is kept exactly; any other is read as a floating-point
number. Of its digits those count that fit into 64 bits, and its value is these digits multiplied or
divided by a power of ten. `skipNumber` passes over a number without asking for its value.
-/

namespace DocIndex.Json

/-- The value of a number. -/
inductive Number
  | natural (value : Nat)
  /-- The negative of a positive whole number. -/
  | negative (value : Nat)
  | decimal (value : Float)

/-- The greatest whole number of 64 bits. -/
def largest : Nat := 0xFFFFFFFFFFFFFFFF

/-- The value of a decimal digit. -/
def digitValue (byte : UInt8) : Nat := byte.toNat - 0x30

/-- The digits at the front of a text, and the rest. -/
def splitDigits (bytes : List UInt8) : List UInt8 × List UInt8 :=
  (bytes.takeWhile isDigit, bytes.dropWhile isDigit)

/-- The number made of a significand and as many of the digits as fit, and the digits left out. -/
def absorb (significand : Nat) : List UInt8 → Nat × List UInt8
  | [] => (significand, [])
  | digit :: later =>
    let next := 10 * significand + digitValue digit
    if largest < next then (significand, digit :: later) else absorb next later

/-- The greatest power of ten that is a finite floating-point number. -/
def greatestPower : Nat := 308

/-- A floating-point number divided by a power of ten, in steps of at most 308 places. -/
def shrink (value : Float) (places : Nat) : Float :=
  if places ≤ greatestPower then value / Float.ofScientific 1 false places
  else if value == 0 then value
  else shrink (value / Float.ofScientific 1 false greatestPower) (places - greatestPower)
termination_by places
decreasing_by simp only [greatestPower] at *; omega

/-- The floating-point number `significand * 10 ^ exponent`, unless it is too great. -/
def scaled? (significand : Nat) (exponent : Int) : Option Float :=
  let value := Float.ofNat significand
  if exponent < 0 then some (shrink value exponent.natAbs)
  else if exponent.natAbs ≤ greatestPower then
    let product := value * Float.ofScientific 1 false exponent.natAbs
    if product.isInf then none else some product
  else if value == 0 then some value
  else none

/-- The floating-point number with the given sign, significand and exponent. -/
def decimal (negative : Bool) (significand : Nat) (exponent : Int) (rest : List UInt8) :
    Reading Number :=
  match scaled? significand exponent with
  | none => .error (.before .numberOutOfRange rest)
  | some value => .ok (.decimal (if negative then -value else value), rest)

/-- The greatest exponent that may be written. -/
def greatestExponent : Nat := 0x7FFFFFFF

/--
The value of the digits of an exponent and what follows them, or, where they exceed the greatest
exponent, what follows the first digit that makes them do so.
-/
def exponentDigits (value : Nat) : List UInt8 → Except (List UInt8) (Nat × List UInt8)
  | [] => .ok (value, [])
  | byte :: bytes =>
    if isDigit byte then
      let next := 10 * value + digitValue byte
      if greatestExponent < next then .error bytes else exponentDigits next bytes
    else .ok (value, byte :: bytes)

/-- The number whose exponent follows, after the letter that begins it. -/
def withExponent (negative : Bool) (significand : Nat) (exponent : Int) (bytes : List UInt8) :
    Reading Number :=
  let (down, digits) := match bytes with
    | [] => (false, [])
    | sign :: later =>
      if sign == '+'.toUInt8 then (false, later)
      else if sign == '-'.toUInt8 then (true, later)
      else (false, sign :: later)
  match digits with
  | [] => .error (.before .endInValue [])
  | first :: later =>
    if ! isDigit first then .error (.before .invalidNumber later)
    else match exponentDigits (digitValue first) later with
      | .ok (value, rest) =>
        decimal negative significand (if down then exponent - value else exponent + value) rest
      | .error rest =>
        if significand != 0 && ! down then .error (.before .numberOutOfRange rest)
        else .ok (.decimal (if negative then -0.0 else 0.0), (splitDigits rest).2)

/-- Whether a byte begins an exponent. -/
def beginsExponent (byte : UInt8) : Bool := byte == 'e'.toUInt8 || byte == 'E'.toUInt8

/-- The number whose fraction follows, after the full stop. -/
def withFraction (negative : Bool) (significand : Nat) (exponent : Int) (bytes : List UInt8) :
    Reading Number :=
  let (digits, rest) := splitDigits bytes
  if digits.isEmpty then
    .error (.at (if rest.isEmpty then .endInValue else .invalidNumber) rest)
  else
    let (significand, dropped) := absorb significand digits
    let exponent := exponent - ((digits.length - dropped.length : Nat) : Int)
    match rest with
    | [] => decimal negative significand exponent []
    | byte :: later =>
      if beginsExponent byte then withExponent negative significand exponent later
      else decimal negative significand exponent rest

/-- The whole number with the given sign, as far as it has 64 bits. -/
def whole (negative : Bool) (value : Nat) : Number :=
  if ! negative then .natural value
  else if 0 < value && value ≤ 0x8000000000000000 then .negative value
  else .decimal (-Float.ofNat value)

/-- The number that begins with the given digits. -/
def withDigits (negative : Bool) (digits rest : List UInt8) : Reading Number :=
  let (significand, dropped) := absorb 0 digits
  let plain : Reading Number :=
    if dropped.isEmpty then .ok (whole negative significand, rest)
    else decimal negative significand dropped.length rest
  match rest with
  | [] => plain
  | byte :: later =>
    if byte == '.'.toUInt8 then withFraction negative significand dropped.length later
    else if beginsExponent byte then withExponent negative significand dropped.length later
    else plain

/--
The digits before a fraction or an exponent: a single zero, or digits that begin with another.
-/
def wholeDigits (bytes : List UInt8) : Reading (List UInt8) :=
  match bytes with
  | [] => .error (.before .endInValue [])
  | first :: later =>
    if first == '0'.toUInt8 then
      match later with
      | [] => .ok ([first], [])
      | next :: _ =>
        if isDigit next then .error (.at .invalidNumber later) else .ok ([first], later)
    else if isDigit first then .ok (splitDigits bytes)
    else .error (.before .invalidNumber later)

/-- The number at the front of a text, after its sign. -/
def number (negative : Bool) (bytes : List UInt8) : Reading Number :=
  match wholeDigits bytes with
  | .error fault => .error fault
  | .ok (digits, rest) => withDigits negative digits rest

/--
What follows the digits of an exponent that is not looked at, after the letter that begins it.
-/
def skipExponent (bytes : List UInt8) : Except Fault (List UInt8) :=
  let digits := match bytes with
    | [] => []
    | sign :: later => if sign == '+'.toUInt8 || sign == '-'.toUInt8 then later else sign :: later
  match digits with
  | [] => .error (.before .invalidNumber [])
  | first :: later =>
    if isDigit first then .ok (splitDigits later).2 else .error (.before .invalidNumber later)

/-- What follows a number that is not looked at, after its sign. -/
def skipNumber (bytes : List UInt8) : Except Fault (List UInt8) :=
  match bytes with
  | [] => .error (.before .invalidNumber [])
  | _ :: _ =>
    match wholeDigits bytes with
    | .error fault => .error fault
    | .ok (_, []) => .ok []
    | .ok (_, byte :: later) =>
      if beginsExponent byte then skipExponent later
      else if byte == '.'.toUInt8 then
        match splitDigits later with
        | ([], rest) => .error (.at .invalidNumber rest)
        | (_, []) => .ok []
        | (_, byte :: rest) =>
          if beginsExponent byte then skipExponent rest else .ok (byte :: rest)
      else .ok (byte :: later)

end DocIndex.Json
