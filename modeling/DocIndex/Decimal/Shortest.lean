/-!
# Shortest decimals

A floating-point number is written with the fewest digits that read back to it, and the nearest such
digits to its exact value; of two equally near ones, with the even last digit. Digits are chosen by
exact arithmetic on the bits of the number, and then laid out: positionally while the leading digit
stands for a power of ten from -5 to 15, else with an exponent.
-/

namespace DocIndex.Decimal

/-- A finite number `significand * 2 ^ exponent` that is not negative. -/
structure Binary where
  significand : Nat
  exponent : Int
  /-- Whether the gap to the next smaller number is half of the gap to the next greater one. -/
  narrowBelow : Bool
  deriving Repr

/-- A decimal `digits * 10 ^ exponent`. -/
structure Digits where
  digits : Nat
  exponent : Int
  deriving DecidableEq, Repr

/-- The absolute value of a finite number with the given bits. -/
def Binary.ofBits (bits : UInt64) : Binary :=
  let exponent := ((bits >>> 52) &&& 0x7FF).toNat
  let fraction := (bits &&& 0xFFFFFFFFFFFFF).toNat
  if exponent == 0 then ⟨fraction, -1074, false⟩
  else ⟨0x10000000000000 + fraction, (exponent : Int) - 1075, fraction == 0 && 1 < exponent⟩

/-- How `left * 10 ^ tens` compares with `right * 2 ^ twos`. -/
def compareScaled (left : Nat) (tens : Int) (right : Nat) (twos : Int) : Ordering :=
  compare (left * Nat.pow 10 tens.toNat * Nat.pow 2 (-twos).toNat)
    (right * Nat.pow 2 twos.toNat * Nat.pow 10 (-tens).toNat)

/--
Whether a decimal reads back to a number, that is, lies no further from it than halfway to the next
number; halfway counts where the significand is even.
-/
def Binary.readsBack (number : Binary) (decimal : Digits) : Bool :=
  let low := if number.narrowBelow then 4 * number.significand - 1 else 4 * number.significand - 2
  let high := 4 * number.significand + 2
  let closed := number.significand % 2 == 0
  let fromLow := compareScaled decimal.digits decimal.exponent low (number.exponent - 2)
  let fromHigh := compareScaled decimal.digits decimal.exponent high (number.exponent - 2)
  (fromLow == .gt || (closed && fromLow == .eq)) && (fromHigh == .lt || (closed && fromHigh == .eq))

/-- The greatest multiple of `10 ^ tens` that is not above a number, in units of `10 ^ tens`. -/
def Binary.floorAt (number : Binary) (tens : Int) : Nat :=
  (number.significand * Nat.pow 2 number.exponent.toNat * Nat.pow 10 (-tens).toNat) /
    (Nat.pow 2 (-number.exponent).toNat * Nat.pow 10 tens.toNat)

/--
The neighbour of a number among the multiples of `10 ^ tens` that reads back, the nearer of two.
-/
def Binary.nearest? (number : Binary) (tens : Int) : Option Digits :=
  let below := number.floorAt tens
  let lower : Digits := ⟨below, tens⟩
  let upper : Digits := ⟨below + 1, tens⟩
  match number.readsBack lower, number.readsBack upper with
  | true, true =>
    match compareScaled (2 * below + 1) tens (2 * number.significand) number.exponent with
    | .gt => some lower
    | .lt => some upper
    | .eq => some (if below % 2 == 0 then lower else upper)
  | true, false => some lower
  | false, true => some upper
  | false, false => none

/-- The power of ten that the leading digit of a positive number stands for. -/
def Binary.magnitude (number : Binary) : Int :=
  let guess : Int := ((number.significand.log2 : Int) + number.exponent) * 30103 / 100000
  if compareScaled 1 (guess + 1) number.significand number.exponent != .gt then guess + 1
  else if compareScaled 1 guess number.significand number.exponent == .gt then guess - 1
  else guess

/-- A decimal without zeros at the end of its digits; `fuel` bounds how many are dropped. -/
def Digits.stripped (decimal : Digits) : Nat → Digits
  | 0 => decimal
  | fuel + 1 =>
    if decimal.digits % 10 == 0 && decimal.digits != 0 then
      Digits.stripped ⟨decimal.digits / 10, decimal.exponent + 1⟩ fuel
    else decimal

/-- The fewest digits that read back to a positive number. -/
def Binary.shortest (number : Binary) : Digits :=
  let magnitude := number.magnitude
  let found := (List.range 17).findSome? fun (more : Nat) => number.nearest? (magnitude - more)
  (found.getD ⟨number.floorAt (magnitude - 17), magnitude - 17⟩).stripped 20

/-- The digits with a full stop after the first one, where there are more. -/
def pointed : List Char → List Char
  | [] => []
  | [digit] => [digit]
  | digit :: later => digit :: '.' :: later

/-- The written form of a positive decimal. -/
def Digits.layout (decimal : Digits) : List Char :=
  let digits := (toString decimal.digits).toList
  let leading : Int := decimal.exponent + digits.length - 1
  if 0 ≤ decimal.exponent && leading ≤ 15 then
    digits ++ List.replicate decimal.exponent.toNat '0' ++ ['.', '0']
  else if 0 ≤ leading && leading ≤ 15 then
    digits.take (leading.toNat + 1) ++ '.' :: digits.drop (leading.toNat + 1)
  else if -5 ≤ leading && leading < 0 then
    '0' :: '.' :: List.replicate (-leading - 1).toNat '0' ++ digits
  else pointed digits ++ 'e' :: (toString leading).toList

/-- The written form of a finite floating-point number. -/
def write (number : Float) : String :=
  let bits := number.toBits
  let sign := if bits >>> 63 == 1 then ['-'] else []
  let binary := Binary.ofBits bits
  if binary.significand == 0 then String.ofList (sign ++ ['0', '.', '0'])
  else String.ofList (sign ++ binary.shortest.layout)

end DocIndex.Decimal
