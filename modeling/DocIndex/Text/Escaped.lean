import DocIndex.Json.Quoted
import DocIndex.Unicode.Grapheme
import DocIndex.Unicode.Printable

/-!
# Escaped texts

A text is shown in a report between quotes, with escapes for what cannot be seen on its own: quotes,
backslashes, controls, characters that extend the one before them, and all others that are not
printable.
-/

namespace DocIndex.Text

open DocIndex.Unicode

/-- Whether a character modifies the pictograph before it and can be seen on its own as well. -/
def isPictographModifier (c : Char) : Bool := 0x1F3FB ≤ c.toNat && c.toNat ≤ 0x1F3FF

/-- Whether a character is seen only together with the one before it. -/
def isExtending (c : Char) : Bool := Grapheme.classify c == .extend && ! isPictographModifier c

/-- The hexadecimal digits of a number, at least one. -/
def hexDigits (number : Nat) : List Char :=
  if number < 16 then [Json.hexDigit number]
  else hexDigits (number / 16) ++ [Json.hexDigit (number % 16)]
termination_by number
decreasing_by omega

/-- The form in which a character is shown in a report. -/
def escapedChar (c : Char) : List Char :=
  match c with
  | '\x00' => ['\\', '0']
  | '\t' => ['\\', 't']
  | '\r' => ['\\', 'r']
  | '\n' => ['\\', 'n']
  | '\\' => ['\\', '\\']
  | '"' => ['\\', '"']
  | c =>
    if isExtending c || ! isPrintable c then ['\\', 'u', '{'] ++ hexDigits c.toNat ++ ['}']
    else [c]

/-- The form in which a text is shown in a report. -/
def escaped (text : List Char) : List Char := '"' :: text.flatMap escapedChar ++ ['"']

end DocIndex.Text
