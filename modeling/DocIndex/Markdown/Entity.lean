import DocIndex.Markdown.Scan
import DocIndex.Markdown.EntityNames
import DocIndex.Unicode.Table

/-!
# Character entities

References to characters such as the one for the ampersand, by name or by number.
-/

namespace DocIndex.Markdown

/-- The names of all character entities. -/
def entityNames : List (List Char) :=
  Unicode.stretches (! ·.isWhitespace) entityNameText.toList

/-- Whether a number is that of a character. -/
def isCharacterCode (code : Nat) : Bool := code < 0xD800 || (0xE000 ≤ code && code < 0x110000)

/-- Whether a character is a hexadecimal digit. -/
def isHexDigit (c : Char) : Bool := c.isDigit || ('a' ≤ c && c ≤ 'f') || ('A' ≤ c && c ≤ 'F')

/-- The length of the reference by number that follows an ampersand and a number sign. -/
def numericReference? (text : List Char) : Option Nat :=
  let (lead, isDigit, most) :=
    if text.head? == some 'x' || text.head? == some 'X' then (1, isHexDigit, 6)
    else (0, Char.isDigit, 7)
  let digits := (text.drop lead).takeWhile isDigit
  let code := if lead == 1 then Unicode.hexNumber (digits.map Char.toUpper) else decimalValue digits
  if digits.isEmpty || most < digits.length then none
  else if (text.drop (lead + digits.length)).head? == some ';' && isCharacterCode code then
    some (lead + digits.length + 1)
  else none

/-- The length of the entity that a text begins with, from the ampersand to the semicolon. -/
def entity? (text : List Char) : Option Nat :=
  match text with
  | '&' :: '#' :: rest => (numericReference? rest).map (2 + ·)
  | '&' :: rest =>
    let name := rest.takeWhile Char.isAlphanum
    if (rest.drop name.length).head? == some ';' && entityNames.contains name then
      some (name.length + 2)
    else none
  | _ => none

end DocIndex.Markdown
