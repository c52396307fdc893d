/-!
# Quoted strings

The written form of a string: quotes around it, and escapes for quotes, backslashes and control
characters, the shortest that JSON has for each. All other characters stand for themselves.
-/

namespace DocIndex.Json

/-- The hexadecimal digit with the given value, in lower case. -/
def hexDigit (value : Nat) : Char :=
  if value < 10 then Char.ofNat ('0'.toNat + value) else Char.ofNat ('a'.toNat + value - 10)

/-- The written form of a character in a string. -/
def escape (c : Char) : List Char :=
  match c with
  | '"' => ['\\', '"']
  | '\\' => ['\\', '\\']
  | '\x08' => ['\\', 'b']
  | '\x0C' => ['\\', 'f']
  | '\n' => ['\\', 'n']
  | '\r' => ['\\', 'r']
  | '\t' => ['\\', 't']
  | c =>
    if c.toNat < 0x20 then ['\\', 'u', '0', '0', hexDigit (c.toNat / 16), hexDigit (c.toNat % 16)]
    else [c]

/-- The written form of a string. -/
def quoted (text : List Char) : List Char := '"' :: text.flatMap escape ++ ['"']

end DocIndex.Json
