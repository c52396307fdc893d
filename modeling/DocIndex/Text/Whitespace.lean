/-!
# Whitespace

The characters with the Unicode property `White_Space`, and the trimming of character lists by it.
-/

namespace DocIndex.Text

/-- Whether a character has the Unicode property `White_Space`. -/
def isSpace (c : Char) : Bool :=
  let code := c.toNat
  (9 ≤ code && code ≤ 13) || code == 0x20 || code == 0x85 || code == 0xA0 || code == 0x1680 ||
    (0x2000 ≤ code && code ≤ 0x200A) || code == 0x2028 || code == 0x2029 || code == 0x202F ||
    code == 0x205F || code == 0x3000

/-- Whether a text holds nothing but whitespace. -/
def isBlank (text : List Char) : Bool := text.all isSpace

/-- The text without its leading whitespace. -/
def trimStart (text : List Char) : List Char := text.dropWhile isSpace

/-- The number of characters left when trailing whitespace is dropped. -/
def trimEndLength (text : List Char) : Nat := (text.reverse.dropWhile isSpace).length

/-- The text without its trailing whitespace. -/
def trimEnd (text : List Char) : List Char := text.take (trimEndLength text)

/-- The text without whitespace at either end. -/
def trim (text : List Char) : List Char := trimEnd (trimStart text)

end DocIndex.Text
