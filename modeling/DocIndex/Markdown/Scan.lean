/-!
# Scanning Markdown source

The scanners of the Markdown modules look at the source from a position on, given as the list of
characters left, and answer with the number of characters that they recognise.
-/

namespace DocIndex.Markdown

/-- Whitespace within a line. -/
def isInlineSpace (c : Char) : Bool := c == ' ' || c == '\t' || c == '\x0b' || c == '\x0c'

/-- Line ends. -/
def isNewline (c : Char) : Bool := c == '\n' || c == '\r'

/-- Whitespace within a line and line ends, of ASCII alone. -/
def isAsciiSpace (c : Char) : Bool := isInlineSpace c || isNewline c

/-- The 32 signs of ASCII. -/
def isAsciiPunctuation (c : Char) : Bool :=
  c.toNat < 128 && '!' ≤ c && c ≤ '~' && ! c.isAlphanum

/-- The number of leading characters that satisfy `keep`. -/
def countWhile (keep : Char → Bool) (text : List Char) : Nat := (text.takeWhile keep).length

/-- The number of leading characters equal to `c`. -/
def countRun (c : Char) (text : List Char) : Nat := countWhile (· == c) text

/-- The length of the line end that a text begins with; the end of the text is one of length 0. -/
def lineEnd? : List Char → Option Nat
  | [] => some 0
  | '\n' :: _ => some 1
  | '\r' :: '\n' :: _ => some 2
  | '\r' :: _ => some 1
  | _ => none

/-- The length of the blank rest of a line, its line end included. -/
def blankLine? (text : List Char) : Option Nat :=
  let spaces := countWhile isInlineSpace text
  (lineEnd? (text.drop spaces)).map (spaces + ·)

/-- The number of characters up to and including the next line feed, or to the end. -/
def lineLength (text : List Char) : Nat :=
  let before := countWhile (· != '\n') text
  if (text.drop before).isEmpty then before else before + 1

/-- Whether a text begins with the given one. -/
def startsWith (start text : List Char) : Bool := start.isPrefixOf text

/-- Whether a text begins with the given lower case ASCII text, in whatever case. -/
def startsWithIgnoringCase (start text : List Char) : Bool :=
  start.isPrefixOf ((text.take start.length).map Char.toLower)

/-- The number of characters before the first place where the given text begins. -/
def findText? (wanted : List Char) : List Char → Option Nat
  | [] => if wanted.isEmpty then some 0 else none
  | c :: rest =>
    if wanted.isPrefixOf (c :: rest) then some 0 else (findText? wanted rest).map (· + 1)

/-- The number that decimal digits stand for. -/
def decimalValue (digits : List Char) : Nat :=
  digits.foldl (fun value c => 10 * value + (c.toNat - '0'.toNat)) 0

end DocIndex.Markdown
