import DocIndex.Unicode.Grapheme
import DocIndex.Unicode.WordCodes

/-!
# Words

Word segments in the sense of Unicode Standard Annex 29: words, and whatever stands between them. No
rule looks back across the start of a segment, so a text is divided into segments by taking the
first one again and again.
-/

namespace DocIndex.Unicode.Word

/-- What the word rules see of a character. -/
inductive Class
  | carriageReturn | lineFeed | newline | extend | format | joiner | regionalIndicator | katakana
  | hebrew | letter | singleQuote | doubleQuote | midEither | midLetter | midNumber | numeric
  | connector | space | other
  deriving DecidableEq, Repr

/-- The classes that are given by lists of code points. -/
def classTable : Table Class := Table.ofCodes
  [(.letter, letterCodes), (.hebrew, hebrewCodes), (.katakana, katakanaCodes),
   (.numeric, numericCodes), (.connector, joinerCodes), (.midLetter, midLetterCodes),
   (.midNumber, midNumberCodes), (.midEither, midEitherCodes), (.newline, newlineCodes),
   (.extend, extendCodes), (.format, formatCodes), (.space, spaceCodes)]

/-- The class of a character. -/
def classify (c : Char) : Class :=
  let code := c.toNat
  if code == 0x0D then .carriageReturn
  else if code == 0x0A then .lineFeed
  else if code == 0x22 then .doubleQuote
  else if code == 0x27 then .singleQuote
  else if code == 0x200D then .joiner
  else if 0x1F1E6 ≤ code && code ≤ 0x1F1FF then .regionalIndicator
  else (classTable.find? c).getD .other

namespace Class

/-- Letters, with or without an alphabet of their own in the rules. -/
def isLetter (c : Class) : Bool := c == .letter || c == .hebrew

/-- Line ends of every kind. -/
def isLineEnd (c : Class) : Bool := c == .carriageReturn || c == .lineFeed || c == .newline

/-- Characters that attach to whatever stands before them. -/
def attaches (c : Class) : Bool := c == .extend || c == .format || c == .joiner

/-- Signs that hold two letters together. -/
def bindsLetters (c : Class) : Bool := c == .midLetter || c == .midEither || c == .singleQuote

/-- Signs that hold two digits together. -/
def bindsDigits (c : Class) : Bool := c == .midNumber || c == .midEither || c == .singleQuote

end Class

/-- What has to be remembered of the segment read so far. -/
structure State where
  /-- The last character. -/
  last : Class
  /-- The last character that does not attach to another one. -/
  base : Class
  /-- The base before that, if the segment has one. -/
  earlier : Option Class
  /-- The base is a regional indicator that has no partner before it. -/
  unpaired : Bool

/-- The state at the start of a segment. -/
def State.start (c : Char) : State :=
  let last := classify c
  { last, base := last, earlier := none, unpaired := last == .regionalIndicator }

/-- The state after one more character of the segment. -/
def State.next (state : State) (c : Char) : State :=
  let last := classify c
  if last.attaches then { state with last }
  else
    { last, base := last, earlier := some state.base
      unpaired := last == .regionalIndicator && ! state.unpaired }

/-- The class of the first character that does not attach to another one. -/
def nextBase : List Char → Option Class
  | [] => none
  | c :: rest => if (classify c).attaches then nextBase rest else some (classify c)

/-- Whether a segment goes on with the character `c`, after which `rest` follows. -/
def State.continues (state : State) (c : Char) (rest : List Char) : Bool :=
  let next := classify c
  let base := state.base
  let earlier := state.earlier
  if state.last == .carriageReturn && next == .lineFeed then true
  else if state.last.isLineEnd || next.isLineEnd then false
  else if state.last == .joiner && Grapheme.classify c == .pictographic then true
  else if state.last == .space && next == .space then true
  else if next.attaches then true
  else if base.isLetter && next.isLetter then true
  else if base.isLetter && next.bindsLetters && (nextBase rest).any Class.isLetter then true
  else if earlier.any Class.isLetter && base.bindsLetters && next.isLetter then true
  else if base == .hebrew && next == .singleQuote then true
  else if base == .hebrew && next == .doubleQuote && nextBase rest == some .hebrew then true
  else if earlier == some .hebrew && base == .doubleQuote && next == .hebrew then true
  else if base == .numeric && next == .numeric then true
  else if base.isLetter && next == .numeric then true
  else if base == .numeric && next.isLetter then true
  else if earlier == some .numeric && base.bindsDigits && next == .numeric then true
  else if base == .numeric && next.bindsDigits && nextBase rest == some .numeric then true
  else if base == .katakana && next == .katakana then true
  else if (base.isLetter || base == .numeric || base == .katakana || base == .connector) &&
      next == .connector then true
  else if base == .connector && (next.isLetter || next == .numeric || next == .katakana) then true
  else base == .regionalIndicator && next == .regionalIndicator && state.unpaired

/-- The rules of word segments. -/
def rules : Rules State where
  start := State.start
  next := State.next
  continues := State.continues

end DocIndex.Unicode.Word
