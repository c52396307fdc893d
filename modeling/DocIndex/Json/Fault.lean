import DocIndex.Text.Utf8

/-!
# Faults of JSON texts

Why a text is not read as JSON, and where. A fault keeps the number of bytes that were left when it
was found; its line and column follow from the whole text.
-/

namespace DocIndex.Json

/-- Why a text is not read as JSON, or not as the JSON that is asked for. -/
inductive Cause
  | endInList
  | endInObject
  | endInString
  | endInValue
  | expectedColon
  | expectedListEnd
  | expectedObjectEnd
  | expectedWord
  | expectedValue
  | invalidEscape
  | invalidNumber
  | numberOutOfRange
  | notText
  | controlCharacter
  | keyNotString
  | loneSurrogate
  | trailingComma
  | trailingText
  | brokenSurrogatePair
  | nestedTooDeep
  /-- The text is JSON, but not what is asked for. -/
  | unfit (report : String)
  deriving DecidableEq, Repr

/-- What kind of fault a cause is. -/
inductive Category
  /-- The text is no JSON. -/
  | grammar
  /-- The text ends too early. -/
  | ending
  /-- The text is JSON with other contents than asked for. -/
  | contents
  deriving DecidableEq, Repr

/-- The kind of a cause. -/
def Cause.category : Cause → Category
  | endInList | endInObject | endInString | endInValue => .ending
  | unfit _ => .contents
  | _ => .grammar

/-- The report of a cause. -/
def Cause.message : Cause → String
  | endInList => "EOF while parsing a list"
  | endInObject => "EOF while parsing an object"
  | endInString => "EOF while parsing a string"
  | endInValue => "EOF while parsing a value"
  | expectedColon => "expected `:`"
  | expectedListEnd => "expected `,` or `]`"
  | expectedObjectEnd => "expected `,` or `\x7d`"
  | expectedWord => "expected ident"
  | expectedValue => "expected value"
  | invalidEscape => "invalid escape"
  | invalidNumber => "invalid number"
  | numberOutOfRange => "number out of range"
  | notText => "invalid unicode code point"
  | controlCharacter => "control character (\\u0000-\\u001F) found while parsing a string"
  | keyNotString => "key must be a string"
  | loneSurrogate => "lone leading surrogate in hex escape"
  | trailingComma => "trailing comma"
  | trailingText => "trailing characters"
  | brokenSurrogatePair => "unexpected end of hex escape"
  | nestedTooDeep => "recursion limit exceeded"
  | unfit report => report

/-- A cause and the number of bytes left where it was found. -/
structure Fault where
  cause : Cause
  left : Nat
  deriving DecidableEq, Repr

/-- The fault found just before the given rest of a text. -/
def Fault.before (cause : Cause) (rest : List UInt8) : Fault := ⟨cause, rest.length⟩

/-- The fault found at the first byte of the given rest of a text, or at its end. -/
def Fault.at (cause : Cause) (rest : List UInt8) : Fault := ⟨cause, rest.length - 1⟩

/-- A line and a column, where lines are counted from 1 and columns by the bytes read of a line. -/
structure Position where
  line : Nat
  column : Nat
  deriving DecidableEq, Repr

/-- The position after the given bytes. -/
def Position.after (bytes : List UInt8) : Position :=
  ⟨bytes.count 0x0A + 1, (bytes.reverse.takeWhile (· != 0x0A)).length⟩

/-- Where in a text a fault was found. -/
def Fault.position (text : List UInt8) (fault : Fault) : Position :=
  .after (text.take (text.length - fault.left))

/-- The report of a fault in a text. -/
def Fault.message (text : List UInt8) (fault : Fault) : String :=
  let position := fault.position text
  fault.cause.message ++ " at line " ++ toString position.line ++ " column " ++
    toString position.column

end DocIndex.Json
