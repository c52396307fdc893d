import DocIndex.Json.Skip
import DocIndex.Decimal.Shortest
import DocIndex.Text.Escaped

/-!
# Pooling

How the vectors of the tokens of a text make one vector for the text. An embedding model says so in
a JSON document with one flag for each way of pooling. The document is an object in which flags that
are not given are off and other members do not matter, or a list of the flags in order. Only two
ways of pooling are supported, each on its own.
-/

namespace DocIndex.Model

open DocIndex.Json

/-- A way of pooling that is supported. -/
inductive Pooling
  | firstToken
  | mean
  deriving DecidableEq, Repr

/-- The flags of a pooling document. -/
inductive Flag
  | firstToken | mean | max | lastToken
  deriving DecidableEq, Repr

namespace Flag

/-- All flags, in the order in which a list gives them. -/
def all : List Flag := [firstToken, mean, max, lastToken]

/-- The key of a flag. -/
def key : Flag → String
  | firstToken => "pooling_mode_cls_token"
  | mean => "pooling_mode_mean_tokens"
  | max => "pooling_mode_max_tokens"
  | lastToken => "pooling_mode_lasttoken"

/-- The flag with the given key. -/
def ofKey? (key : List Char) : Option Flag := all.find? fun flag => flag.key.toList == key

end Flag

/-- The flags that a document gives. -/
abbrev Flags := List (Flag × Bool)

/-- Whether a flag is on; it is off if it is not given. -/
def Flags.isOn (flags : Flags) (flag : Flag) : Bool := (flags.lookup flag).getD false

/-- The report of the value of every flag. -/
def Flags.report (flags : Flags) : String :=
  let fields := Flag.all.map fun flag => flag.key ++ ": " ++ toString (flags.isOn flag)
  "PoolingConfig \x7b " ++ String.intercalate ", " fields ++ " \x7d"

/-- The report of a number that stands where it does not fit. -/
def describeNumber : Number → String
  | .natural value => "integer `" ++ toString value ++ "`"
  | .negative value => "integer `-" ++ toString value ++ "`"
  | .decimal value => "floating point `" ++ Decimal.write value ++ "`"

/-- The fault of a value that is not what is expected; `bytes` begin with the value. -/
def misfit (expected : String) (bytes : List UInt8) : Fault :=
  let unfit : String → List UInt8 → Fault := fun found rest =>
    .before (.unfit ("invalid type: " ++ found ++ ", expected " ++ expected)) rest
  let word : String → List Char → List UInt8 → Fault := fun found letters rest =>
    match skipWord letters rest with
    | .error fault => fault
    | .ok rest => unfit found rest
  let numeral : Bool → List UInt8 → Fault := fun negative rest =>
    match number negative rest with
    | .error fault => fault
    | .ok (value, rest) => unfit (describeNumber value) rest
  match bytes with
  | [] => .at .expectedValue []
  | byte :: later =>
    if byte == 'n'.toUInt8 then word "null" ['u', 'l', 'l'] later
    else if byte == 't'.toUInt8 then word "boolean `true`" ['r', 'u', 'e'] later
    else if byte == 'f'.toUInt8 then word "boolean `false`" ['a', 'l', 's', 'e'] later
    else if byte == '-'.toUInt8 then numeral true later
    else if isDigit byte then numeral false bytes
    else if byte == '"'.toUInt8 then
      match stringText later with
      | .error fault => fault
      | .ok (text, rest) => unfit ("string " ++ String.ofList (Text.escaped text)) rest
    else if byte == '['.toUInt8 then unfit "sequence" bytes
    else if byte == '{'.toUInt8 then unfit "map" bytes
    else .at .expectedValue bytes

/-- The value of a flag. -/
def readFlag (bytes : List UInt8) : Reading Bool :=
  match skipBlanks bytes with
  | [] => .error (.at .endInValue [])
  | byte :: later =>
    if byte == 't'.toUInt8 then (skipWord ['r', 'u', 'e'] later).map fun rest => (true, rest)
    else if byte == 'f'.toUInt8 then
      (skipWord ['a', 'l', 's', 'e'] later).map fun rest => (false, rest)
    else .error (misfit "a boolean" (byte :: later))

/--
The fault of a flag that is given twice, found after the second key and a closing brace there.
-/
def repeated (flag : Flag) (bytes : List UInt8) : Fault :=
  let cause := Cause.unfit ("duplicate field `" ++ flag.key ++ "`")
  match skipBlanks bytes with
  | [] => .before cause []
  | byte :: later =>
    if byte == '}'.toUInt8 then .before cause later else .before cause (byte :: later)

/-- The flags among the members of an object, read after its opening brace or after a member. -/
def readMembers : Nat → Bool → Flags → List UInt8 → Reading Flags
  | 0, _, _, bytes => .error (.at .endInObject bytes)
  | fuel + 1, first, flags, bytes =>
    let member : List UInt8 → Reading Flags := fun rest =>
      match stringText rest with
      | .error fault => .error fault
      | .ok (key, rest) =>
        match Flag.ofKey? key with
        | none =>
          match (skipColon rest).bind skipValue with
          | .error fault => .error fault
          | .ok rest => readMembers fuel false flags rest
        | some flag =>
          if (flags.lookup flag).isSome then .error (repeated flag rest)
          else match (skipColon rest).bind readFlag with
            | .error fault => .error fault
            | .ok (value, rest) => readMembers fuel false ((flag, value) :: flags) rest
    match skipBlanks bytes with
    | [] => .error (.at .endInObject [])
    | byte :: later =>
      if byte == '}'.toUInt8 then .ok (flags, later)
      else if first then
        if byte == '"'.toUInt8 then member later else .error (.at .keyNotString (byte :: later))
      else if byte == ','.toUInt8 then (openKey later).bind member
      else .error (.at .expectedObjectEnd (byte :: later))

/-- What follows the closing bracket of a list that holds no more flags. -/
def closeList (bytes : List UInt8) : Except Fault (List UInt8) :=
  match skipBlanks bytes with
  | [] => .error (.at .endInList [])
  | byte :: later =>
    if byte == ']'.toUInt8 then .ok later
    else if byte == ','.toUInt8 then
      match skipBlanks later with
      | next :: rest =>
        .error (.at (if next == ']'.toUInt8 then .trailingComma else .trailingText) (next :: rest))
      | [] => .error (.at .trailingText [])
    else .error (.at .trailingText (byte :: later))

/-- The given flags as the items of a list, read after its opening bracket or after an item. -/
def readItems : List Flag → Bool → List UInt8 → Reading Flags
  | [], _, bytes => (closeList bytes).map fun rest => ([], rest)
  | flag :: flags, first, bytes =>
    let item : List UInt8 → Reading Flags := fun rest =>
      match readFlag rest with
      | .error fault => .error fault
      | .ok (value, rest) =>
        (readItems flags false rest).map fun (given, rest) => ((flag, value) :: given, rest)
    match skipBlanks bytes with
    | [] => .error (.at .endInList [])
    | byte :: later =>
      if byte == ']'.toUInt8 then .ok ([], later)
      else if first then item (byte :: later)
      else if byte == ','.toUInt8 then (openItem later).bind item
      else .error (.at .expectedListEnd (byte :: later))

/-- The flags that a document gives. -/
def Flags.read (bytes : List UInt8) : Except Fault Flags :=
  let document : Reading Flags :=
    match skipBlanks bytes with
    | [] => .error (.at .endInValue [])
    | byte :: later =>
      if byte == '['.toUInt8 then readItems Flag.all true later
      else if byte == '{'.toUInt8 then readMembers (later.length + 1) true [] later
      else .error (misfit "struct PoolingConfig" (byte :: later))
  match document with
  | .error fault => .error fault
  | .ok (flags, rest) => (expectEnd rest).map fun _ => flags

/-- The way of pooling whose flag is the only one that is on. -/
def Flags.pooling? (flags : Flags) : Option Pooling :=
  match Flag.all.filter flags.isOn with
  | [.firstToken] => some .firstToken
  | [.mean] => some .mean
  | _ => none

/-- Why a document does not say how to pool. -/
inductive PoolingFault
  /-- The document cannot be read. -/
  | unreadable (document : List UInt8) (fault : Fault)
  /-- The document asks for a way of pooling that is not supported. -/
  | unsupported (flags : Flags)

/-- The report of why a document does not say how to pool. -/
def PoolingFault.message : PoolingFault → String
  | unreadable document fault => fault.message document
  | unsupported flags => "unsupported pooling configuration " ++ flags.report

/-- The way of pooling that a document asks for. -/
def Pooling.read (document : List UInt8) : Except PoolingFault Pooling :=
  match Flags.read document with
  | .error fault => .error (.unreadable document fault)
  | .ok flags =>
    match flags.pooling? with
    | none => .error (.unsupported flags)
    | some pooling => .ok pooling

end DocIndex.Model
