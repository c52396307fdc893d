import DocIndex.Json.Number

/-!
# Values

A JSON text is read into a value. Lists and objects may be nested no more than 127 deep, strings
hold text, and nothing but blanks follows the value.
-/

namespace DocIndex.Json

/-- A JSON value; the members of an object stand in the order in which they are written. -/
inductive Value
  | null
  | bool (value : Bool)
  | number (value : Number)
  | string (text : List Char)
  | list (items : List Value)
  | object (members : List (List Char × Value))

/-- One more than the greatest depth to which lists and objects may be nested. -/
def depthLimit : Nat := 128

/-- The key of a member of an object, read after its opening quote, and what follows its colon. -/
def memberKey (bytes : List UInt8) : Reading (List Char) :=
  match stringText bytes with
  | .error fault => .error fault
  | .ok (key, rest) => (skipColon rest).map fun later => (key, later)

mutual

/--
The value at the front of a text. `fuel` bounds the number of values and brackets read, and `depth`
is how much deeper values may be nested.
-/
def valueWithin : Nat → Nat → List UInt8 → Reading Value
  | 0, _, bytes => .error (.at .endInValue bytes)
  | fuel + 1, depth, bytes =>
    match skipBlanks bytes with
    | [] => .error (.at .endInValue [])
    | byte :: later =>
      let word : Value → List Char → Reading Value := fun value letters =>
        (skipWord letters later).map fun rest => (value, rest)
      if byte == 'n'.toUInt8 then word .null ['u', 'l', 'l']
      else if byte == 't'.toUInt8 then word (.bool true) ['r', 'u', 'e']
      else if byte == 'f'.toUInt8 then word (.bool false) ['a', 'l', 's', 'e']
      else if byte == '-'.toUInt8 then
        (number true later).map fun (value, rest) => (.number value, rest)
      else if isDigit byte then
        (number false (byte :: later)).map fun (value, rest) => (.number value, rest)
      else if byte == '"'.toUInt8 then
        (stringText later).map fun (text, rest) => (.string text, rest)
      else if byte == '['.toUInt8 then
        if depth ≤ 1 then .error (.at .nestedTooDeep (byte :: later))
        else (itemsWithin fuel (depth - 1) true later).map fun (items, rest) => (.list items, rest)
      else if byte == '{'.toUInt8 then
        if depth ≤ 1 then .error (.at .nestedTooDeep (byte :: later))
        else (membersWithin fuel (depth - 1) true later).map fun (members, rest) =>
          (.object members, rest)
      else .error (.at .expectedValue (byte :: later))

/-- The items of a list, read after its opening bracket or, unless `first`, after an item. -/
def itemsWithin : Nat → Nat → Bool → List UInt8 → Reading (List Value)
  | 0, _, _, bytes => .error (.at .endInList bytes)
  | fuel + 1, depth, first, bytes =>
    let item : List UInt8 → Reading (List Value) := fun rest =>
      match valueWithin fuel depth rest with
      | .error fault => .error fault
      | .ok (value, rest) =>
        (itemsWithin fuel depth false rest).map fun (values, rest) => (value :: values, rest)
    match skipBlanks bytes with
    | [] => .error (.at .endInList [])
    | byte :: later =>
      if byte == ']'.toUInt8 then .ok ([], later)
      else if first then item (byte :: later)
      else if byte == ','.toUInt8 then (openItem later).bind item
      else .error (.at .expectedListEnd (byte :: later))

/-- The members of an object, read after its opening brace or, unless `first`, after a member. -/
def membersWithin : Nat → Nat → Bool → List UInt8 → Reading (List (List Char × Value))
  | 0, _, _, bytes => .error (.at .endInObject bytes)
  | fuel + 1, depth, first, bytes =>
    let member : List UInt8 → Reading (List (List Char × Value)) := fun rest =>
      match memberKey rest with
      | .error fault => .error fault
      | .ok (key, rest) =>
        match valueWithin fuel depth rest with
        | .error fault => .error fault
        | .ok (value, rest) =>
          (membersWithin fuel depth false rest).map fun (members, rest) =>
            ((key, value) :: members, rest)
    match skipBlanks bytes with
    | [] => .error (.at .endInObject [])
    | byte :: later =>
      if byte == '}'.toUInt8 then .ok ([], later)
      else if first then
        if byte == '"'.toUInt8 then member later else .error (.at .keyNotString (byte :: later))
      else if byte == ','.toUInt8 then (openKey later).bind member
      else .error (.at .expectedObjectEnd (byte :: later))

end

/-- The value that a JSON text stands for. -/
def Value.read (bytes : List UInt8) : Except Fault Value :=
  match valueWithin (2 * bytes.length + 2) depthLimit bytes with
  | .error fault => .error fault
  | .ok (value, rest) => (expectEnd rest).map fun _ => value

end DocIndex.Json
