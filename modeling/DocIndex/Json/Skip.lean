import DocIndex.Json.Number

/-!
# Values that are passed over

A value that nobody asks for is checked for its grammar only: strings need not hold text, numbers
may be of any size, and values may be nested to any depth.
-/

namespace DocIndex.Json

/-- What follows the key of a member of an object, its colon included. -/
def skipKey (bytes : List UInt8) : Except Fault (List UInt8) :=
  match skipBlanks bytes with
  | [] => .error (.at .endInObject [])
  | byte :: later =>
    if byte == '"'.toUInt8 then
      match skipString later with
      | .error fault => .error fault
      | .ok rest => skipColon rest
    else .error (.at .keyNotString (byte :: later))

mutual

/-- What follows a value. `fuel` bounds the number of values and brackets read. -/
def skipWithin : Nat → List UInt8 → Except Fault (List UInt8)
  | 0, bytes => .error (.at .endInValue bytes)
  | fuel + 1, bytes =>
    match skipBlanks bytes with
    | [] => .error (.at .endInValue [])
    | byte :: later =>
      if byte == 'n'.toUInt8 then skipWord ['u', 'l', 'l'] later
      else if byte == 't'.toUInt8 then skipWord ['r', 'u', 'e'] later
      else if byte == 'f'.toUInt8 then skipWord ['a', 'l', 's', 'e'] later
      else if byte == '-'.toUInt8 then skipNumber later
      else if isDigit byte then skipNumber (byte :: later)
      else if byte == '"'.toUInt8 then skipString later
      else if byte == '['.toUInt8 then skipItems fuel true later
      else if byte == '{'.toUInt8 then skipMembers fuel true later
      else .error (.at .expectedValue (byte :: later))

/-- What follows a list, read after its opening bracket or, unless `first`, after an item. -/
def skipItems : Nat → Bool → List UInt8 → Except Fault (List UInt8)
  | 0, _, bytes => .error (.at .endInList bytes)
  | fuel + 1, first, bytes =>
    let item : List UInt8 → Except Fault (List UInt8) := fun rest =>
      match skipWithin fuel rest with
      | .error fault => .error fault
      | .ok rest => skipItems fuel false rest
    match skipBlanks bytes with
    | [] => .error (.at .endInList [])
    | byte :: later =>
      if byte == ']'.toUInt8 then .ok later
      else if first then item (byte :: later)
      else if byte == ','.toUInt8 then item later
      else .error (.at .expectedListEnd (byte :: later))

/-- What follows an object, read after its opening brace or, unless `first`, after a member. -/
def skipMembers : Nat → Bool → List UInt8 → Except Fault (List UInt8)
  | 0, _, bytes => .error (.at .endInObject bytes)
  | fuel + 1, first, bytes =>
    let member : List UInt8 → Except Fault (List UInt8) := fun rest =>
      match skipKey rest with
      | .error fault => .error fault
      | .ok rest =>
        match skipWithin fuel rest with
        | .error fault => .error fault
        | .ok rest => skipMembers fuel false rest
    match skipBlanks bytes with
    | [] => .error (.at .endInObject [])
    | byte :: later =>
      if byte == '}'.toUInt8 then .ok later
      else if first then member (byte :: later)
      else if byte == ','.toUInt8 then member later
      else .error (.at .expectedObjectEnd (byte :: later))

end

/-- What follows a value that is passed over. -/
def skipValue (bytes : List UInt8) : Except Fault (List UInt8) :=
  skipWithin (2 * bytes.length + 2) bytes

end DocIndex.Json
