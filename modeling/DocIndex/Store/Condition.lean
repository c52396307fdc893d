/-!
# Conditions on identifiers

Rows are deleted by a condition in text form, `id IN (...)`, that lists identifiers between single
quotes; a quote inside an identifier is written twice. `Condition.read?` reads what
`Condition.write` writes, and refuses the condition without identifiers.
-/

namespace DocIndex.Store.Condition

/-- An identifier with every quote written twice. -/
def doubleQuotes (id : List Char) : List Char :=
  id.flatMap fun c => if c == '\'' then ['\'', '\''] else [c]

/-- The written form of an identifier. -/
def literal (id : List Char) : List Char := '\'' :: doubleQuotes id ++ ['\'']

/-- What stands before the first identifier. -/
def opening : List Char := "id IN (".toList

/-- What stands between two identifiers. -/
def separator : List Char := ", ".toList

/-- What stands after the last identifier. -/
def closing : List Char := ")".toList

/-- The condition that is met by the rows with the given identifiers. -/
def write (ids : List String) : String :=
  String.ofList (opening ++ separator.intercalate (ids.map fun id => literal id.toList) ++ closing)

/-- The identifier whose written form follows the opening quote, and the text after it. -/
def readLiteral? : List Char → Option (List Char × List Char)
  | [] => none
  | '\'' :: '\'' :: later => (readLiteral? later).map fun (id, rest) => ('\'' :: id, rest)
  | c :: later =>
    if c == '\'' then some ([], later)
    else (readLiteral? later).map fun (id, rest) => (c :: id, rest)

/-- The text after a given beginning. -/
def after? (beginning text : List Char) : Option (List Char) :=
  if beginning.isPrefixOf text then some (text.drop beginning.length) else none

/--
The identifiers listed from the opening quote of one on, up to the end of the condition. `fuel`
bounds their number.
-/
def readList? : Nat → List Char → Option (List (List Char))
  | 0, _ => none
  | fuel + 1, text =>
    match (after? ['\''] text).bind readLiteral? with
    | none => none
    | some (id, rest) =>
      if rest == closing then some [id]
      else ((after? separator rest).bind (readList? fuel)).map (id :: ·)

/-- The identifiers that a condition lists. -/
def read? (condition : String) : Option (List String) :=
  ((after? opening condition.toList).bind (readList? condition.length)).map
    fun ids => ids.map String.ofList

end DocIndex.Store.Condition
