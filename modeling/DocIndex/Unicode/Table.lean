/-!
# Tables of code points

A property of characters is written down as text, one string of code points for each value of the
property, and looked up by binary search among the ranges that the strings name.
-/

namespace DocIndex.Unicode

/-- The code points from `first` to `last`, which share one value of a property. -/
structure Run (Value : Type) where
  first : Nat
  last : Nat
  value : Value

/-- Disjoint runs in increasing order. -/
structure Table (Value : Type) where
  runs : Array (Run Value)

/-- The value of a hexadecimal digit in upper case. -/
def hexDigitValue (c : Char) : Nat :=
  if c.isDigit then c.toNat - '0'.toNat else c.toNat - 'A'.toNat + 10

/-- The number that hexadecimal digits in upper case stand for. -/
def hexNumber (digits : List Char) : Nat :=
  digits.foldl (fun number c => 16 * number + hexDigitValue c) 0

/-- The longest stretches of characters that satisfy `keep`, in order. -/
def stretches (keep : Char → Bool) (text : List Char) : List (List Char) :=
  (text.foldr (fun c found =>
    if keep c then
      match found with
      | [] => [[c]]
      | stretch :: later => (c :: stretch) :: later
    else [] :: found) [[]]).filter (! ·.isEmpty)

/--
The runs that one item names: `0041` is a single code point, `0041-005A` all from the first to the
second, and `0100-012E/2` every second one of these.
-/
def runsOfItem {Value : Type} (value : Value) (item : List Char) : List (Run Value) :=
  match (stretches Char.isAlphanum item).map hexNumber with
  | [code] => [⟨code, code, value⟩]
  | [first, last] => [⟨first, last, value⟩]
  | [first, last, step] =>
    (List.range ((last - first) / step + 1)).map fun index =>
      ⟨first + index * step, first + index * step, value⟩
  | _ => []

/-- The table that gives every code point of a string the value written before the string. -/
def Table.ofCodes {Value : Type} (codes : List (Value × String)) : Table Value :=
  let runs := codes.flatMap fun (value, text) =>
    (stretches (! ·.isWhitespace) text.toList).flatMap (runsOfItem value)
  ⟨(runs.mergeSort fun left right => left.first ≤ right.first).toArray⟩

/-- The value of `code` among the runs with an index from `low` up to, and without, `high`. -/
def Table.search {Value : Type} (runs : Array (Run Value)) (code low high : Nat) : Option Value :=
  if low < high then
    let middle := (low + high) / 2
    match runs[middle]? with
    | none => none
    | some run =>
      if code < run.first then Table.search runs code low middle
      else if run.last < code then Table.search runs code (middle + 1) high
      else some run.value
  else none
termination_by high - low
decreasing_by all_goals omega

/-- The value of a character, if the table has one for it. -/
def Table.find? {Value : Type} (table : Table Value) (c : Char) : Option Value :=
  Table.search table.runs c.toNat 0 table.runs.size

end DocIndex.Unicode
