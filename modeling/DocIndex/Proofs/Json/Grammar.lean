import DocIndex.Json.Quoted
import DocIndex.Proofs.Json.Number

/-!
# The grammar of JSON

What a JSON text is, by the rules of the language and without a reader: blanks may stand around
values, keys and marks, and each kind of value has a form of its own. Written strings and numbers
have these forms.
-/

namespace DocIndex.Json

/-- Nothing but blanks. -/
def IsGap (text : List Char) : Prop := ∀ c ∈ text, c ∈ [' ', '\t', '\n', '\r']

/-- Nothing but decimal digits, and at least one. -/
def IsDigits (text : List Char) : Prop := text ≠ [] ∧ ∀ c ∈ text, c.isDigit

/-- The digits before a fraction or an exponent: zero is the only one that begins with a zero. -/
def IsWhole (text : List Char) : Prop := IsDigits text ∧ (text.head? = some '0' → text = ['0'])

/-- Nothing, or a full stop with digits behind it. -/
def IsFraction (text : List Char) : Prop := text = [] ∨ ∃ digits, text = '.' :: digits ∧
  IsDigits digits

/-- Nothing, or a power of ten: a letter, a sign that may be left out, and digits. -/
def IsExponent (text : List Char) : Prop := text = [] ∨ ∃ letter ∈ ['e', 'E'],
  ∃ sign ∈ [[], ['+'], ['-']], ∃ digits, text = letter :: (sign ++ digits) ∧ IsDigits digits

/-- A number. -/
def IsNumber (text : List Char) : Prop := ∃ sign ∈ [[], ['-']], ∃ whole fraction exponent,
  text = sign ++ (whole ++ (fraction ++ exponent)) ∧ IsWhole whole ∧ IsFraction fraction ∧
    IsExponent exponent

/-- A hexadecimal digit, in lower or upper case. -/
def IsHexDigit (c : Char) : Prop := c ∈ "0123456789abcdefABCDEF".toList

/-- What stands between the quotes of a string. -/
inductive IsBody : List Char → Prop
  | nil : IsBody []
  | plain {c : Char} {later : List Char} (visible : 0x20 ≤ c.toNat) (notQuote : c ≠ '"')
      (notBackslash : c ≠ '\\') (rest : IsBody later) : IsBody (c :: later)
  | letter {letter : Char} {later : List Char}
      (known : letter ∈ ['"', '\\', '/', 'b', 'f', 'n', 'r', 't']) (rest : IsBody later) :
      IsBody ('\\' :: letter :: later)
  | code {first second third fourth : Char} {later : List Char}
      (digits : ∀ c ∈ [first, second, third, fourth], IsHexDigit c) (rest : IsBody later) :
      IsBody ('\\' :: 'u' :: first :: second :: third :: fourth :: later)

/-- A string. -/
def IsString (text : List Char) : Prop := ∃ body, text = '"' :: (body ++ ['"']) ∧ IsBody body

mutual

/-- A value without blanks around it. -/
inductive IsValue : List Char → Prop
  | word {word : String} (known : word ∈ ["null", "true", "false"]) : IsValue word.toList
  | number {text : List Char} (isNumber : IsNumber text) : IsValue text
  | string {text : List Char} (isString : IsString text) : IsValue text
  | list {items : List (List Char)} {text : List Char} (isItems : IsItems items text) :
      IsValue ('[' :: (text ++ [']']))
  | object {members : List (List Char × List Char)} {text : List Char}
      (isMembers : IsMembers members text) : IsValue ('{' :: (text ++ ['}']))

/-- What may stand between the brackets of a list, with the values there as they are written. -/
inductive IsItems : List (List Char) → List Char → Prop
  | none {gap : List Char} (isGap : IsGap gap) : IsItems [] gap
  | last {item text : List Char} (isItem : IsItem item text) : IsItems [item] text
  | more {item next text later : List Char} {items : List (List Char)} (isItem : IsItem item text)
      (rest : IsItems (next :: items) later) :
      IsItems (item :: next :: items) (text ++ ',' :: later)

/-- A value with blanks around it. -/
inductive IsItem : List Char → List Char → Prop
  | around {item before after : List Char} (isValue : IsValue item) (gap : IsGap before)
      (gapAfter : IsGap after) : IsItem item (before ++ (item ++ after))

/--
What may stand between the braces of an object, with its keys and values there as they are written.
-/
inductive IsMembers : List (List Char × List Char) → List Char → Prop
  | none {gap : List Char} (isGap : IsGap gap) : IsMembers [] gap
  | last {member : List Char × List Char} {text : List Char} (isMember : IsMember member text) :
      IsMembers [member] text
  | more {member next : List Char × List Char} {text later : List Char}
      {members : List (List Char × List Char)} (isMember : IsMember member text)
      (rest : IsMembers (next :: members) later) :
      IsMembers (member :: next :: members) (text ++ ',' :: later)

/-- A key and a value around a colon. -/
inductive IsMember : List Char × List Char → List Char → Prop
  | around {key item text before after : List Char} (isKey : IsString key) (gap : IsGap before)
      (gapAfter : IsGap after) (isItem : IsItem item text) :
      IsMember (key, item) (before ++ (key ++ (after ++ ':' :: text)))

end

/-- A text whose only value is an object with the given members, as they are written. -/
def IsObject (members : List (List Char × List Char)) (text : List Char) : Prop :=
  ∃ before body after, text = before ++ '{' :: (body ++ '}' :: after) ∧ IsGap before ∧
    IsMembers members body ∧ IsGap after

theorem isGap_nil : IsGap [] := List.forall_mem_nil _

theorem isHexDigit_hexDigit : ∀ value < 16, IsHexDigit (hexDigit value) := by
  unfold IsHexDigit
  decide

theorem IsBody.escape_append {later : List Char} (c : Char) (isBody : IsBody later) :
    IsBody (escape c ++ later) := by
  unfold escape
  split
  case h_8 notQuote notBackslash _ _ _ _ _ =>
    split
    · rename_i small
      refine .code ?_ isBody
      have high := isHexDigit_hexDigit (c.toNat / 16) (by omega)
      have low := isHexDigit_hexDigit (c.toNat % 16) (by omega)
      have zero : IsHexDigit '0' := by simp [IsHexDigit]
      simp only [List.forall_mem_cons, zero, high, low, List.not_mem_nil, false_imp_iff,
        implies_true, and_self]
    · rename_i visible
      exact .plain (Nat.not_lt.mp visible) notQuote notBackslash isBody
  all_goals exact .letter (by decide) isBody

theorem isString_quoted (text : List Char) : IsString (quoted text) := by
  refine ⟨text.flatMap escape, rfl, ?_⟩
  induction text with
  | nil => exact .nil
  | cons c later ih =>
      rw [List.flatMap_cons]
      exact ih.escape_append c

theorem isNumber_toDigits (index : Nat) : IsNumber (Nat.toDigits 10 index) := by
  refine ⟨[], List.mem_cons_self, Nat.toDigits 10 index, [], [], by simp, ⟨⟨?_, ?_⟩, ?_⟩,
    .inl rfl, .inl rfl⟩
  · exact Nat.toDigits_ne_nil
  · exact fun _ => isDigit_of_mem_toDigits
  · exact eq_singleton_of_toDigits

end DocIndex.Json
