import DocIndex.Markdown.Scan
import DocIndex.Markdown.Entity
import DocIndex.Unicode.CaseFolding

/-!
# The parts of links

Labels, destinations and titles of links, and the targets of automatic links.
-/

namespace DocIndex.Markdown

/-- What goes on after a line end: the number of characters to pass, or the end of the text. -/
abbrev Continuation := List Char → Option Nat

/-- The most characters that a link label holds. -/
def maxLabelLength : Nat := 1000

/--
The whitespace at the start of a label text: how long it is, and whether it is a single space.
-/
def labelSpace (continues : Continuation) (lineEnds : Nat) : List Char → Option (Nat × Bool)
  | [] => some (0, false)
  | c :: rest =>
    if ! isAsciiSpace c then some (0, false)
    else if isNewline c then
      if lineEnds != 0 then none
      else
        let ending := (lineEnd? (c :: rest)).getD 1
        let following := rest.drop (ending - 1)
        match continues following with
        | none => none
        | some skipped =>
          (labelSpace continues 1 (following.drop skipped)).map fun (length, _) =>
            (ending + skipped + length, false)
    else
      (labelSpace continues lineEnds rest).map fun (length, _) =>
        (length + 1, length == 0 && c == ' ')
termination_by text => text.length
decreasing_by all_goals simp only [List.length_drop, List.length_cons]; omega

/--
The label whose text begins here, up to its closing bracket. Gives the length with the bracket and
the text with each stretch of whitespace as one space; `read` counts the characters before, and
`visible` tells whether one of them is not whitespace.
-/
def labelFrom (continues : Continuation) (read : Nat) (visible : Bool) :
    List Char → Option (Nat × List Char)
  | [] => none
  | c :: rest =>
    if maxLabelLength ≤ read then none
    else if c == '[' then none
    else if c == ']' then if visible then some (1, []) else none
    else if c == '\\' then
      match rest with
      | [] => none
      | escaped :: rest =>
        (labelFrom continues (read + 2) true rest).map fun (length, label) =>
          (length + 2, c :: escaped :: label)
    else if isAsciiSpace c then
      match labelSpace continues 0 (c :: rest) with
      | none => none
      | some (length, _) =>
        (labelFrom continues (read + length) visible (rest.drop (length - 1))).map
          fun (later, label) => (max 1 length + later, ' ' :: label)
    else
      (labelFrom continues (read + 1) true rest).map fun (length, label) => (length + 1, c :: label)
termination_by text => text.length
decreasing_by all_goals simp_all only [List.length_drop, List.length_cons]; omega

/-- The form in which labels are compared: without outer space and without regard to case. -/
def comparableLabel (label : List Char) : List Char :=
  let inner := ((label.dropWhile (· == ' ')).reverse.dropWhile (· == ' ')).reverse
  inner.flatMap Unicode.foldCase

/-- A label, in its comparable form. -/
structure Label where
  /-- The number of characters of the label, both brackets included. -/
  length : Nat
  text : List Char
  /-- The label names a footnote. -/
  footnote : Bool

/-- The label that a text begins with. -/
def label? (continues : Continuation) (text : List Char) : Option Label :=
  let plain (rest : List Char) : Option Label :=
    (labelFrom continues 0 false rest).map fun (length, label) =>
      ⟨length + 1, comparableLabel label, false⟩
  match text with
  | '[' :: '^' :: rest =>
    if rest.head? == some ']' then plain ('^' :: rest)
    else
      match labelFrom continues 0 false rest with
      | some (length, label) => some ⟨length + 2, comparableLabel label, true⟩
      | none => plain ('^' :: rest)
  | '[' :: rest => plain rest
  | _ => none

/-- The length of a destination in angle brackets, counted from after the first one. -/
def bracketedDestination? : List Char → Option Nat
  | [] => none
  | '>' :: _ => some 1
  | '\\' :: c :: rest =>
    if isAsciiPunctuation c then (bracketedDestination? rest).map (· + 2)
    else (bracketedDestination? (c :: rest)).map (· + 1)
  | c :: rest =>
    if isNewline c || c == '<' then none else (bracketedDestination? rest).map (· + 1)

/-- The length of a bare destination, in which at most `most + 1` parentheses are open at a time. -/
def bareDestination? (most nesting : Nat) : List Char → Option Nat
  | [] => if nesting == 0 then some 0 else none
  | '\\' :: c :: rest =>
    if isAsciiPunctuation c then (bareDestination? most nesting rest).map (· + 2)
    else (bareDestination? most nesting (c :: rest)).map (· + 1)
  | '(' :: rest =>
    if most < nesting then none else (bareDestination? most (nesting + 1) rest).map (· + 1)
  | ')' :: rest =>
    if nesting == 0 then some 0 else (bareDestination? most (nesting - 1) rest).map (· + 1)
  | c :: rest =>
    if c.toNat ≤ 0x20 then if nesting == 0 then some 0 else none
    else (bareDestination? most nesting rest).map (· + 1)

/-- The length of the link destination that a text begins with. -/
def destination? (most : Nat) (text : List Char) : Option Nat :=
  match text with
  | '<' :: rest => (bracketedDestination? rest).map (· + 1)
  | _ => bareDestination? most 0 text

/-- The sign that closes a title, by the one that opens it. -/
def titleClose? (c : Char) : Option Char :=
  if c == '\'' || c == '"' then some c else if c == '(' then some ')' else none

/-- The length of the scheme of an address and its colon. -/
def scheme? (text : List Char) : Option Nat :=
  match text with
  | [] => none
  | first :: rest =>
    let more := countWhile (fun c => c.isAlphanum || c == '.' || c == '-' || c == '+') rest
    if first.isAlpha && 1 ≤ more && more ≤ 31 && (rest.drop more).head? == some ':' then
      some (more + 2)
    else none

/-- The length of an address with a scheme, up to and including the closing angle bracket. -/
def address? (text : List Char) : Option Nat :=
  (scheme? text).bind fun scheme =>
    let after := text.drop scheme
    let path := countWhile (fun c => 0x20 < c.toNat && c != '<' && c != '>') after
    if (after.drop path).head? == some '>' then some (scheme + path + 1) else none

/-- The signs that may stand in the part of a mail address before the at sign, beside letters. -/
def mailboxSigns : List Char := ".!#$%&'*+/=?^_`\x7b|\x7d~-".toList

/-- The length of the host names of a mail address, of which the first begins here. -/
def hostNames? (text : List Char) : Option Nat :=
  let name := text.takeWhile fun c => c.isAlphanum || c == '-'
  if name.isEmpty || 63 < name.length then none
  else if name.head? == some '-' || name.getLast? == some '-' then none
  else
    match h : text.drop name.length with
    | '.' :: rest => (hostNames? rest).map (name.length + 1 + ·)
    | _ => some name.length
termination_by text.length
decreasing_by
  have shorter := congrArg List.length h
  simp only [List.length_drop, List.length_cons] at shorter
  omega

/-- The length of a mail address, up to and including the closing angle bracket. -/
def mailAddress? (text : List Char) : Option Nat :=
  let mailbox := countWhile (fun c => c.isAlphanum || mailboxSigns.contains c) text
  if mailbox == 0 || (text.drop mailbox).head? != some '@' then none
  else
    (hostNames? (text.drop (mailbox + 1))).bind fun host =>
      let length := mailbox + 1 + host
      if (text.drop length).head? == some '>' then some (length + 1) else none

/-- The length of an automatic link, counted from after its opening angle bracket. -/
def automaticLink? (text : List Char) : Option Nat :=
  match address? text with
  | some length => some length
  | none => mailAddress? text

end DocIndex.Markdown
