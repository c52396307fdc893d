import DocIndex.Unicode.Rules
import DocIndex.Unicode.SentenceCodes

/-!
# Sentences

Sentences in the sense of Unicode Standard Annex 29, each with the space after it. No rule looks back
across the start of a sentence, so a text is divided into sentences by taking the first one again
and again.
-/

namespace DocIndex.Unicode.Sentence

/-- What the sentence rules see of a character. -/
inductive Class
  | carriageReturn | lineFeed | separator | extend | format | space | lower | upper | otherLetter
  | numeric | ambiguousTerminator | continues | terminator | close | other
  deriving DecidableEq, Repr

/-- The classes that are given by lists of code points. -/
def classTable : Table Class := Table.ofCodes
  [(.lower, lowerCodes), (.upper, upperCodes), (.otherLetter, otherLetterCodes),
   (.numeric, numericCodes), (.ambiguousTerminator, ambiguousTerminatorCodes),
   (.terminator, terminatorCodes), (.close, closeCodes), (.continues, continueCodes),
   (.space, spaceCodes), (.separator, separatorCodes), (.extend, extendCodes),
   (.format, formatCodes)]

/-- The class of a character. -/
def classify (c : Char) : Class :=
  if c == '\r' then .carriageReturn
  else if c == '\n' then .lineFeed
  else (classTable.find? c).getD .other

namespace Class

/-- Line ends and separators, which end a sentence wherever they stand. -/
def isSeparator (c : Class) : Bool := c == .carriageReturn || c == .lineFeed || c == .separator

/-- Characters that attach to whatever stands before them. -/
def attaches (c : Class) : Bool := c == .extend || c == .format

/-- Signs that end a sentence. -/
def isTerminator (c : Class) : Bool := c == .ambiguousTerminator || c == .terminator

/-- Upper and lower case letters. -/
def isCased (c : Class) : Bool := c == .upper || c == .lower

end Class

/-- How far the end of a sentence has come. -/
inductive Ending
  /-- The last base is no part of an ending. -/
  | none
  /-- A terminator, followed by nothing. -/
  | terminated
  /-- A terminator and closing signs. -/
  | closed
  /-- A terminator, perhaps closing signs, and spaces. -/
  | spaced
  deriving DecidableEq, Repr

/-- What has to be remembered of the sentence read so far. -/
structure State where
  /-- The last character. -/
  last : Class
  /-- The last character that does not attach to another one. -/
  base : Class
  ending : Ending
  /-- The terminator of the ending is a full stop. -/
  ambiguous : Bool
  /-- The terminator of the ending follows a cased letter. -/
  afterCased : Bool

/-- The state after a character that the sentence begins with or goes on with. -/
def State.next (before : Option State) (c : Char) : State :=
  let last := classify c
  match before with
  | none =>
    { last, base := last, ending := if last.isTerminator then .terminated else .none
      ambiguous := last == .ambiguousTerminator, afterCased := false }
  | some state =>
    if last.attaches && ! state.last.isSeparator then { state with last }
    else if last.isTerminator then
      { last, base := last, ending := .terminated, ambiguous := last == .ambiguousTerminator
        afterCased := state.base.isCased }
    else
      let ending : Ending :=
        match state.ending, last with
        | .terminated, .close | .closed, .close => .closed
        | .terminated, .space | .closed, .space | .spaced, .space => .spaced
        | _, _ => .none
      { state with last, base := last, ending }

/-- Whether the next letter or sign that counts is a lower case letter. -/
def lowerFollows : List Char → Bool
  | [] => false
  | c :: rest =>
    match classify c with
    | .lower => true
    | .otherLetter | .upper | .separator | .carriageReturn | .lineFeed | .ambiguousTerminator
    | .terminator => false
    | _ => lowerFollows rest

/-- Whether a sentence goes on with the character `c`, after which `rest` follows. -/
def State.continues (state : State) (c : Char) (rest : List Char) : Bool :=
  let next := classify c
  if state.last == .carriageReturn && next == .lineFeed then true
  else if state.last.isSeparator then false
  else if next.attaches then true
  else
    match state.ending with
    | .none => true
    | ending =>
      (ending == .terminated && state.ambiguous &&
        (next == .numeric || (state.afterCased && next == .upper))) ||
      (state.ambiguous && lowerFollows (c :: rest)) ||
      next == .continues || next.isTerminator ||
      (ending != .spaced && next == .close) ||
      next == .space || next.isSeparator

/-- The rules of sentences. -/
def rules : Rules State where
  start := State.next none
  next state := State.next (some state)
  continues := State.continues

end DocIndex.Unicode.Sentence
