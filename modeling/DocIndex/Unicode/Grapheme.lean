import DocIndex.Unicode.GraphemeCodes
import DocIndex.Unicode.Rules

/-!
# Grapheme clusters

Extended grapheme clusters in the sense of Unicode Standard Annex 29. The rules look no further back
than the start of a cluster, so a text is divided into clusters by taking the first one again and
again.
-/

namespace DocIndex.Unicode.Grapheme

/-- What the cluster rules see of a character. -/
inductive Class
  | carriageReturn | lineFeed | control
  | extend | joiner | regionalIndicator | prepend | spacingMark
  | leadingJamo | vowelJamo | trailingJamo | openSyllable | closedSyllable
  | pictographic | other
  deriving DecidableEq, Repr

/-- The part that a character can play in a conjunct of consonants. -/
inductive ConjunctRole
  | consonant | linker | extender
  deriving DecidableEq, Repr

/-- The classes that are given by lists of code points. -/
def classTable : Table Class := Table.ofCodes
  [(.control, controlCodes), (.extend, extendCodes), (.prepend, prependCodes),
   (.spacingMark, spacingMarkCodes), (.leadingJamo, leadingJamoCodes),
   (.vowelJamo, vowelJamoCodes), (.trailingJamo, trailingJamoCodes),
   (.pictographic, pictographicCodes)]

/-- The conjunct roles of all characters that have one. -/
def conjunctTable : Table ConjunctRole := Table.ofCodes
  [(.consonant, conjunctConsonantCodes), (.linker, conjunctLinkerCodes),
   (.extender, conjunctExtenderCodes)]

/-- The class of a character. -/
def classify (c : Char) : Class :=
  let code := c.toNat
  if code == 0x0D then .carriageReturn
  else if code == 0x0A then .lineFeed
  else if code == 0x200D then .joiner
  else if 0x1F1E6 ≤ code && code ≤ 0x1F1FF then .regionalIndicator
  else if 0xAC00 ≤ code && code ≤ 0xD7A3 then
    if (code - 0xAC00) % 28 == 0 then .openSyllable else .closedSyllable
  else (classTable.find? c).getD .other

/-- How far a conjunct has come: after a consonant, and whether a linker has followed it. -/
inductive Conjunct
  | none | begun | linked
  deriving DecidableEq, Repr

/-- What has to be remembered of the cluster read so far. -/
structure State where
  /-- The class of the last character. -/
  last : Class
  /-- A pictograph followed by nothing but extending characters is open. -/
  pictograph : Bool
  /-- The last character is a regional indicator that has no partner before it. -/
  unpaired : Bool
  conjunct : Conjunct

/-- The state after a character that the cluster begins with or goes on with. -/
def State.next (before : Option State) (c : Char) : State :=
  let last := classify c
  { last
    pictograph :=
      last == .pictographic ||
        ((last == .extend || last == .joiner) && before.any (·.pictograph))
    unpaired := last == .regionalIndicator && ! before.any (·.unpaired)
    conjunct :=
      match conjunctTable.find? c, before.elim .none (·.conjunct) with
      | some .consonant, _ => .begun
      | some .linker, .begun | some .linker, .linked => .linked
      | some .extender, conjunct => conjunct
      | _, _ => .none }

/-- Whether a cluster goes on with the given character. -/
def State.continues (state : State) (c : Char) : Bool :=
  let next := classify c
  match state.last, next with
  | .carriageReturn, .lineFeed => true
  | .carriageReturn, _ | .lineFeed, _ | .control, _ => false
  | _, .carriageReturn | _, .lineFeed | _, .control => false
  | _, .extend | _, .joiner | _, .spacingMark => true
  | .prepend, _ => true
  | .leadingJamo, .leadingJamo | .leadingJamo, .vowelJamo | .leadingJamo, .openSyllable
  | .leadingJamo, .closedSyllable => true
  | .openSyllable, .vowelJamo | .openSyllable, .trailingJamo | .vowelJamo, .vowelJamo
  | .vowelJamo, .trailingJamo => true
  | .closedSyllable, .trailingJamo | .trailingJamo, .trailingJamo => true
  | .joiner, .pictographic => state.pictograph
  | .regionalIndicator, .regionalIndicator => state.unpaired
  | _, _ => state.conjunct == .linked && conjunctTable.find? c == some .consonant

/-- The rules of grapheme clusters. -/
def rules : Rules State where
  start := State.next none
  next state := State.next (some state)
  continues state c _ := state.continues c

end DocIndex.Unicode.Grapheme
