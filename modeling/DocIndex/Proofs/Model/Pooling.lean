import DocIndex.Model.Pooling
import DocIndex.Proofs.Json.Skip

/-!
# Reading the flags of a pooling document

The members of an object are read one by one. One that is no flag leaves the flags as they are,
whatever its value is, and one that is a flag adds its value or ends the reading. So what is read
depends on the values that are written for each flag and on nothing else of the document.
-/

namespace DocIndex.Model

open DocIndex.Json DocIndex.Text

variable {members : List (List Char × List Char)} {document : List UInt8}
  {name value text gap : List Char} {rest : List UInt8} {flags after : Flags} {flag : Flag}
  {fuel : Nat} {first : Bool}

/-- How a truth value is written. -/
def written : Bool → List Char
  | true => ['t', 'r', 'u', 'e']
  | false => ['f', 'a', 'l', 's', 'e']

/-- The key of a member as a text, where the member is given as it is written. -/
def IsNamed (member spelt : List Char × List Char) : Prop :=
  Names spelt.1 member.1 ∧ spelt.2 = member.2

/--
A document whose only value is an object with the given members, each with the text that its key
spells and with its value as it is written.
-/
def IsDocument (members : List (List Char × List Char)) (document : List UInt8) : Prop :=
  ∃ text spelt, Utf8.encode text = document ∧ IsObject spelt text ∧
    List.Forall₂ IsNamed members spelt

/-- The values that are written for a flag, in their order. -/
def given (members : List (List Char × List Char)) (flag : Flag) : List (List Char) :=
  (members.filter (·.1 = flag.key.toList)).map (·.2)

/-- A flag is given at most once, and then by a truth value; it is off if it is not given. -/
def Sets (members : List (List Char × List Char)) (flag : Flag) (on : Bool) : Prop :=
  given members flag = [written on] ∨ given members flag = [] ∧ on = false

/-- The way of pooling whose flag is the only one that is on. -/
def modeFor? (on : Flag → Bool) : Option Pooling :=
  match on .firstToken, on .mean, on .max, on .lastToken with
  | true, false, false, false => some .firstToken
  | false, true, false, false => some .mean
  | _, _, _, _ => none

/-- The report of the values of all four flags. -/
def reportOf (firstToken mean max lastToken : Bool) : String :=
  "unsupported pooling configuration PoolingConfig \x7b pooling_mode_cls_token: " ++
    toString firstToken ++ ", pooling_mode_mean_tokens: " ++ toString mean ++
    ", pooling_mode_max_tokens: " ++ toString max ++ ", pooling_mode_lasttoken: " ++
    toString lastToken ++ " \x7d"

/-- The answer to the four flags: a way of pooling, or else their report. -/
def answerFor (on : Flag → Bool) : Except String Pooling :=
  match modeFor? on with
  | some pooling => .ok pooling
  | none => .error (reportOf (on .firstToken) (on .mean) (on .max) (on .lastToken))

/-! ### Values and members -/

/-- The truth value that is written, if it is one. -/
def truth? (value : List Char) : Option Bool :=
  if value = written true then some true
  else if value = written false then some false
  else none

theorem readFlag_item (isItem : IsItem value text) (rest : List UInt8) :
    ∃ behind, IsGap behind ∧ (readFlag (Utf8.encode text ++ rest)).toOption =
      (truth? value).map fun on => (on, Utf8.encode behind ++ rest) := by
  rcases isItem with @⟨_, before, behind, isValue, gap, gapBehind⟩
  refine ⟨behind, gapBehind, ?_⟩
  rw [Utf8.encode_append, Utf8.encode_append, List.append_assoc, List.append_assoc, readFlag,
    skipBlanks_gap gap]
  rcases isValue.eq_or_exists_cons with rfl | rfl | ⟨c, later, rfl, other⟩
  · rfl
  · rfl
  · have marks : c.toNat < 128 ∧ isBlankByte c.toUInt8 = false ∧
        (c.toUInt8 == 't'.toUInt8) = false ∧ (c.toUInt8 == 'f'.toUInt8) = false := by
      rcases other with known | decimal
      · have table : ∀ c ∈ ['n', '-', '"', '[', '{'], c.toNat < 128 ∧
            isBlankByte c.toUInt8 = false ∧ (c.toUInt8 == 't'.toUInt8) = false ∧
            (c.toUInt8 == 'f'.toUInt8) = false := List.all_iff_forall_prop.mp (by decide)
        exact table c known
      · have digit := isDigit_toUInt8 decimal
        exact ⟨toNat_lt_of_isDigit decimal, isBlankByte_of_isDigit digit,
          beq_eq_false_of_isDigit digit rfl, beq_eq_false_of_isDigit digit rfl⟩
    have noTruth : truth? (c :: later) = none := by
      rw [truth?, written, written, if_neg, if_neg]
      · intro same
        rw [(List.cons.inj same).1] at marks
        simp at marks
      · intro same
        rw [(List.cons.inj same).1] at marks
        simp at marks
    rw [noTruth, Utf8.encode_cons_of_ascii marks.1, List.cons_append,
      skipBlanks_of_solid marks.2.1]
    simp only [marks, Bool.false_eq_true, if_false]
    rfl

/-- The flags with those of one more member; none where it does not fit. -/
def Flags.add? (flags : Flags) (member : List Char × List Char) : Option Flags :=
  match Flag.ofKey? member.1 with
  | none => some flags
  | some flag =>
    if (flags.lookup flag).isSome then none
    else (truth? member.2).map fun on => (flag, on) :: flags

/-- The flags from a member on, read behind the quote that opens its key. -/
def readMember (fuel : Nat) (flags : Flags) (bytes : List UInt8) : Reading Flags :=
  match stringText bytes with
  | .error fault => .error fault
  | .ok (key, rest) =>
    match Flag.ofKey? key with
    | none =>
      match (skipColon rest).bind skipValue with
      | .error fault => .error fault
      | .ok rest => readMembers fuel false flags rest
    | some flag =>
      if (flags.lookup flag).isSome then .error (repeated flag rest)
      else match (skipColon rest).bind readFlag with
        | .error fault => .error fault
        | .ok (value, rest) => readMembers fuel false ((flag, value) :: flags) rest

theorem readMembers_gap (isGap : IsGap gap) (fuel : Nat) (first : Bool) (flags : Flags)
    (rest : List UInt8) : readMembers (fuel + 1) first flags (Utf8.encode gap ++ rest) =
      readMembers (fuel + 1) first flags rest := by
  rw [readMembers, readMembers, skipBlanks_gap isGap]

theorem readMembers_lead (isGap : IsGap gap) (fuel : Nat) (first : Bool) (flags : Flags)
    (rest : List UInt8) :
    readMembers (fuel + 1) first flags (lead first ++ (Utf8.encode gap ++ '"'.toUInt8 :: rest)) =
      readMember fuel flags rest := by
  cases first with
  | true =>
      rw [lead, if_pos rfl, List.nil_append, readMembers_gap isGap]
      rfl
  | false =>
      have opens : openKey (Utf8.encode gap ++ '"'.toUInt8 :: rest) = .ok rest := by
        rw [openKey, skipBlanks_gap isGap]
        rfl
      have reads : ∀ bytes, readMembers (fuel + 1) false flags (','.toUInt8 :: bytes) =
          (openKey bytes).bind (readMember fuel flags) := fun _ => rfl
      rw [lead, if_neg Bool.false_ne_true, List.singleton_append, reads, opens]
      rfl

/-- A member is read with its key and value, and then the other members. -/
theorem readMembers_member {key : List Char} (isMember : IsMember (key, value) text)
    (names : Names key name) (ends : EndsNumber rest) :
    (readMembers (fuel + 2) first flags (lead first ++ (Utf8.encode text ++ rest))).toOption =
      (flags.add? (name, value)).bind fun after =>
        (readMembers (fuel + 1) false after rest).toOption := by
  rcases isMember with @⟨_, _, item, before, behind, isKey, gap, gapBehind, isItem⟩
  rcases names with ⟨body, rfl, spells⟩
  have colon : ':'.toNat < 128 := by decide
  rw [Utf8.encode_append, Utf8.encode_append, Utf8.encode_append, Utf8.encode_cons_of_ascii colon,
    List.append_assoc, List.append_assoc, encode_string, List.append_assoc, List.cons_append,
    readMembers_lead gap, readMember, spells.stringText_eq, Flags.add?]
  simp only [skipColon_gap gapBehind]
  rcases Flag.ofKey? name with _ | flag
  · rcases skipValue_item isItem ends with ⟨gapAfter, isGapAfter, skipped⟩
    simp only [Except.bind, skipped, readMembers_gap isGapAfter]
    rfl
  · by_cases again : (flags.lookup flag).isSome = true
    · simp only [again, if_true]
      rfl
    · rcases readFlag_item isItem rest with ⟨gapAfter, isGapAfter, read⟩
      simp only [again, Bool.false_eq_true, if_false, Except.bind]
      rcases truth : truth? value with _ | on
      · rw [truth] at read
        rcases reads : readFlag (Utf8.encode item ++ rest) with fault | ⟨on, later⟩
        · rfl
        · rw [reads] at read
          contradiction
      · rw [truth] at read
        rcases reads : readFlag (Utf8.encode item ++ rest) with fault | ⟨other, later⟩
        · rw [reads] at read
          contradiction
        · rw [reads] at read
          cases read
          simp only [readMembers_gap isGapAfter]
          rfl

/-- The members are read up to the brace behind them, and each adds what it adds by itself. -/
theorem readMembers_of_isMembers {members spelt : List (List Char × List Char)}
    (isMembers : IsMembers spelt text) (named : List.Forall₂ IsNamed members spelt)
    (only : spelt = [] → first = true) (room : text.length + 2 ≤ fuel) (rest : List UInt8) :
    (readMembers fuel first flags
      (lead first ++ (Utf8.encode text ++ '}'.toUInt8 :: rest))).toOption =
        (members.foldlM Flags.add? flags).map fun after => (after, rest) := by
  -- A member leaves the comma behind it to the next one, which is then no longer the first.
  induction members generalizing spelt text fuel first flags with
  | nil =>
      cases named
      cases isMembers with
      | none isGap =>
          rcases fuel with _ | fuel
          · contradiction
          · rw [only rfl, lead, if_pos rfl, List.nil_append, readMembers_gap isGap]
            rfl
  | cons member members ih =>
      rcases member with ⟨name, value⟩
      rcases named with _ | @⟨_, ⟨key, _⟩, _, spelt, ⟨names, rfl⟩, named⟩
      rcases fuel with _ | _ | fuel
      · contradiction
      · omega
      rw [List.foldlM_cons]
      cases isMembers with
      | last isMember =>
          cases named
          have ends (later) : EndsNumber ('}'.toUInt8 :: later) := ⟨rfl, by decide, rfl⟩
          rw [readMembers_member isMember names (ends _)]
          rcases flags.add? (name, _) with _ | after
          · rfl
          · rfl
      | @more _ next text others _ isMember isMembers =>
          have comma : ','.toNat < 128 := by decide
          have ends (later) : EndsNumber (','.toUInt8 :: later) := ⟨rfl, by decide, rfl⟩
          rw [List.length_append, List.length_cons] at room
          rw [Utf8.encode_append, Utf8.encode_cons_of_ascii comma, List.append_assoc,
            List.cons_append, readMembers_member isMember names (ends _)]
          rcases flags.add? (name, _) with _ | after
          · rfl
          · exact @ih others after (fuel + 1) false _ isMembers named (by simp) (by omega)

/-- The flags of a document are those that its members add one after the other. -/
theorem toOption_read (isDocument : IsDocument members document) :
    (Flags.read document).toOption = members.foldlM Flags.add? [] := by
  rcases isDocument with ⟨text, spelt, rfl, isObject, named⟩
  rcases isObject with ⟨before, body, behind, rfl, gap, isMembers, gapBehind⟩
  have atEnd : expectEnd (Utf8.encode behind) = .ok () := by
    have blanks := skipBlanks_gap gapBehind []
    rw [List.append_nil] at blanks
    rw [expectEnd, blanks]
    rfl
  have brace : '{'.toNat < 128 ∧ '}'.toNat < 128 := by decide
  have room : body.length + 2 ≤
      (Utf8.encode body ++ '}'.toUInt8 :: Utf8.encode behind).length + 1 := by
    have := length_le_encode body
    rw [List.length_append, List.length_cons]
    omega
  have read := @readMembers_of_isMembers _ [] _ true _ _ isMembers named (fun _ => rfl) room
    (Utf8.encode behind)
  rw [lead, if_pos rfl, List.nil_append] at read
  rw [Flags.read, Utf8.encode_append, Utf8.encode_cons_of_ascii brace.1, Utf8.encode_append,
    Utf8.encode_cons_of_ascii brace.2, skipBlanks_gap gap,
    skipBlanks_of_solid rfl]
  generalize Utf8.encode body ++ '}'.toUInt8 :: Utf8.encode behind = bytes at read
  have marks : ('{'.toUInt8 == '['.toUInt8) = false := rfl
  simp only [marks, beq_self_eq_true, Bool.false_eq_true, if_false, if_true]
  generalize readMembers (bytes.length + 1) true [] bytes = reading at read
  generalize members.foldlM Flags.add? [] = after? at read
  rcases reading with fault | ⟨flags, rest⟩
  · rcases after? with _ | after
    · rfl
    · contradiction
  · rcases after? with _ | after
    · contradiction
    · cases read
      simp only [atEnd]
      rfl

/-! ### What a document gives -/

/-- The values of a flag: the one that was read, and those that are written in later members. -/
def values (flags : Flags) (members : List (List Char × List Char)) (flag : Flag) :
    List (List Char) :=
  (flags.lookup flag).toList.map written ++ given members flag

/-- What members make of the flags that were read before them. -/
inductive Adds (flags : Flags) (members : List (List Char × List Char)) : Option Flags → Prop
  /-- Every flag has the value that was read or is written. -/
  | fit {after : Flags} (all : ∀ flag, values after [] flag = values flags members flag) :
      Adds flags members (some after)
  /-- The values of a flag are too many, or not truth values. -/
  | misfit {flag : Flag}
      (bad : ∀ on? : Option Bool, values flags members flag ≠ on?.toList.map written) :
      Adds flags members none

theorem ofKey?_eq_some_iff : Flag.ofKey? name = some flag ↔ name = flag.key.toList := by
  constructor
  · intro found
    have same := List.find?_some found
    exact (eq_of_beq same).symm
  · rintro rfl
    cases flag <;> rfl

theorem truth?_eq_some_iff {on : Bool} : truth? value = some on ↔ value = written on := by
  constructor
  · intro known
    rw [truth?] at known
    split_ifs at known with isTrue isFalse
    · cases known
      exact isTrue
    · cases known
      exact isFalse
  · rintro rfl
    cases on <;> rfl

theorem given_singleton (name value : List Char) (flag : Flag) :
    given [(name, value)] flag = if Flag.ofKey? name = some flag then [value] else [] := by
  rw [given, List.filter_singleton]
  by_cases same : name = flag.key.toList
  · simp [same, ofKey?_eq_some_iff]
  · simp [same, ofKey?_eq_some_iff]

theorem given_cons (member : List Char × List Char) (members : List (List Char × List Char))
    (flag : Flag) : given (member :: members) flag = given [member] flag ++ given members flag := by
  rw [given, given, given, ← List.map_append, ← List.filter_append, List.singleton_append]

theorem values_cons (flags : Flags) (member : List Char × List Char)
    (members : List (List Char × List Char)) (flag : Flag) :
    values flags (member :: members) flag = values flags [member] flag ++ given members flag := by
  rw [values, values, given_cons, List.append_assoc]

theorem values_nil (flags : Flags) (members : List (List Char × List Char)) (flag : Flag) :
    values flags members flag = values flags [] flag ++ given members flag := by
  rw [values, values, given, given, List.filter_nil, List.map_nil, List.append_nil]

/-- One more member adds its value, or cannot stand behind the members before it. -/
theorem adds_add? (flags : Flags) (member : List Char × List Char) :
    Adds flags [member] (flags.add? member) := by
  rcases member with ⟨name, value⟩
  rw [Flags.add?]
  rcases found : Flag.ofKey? name with _ | flag
  · refine .fit fun other => ?_
    rw [values_nil flags [(name, value)], given_singleton, found, if_neg (by simp),
      List.append_nil]
  · have ofFlag : given [(name, value)] flag = [value] := by
      rw [given_singleton, found, if_pos rfl]
    rcases isSet : flags.lookup flag with _ | own
    · rcases truth : truth? value with _ | on
      · simp only [isSet, Option.isSome_none, Bool.false_eq_true, if_false, Option.map_none]
        refine @Adds.misfit _ _ flag fun on? same => ?_
        rw [values, isSet, ofFlag] at same
        rcases on? with _ | on
        · contradiction
        · have known := truth?_eq_some_iff.mpr (List.cons.inj same).1
          rw [truth] at known
          contradiction
      · simp only [isSet, Option.isSome_none, Bool.false_eq_true, if_false, Option.map_some]
        refine .fit fun other => ?_
        by_cases same : other = flag
        · subst same
          rw [values, values, isSet, ofFlag, truth?_eq_some_iff.mp truth, List.lookup_cons_self]
          rfl
        · have unlike : (other == flag) = false := beq_eq_false_iff_ne.mpr same
          rw [values_nil flags [(name, value)], given_singleton, found,
            if_neg (by simp [Ne.symm same]), List.append_nil, values, values, List.lookup_cons,
            unlike]
    · simp only [isSet, Option.isSome_some, if_true]
      refine @Adds.misfit _ _ flag fun on? same => ?_
      rw [values, isSet, ofFlag] at same
      rcases on? with _ | on
      · contradiction
      · cases (List.cons.inj same).2

/-- The members add their values one after the other, up to the first that does not fit. -/
theorem adds_foldlM (flags : Flags) (members : List (List Char × List Char)) :
    Adds flags members (members.foldlM Flags.add? flags) := by
  induction members generalizing flags with
  | nil => exact .fit fun _ => rfl
  | cons member members ih =>
      have step := adds_add? flags member
      rw [List.foldlM_cons]
      generalize flags.add? member = after? at step
      cases step with
      | @fit after all =>
          have moved (flag) :
              values after members flag = values flags (member :: members) flag := by
            rw [values_nil after members, all, values_cons flags member members]
          have run := ih after
          change Adds flags (member :: members) (members.foldlM Flags.add? after)
          generalize members.foldlM Flags.add? after = final? at run
          cases run with
          | fit allLater => exact .fit fun flag => (allLater flag).trans (moved flag)
          | @misfit flag bad =>
              refine @Adds.misfit _ _ flag fun on? => ?_
              rw [← moved]
              exact bad on?
      | @misfit flag bad =>
          -- A front of the values that does not fit already is not mended by later values.
          refine @Adds.misfit _ _ flag fun on? same => ?_
          rw [values_cons] at same
          rcases on? with _ | on
          · exact bad none (List.append_eq_nil_iff.mp same).1
          · rcases List.append_eq_singleton_iff.mp same with ⟨empty, _⟩ | ⟨single, _⟩
            · exact bad none empty
            · exact bad (some on) single

/-! ### The answer -/

theorem pooling?_eq (flags : Flags) : flags.pooling? = modeFor? flags.isOn := by
  simp only [Flags.pooling?, Flag.all, List.filter_cons, List.filter_nil, modeFor?]
  generalize flags.isOn .firstToken = firstToken
  generalize flags.isOn .mean = mean
  generalize flags.isOn .max = max
  generalize flags.isOn .lastToken = lastToken
  revert firstToken mean max lastToken
  decide

theorem message_unsupported (flags : Flags) : (PoolingFault.unsupported flags).message =
    reportOf (flags.isOn .firstToken) (flags.isOn .mean) (flags.isOn .max)
      (flags.isOn .lastToken) := by
  have fields : ∀ firstToken mean max lastToken : Bool,
      "unsupported pooling configuration " ++ ("PoolingConfig \x7b " ++ String.intercalate ", "
        [Flag.firstToken.key ++ ": " ++ toString firstToken, Flag.mean.key ++ ": " ++ toString mean,
          Flag.max.key ++ ": " ++ toString max, Flag.lastToken.key ++ ": " ++ toString lastToken]
        ++ " \x7d") = reportOf firstToken mean max lastToken := by
    decide +kernel
  exact fields _ _ _ _

theorem isOn_of_sets {on : Bool} (sets : Sets members flag on)
    (same : values flags [] flag = values [] members flag) : flags.isOn flag = on := by
  change (flags.lookup flag).toList.map written ++ [] = given members flag at same
  rw [List.append_nil] at same
  rw [Flags.isOn]
  generalize flags.lookup flag = own? at same
  rcases sets with single | ⟨absent, rfl⟩
  · rw [single] at same
    rcases own? with _ | own
    · contradiction
    · have alike : written own = written on := (List.cons.inj same).1
      have known := truth?_eq_some_iff.mpr alike
      rw [truth?_eq_some_iff.mpr rfl] at known
      exact Option.some.inj known
  · rw [absent] at same
    rcases own? with _ | own
    · rfl
    · contradiction

/-- The flags that are set are answered as they are. -/
theorem mapError_read {on : Flag → Bool} (isDocument : IsDocument members document)
    (sets : ∀ flag, Sets members flag (on flag)) :
    (Pooling.read document).mapError PoolingFault.message = answerFor on := by
  have read := toOption_read isDocument
  have adds := adds_foldlM [] members
  generalize members.foldlM Flags.add? [] = after? at read adds
  cases adds with
  | @fit flags all =>
      have isOn : flags.isOn = on := funext fun flag => isOn_of_sets (sets flag) (all flag)
      rcases given : Flags.read document with fault | found
      · rw [given] at read
        contradiction
      · rw [given] at read
        cases read
        rw [Pooling.read, given, ← isOn, answerFor]
        simp only [pooling?_eq]
        rcases modeFor? flags.isOn with _ | pooling
        · exact congrArg Except.error (message_unsupported flags)
        · rfl
  | @misfit flag bad =>
      -- Each flag that is set has one truth value or none, so no member is refused.
      exfalso
      rcases sets flag with single | ⟨absent, _⟩
      · exact bad (some (on flag)) single
      · exact bad none absent

/--
A pooling document is answered by its four flags alone: by the way of pooling that is the only flag
on, or by a report of all four. So every other document that gives the same flags has the same
answer. A document that gives a flag twice, or no truth value for it, cannot be read.
-/
theorem read_of_isDocument (isDocument : IsDocument members document) :
    (∀ on : Flag → Bool, (∀ flag, Sets members flag (on flag)) →
      (Pooling.read document).mapError PoolingFault.message = answerFor on ∧
      ∀ others other, IsDocument others other → (∀ flag, given others flag = given members flag) →
        (Pooling.read other).mapError PoolingFault.message = answerFor on) ∧
    ∀ flag, (2 ≤ (given members flag).length ∨
        ∃ value ∈ given members flag, ∀ on, value ≠ written on) →
      ∃ fault, Pooling.read document = .error (.unreadable document fault) := by
  constructor
  · intro on sets
    refine ⟨mapError_read isDocument sets, fun others other isOther same => ?_⟩
    refine mapError_read isOther fun flag => ?_
    rw [Sets, same]
    exact sets flag
  · intro flag unfit
    have read := toOption_read isDocument
    have adds := adds_foldlM [] members
    generalize members.foldlM Flags.add? [] = after? at read adds
    cases adds with
    | @fit flags all =>
        exfalso
        have same := all flag
        change (flags.lookup flag).toList.map written ++ [] = given members flag at same
        rw [← same, List.append_nil] at unfit
        generalize flags.lookup flag = own? at unfit
        rcases unfit with several | ⟨value, member, other⟩
        · rcases own? with _ | own
          · contradiction
          · simp at several
        · rcases List.mem_map.mp member with ⟨own, _, rfl⟩
          exact other own rfl
    | misfit bad =>
        rcases found : Flags.read document with fault | flags
        · exact ⟨fault, by rw [Pooling.read, found]⟩
        · rw [found] at read
          contradiction

/-- The members of a document with a flag whose key has an escape, behind another member. -/
def escapedMembers : List (List Char × List Char) :=
  [(['a'], "[null, \x7b\x7d]".toList), (Flag.firstToken.key.toList, written true)]

/-- The document with these members. -/
def escapedDocument : String :=
  "\x7b \"a\": [null, \x7b\x7d],\n\"pooling_mode\\u005fcls_token\" : true\x7d"

theorem isDocument_escaped : IsDocument escapedMembers (Utf8.ofString escapedDocument) := by
  have space : IsGap [' '] := by simp [IsGap]
  have lineFeed : IsGap ['\n'] := by simp [IsGap]
  have key : Names "\"a\"".toList ['a'] :=
    ⟨['a'], rfl, .plain (by decide) (by decide) (by decide) .nil⟩
  have opening : ∀ c ∈ "pooling_mode".toList, 0x20 ≤ c.toNat ∧ c ≠ '"' ∧ c ≠ '\\' :=
    List.all_iff_forall_prop.mp (by decide)
  have ending : ∀ c ∈ "cls_token".toList, 0x20 ≤ c.toNat ∧ c ≠ '"' ∧ c ≠ '\\' :=
    List.all_iff_forall_prop.mp (by decide)
  have underscore : ∀ digit ∈ ['0', '0', '5', 'f'], IsHexDigit digit := by
    unfold IsHexDigit
    exact List.all_iff_forall_prop.mp (by decide)
  have flagKey : Names "\"pooling_mode\\u005fcls_token\"".toList Flag.firstToken.key.toList := by
    refine ⟨"pooling_mode\\u005fcls_token".toList, rfl, ?_⟩
    have last := Spells.plain_append ending .nil
    have middle := Spells.code (c := '_') underscore (by decide) last
    exact Spells.plain_append opening middle
  have null := IsItem.around (@IsValue.word "null" (by decide)) isGap_nil isGap_nil
  have object := IsItem.around (.object (.none isGap_nil)) space isGap_nil
  have list := IsItem.around (.list (.more null (.last object))) space isGap_nil
  have truth := IsItem.around (@IsValue.word "true" (by decide)) space isGap_nil
  have member := IsMember.around key.isString space isGap_nil list
  have flag := IsMember.around flagKey.isString lineFeed space truth
  refine ⟨escapedDocument.toList, _, rfl, ⟨[], _, [], ?_, isGap_nil, .more member (.last flag),
    isGap_nil⟩, ?_⟩
  · rfl
  · exact .cons ⟨key, rfl⟩ (.cons ⟨flagKey, rfl⟩ .nil)

/-- The escaped key is the key of the flag, and the other member has no effect. -/
theorem read_escapedDocument : IsDocument escapedMembers (Utf8.ofString escapedDocument) ∧
    (Pooling.read (Utf8.ofString escapedDocument)).mapError PoolingFault.message =
      .ok .firstToken := by
  refine ⟨isDocument_escaped, ?_⟩
  refine ((read_of_isDocument isDocument_escaped).1 (· == .firstToken) ?_).1.trans rfl
  intro flag
  cases flag with
  | firstToken => exact .inl rfl
  | mean | max | lastToken => exact .inr ⟨rfl, rfl⟩

end DocIndex.Model
