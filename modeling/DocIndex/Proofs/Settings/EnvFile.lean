import Mathlib
import DocIndex.Proofs.Settings.Lines
import DocIndex.Proofs.Settings.Overrides

/-!
# What a file of variables decides

A file of variables gives values to variables that have no text. A variable takes the value of its
first assignment before the first malformed line. What stands behind that assignment has no effect
on the variable, and what stands behind the malformed line has none at all. So a setting whose
variable is set to a text is the same whatever the file holds, even where the text is blank; but a
variable that is set to bytes without a text is left to the file.
-/

namespace DocIndex.Settings

open DocIndex.Files DocIndex.Text

variable {environment between after afterOther : Environment} {lookup : Lookup} {line : List UInt8}
  {lines before later others : List (List UInt8)} {name value : String} {value? : Option String}

/-- What a line of the file means to a reader of bytes; a line that is no text is malformed. -/
def lineOf (lookup : Lookup) (line : List UInt8) : Line :=
  match Utf8.decode? line with
  | none => .malformed
  | some text => .read lookup text

/-- A line that ends the file, whatever the variables are. -/
def IsMalformed (line : List UInt8) : Prop := ∀ lookup, lineOf lookup line = .malformed

/-- A line that assigns a value to the variable, whatever the variables are. -/
def Assigns (name : String) (line : List UInt8) : Prop :=
  ∀ lookup, ∃ value, lineOf lookup line = .assignment name value

/-- The values of variables that a process may have: the byte 0 ends a value. -/
def IsSettable (environment : Environment) : Prop :=
  ∀ name bytes, environment name = some bytes → 0 ∉ bytes

/-- The value that lines give to a variable without a text, if they give it one. -/
inductive FirstValue (environment : Environment) (name : String) (lines : List (List UInt8)) :
    Option String → Prop
  /-- All lines can be read, and none is an assignment to the variable. -/
  | none (passed : ∀ line ∈ lines, ¬ IsMalformed line ∧ ¬ Assigns name line) :
      FirstValue environment name lines .none
  /-- The first malformed line stands before any assignment to the variable. -/
  | cut {before later : List (List UInt8)} {line : List UInt8}
      (lines_eq : lines = before ++ line :: later)
      (passed : ∀ line ∈ before, ¬ IsMalformed line ∧ ¬ Assigns name line)
      (malformed : IsMalformed line) : FirstValue environment name lines .none
  /-- The first assignment, whose value may name the variables that are set by then. -/
  | assigned {before later : List (List UInt8)} {line : List UInt8} {between : Environment}
      {value : String} (lines_eq : lines = before ++ line :: later)
      (passed : ∀ line ∈ before, ¬ IsMalformed line ∧ ¬ Assigns name line)
      (reached : applyLines environment before = .ok between)
      (assigns : lineOf between.text? line = .assignment name value) :
      FirstValue environment name lines (some value)

theorem bare_lineOf (lookup other : Lookup) (line : List UInt8) :
    (lineOf lookup line).bare = (lineOf other line).bare := by
  rw [lineOf, lineOf]
  rcases Utf8.decode? line with _ | text
  · rfl
  · exact bare_read lookup other text

theorem isMalformed_of_lineOf (malformed : lineOf lookup line = .malformed) :
    IsMalformed line := by
  intro other
  have same := bare_lineOf lookup other line
  rw [malformed] at same
  rcases stated : lineOf other line with _ | ⟨name, value⟩ | _
  · rw [stated] at same
    contradiction
  · rw [stated] at same
    contradiction
  · rfl

theorem assigns_of_lineOf (assigns : lineOf lookup line = .assignment name value) :
    Assigns name line := by
  intro other
  have same := bare_lineOf lookup other line
  rw [assigns] at same
  rcases stated : lineOf other line with _ | ⟨otherName, held⟩ | _
  · rw [stated] at same
    contradiction
  · rw [stated] at same
    cases same
    exact ⟨held, rfl⟩
  · rw [stated] at same
    contradiction

theorem applyLines_cons (environment : Environment) (line : List UInt8)
    (later : List (List UInt8)) : applyLines environment (line :: later) =
      match lineOf environment.text? line with
      | .empty => applyLines environment later
      | .malformed => .ok environment
      | .assignment name value =>
        if (environment.text? name).isNone && value.toList.contains '\x00' then .error .abandoned
        else applyLines (assign environment name value) later := by
  rw [applyLines, lineOf]
  rcases Utf8.decode? line with _ | text
  · rfl
  · rfl

@[simp]
theorem text?_ofTexts (lookup : Lookup) : (Environment.ofTexts lookup).text? = lookup := by
  funext name
  rw [Environment.text?, Environment.ofTexts]
  rcases lookup name with _ | value
  · rfl
  · exact Utf8.toString?_ofString value

@[simp]
theorem text?_assign_self (environment : Environment) (name value : String) :
    (assign environment name value).text? name = some ((environment.text? name).getD value) := by
  rcases found : environment.text? name with _ | held
  · have added : assign environment name value name = some (Utf8.ofString value) := by
      simp [assign, found]
    rw [Environment.text?, added]
    exact Utf8.toString?_ofString value
  · have kept : assign environment name value name = environment name := by
      simp [assign, found]
    rw [Environment.text?, kept]
    exact found

@[simp]
theorem text?_assign_of_ne {other : String} (apart : other ≠ name) (environment : Environment)
    (value : String) : (assign environment name value).text? other = environment.text? other := by
  simp [Environment.text?, assign, apart]

theorem text?_assign_of_isSome (isSet : environment.text? name = some value)
    (other assigned : String) : (assign environment other assigned).text? name = some value := by
  by_cases same : name = other
  · subst same
    simp [isSet]
  · simp [same, isSet]

/-- A variable that has a text keeps it. -/
theorem keeps_of_applyLines (applied : applyLines environment lines = .ok after)
    (isSet : environment.text? name = some value) : after.text? name = some value := by
  induction lines generalizing environment with
  | nil =>
      cases applied
      exact isSet
  | cons line later ih =>
      rw [applyLines_cons] at applied
      rcases stated : lineOf environment.text? line with _ | ⟨other, assigned⟩ | _
      · rw [stated] at applied
        exact ih applied isSet
      · simp only [stated] at applied
        split_ifs at applied
        exact ih applied (text?_assign_of_isSome isSet other assigned)
      · rw [stated] at applied
        cases applied
        exact isSet

/-- What stands behind a line that ends the file or sets the variable has no effect on it. -/
theorem eq_of_applyLines (stops : IsMalformed line ∨ Assigns name line)
    (applied : applyLines environment (before ++ line :: later) = .ok after)
    (appliedOther : applyLines environment (before ++ line :: others) = .ok afterOther) :
    after.text? name = afterOther.text? name := by
  -- Both runs have the same variables up to the line, as they read the same lines in front of it.
  induction before generalizing environment with
  | nil =>
      rw [List.nil_append, applyLines_cons] at applied appliedOther
      rcases stops with malformed | assigns
      · rw [malformed environment.text?] at applied appliedOther
        cases applied
        cases appliedOther
        rfl
      · rcases assigns environment.text? with ⟨value, stated⟩
        simp only [stated] at applied appliedOther
        split_ifs at applied appliedOther
        have isSet := text?_assign_self environment name value
        rw [keeps_of_applyLines applied isSet, keeps_of_applyLines appliedOther isSet]
  | cons first before ih =>
      rw [List.cons_append, applyLines_cons] at applied appliedOther
      rcases stated : lineOf environment.text? first with _ | ⟨other, assigned⟩ | _
      · rw [stated] at applied appliedOther
        exact ih applied appliedOther
      · simp only [stated] at applied appliedOther
        split_ifs at applied appliedOther
        exact ih applied appliedOther
      · rw [stated] at applied appliedOther
        cases applied
        cases appliedOther
        rfl

theorem IsSettable.gives_text? (settable : IsSettable environment) :
    Gives environment.text? (· ≠ '\x00') := by
  rintro name value isSet x member rfl
  rcases Option.bind_eq_some_iff.mp isSet with ⟨bytes, found, held⟩
  rcases Option.map_eq_some_iff.mp held with ⟨text, decoded, rfl⟩
  rw [String.toList_ofList] at member
  exact settable name bytes found (Utf8.zero_mem_of_decode? decoded member)

theorem IsSettable.assign (settable : IsSettable environment) (good : '\x00' ∉ value.toList)
    (name : String) : IsSettable (assign environment name value) := by
  intro other bytes isSet
  rw [Settings.assign] at isSet
  split_ifs at isSet
  · cases isSet
    intro zero
    exact good (Utf8.mem_of_mem_encode zero (by decide))
  · exact settable other bytes isSet

/-- A value that is read from bytes without the byte 0 can be set. -/
theorem not_mem_of_lineOf (settable : IsSettable environment) (plain : 0 ∉ line)
    (assigns : lineOf environment.text? line = .assignment name value) :
    '\x00' ∉ value.toList := by
  rw [lineOf] at assigns
  rcases decoded : Utf8.decode? line with _ | text
  · rw [decoded] at assigns
    contradiction
  · rw [decoded] at assigns
    have good : ∀ x ∈ text, x ≠ '\x00' := by
      rintro x member rfl
      exact plain (Utf8.zero_mem_of_decode? decoded member)
    exact fun member =>
      allowed_of_read settable.gives_text? good (by decide) assigns _ member rfl

/-- A line that does not concern a variable may stand in front of those that give it a value. -/
theorem FirstValue.cons (passed : ¬ IsMalformed line ∧ ¬ Assigns name line)
    (reach : ∀ before, applyLines environment (line :: before) = applyLines between before)
    (first : FirstValue between name later value?) :
    FirstValue environment name (line :: later) value? := by
  cases first with
  | none passedLater => exact .none (List.forall_mem_cons.mpr ⟨passed, passedLater⟩)
  | cut lines_eq passedBefore malformed =>
      exact .cut (congrArg (line :: ·) lines_eq) (List.forall_mem_cons.mpr ⟨passed, passedBefore⟩)
        malformed
  | assigned lines_eq passedBefore reached assigns =>
      exact .assigned (congrArg (line :: ·) lines_eq)
        (List.forall_mem_cons.mpr ⟨passed, passedBefore⟩) ((reach _).trans reached) assigns

/-- Lines are applied without a failure, and give each variable without a text its first value. -/
theorem exists_applyLines (settable : IsSettable environment) (plain : ∀ line ∈ lines, 0 ∉ line) :
    ∃ after, applyLines environment lines = .ok after ∧
      ∀ name, environment.text? name = none →
        FirstValue environment name lines (after.text? name) := by
  induction lines generalizing environment with
  | nil =>
      refine ⟨environment, rfl, fun name unset => ?_⟩
      rw [unset]
      exact .none fun _ member => absurd member List.not_mem_nil
  | cons line later ih =>
      rw [List.forall_mem_cons] at plain
      rcases stated : lineOf environment.text? line with _ | ⟨other, value⟩ | _
      · rcases ih settable plain.2 with ⟨after, applied, first⟩
        have goesOn (before) : applyLines environment (line :: before) =
            applyLines environment before := by
          rw [applyLines_cons, stated]
        refine ⟨after, (goesOn later).trans applied, fun name unset => ?_⟩
        refine (first name unset).cons ⟨fun malformed => ?_, fun assigns => ?_⟩ goesOn
        · rw [malformed environment.text?] at stated
          contradiction
        · rcases assigns environment.text? with ⟨value, assigned⟩
          rw [assigned] at stated
          contradiction
      · have good := not_mem_of_lineOf settable plain.1 stated
        rcases ih (settable.assign good other) plain.2 with ⟨after, applied, first⟩
        have goesOn (before) : applyLines environment (line :: before) =
            applyLines (assign environment other value) before := by
          rw [applyLines_cons, stated]
          simp [good]
        refine ⟨after, (goesOn later).trans applied, fun name unset => ?_⟩
        by_cases same : name = other
        · -- The first assignment is here, and the later lines find the variable set.
          subst same
          have isSet := text?_assign_self environment name value
          rw [keeps_of_applyLines applied isSet, unset, Option.getD_none]
          exact .assigned (List.nil_append (line :: later)).symm
            (fun _ member => absurd member List.not_mem_nil) rfl stated
        · have unsetToo := (text?_assign_of_ne same environment value).trans unset
          refine (first name unsetToo).cons ⟨fun malformed => ?_, fun assigns => ?_⟩ goesOn
          · rw [malformed environment.text?] at stated
            contradiction
          · rcases assigns environment.text? with ⟨held, assigned⟩
            rw [assigned] at stated
            cases stated
            exact same rfl
      · refine ⟨environment, by rw [applyLines_cons, stated], fun name unset => ?_⟩
        rw [unset]
        exact .cut (List.nil_append (line :: later)).symm
          (fun _ member => absurd member List.not_mem_nil) (isMalformed_of_lineOf stated)

theorem mem_of_mem_splitLines {bytes : List UInt8} (member : line ∈ splitLines bytes) :
    ∀ byte ∈ line, byte ∈ bytes := by
  induction bytes generalizing line with
  | nil =>
      rw [List.mem_singleton.mp member]
      exact List.forall_mem_nil _
  | cons first later ih =>
      have deeper {other : List UInt8} (inLater : other ∈ splitLines later) :
          ∀ byte ∈ other, byte ∈ first :: later := fun byte inOther =>
        List.mem_cons_of_mem first (ih inLater byte inOther)
      rw [splitLines] at member
      split_ifs at member
      · rcases List.mem_cons.mp member with rfl | inLater
        · exact List.forall_mem_nil _
        · exact deeper inLater
      · split at member
        · rw [List.mem_singleton.mp member]
          simp
        · rename_i front rest lines_eq
          rw [lines_eq] at deeper
          rcases List.mem_cons.mp member with rfl | inRest
          · exact List.forall_mem_cons.mpr ⟨List.mem_cons_self, deeper List.mem_cons_self⟩
          · exact deeper (List.mem_cons_of_mem front inRest)

/-- The lines of the file of variables for the working folder; none where there is no file. -/
def linesFor (files : FileSystem) : List (List UInt8) :=
  ((fileFor files files.working.reverse).map splitLines).getD []

theorem configFor_eq (files : FileSystem) (environment : Environment) :
    configFor files environment =
      (applyLines environment (linesFor files)).map fun after =>
        Config.standard.withOverrides after.text? := by
  rw [configFor, linesFor]
  rcases fileFor files files.working.reverse with _ | contents
  · rfl
  · rfl

/-- Where the value of a variable comes from: its own text, or else the file. -/
inductive Decides (environment : Environment) (lines : List (List UInt8)) (name : String) :
    Option String → Prop
  | environment {value : String} (isSet : environment.text? name = some value) :
      Decides environment lines name (some value)
  | file {value? : Option String} (unset : environment.text? name = none)
      (first : FirstValue environment name lines value?) : Decides environment lines name value?

/-- The configuration for variables and lines of a file. -/
structure IsConfigFor (environment : Environment) (lines : List (List UInt8)) (config : Config) :
    Prop where
  others : AgreeBesidesPaths config .standard
  settings : ∀ setting : Setting, ∃ value?, Decides environment lines setting.key value? ∧
    setting.path? config = setting.chosen (Setting.counted? value?)

theorem exists_configFor {files : FileSystem} (settable : IsSettable environment)
    (plain : ∀ contents, fileFor files files.working.reverse = some contents → 0 ∉ contents) :
    ∃ after, applyLines environment (linesFor files) = .ok after ∧
      configFor files environment = .ok (Config.standard.withOverrides after.text?) ∧
      IsConfigFor environment (linesFor files) (Config.standard.withOverrides after.text?) := by
  have plainLines : ∀ line ∈ linesFor files, 0 ∉ line := by
    intro line member zero
    rw [linesFor] at member
    rcases found : fileFor files files.working.reverse with _ | contents
    · rw [found] at member
      contradiction
    · rw [found, Option.map_some, Option.getD_some] at member
      exact plain contents found (mem_of_mem_splitLines member 0 zero)
  rcases exists_applyLines settable plainLines with ⟨after, applied, first⟩
  refine ⟨after, applied, ?_, agreeBesidesPaths_foldl [after.text?] .standard, fun setting => ?_⟩
  · rw [configFor_eq, applied]
    rfl
  · refine ⟨after.text? setting.key, ?_, setting.path?_withOverrides_standard after.text?⟩
    rcases isSet : environment.text? setting.key with _ | value
    · exact .file isSet (first setting.key isSet)
    · rw [keeps_of_applyLines applied isSet]
      exact .environment isSet

/--
Two file systems give two configurations. Both have everything but the paths as by default, and each
setting by the text of its variable, or else by the first value that the file gives the variable. So
they agree on the settings whose variables have a text, and where their files agree up to a line
that is malformed or assigns to a variable, they agree on what the variable decides.
-/
theorem configFor_influence {files other : FileSystem} (settable : IsSettable environment)
    (plain : ∀ contents, fileFor files files.working.reverse = some contents → 0 ∉ contents)
    (plainOther : ∀ contents, fileFor other other.working.reverse = some contents →
      0 ∉ contents) :
    ∃ config configOther, configFor files environment = .ok config ∧
      configFor other environment = .ok configOther ∧
      IsConfigFor environment (linesFor files) config ∧
      IsConfigFor environment (linesFor other) configOther ∧
      ∀ setting : Setting,
        ((environment.text? setting.key).isSome →
          setting.path? config = setting.path? configOther) ∧
        ∀ before line later laterOther, linesFor files = before ++ line :: later →
          linesFor other = before ++ line :: laterOther →
          IsMalformed line ∨ Assigns setting.key line →
            setting.path? config = setting.path? configOther := by
  rcases exists_configFor settable plain with ⟨after, applied, given, isConfig⟩
  rcases exists_configFor settable plainOther with ⟨afterOther, appliedOther, givenOther, isOther⟩
  refine ⟨_, _, given, givenOther, isConfig, isOther, fun setting => ⟨fun isSet => ?_, ?_⟩⟩
  · rcases Option.isSome_iff_exists.mp isSet with ⟨value, isSet⟩
    rw [setting.path?_withOverrides_standard, setting.path?_withOverrides_standard,
      Setting.given?, Setting.given?, keeps_of_applyLines applied isSet,
      keeps_of_applyLines appliedOther isSet]
  · intro before line later laterOther lines_eq linesOther_eq stops
    rw [lines_eq] at applied
    rw [linesOther_eq] at appliedOther
    rw [setting.path?_withOverrides_standard, setting.path?_withOverrides_standard,
      Setting.given?, Setting.given?, eq_of_applyLines stops applied appliedOther]

/-- A working folder with a file of variables that holds the given text. -/
def folderWith (text : String) : FileSystem :=
  ⟨.folder [(fileName, .file (Utf8.ofString text))], []⟩

theorem not_mem_of_fileFor_folderWith {text : String} (plain : 0 ∉ Utf8.ofString text) :
    ∀ contents, fileFor (folderWith text) [] = some contents → 0 ∉ contents := by
  intro contents given
  have found : fileFor (folderWith text) [] = some (Utf8.ofString text) := by
    rw [folderWith]
    generalize Utf8.ofString text = bytes
    cbv
  rw [found] at given
  cases given
  exact plain

/-- A variable that is blank, and none else. -/
def blankPersistDir : Environment := .ofTexts fun name =>
  if name == "PREBUILD_PERSIST_DIR" then some " " else none

theorem isSettable_blankPersistDir : IsSettable blankPersistDir := by
  intro name bytes isSet
  rw [blankPersistDir, Environment.ofTexts] at isSet
  split_ifs at isSet <;> cases isSet
  decide

/-- The file ends at a malformed line. -/
def endsMalformed : String := "PREBUILD_PERSIST_DIR=p\nPREBUILD_MODEL_DIR=m\n?\n"

/-- The file assigns to a variable for the second time. -/
def assignsTwice : String :=
  "PREBUILD_PERSIST_DIR=p\nPREBUILD_MODEL_DIR=m\nPREBUILD_MODEL_DIR=n"

theorem configFor_influence_of_twoFiles :
    ∃ config configOther, configFor (folderWith endsMalformed) blankPersistDir = .ok config ∧
      configFor (folderWith assignsTwice) blankPersistDir = .ok configOther ∧
      Setting.persistDir.path? config = some (.ofString "/app/docs_index") ∧
      Setting.persistDir.path? config = Setting.persistDir.path? configOther ∧
      Setting.modelDir.path? config = Setting.modelDir.path? configOther := by
  rcases configFor_influence isSettable_blankPersistDir
    (not_mem_of_fileFor_folderWith (by decide : 0 ∉ Utf8.ofString endsMalformed))
    (not_mem_of_fileFor_folderWith (by decide : 0 ∉ Utf8.ofString assignsTwice)) with
    ⟨config, configOther, given, givenOther, isConfig, _, agree⟩
  have assigns : Assigns "PREBUILD_MODEL_DIR" (Utf8.ofString "PREBUILD_MODEL_DIR=m") :=
    @assigns_of_lineOf blankPersistDir.text? _ _ "m" (by cbv)
  have blank : blankPersistDir.text? Setting.persistDir.key = some " " :=
    congrFun (text?_ofTexts _) _
  refine ⟨config, configOther, given, givenOther, ?_, (agree .persistDir).1 (by simp [blank]), ?_⟩
  · rcases isConfig.settings .persistDir with ⟨value?, decides, path_eq⟩
    rcases decides with @⟨value, isSet⟩ | ⟨unset, _⟩
    · cases blank.symm.trans isSet
      exact path_eq
    · rw [blank] at unset
      contradiction
  · exact (agree .modelDir).2 [Utf8.ofString "PREBUILD_PERSIST_DIR=p"] _
      [Utf8.ofString "?", []] [Utf8.ofString "PREBUILD_MODEL_DIR=n"] (by cbv) (by cbv)
      (.inr assigns)

/-- A variable that is set to a byte that holds no text, and none else. -/
def brokenPersistDir : Environment := fun name =>
  if name == "PREBUILD_PERSIST_DIR" then some [0xFF] else none

/-- A variable that is set, but to no text, is left to the file, and to the default without one. -/
theorem configFor_differs_without_text :
    (brokenPersistDir Setting.persistDir.key).isSome ∧
      ∃ config configOther,
        configFor (folderWith "PREBUILD_PERSIST_DIR=p") brokenPersistDir = .ok config ∧
          configFor ⟨.emptyFolder, []⟩ brokenPersistDir = .ok configOther ∧
          Setting.persistDir.path? config ≠ Setting.persistDir.path? configOther := by
  have noText : brokenPersistDir.text? Setting.persistDir.key = none := by cbv
  have assigns : lineOf brokenPersistDir.text? (Utf8.ofString "PREBUILD_PERSIST_DIR=p") =
      .assignment Setting.persistDir.key "p" := by cbv
  have lines : linesFor (folderWith "PREBUILD_PERSIST_DIR=p") =
      [Utf8.ofString "PREBUILD_PERSIST_DIR=p"] := by cbv
  have missing : linesFor ⟨.emptyFolder, []⟩ = [] := by cbv
  let after := assign brokenPersistDir Setting.persistDir.key "p"
  refine ⟨rfl, Config.standard.withOverrides after.text?,
    Config.standard.withOverrides brokenPersistDir.text?, ?_, ?_, ?_⟩
  · rw [configFor_eq, lines, applyLines_cons, assigns]
    simp only [noText]
    rfl
  · rw [configFor_eq, missing]
    rfl
  · rw [Setting.path?_withOverrides_standard, Setting.path?_withOverrides_standard,
      Setting.given?, Setting.given?, text?_assign_self, noText]
    decide

end DocIndex.Settings
