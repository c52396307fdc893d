import DocIndex.Settings.Config

/-!
# Overridden settings

Four settings of a configuration are paths that variables override, each by a variable of its own. A
variable counts where it is set to more than whitespace, and its value is then taken as it is
spelt. However often overrides are applied, each setting is what its variable has been set to in the
latest step in which it counted, and everything else of the configuration stays as it was.
-/

namespace DocIndex.Settings

open DocIndex.Files DocIndex.Text

/-- A path of a configuration that a variable overrides. -/
inductive Setting
  | persistDir
  | helpFile
  | modelDir
  | cloneDir
  deriving DecidableEq, Repr

/-- Configurations that differ in paths alone. -/
structure AgreeBesidesPaths (config other : Config) : Prop where
  collection : config.collection = other.collection
  model : config.model = other.model
  sources : config.sources = other.sources
  limits : config.limits = other.limits

namespace Setting

/-- The name of the variable that overrides a setting. -/
def key : Setting → String
  | persistDir => "PREBUILD_PERSIST_DIR"
  | helpFile => "PREBUILD_HELP_FILE"
  | modelDir => "PREBUILD_MODEL_DIR"
  | cloneDir => "PREBUILD_CLONE_DIR"

/-- What a configuration has at a setting; the folder for clones may be left open. -/
def path? (config : Config) : Setting → Option Path
  | persistDir => some config.persistDir
  | helpFile => some config.helpFile
  | modelDir => some config.modelDir
  | cloneDir => config.cloneDir

/-- The value of a variable, where it is more than whitespace. -/
def counted? (value? : Option String) : Option String :=
  value?.filter fun value => ! isBlank value.toList

/-- What the variables give a setting. -/
def given? (setting : Setting) (lookup : Lookup) : Option String :=
  counted? (lookup setting.key)

/-- What stands at a setting for which the given value counts, or else by default. -/
def chosen (setting : Setting) : Option String → Option Path
  | some value => some ⟨Utf8.ofString value⟩
  | none => setting.path? .standard

theorem override?_eq (lookup : Lookup) (name : String) :
    Config.override? lookup name = (counted? (lookup name)).map .ofString := by
  rcases value_eq : lookup name with _ | value
  · simp only [Config.override?, value_eq]
    rfl
  · by_cases blank : isBlank value.toList = true
    · simp [Config.override?, counted?, value_eq, blank, Option.filter]
    · simp [Config.override?, counted?, value_eq, blank, Option.filter]

/-- One step leaves a setting as it is unless the variable of the setting counts. -/
theorem path?_withOverrides (setting : Setting) (config : Config) (lookup : Lookup) :
    setting.path? (config.withOverrides lookup) =
      ((setting.given? lookup).map .ofString).or (setting.path? config) := by
  rw [given?, ← override?_eq]
  cases setting with
  | cloneDir => rfl
  | persistDir | helpFile | modelDir =>
      simp only [path?, key, Config.withOverrides]
      rcases Config.override? lookup _ with _ | path
      · rfl
      · rfl

/-- After all steps a setting is what it is after the latest one in which its variable counts. -/
theorem path?_foldl (setting : Setting) (history : List Lookup) (config : Config) :
    setting.path? (history.foldl Config.withOverrides config) =
      ((history.filterMap setting.given?).getLast?.map .ofString).or (setting.path? config) := by
  induction history generalizing config with
  | nil => rfl
  | cons lookup later ih =>
      -- The first step counts only where no later one does.
      rw [List.foldl_cons, ih, path?_withOverrides]
      rcases value_eq : setting.given? lookup with _ | value
      · rw [List.filterMap_cons_none value_eq]
        rfl
      · rw [List.filterMap_cons_some value_eq, List.getLast?_cons]
        rcases (later.filterMap setting.given?).getLast? with _ | latest
        · rfl
        · rfl

theorem chosen_eq (setting : Setting) (value? : Option String) :
    setting.chosen value? = (value?.map .ofString).or (setting.path? .standard) := by
  cases value? with
  | none => rfl
  | some value => rfl

theorem path?_withOverrides_standard (setting : Setting) (lookup : Lookup) :
    setting.path? (Config.standard.withOverrides lookup) =
      setting.chosen (setting.given? lookup) := by
  rw [path?_withOverrides, chosen_eq]

end Setting

theorem agreeBesidesPaths_foldl (history : List Lookup) (config : Config) :
    AgreeBesidesPaths (history.foldl Config.withOverrides config) config := by
  induction history generalizing config with
  | nil => exact ⟨rfl, rfl, rfl, rfl⟩
  | cons lookup later ih =>
      rcases ih (config.withOverrides lookup) with ⟨collection, model, sources, limits⟩
      exact ⟨collection, model, sources, limits⟩

/--
After any steps, each setting is the value of its variable, as it is spelt, in the latest step in
which that was more than whitespace, and the default where there is none. So it depends on its own
variable alone, a folder for clones stays, and all but the paths is as by default.
-/
theorem overrides_in_turn (history : List Lookup) :
    let after := fun steps : List Lookup => steps.foldl Config.withOverrides .standard
    AgreeBesidesPaths (after history) .standard ∧
      (∀ setting : Setting, setting.path? (after history) =
        setting.chosen (history.filterMap setting.given?).getLast?) ∧
      (∀ (setting : Setting) (other : List Lookup),
        other.map (· setting.key) = history.map (· setting.key) →
          setting.path? (after other) = setting.path? (after history)) ∧
      ∀ more, (after history).cloneDir.isSome → (after (history ++ more)).cloneDir.isSome := by
  intro after
  have value (setting : Setting) (steps : List Lookup) :
      setting.path? (after steps) = setting.chosen (steps.filterMap setting.given?).getLast? := by
    rw [setting.path?_foldl, setting.chosen_eq]
  refine ⟨agreeBesidesPaths_foldl history .standard, fun setting => value setting history, ?_, ?_⟩
  · intro setting other same
    have own (steps : List Lookup) : steps.filterMap setting.given? =
        (steps.map (· setting.key)).filterMap Setting.counted? := by
      rw [List.filterMap_map]
      rfl
    rw [value, value, own, own, same]
  · intro more isGiven
    have joined := Setting.cloneDir.path?_foldl more (after history)
    rw [← List.foldl_append] at joined
    change (after (history ++ more)).cloneDir = Option.or _ (after history).cloneDir at joined
    rw [joined, Option.isSome_or, isGiven, Bool.or_true]

/-- Steps that give the model folder twice, blanks in between, and the clone folder with blanks. -/
def threeSteps : List Lookup :=
  [fun name => if name == "PREBUILD_MODEL_DIR" then some "/models" else none,
   fun name => if name == "PREBUILD_MODEL_DIR" then some "\u2003\t"
    else if name == "PREBUILD_CLONE_DIR" then some " clones " else none,
   fun name => if name == "PREBUILD_MODEL_DIR" then some "m" else none]

theorem overrides_in_turn_of_threeSteps :
    let after := fun steps : List Lookup => steps.foldl Config.withOverrides .standard
    Setting.modelDir.path? (after threeSteps) = some (.ofString "m") ∧
      Setting.cloneDir.path? (after threeSteps) = some (.ofString " clones ") ∧
      Setting.helpFile.path? (after threeSteps) = some (.ofString "/app/krknctl_help.txt") ∧
      ((after (threeSteps.take 2)).cloneDir.isSome ∧
        (after (threeSteps.take 2 ++ threeSteps.drop 2)).cloneDir.isSome) := by
  rcases overrides_in_turn threeSteps with ⟨_, value, _, _⟩
  rcases overrides_in_turn (threeSteps.take 2) with ⟨_, _, _, stays⟩
  have isGiven : ((threeSteps.take 2).foldl Config.withOverrides .standard).cloneDir.isSome := by
    decide
  exact ⟨value .modelDir, value .cloneDir, value .helpFile, isGiven,
    stays (threeSteps.drop 2) isGiven⟩

end DocIndex.Settings
