import DocIndex.Files.Path
import DocIndex.Split.Chunks
import DocIndex.Text.Whitespace

/-!
# Configuration

What an indexing run works on. The defaults agree with the service that reads the index; only the
folders and the help file can be overridden, by variables that are set to something.
-/

namespace DocIndex

open DocIndex.Files DocIndex.Text

/-- A repository and the folder of its documents. -/
structure Source where
  url : String
  docsPath : Path
  deriving DecidableEq, Repr

/-- What an indexing run works on. -/
structure Config where
  collection : String
  persistDir : Path
  model : String
  sources : List Source
  helpFile : Path
  limits : Split.Limits
  modelDir : Path
  /-- Where repositories are cloned; none for a folder of the run's own. -/
  cloneDir : Option Path
  deriving DecidableEq, Repr

/-- The texts that variables are set to. -/
abbrev Lookup := String → Option String

/-- What the variables of a process are set to, as bytes that need not hold a text. -/
abbrev Environment := String → Option (List UInt8)

namespace Environment

/-- The text that a variable is set to; none also where it is set to bytes that hold no text. -/
def text? (environment : Environment) : Lookup := fun name =>
  (environment name).bind Utf8.toString?

/-- The variables that are set to the given texts. -/
def ofTexts (lookup : Lookup) : Environment := fun name => (lookup name).map Utf8.ofString

end Environment

namespace Config

/-- The size and the overlap of chunks, in characters. -/
def defaultLimits : Split.Limits := ⟨1000, 200⟩

/-- The configuration that no variable overrides. -/
def standard : Config where
  collection := "krkn-docs"
  persistDir := .ofString "/app/docs_index"
  model := "qwen-small"
  sources :=
    [⟨"https://github.com/krkn-chaos/website", .ofString "content/en/docs"⟩,
     ⟨"https://github.com/krkn-chaos/krkn-hub", .ofString "."⟩]
  helpFile := .ofString "/app/krknctl_help.txt"
  limits := defaultLimits
  modelDir := .ofString "/app/models"
  cloneDir := none

/-- The value of a variable that is set to more than whitespace, as a path. -/
def override? (lookup : Lookup) (name : String) : Option Path :=
  match lookup name with
  | some value => if isBlank value.toList then none else some (.ofString value)
  | none => none

/-- The configuration with the folders and the help file that variables name. -/
def withOverrides (config : Config) (lookup : Lookup) : Config :=
  let override := override? lookup
  { config with
    persistDir := (override "PREBUILD_PERSIST_DIR").getD config.persistDir
    helpFile := (override "PREBUILD_HELP_FILE").getD config.helpFile
    modelDir := (override "PREBUILD_MODEL_DIR").getD config.modelDir
    cloneDir := (override "PREBUILD_CLONE_DIR").or config.cloneDir }

end Config

end DocIndex
