import DocIndex.Documents.Checkout
import DocIndex.Indexing.Run
import DocIndex.Model.Registry
import DocIndex.Settings.EnvFile
import DocIndex.Store.Storage

/-!
# The command

The collaborators that work on files, repositories and stored collections, and the command that runs
with them: it takes its configuration from the environment, prints what the run prints, and reports
an error in a last line and by its exit status.
-/

namespace DocIndex.Indexing

open DocIndex.Documents DocIndex.Files DocIndex.Split DocIndex.Store

variable {Component Memory : Type}

/-- Clones a repository below a folder and loads its documents. -/
def cloneSource (cloning : Cloning) (cloneRoot : Path) (source : Source) (limits : Limits) :
    Action (Workspace Component Memory) (List Chunk) :=
  Workspace.onStorage <| Action.change fun storage =>
    let (files, result) :=
      cloneAndLoad storage.files cloning cloneRoot limits source.url source.docsPath
    ({ storage with files }, result)

/-- Loads files. -/
def readFiles (paths : List Path) (limits : Limits) :
    Action (Workspace Component Memory) (List Chunk) := do
  let files := (← Action.world).storage.files
  Action.ofExcept (Documents.loadFiles files limits paths)

/-- Finds a model in the folder of models. -/
def findKeptModel (modelDir : Path) (name : String) :
    Action (Workspace Component Memory) Model.KeptModel := do
  let files := (← Action.world).storage.files
  Action.ofExcept (Model.loadModel files modelDir name)

/-- Builds a stored collection and gives the action that counts its rows. -/
def buildStored (batchSize : Nat) (name : String) (embedder : Embedder Memory Component)
    (chunks : List Chunk) (folder : Path) :
    Action (Workspace Component Memory) (Action (Workspace Component Memory) (Option Nat)) := do
  Workspace.build batchSize name embedder chunks folder
  return do
    let rows ← Workspace.onStorage (Storage.inDatabase folder (countRows name))
    return some rows

/-- The collaborators of the command; `start` makes an embedder of the files of a model. -/
def standard (cloning : Cloning) (cloneRoot modelDir : Path)
    (start : Model.KeptModel → Embedder Memory Component) :
    Collaborators (Workspace Component Memory) Model.KeptModel where
  loadSource := cloneSource cloning cloneRoot
  loadFiles := readFiles
  findModel := findKeptModel modelDir
  build name model := buildStored Embedding.standardBatch name (start model)

/-- What is left when the command has ended. -/
structure Ending where
  status : Nat
  printed : List String
  deriving DecidableEq, Repr

/-- The exit status of a command that fails. -/
def failureStatus : Nat := 1

/-- The exit status of a command that is abandoned. -/
def abandonedStatus : Nat := 101

/-- The last line of a command that fails. -/
def failureLine (error : Error) : String :=
  "❌ Error during vector collection pre-build: " ++ error.message

/-- How a command ends that has printed lines and has the given result. -/
def Ending.of {Result : Type} (printed : List String) : Except Error Result → Ending
  | .ok _ => ⟨0, printed⟩
  | .error .abandoned => ⟨abandonedStatus, printed⟩
  | .error error => ⟨failureStatus, printed ++ [failureLine error]⟩

/--
The command: `scratch` is the folder for clones unless the configuration names one, and `start`
makes an embedder of the files of a model.
-/
def command (workspace : Workspace Component Memory) (environment : Environment) (cloning : Cloning)
    (scratch : Path) (start : Model.KeptModel → Embedder Memory Component) : Ending :=
  match Settings.configFor workspace.storage.files environment with
  | .error error => .of [] (.error error : Except Error Report)
  | .ok config =>
    let collaborators :=
      standard cloning (config.cloneDir.getD scratch) config.modelDir start
    let (result, session) := Action.runOn (run collaborators config) workspace
    .of session.printed result

end DocIndex.Indexing
