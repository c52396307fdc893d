import DocIndex.Action
import DocIndex.Chunk
import DocIndex.Settings.Config

/-!
# Indexing runs

A run loads the documents of every source in turn, then the help file, finds the embedding model,
builds the collection from all chunks in that order, and counts what the collection holds. It ends
at the first of these steps that fails. Loading, models and collections are the work of
collaborators, of which a run knows nothing but the results.
-/

namespace DocIndex.Indexing

open DocIndex.Files DocIndex.Split

/-- Those who do the work of a run. -/
structure Collaborators (World Model : Type) where
  /-- Clones a repository and gives the chunks of its documents. -/
  loadSource : Source → Limits → Action World (List Chunk)
  /-- Gives the chunks of files. -/
  loadFiles : List Path → Limits → Action World (List Chunk)
  /-- Finds the embedding model with a name. -/
  findModel : String → Action World Model
  /--
  Brings the collection with a name, in a folder, in line with chunks, and gives the action that
  counts what it holds.
  -/
  build : String → Model → List Chunk → Path → Action World (Action World (Option Nat))

/-- What a run reports. -/
structure Report where
  /-- The number of chunks of every source and of the help file, in the order of loading. -/
  perSource : List (String × Nat)
  totalChunks : Nat
  /-- The number of rows counted, if the collection can count. -/
  verifiedCount : Option Nat
  deriving DecidableEq, Repr

variable {World Model : Type}

/-- Loads the chunks of sources in turn, each with the name of its source. -/
def loadSources (collaborators : Collaborators World Model) (limits : Limits) :
    List Source → Action World (List (String × List Chunk))
  | [] => return []
  | source :: later => do
    Action.print ("Loading from: " ++ source.url)
    let chunks ← collaborators.loadSource source limits
    Action.print ("Loaded " ++ toString chunks.length ++ " chunks from " ++ source.url)
    let others ← loadSources collaborators limits later
    return (source.url, chunks) :: others

/-- Loads the chunks of the help file, with its path as the name of the source. -/
def loadHelp (collaborators : Collaborators World Model) (config : Config) :
    Action World (String × List Chunk) := do
  Action.print "Loading krknctl help file..."
  let chunks ← collaborators.loadFiles [config.helpFile] config.limits
  Action.print ("Loaded " ++ toString chunks.length ++ " chunks from krknctl help")
  return (config.helpFile.text, chunks)

/-- Finds the model, builds the collection from chunks, and counts what it holds. -/
def buildAndCount (collaborators : Collaborators World Model) (config : Config)
    (chunks : List Chunk) : Action World (Option Nat) := do
  Action.print ("Total document chunks: " ++ toString chunks.length)
  Action.print ("🔗 Loading embedding model: " ++ config.model)
  let model ← collaborators.findModel config.model
  Action.print ("💾 Building collection: " ++ config.collection)
  let count ← collaborators.build config.collection model chunks config.persistDir
  Action.print "✅ Pre-build completed successfully!"
  Action.print ("📍 Database saved to: " ++ config.persistDir.text)
  Action.print "🔍 Verifying collection..."
  let verified ← count
  match verified with
  | some rows => Action.print ("✅ Collection contains " ++ toString rows ++ " documents")
  | none => pure ()
  return verified

/-- An indexing run. -/
def run (collaborators : Collaborators World Model) (config : Config) : Action World Report := do
  Action.print "🔧 Pre-building vector collection..."
  Action.print ("📚 Loading documents from " ++ toString config.sources.length ++
    " repositories + krknctl help...")
  let sources ← loadSources collaborators config.limits config.sources
  let help ← loadHelp collaborators config
  let loaded := sources ++ [help]
  let chunks := loaded.flatMap (·.2)
  let verifiedCount ← buildAndCount collaborators config chunks
  return {
    perSource := loaded.map fun (name, chunks) => (name, chunks.length)
    totalChunks := chunks.length
    verifiedCount }

end DocIndex.Indexing
