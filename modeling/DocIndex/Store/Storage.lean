import DocIndex.Embedding
import DocIndex.Files.Change
import DocIndex.Store.Collection

/-!
# Storage

Databases are kept in folders of the file system. To connect to one makes its folder, and a folder
that has just been made holds no tables. A collection is built by embedding chunks, connecting, and
bringing the collection in line with the chunks.
-/

namespace DocIndex.Store

open DocIndex.Files

/-- A file system and the databases in its folders, by the places of the folders. -/
structure Storage (Component : Type) where
  files : FileSystem
  databases : List (List Name × Database Component)

namespace Storage

variable {Component Memory Result : Type}

/-- The database at a place. -/
def database (storage : Storage Component) (place : List Name) : Database Component :=
  (storage.databases.lookup place).getD []

/-- The storage with the given database at a place. -/
def setDatabase (place : List Name) (database : Database Component)
    (storage : Storage Component) : Storage Component :=
  { storage with
    databases := (place, database) :: storage.databases.filter fun entry => entry.1 != place }

/-- Whether the path of a folder is taken for a remote address. -/
def isRemote (folder : Path) : Bool := "db".toList.isPrefixOf folder.text.toList

/-- Makes the folder of a database, and gives the place of it. -/
def connect (folder : Path) : Action (Storage Component) (List Name) := do
  let storage ← Action.world
  match storage.files.makeFolders folder with
  | .error fault => throw (.io folder fault)
  | .ok files =>
    Action.setWorld { storage with files }
    if isRemote folder then throw (.store .remoteAddress)
    match files.locate true folder with
    | .error fault => throw (.io folder fault)
    | .ok place =>
      if (storage.files.root.at? place).isNone then
        Action.setWorld (setDatabase place [] { storage with files })
      return place

/-- An action on the database in a folder. -/
def inDatabase (folder : Path) (action : Action (Database Component) Result) :
    Action (Storage Component) Result := do
  let place ← connect folder
  Action.onPart (database · place) (setDatabase place) action

end Storage

/-- Storage and the memory of an embedding model. -/
structure Workspace (Component Memory : Type) where
  storage : Storage Component
  memory : Memory

namespace Workspace

variable {Component Memory Result : Type}

/-- An action on storage as an action on a workspace. -/
def onStorage (action : Action (Storage Component) Result) :
    Action (Workspace Component Memory) Result :=
  Action.onPart (·.storage) (fun storage workspace => { workspace with storage }) action

/-- A request to an embedding model as an action on a workspace. -/
def onMemory (request : ExceptT Error (StateM Memory) Result) :
    Action (Workspace Component Memory) Result :=
  Action.change fun workspace =>
    let (result, memory) := (request.run.run workspace.memory : Except Error Result × Memory)
    ({ workspace with memory }, result)

/-- Builds a collection in a folder from chunks. -/
def build (batchSize : Nat) (name : String) (embedder : Embedder Memory Component)
    (chunks : List Chunk) (folder : Path) : Action (Workspace Component Memory) Unit := do
  if chunks.isEmpty then throw .noChunks
  let vectors ← onMemory (Embedding.embedChunks embedder batchSize chunks)
  onStorage (Storage.inDatabase folder (load name chunks vectors))

end Workspace

end DocIndex.Store
