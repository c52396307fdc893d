import DocIndex.Chunk
import DocIndex.Documents.Listing

/-!
# Loading documents

Documents are read, cut into pieces and numbered, file by file; the first file that cannot be read
or cut ends the loading with its error. Files that are named one by one stand for themselves. The
files of a repository have its address as their source and their paths in the checkout as paths.
-/

namespace DocIndex.Documents

open DocIndex.Files DocIndex.Split DocIndex.Text

/-- The chunks of one file, under the given source and path. -/
def loadFile (files : FileSystem) (limits : Limits) (kind : TextKind) (file : Path)
    (source path : String) : Except Error (List Chunk) :=
  match files.readText file with
  | .error fault => .error (.io file fault)
  | .ok text => (kind.pieces limits text).map (Chunk.ofPieces source path)

/-- The chunks that loading gives for a list of files, up to the first error. -/
def loadEach (load : Path → Except Error (List Chunk)) (paths : List Path) :
    Except Error (List Chunk) :=
  (paths.mapM load).map List.flatten

/-- The chunks of files that are named one by one. -/
def loadFiles (files : FileSystem) (limits : Limits) (paths : List Path) :
    Except Error (List Chunk) :=
  loadEach (fun path =>
    loadFile files limits (.ofPath path) path path.text
      (Utf8.toStringLossy (path.fileName?.getD []))) paths

/-- The chunks of the Markdown files in a folder of a checkout. -/
def loadDocs (files : FileSystem) (limits : Limits) (url : String) (checkout docsPath : Path) :
    Except Error (List Chunk) :=
  let root := checkout.join docsPath
  if docsPath.isAbsolute || ! files.isFolder root then .error (.docsPathMissing url docsPath)
  else match listMarkdown files root with
    | .error error => .error error
    | .ok paths =>
      loadEach (fun path =>
        loadFile files limits .markdown path url ((path.relativeTo? checkout).getD path).text) paths

end DocIndex.Documents
