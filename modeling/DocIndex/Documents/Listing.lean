import DocIndex.Documents.TextKind
import DocIndex.Files.System

/-!
# Listing Markdown files

The Markdown files below a folder are listed depth first, the entries of every folder in the order
of the bytes of their names. Hidden folders are passed over, and so are links, except that the
folder from which the listing starts may itself be reached through one. A folder that cannot be read
ends the listing.
-/

namespace DocIndex.Documents

open DocIndex.Files DocIndex.Text

/-- Whether the name of a folder says that it is hidden; a name that is no text never does. -/
def isHidden (name : Name) : Bool :=
  match Utf8.decode? name with
  | some ('.' :: _) => true
  | _ => false

/-- Whether a file is a Markdown file by its path. -/
def isMarkdown (path : Path) : Bool := TextKind.ofPath path == .markdown

/-- Whether the name of an entry comes no later than that of another in a listing. -/
def comesBefore {Listed : Type} (left right : Name × Listed) : Bool := decide (left.1 ≤ right.1)

mutual

/-- The Markdown files below a folder, with the path of the folder in front. -/
def markdownBelow (folder : Path) : FileTree → List Path
  | .folder entries => ((markdownEntries folder entries).mergeSort comesBefore).flatMap (·.2)
  | .file _ | .link _ | .repository _ => []

/-- The Markdown files that every entry of a folder is or holds, by the name of the entry. -/
def markdownEntries (folder : Path) : List (Name × FileTree) → List (Name × List Path)
  | [] => []
  | (name, tree) :: later =>
    let path := folder.entry name
    let found := match tree with
      | .file _ => if isMarkdown path then [path] else []
      | tree => if isHidden name then [] else markdownBelow path tree
    (name, found) :: markdownEntries folder later

end

mutual

/-- The first folder, at a path or below, that cannot be read because its path is too long. -/
def overlong? (folder : Path) : FileTree → Option Path
  | .folder entries =>
    if longestPath < folder.bytes.length then some folder
    else ((overlongEntries folder entries).mergeSort comesBefore).findSome? (·.2)
  | .repository _ => if longestPath < folder.bytes.length then some folder else none
  | .file _ | .link _ => none

/-- The first such folder that every entry of a folder is or holds, by the name of the entry. -/
def overlongEntries (folder : Path) : List (Name × FileTree) → List (Name × Option Path)
  | [] => []
  | (name, tree) :: later =>
    (name, if isHidden name then none else overlong? (folder.entry name) tree) ::
      overlongEntries folder later

end

/-- The Markdown files below a folder, if all folders there can be read. -/
def listFolder (root : Path) (tree : FileTree) : Except Error (List Path) :=
  match overlong? root tree with
  | some folder => .error (.io folder (.listing folder .nameTooLong))
  | none => .ok (markdownBelow root tree)

/-- The Markdown files at and below a path. -/
def listMarkdown (files : FileSystem) (root : Path) : Except Error (List Path) :=
  let failed : Fault → Except Error (List Path) := fun fault =>
    .error (.io root (.listing root fault))
  match files.find false root with
  | .error fault => failed fault
  | .ok (.file _) => .ok (if isMarkdown root then [root] else [])
  | .ok (.link _) =>
    match files.find true root with
    | .error fault => failed fault
    | .ok tree => listFolder root tree
  | .ok tree => listFolder root tree

end DocIndex.Documents
