import DocIndex.Files.Path

/-!
# File trees

A tree of files, folders and symbolic links. The administration of a repository is an entry of its
own kind, of which only the tree of its latest commit matters.
-/

namespace DocIndex.Files

/-- What a name in a folder stands for. -/
inductive FileTree
  | file (bytes : List UInt8)
  /-- A symbolic link to the place that a path names. -/
  | link (target : Path)
  | folder (entries : List (Name × FileTree))
  /-- The administration of a repository, whose latest commit holds the given tree. -/
  | repository (commit : FileTree)
  deriving Inhabited

namespace FileTree

/-- The folder without entries. -/
def emptyFolder : FileTree := folder []

/-- Whether a tree is a folder, with the administration of a repository counted as one. -/
def isFolder : FileTree → Bool
  | folder _ | repository _ => true
  | file _ | link _ => false

/-- The entries of a folder. -/
def entries : FileTree → List (Name × FileTree)
  | folder entries => entries
  | file _ | link _ | repository _ => []

/-- What a name stands for in a folder. -/
def child? (tree : FileTree) (name : Name) : Option FileTree := tree.entries.lookup name

/-- What is found below a tree by a sequence of names, without following links. -/
def at? (tree : FileTree) : List Name → Option FileTree
  | [] => some tree
  | name :: later => (tree.child? name).bind (·.at? later)

/-- Entries in which a name stands for the given tree, or for nothing. -/
def assign (name : Name) (tree? : Option FileTree) (entries : List (Name × FileTree)) :
    List (Name × FileTree) :=
  match tree? with
  | none => entries.filter (·.1 != name)
  | some tree =>
    if entries.any (·.1 == name) then
      entries.map fun entry => if entry.1 == name then (name, tree) else entry
    else entries ++ [(name, tree)]

/--
The tree in which a sequence of names leads to the given tree, or to nothing. The folders on the way
have to be there; where one is not, nothing changes.
-/
def set (tree? : Option FileTree) : List Name → FileTree → FileTree
  | [], tree => tree?.getD tree
  | [name], folder entries => folder (assign name tree? entries)
  | name :: later, folder entries =>
    folder <| entries.map fun entry =>
      if entry.1 == name then (name, set tree? later entry.2) else entry
  | _ :: _, tree => tree

mutual

/-- What a commit keeps of a tree: everything but the administration and empty folders. -/
def committed? : FileTree → Option FileTree
  | file bytes => some (file bytes)
  | link target => some (link target)
  | folder entries =>
    match committedEntries entries with
    | [] => none
    | kept => some (folder kept)
  | repository _ => none

/-- What a commit keeps of the entries of a folder. -/
def committedEntries : List (Name × FileTree) → List (Name × FileTree)
  | [] => []
  | (name, tree) :: later =>
    match committed? tree with
    | none => committedEntries later
    | some kept => (name, kept) :: committedEntries later

end

end FileTree

end DocIndex.Files
