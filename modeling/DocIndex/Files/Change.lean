import DocIndex.Files.System

/-!
# Changes of the file system

Folders are made and trees are removed. A path to be made or removed is split into the folder where
the change takes place and the name of the entry; a removal that fails midway has taken the entries
of the folder with it.
-/

namespace DocIndex.Files

namespace FileSystem

/-- The folder in which a path names an entry, and the name; slashes at the end do not count. -/
def splitEntry (path : Path) : Path × Name :=
  let segments := ((segmentsOf path.bytes).reverse.dropWhile List.isEmpty).reverse
  match segments.getLast? with
  | none => (path, [])
  | some name =>
    match segments.dropLast with
    | [] => (⟨selfName⟩, name)
    | [[]] => (⟨[slash]⟩, name)
    | folder => (⟨joinSegments folder⟩, name)

/-- The file system in which the entry at a place is the given tree, or nothing. -/
def set (files : FileSystem) (place : List Name) (tree? : Option FileTree) : FileSystem :=
  { files with root := files.root.set tree? place }

/--
Whether a path names nothing before anything is looked up: it is empty, too long or has a byte 0.
-/
def refuse? (path : Path) : Option Fault :=
  if path.bytes.contains 0 then some .nulByte
  else if path.bytes.isEmpty then some .notFound
  else if longestPath < path.bytes.length then some .nameTooLong
  else none

/-- Makes one folder in a folder that is there. -/
def makeFolder (files : FileSystem) (path : Path) : Except Fault FileSystem :=
  match refuse? path with
  | some fault => .error fault
  | none =>
    let (folder, name) := splitEntry path
    match files.locate true folder with
    | .error fault => .error fault
    | .ok place =>
      match files.root.at? place with
      | none => .error .notFound
      | some tree =>
        if ! tree.isFolder then .error .notFolder
        else if isVoid name || name == parentName then .error .present
        else if longestName < name.length then .error .nameTooLong
        else if (tree.child? name).isSome then .error .present
        else .ok (files.set (place ++ [name]) (some .emptyFolder))

/--
Makes a folder and the folders around it, outermost first. `depth` bounds how many folders around it
are looked at.
-/
def makeFoldersWithin (files : FileSystem) (depth : Nat) (path : Path) :
    Except Fault FileSystem :=
  if path.bytes.isEmpty then .ok files
  else
    let settle : FileSystem → Fault → Except Fault FileSystem := fun files fault =>
      if files.isFolder path then .ok files else .error fault
    match files.makeFolder path with
    | .ok files => .ok files
    | .error .notFound =>
      match depth, path.parent? with
      | depth + 1, some folder =>
        match makeFoldersWithin files depth folder with
        | .error fault => .error fault
        | .ok files =>
          match files.makeFolder path with
          | .ok files => .ok files
          | .error fault => settle files fault
      | _, _ => .error .notFound
    | .error fault => settle files fault

/-- Makes a folder and the folders around it. A folder that is there already will do. -/
def makeFolders (files : FileSystem) (path : Path) : Except Fault FileSystem :=
  files.makeFoldersWithin path.bytes.length path

/-- Removes the entry that a path names, once its folder is found again. -/
def removeEntry (files : FileSystem) (path : Path) : Except Fault FileSystem :=
  let (folder, name) := splitEntry path
  match files.locate true folder with
  | .error .notFound => .ok files
  | .error fault => .error fault
  | .ok place =>
    if name.isEmpty then .error .inUse
    else if name == selfName then .error .selfReference
    else if name == parentName then .error .notEmpty
    else .ok (files.set (place ++ [name]) none)

/--
Removes a folder with everything in it, or a link. When the entry of the folder itself cannot be
removed, the folder is left empty.
-/
def removeAll (files : FileSystem) (path : Path) : FileSystem × Except Fault Unit :=
  match files.locate false path with
  | .error fault => (files, .error fault)
  | .ok place =>
    match files.root.at? place with
    | none => (files, .error .notFound)
    | some (.file _) => (files, .error .notFolder)
    | some (.link _) => (files.set place none, .ok ())
    | some (.folder _) | some (.repository _) =>
      let emptied := if place.isEmpty then { files with root := .emptyFolder }
        else files.set place (some .emptyFolder)
      match emptied.removeEntry path with
      | .ok removed => (removed, .ok ())
      | .error fault => (emptied, .error fault)

/-- Puts a tree where a path leads to, and makes the folders around it. -/
def put (files : FileSystem) (path : Path) (tree : FileTree) : Except Fault FileSystem :=
  let (folder, name) := splitEntry path
  match files.makeFolders folder with
  | .error fault => .error fault
  | .ok files =>
    match files.locate true folder with
    | .error fault => .error fault
    | .ok place => .ok (files.set (place ++ [name]) (some tree))

end FileSystem

end DocIndex.Files
