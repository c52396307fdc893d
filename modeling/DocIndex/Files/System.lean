import DocIndex.Files.Fault
import DocIndex.Files.Tree

/-!
# The file system

A file system is a tree with a working folder. A path is resolved segment by segment from the root
or from the working folder to a place, which is a sequence of names that leads through folders
alone. Links on the way are followed; `locate` takes the choice whether a link at the end is
followed too.
-/

namespace DocIndex.Files

/-- A tree of files and the place of the working folder. -/
structure FileSystem where
  root : FileTree
  working : List Name

/-- The longest name that a folder takes, in bytes. -/
def longestName : Nat := 255

/-- The longest path, in bytes. -/
def longestPath : Nat := 4095

/-- The most links on the way to a place. -/
def mostLinks : Nat := 40

namespace FileSystem

/--
The place that `segments` lead to from `place`. The last segment need not be a folder; a link there
is followed if `follow` says so, and no more than `links` links are followed in all.
-/
def walk (root : FileTree) (follow : Bool) (links : Nat) (place segments : List Name) :
    Except Fault (List Name) :=
  match segments with
  | [] => .ok place
  | segment :: later =>
    match root.at? place with
    | none => .error .notFound
    | some tree =>
      if ! tree.isFolder then .error .notFolder
      else if isVoid segment then walk root follow links place later
      else if segment == parentName then walk root follow links place.dropLast later
      else if longestName < segment.length then .error .nameTooLong
      else match tree.child? segment with
        | none => .error .notFound
        | some (.link target) =>
          if later.isEmpty && ! follow then .ok (place ++ [segment])
          else match links with
            | 0 => .error .tooManyLinks
            | links + 1 =>
              walk root follow links (if target.isAbsolute then [] else place)
                (segmentsOf target.bytes ++ later)
        | some _ => walk root follow links (place ++ [segment]) later
termination_by (links, segments.length)

/-- The place that a path names. -/
def locate (files : FileSystem) (follow : Bool) (path : Path) : Except Fault (List Name) :=
  if path.bytes.contains 0 then .error .nulByte
  else if path.bytes.isEmpty then .error .notFound
  else if longestPath < path.bytes.length then .error .nameTooLong
  else walk files.root follow mostLinks (if path.isAbsolute then [] else files.working)
    (segmentsOf path.bytes)

/-- What a path names, with a link at the end followed or not. -/
def find (files : FileSystem) (follow : Bool) (path : Path) : Except Fault FileTree :=
  match files.locate follow path with
  | .error fault => .error fault
  | .ok place =>
    match files.root.at? place with
    | none => .error .notFound
    | some tree => .ok tree

/-- Whether a path names anything. -/
def exists? (files : FileSystem) (path : Path) : Bool :=
  match files.find true path with
  | .ok _ => true
  | .error _ => false

/-- Whether a path names a folder. -/
def isFolder (files : FileSystem) (path : Path) : Bool :=
  match files.find true path with
  | .ok tree => tree.isFolder
  | .error _ => false

/-- The contents of a file. -/
def readBytes (files : FileSystem) (path : Path) : Except Fault (List UInt8) :=
  match files.find true path with
  | .ok (.file bytes) => .ok bytes
  | .ok (.folder _) | .ok (.repository _) => .error .isFolder
  | .ok (.link _) => .error .tooManyLinks
  | .error fault => .error fault

/-- The contents of a file that holds a text. -/
def readText (files : FileSystem) (path : Path) : Except Fault (List Char) :=
  match files.readBytes path with
  | .error fault => .error fault
  | .ok bytes =>
    match Text.Utf8.decode? bytes with
    | none => .error .notText
    | some text => .ok text

end FileSystem

end DocIndex.Files
