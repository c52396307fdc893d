import DocIndex.Documents.Load
import DocIndex.Files.Change

/-!
# Checkouts of repositories

A repository is cloned into a folder that is named after its address, and what was there before is
removed first. A clone holds the files of the latest commit and the administration of the
repository; it is made only where there is nothing yet, or an empty folder.
-/

namespace DocIndex.Documents

open DocIndex.Files DocIndex.Split DocIndex.Text

/-- A reversed text without the reversed suffix `.git`, however often it stands there. -/
def dropSuffixes : List Char → List Char
  | 't' :: 'i' :: 'g' :: '.' :: later => dropSuffixes later
  | text => text

/-- The name of the checkout of a repository: the last part of its address. -/
def checkoutName (url : String) : String :=
  let last := (url.toList.reverse.dropWhile (· == '/')).takeWhile fun c => c != '/' && c != ':'
  match (dropSuffixes last).reverse with
  | [] => "repo"
  | name => String.ofList name

/-- How repositories are found and cloned. -/
structure Cloning where
  /-- Whether the program that clones can be started. -/
  isAvailable : Bool
  /-- The local path that an address stands for. -/
  resolve : String → String

/-- Where the administration of a repository is looked for, as additions to its path. -/
def administrationSuffixes : List String := ["/.git", "", ".git/.git", ".git"]

/-- The tree of the latest commit of the repository at an address. -/
def latestCommit? (files : FileSystem) (cloning : Cloning) (url : String) : Option FileTree :=
  administrationSuffixes.findSome? fun suffix =>
    match files.find true (.ofString (cloning.resolve url ++ suffix)) with
    | .ok (.repository commit) => some commit
    | _ => none

/-- The name of the entry that holds the administration of a repository. -/
def administrationName : Name := Utf8.ofString ".git"

/-- A working copy of a commit, with the administration of its repository. -/
def workingCopy (commit : FileTree) : FileTree :=
  .folder (commit.entries ++ [(administrationName, .repository commit)])

/-- Makes a folder a repository whose latest commit and working copy hold the given tree. -/
def commitTree (files : FileSystem) (folder : Path) (tree : FileTree) :
    Except Fault FileSystem :=
  files.put folder (workingCopy ((FileTree.committed? tree).getD .emptyFolder))

/-- Why the program that clones ends without success. -/
inductive CloneFailure
  /-- It cannot be started. -/
  | notStarted
  /-- The address has a byte 0, which no argument of a program can have. -/
  | nulByte
  /-- It takes the address for an option. -/
  | misused
  /-- There is no repository, or something is in the way of the checkout. -/
  | failed
  deriving DecidableEq, Repr

/-- The report of why the program that clones ends without success. -/
def CloneFailure.message : CloneFailure → String
  | notStarted => "could not run git: " ++ Fault.notFound.message
  | nulByte => "could not run git: nul byte found in provided data"
  | misused => "git exited with exit status: 129"
  | failed => "git exited with exit status: 128"

/-- Whether a clone can be made at a path: nothing is there, or an empty folder. -/
def isFree (files : FileSystem) (path : Path) : Bool :=
  match files.find false path with
  | .error .notFound => true
  | .error _ => false
  | .ok _ =>
    match files.find true path with
    | .ok (.folder []) => true
    | _ => false

/-- Whether the program that clones takes an address for an option. -/
def isOption (url : List Char) : Bool :=
  url.head? == some '-' && url != ['-'] && url != ['-', '-']

/--
Puts a tree in place of the empty folder that a path leads to; where the path leads nowhere yet,
the folders around it and it itself are made first.
-/
def fill (files : FileSystem) (path : Path) (tree : FileTree) :
    FileSystem × Except CloneFailure Unit :=
  match files.locate true path with
  | .ok place => (files.set place (some tree), .ok ())
  | .error _ =>
    match files.makeFolders (FileSystem.splitEntry path).1 with
    | .error _ => (files, .error .failed)
    | .ok files =>
      match files.makeFolder path with
      | .error _ => (files, .error .failed)
      | .ok files =>
        match files.locate true path with
        | .error _ => (files, .error .failed)
        | .ok place => (files.set place (some tree), .ok ())

/-- Clones the repository at an address. -/
def runClone (files : FileSystem) (cloning : Cloning) (url : String) (checkout : Path) :
    FileSystem × Except CloneFailure Unit :=
  if url.toList.contains (Char.ofNat 0) then (files, .error .nulByte)
  else if ! cloning.isAvailable then (files, .error .notStarted)
  else if isOption url.toList then (files, .error .misused)
  else match latestCommit? files cloning url with
    | none => (files, .error .failed)
    | some commit =>
      if isFree files checkout then fill files checkout (workingCopy commit)
      else (files, .error .failed)

/-- Removes what is at a path, if anything is. -/
def clearAway (files : FileSystem) (path : Path) : FileSystem × Except Fault Unit :=
  if files.exists? path then files.removeAll path else (files, .ok ())

/-- Clones the repository at an address in place of what is at a path. -/
def clone (files : FileSystem) (cloning : Cloning) (url : String) (checkout : Path) :
    FileSystem × Except Error Unit :=
  match clearAway files checkout with
  | (files, .error fault) => (files, .error (.io checkout fault))
  | (files, .ok ()) =>
    let folder := checkout.parent?.getD ⟨[]⟩
    match files.makeFolders folder with
    | .error fault => (files, .error (.io folder fault))
    | .ok files =>
      match runClone files cloning url checkout with
      | (files, .error failure) => (files, .error (.clone url failure.message))
      | (files, .ok ()) => (files, .ok ())

/-- Clones a repository below a folder and loads the documents of the checkout. -/
def cloneAndLoad (files : FileSystem) (cloning : Cloning) (cloneRoot : Path) (limits : Limits)
    (url : String) (docsPath : Path) : FileSystem × Except Error (List Chunk) :=
  let checkout := cloneRoot.join (.ofString (checkoutName url))
  match clone files cloning url checkout with
  | (files, .error error) => (files, .error error)
  | (files, .ok ()) => (files, loadDocs files limits url checkout docsPath)

end DocIndex.Documents
