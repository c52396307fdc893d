import DocIndex.Indexing.Standard

/-!
# The program

Runs the command with the variables of its environment and the file of variables in the working
folder, and prints what the command prints. Repositories are cloned by another program, which cannot
be started from here, and models are not run; so a run ends at its first repository, with the report
that says so.
-/

namespace DocIndex.Program

open DocIndex.Files DocIndex.Indexing DocIndex.Text

/-- The variables that can override the configuration. -/
def overridingNames : List String :=
  ["PREBUILD_PERSIST_DIR", "PREBUILD_HELP_FILE", "PREBUILD_MODEL_DIR", "PREBUILD_CLONE_DIR"]

/-- Whether a character may stand in the name of a variable that is set in a file. -/
def isNameChar (c : Char) : Bool := c.isAlphanum || c == '_' || c == '.'

/-- The names of variables that a text may set or refer to. -/
def mentionedNames (text : List Char) : List String :=
  (Unicode.stretches isNameChar text ++ Unicode.stretches Unicode.isAlphanumeric text).map
    String.ofList

/-- The name of the working folder. -/
def workingName : Name := Utf8.ofString "work"

/-- A file system with the given file of variables in its working folder. -/
def filesWith (contents : Option (List UInt8)) : FileSystem where
  root := .folder [(workingName, .folder
    (contents.toList.map fun bytes => (Settings.fileName, .file bytes)))]
  working := [workingName]

/-- The contents of the file of variables, if there is one. -/
def readVariables : IO (Option (List UInt8)) :=
  try
    return some (← IO.FS.readBinFile ".env").toList
  catch _ =>
    return none

/-- The values of the given variables in the environment. -/
def valuesOf (names : List String) : IO (List (String × String)) := do
  let found ← names.mapM fun name => do
    return (← IO.getEnv name).map fun value => (name, value)
  return found.filterMap id

end DocIndex.Program

open DocIndex.Program in
/-- Runs the command. -/
def main : IO UInt32 := do
  let contents ← readVariables
  let mentioned := mentionedNames (DocIndex.Text.Utf8.decodeLossy (contents.getD []))
  let environment ← valuesOf (overridingNames ++ mentioned)
  let workspace : DocIndex.Store.Workspace Nat Unit := ⟨⟨filesWith contents, []⟩, ()⟩
  let ending :=
    DocIndex.Indexing.command workspace (.ofTexts fun name => environment.lookup name) ⟨false, id⟩
    (.ofString "/clones") fun _ _ => throw (.embedding "models are not run here")
  ending.printed.forM IO.println
  return ending.status.toUInt32
