import DocIndex.Error
import DocIndex.Files.System
import DocIndex.Settings.Config
import DocIndex.Unicode.Alphanumeric

/-!
# Files of variables

A file `.env` in the working folder, or else in the nearest folder around it, gives variables
values, one on a line. Its lines are applied in order, and a variable that has a text already keeps
it; one that is set to bytes without a text counts as not set. The first line that is no assignment,
comment or blank ends the file.
-/

namespace DocIndex.Settings

open DocIndex.Files DocIndex.Text

/-- What the reading of a value does with the next character. -/
inductive Mode
  /-- Takes it as it is, unless it is a mark. -/
  | plain
  /-- Takes it without the meaning that it has as a mark. -/
  | escaped
  /-- Takes it as it is up to the single quote that closes. -/
  | literal
  /-- Takes it as part of the name of a variable, if it is a letter or a number. -/
  | name (letters : List Char)
  /-- Takes it as part of the name of a variable, up to the brace that closes. -/
  | braced (letters : List Char)
  /-- Takes blanks alone, as the value has ended. -/
  | ended
  /-- Takes nothing any more. -/
  | comment
  deriving DecidableEq, Repr

/-- A value that is being read. -/
structure Draft where
  mode : Mode
  /-- Whether a double quote is open. -/
  isQuoted : Bool
  value : List Char
  deriving DecidableEq, Repr

namespace Draft

/-- Before the first character of a value. -/
def start : Draft := ⟨.plain, false, []⟩

/-- The value with another character. -/
def push (draft : Draft) (c : Char) : Draft := { draft with value := draft.value ++ [c] }

/-- The value with that of the named variable, or nothing where it is not set. -/
def expand (draft : Draft) (lookup : Lookup) (letters : List Char) : Draft :=
  let found := (lookup (String.ofList letters)).getD ""
  { draft with mode := .plain, value := draft.value ++ found.toList }

/-- Reads a character that may be a mark. -/
def readPlain (draft : Draft) (c : Char) : Draft :=
  if c == '$' then { draft with mode := .name [] }
  else if c == '\\' then { draft with mode := .escaped }
  else if c == '"' then { draft with isQuoted := ! draft.isQuoted }
  else if draft.isQuoted then draft.push c
  else if c == '\'' then { draft with mode := .literal }
  else if c == ' ' || c == '\t' then { draft with mode := .ended }
  else draft.push c

/-- Reads a character of the name of a variable, or the one after it. -/
def readName (draft : Draft) (lookup : Lookup) (letters : List Char) (c : Char) : Draft :=
  if Unicode.isAlphanumeric c then { draft with mode := .name (letters ++ [c]) }
  else if c == '{' && letters.isEmpty then { draft with mode := .braced [] }
  else
    let expanded := draft.expand lookup letters
    if c == '$' then { expanded with mode := .name [] } else expanded.push c

/-- Reads a character; none where it cannot stand. -/
def read? (lookup : Lookup) (draft : Draft) (c : Char) : Option Draft :=
  match draft.mode with
  | .comment => some draft
  | .ended =>
    if c == ' ' || c == '\t' then some draft
    else if c == '#' then some { draft with mode := .comment }
    else none
  | .escaped =>
    let taken := { draft with mode := .plain }
    if c == 'n' then some (taken.push '\n')
    else if c == '\\' || c == '\'' || c == '"' || c == '$' || c == ' ' then some (taken.push c)
    else none
  | .literal => some (if c == '\'' then { draft with mode := .plain } else draft.push c)
  | .name letters => some (draft.readName lookup letters c)
  | .braced letters =>
    some (if c == '}' then draft.expand lookup letters
      else { draft with mode := .braced (letters ++ [c]) })
  | .plain => some (draft.readPlain c)

/-- The value that has been read; none where a quote or a brace is open. -/
def finish? (lookup : Lookup) (draft : Draft) : Option (List Char) :=
  if draft.isQuoted then none
  else match draft.mode with
    | .literal | .braced _ => none
    | .name letters => some (draft.expand lookup letters).value
    | _ => some draft.value

end Draft

/-- The value that the text after an equals sign stands for. -/
def readValue? (lookup : Lookup) (text : List Char) : Option (List Char) :=
  (text.foldlM (Draft.read? lookup) Draft.start).bind (Draft.finish? lookup)

/-- Whether a line or the rest of one holds nothing but a comment. -/
def isEmptyOrComment (text : List Char) : Bool := text.isEmpty || text.head? == some '#'

/-- The name of a variable at the front of a text, and the rest. -/
def readKey? (text : List Char) : Option (List Char × List Char) :=
  match text with
  | [] => none
  | first :: _ =>
    if first.isAlpha || first == '_' then
      let isKeyChar (c : Char) : Bool := c.isAlphanum || c == '_' || c == '.'
      some (text.takeWhile isKeyChar, text.dropWhile isKeyChar)
    else none

/-- What follows an equals sign, and blanks around it. -/
def afterEquals? (text : List Char) : Option (List Char) :=
  match trimStart text with
  | '=' :: later => some (trimStart later)
  | _ => none

/--
The name before an equals sign and the text after it. The word `export` may stand before the name,
unless it is the name itself.
-/
def splitAssignment? (text : List Char) : Option (List Char × List Char) :=
  match readKey? text with
  | none => none
  | some (key, rest) =>
    match afterEquals? rest with
    | some value => some (key, value)
    | none =>
      if key == "export".toList then
        (readKey? (trimStart rest)).bind fun (key, rest) =>
          (afterEquals? rest).map fun value => (key, value)
      else none

/-- What a line of the file says. -/
inductive Line
  | empty
  | assignment (name value : String)
  | malformed
  deriving DecidableEq, Repr

/-- Reads a line of the file. -/
def Line.read (lookup : Lookup) (text : List Char) : Line :=
  let text := trimStart (trimEnd text)
  if isEmptyOrComment text then empty
  else match splitAssignment? text with
    | none => malformed
    | some (name, value) =>
      if isEmptyOrComment value then assignment (String.ofList name) ""
      else match readValue? lookup value with
        | none => malformed
        | some value => assignment (String.ofList name) (String.ofList value)

/-- The variables with a value for one that has no text. -/
def assign (environment : Environment) (name value : String) : Environment := fun other =>
  if other == name && (environment.text? name).isNone then some (Utf8.ofString value)
  else environment other

/--
The variables after the given lines, each as bytes. A value that holds the character 0 cannot be
set.
-/
def applyLines (environment : Environment) : List (List UInt8) → Except Error Environment
  | [] => .ok environment
  | line :: later =>
    match Utf8.decode? line with
    | none => .ok environment
    | some text =>
      match Line.read environment.text? text with
      | .empty => applyLines environment later
      | .malformed => .ok environment
      | .assignment name value =>
        if (environment.text? name).isNone && value.toList.contains '\x00' then .error .abandoned
        else applyLines (assign environment name value) later

/-- The lines of a file, without the line feeds. -/
def splitLines : List UInt8 → List (List UInt8)
  | [] => [[]]
  | byte :: bytes =>
    if byte == 0x0A then [] :: splitLines bytes
    else match splitLines bytes with
      | [] => [[byte]]
      | line :: later => (byte :: line) :: later

/-- The variables after a file of variables with the given contents. -/
def applyFile (environment : Environment) (contents : List UInt8) : Except Error Environment :=
  applyLines environment (splitLines contents)

/-- The name of the file of variables. -/
def fileName : Name := Utf8.ofString ".env"

/-- The file of variables in the folder that names lead to, last name first. -/
def filePath (names : List Name) : Path := Path.entry ⟨slash :: joinSegments names.reverse⟩ fileName

/--
The contents of the file of variables for a folder, which is given by the names that lead to it,
last name first: that in the folder itself, or else in the nearest folder around it.
-/
def fileFor (files : FileSystem) (names : List Name) : Option (List UInt8) :=
  match files.readBytes (filePath names), names with
  | .ok contents, _ => some contents
  | .error .isFolder, _ :: around | .error .notFound, _ :: around => fileFor files around
  | .error _, _ => none

/-- The configuration that the variables and the file of variables give. -/
def configFor (files : FileSystem) (environment : Environment) : Except Error Config :=
  match fileFor files files.working.reverse with
  | none => .ok (Config.standard.withOverrides environment.text?)
  | some contents =>
    (applyFile environment contents).map fun environment =>
      Config.standard.withOverrides environment.text?

end DocIndex.Settings
