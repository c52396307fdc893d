import DocIndex.Text.Utf8

/-!
# Paths

A path is a sequence of bytes with `/` between its segments; it need not be text. Empty segments and
segments `.` name no place of their own, except that a relative path may begin with `.`. Joining,
parents and relative paths work on the segments and leave everything else of a path as it is spelt.
-/

namespace DocIndex.Files

open DocIndex.Text

/-- The name of an entry of a folder. -/
abbrev Name := List UInt8

/-- A path as it is spelt. -/
structure Path where
  bytes : List UInt8
  deriving DecidableEq, Repr

/-- The byte of `/`, which separates the segments of a path. -/
def slash : UInt8 := 0x2F

/-- The byte of a full stop. -/
def dot : UInt8 := 0x2E

/-- The segment that names the folder itself. -/
def selfName : Name := [dot]

/-- The segment that names the folder around a folder. -/
def parentName : Name := [dot, dot]

/-- Whether a segment names no place of its own. -/
def isVoid (segment : Name) : Bool := segment.isEmpty || segment == selfName

/-- The segments between the slashes. -/
def segmentsOf : List UInt8 → List Name
  | [] => [[]]
  | byte :: bytes =>
    if byte == slash then [] :: segmentsOf bytes
    else match segmentsOf bytes with
      | [] => [[byte]]
      | segment :: later => (byte :: segment) :: later

/-- Segments with slashes between them. -/
def joinSegments : List Name → List UInt8
  | [] => []
  | [segment] => segment
  | segment :: later => segment ++ slash :: joinSegments later

/-- Segments without the void ones at the end. -/
def trimVoidEnd (segments : List Name) : List Name :=
  (segments.reverse.dropWhile isVoid).reverse

namespace Path

/-- Where a path begins. -/
inductive Start
  /-- At the root. -/
  | root
  /-- At the working folder, by a leading `.`. -/
  | here
  /-- At the working folder, without saying so. -/
  | implicit
  deriving DecidableEq, Repr

/-- A path taken apart: where it begins, and the segments from there. -/
def parts (path : Path) : Start × List Name :=
  match segmentsOf path.bytes with
  | [] :: [] => (.implicit, [])
  | [] :: later => (.root, later)
  | segment :: later =>
    if segment == selfName then (.here, later) else (.implicit, segment :: later)
  | [] => (.implicit, [])

/-- The path with the given parts. -/
def ofParts : Start → List Name → Path
  | .root, segments => ⟨slash :: joinSegments segments⟩
  | .here, segments => ⟨joinSegments (selfName :: segments)⟩
  | .implicit, segments => ⟨joinSegments segments⟩

/-- The path that a text spells. -/
def ofString (text : String) : Path := ⟨Utf8.ofString text⟩

/-- The path as text, with U+FFFD for what is no character. -/
def text (path : Path) : String := Utf8.toStringLossy path.bytes

/-- Whether a path begins at the root. -/
def isAbsolute (path : Path) : Bool := path.bytes.head? == some slash

/-- The path `path` as seen from the folder `base`. -/
def join (base path : Path) : Path :=
  if path.isAbsolute then path
  else if base.bytes.isEmpty || base.bytes.getLast? == some slash then ⟨base.bytes ++ path.bytes⟩
  else ⟨base.bytes ++ slash :: path.bytes⟩

/-- The path of an entry of a folder. -/
def entry (folder : Path) (name : Name) : Path := folder.join ⟨name⟩

/-- The name of what a path leads to, unless it ends at a start or in `..`. -/
def fileName? (path : Path) : Option Name :=
  match (trimVoidEnd path.parts.2).getLast? with
  | some name => if name == parentName then none else some name
  | none => none

/-- The part of a file's name after the last full stop, where something stands before that. -/
def extension? (path : Path) : Option (List UInt8) :=
  match path.fileName? with
  | none => none
  | some name =>
    let tail := (name.reverse.takeWhile (· != dot)).reverse
    let stem := name.take (name.length - tail.length - 1)
    if tail.length < name.length && ! stem.isEmpty then some tail else none

/-- The folder around what a path leads to; none for the root and for the empty path. -/
def parent? (path : Path) : Option Path :=
  let (start, segments) := path.parts
  match trimVoidEnd segments with
  | [] => if start == .here then some ⟨[]⟩ else none
  | segments => some (ofParts start (trimVoidEnd segments.dropLast))

/-- What follows the names of `base` in `segments`, if these begin with those. -/
def dropNames : List Name → List Name → Option (List Name)
  | segments, [] => some segments
  | [], _ :: _ => none
  | segment :: segments, name :: names =>
    if isVoid segment then dropNames segments (name :: names)
    else if segment == name then dropNames segments names
    else none

/--
The path from the folder `base` to `path`, if `path` begins with the places that `base` names.
-/
def relativeTo? (path base : Path) : Option Path :=
  let (start, segments) := path.parts
  let (baseStart, baseSegments) := base.parts
  let names := baseSegments.filter (! isVoid ·)
  if baseStart == .implicit && names.isEmpty then some (ofParts start (trimVoidEnd segments))
  else if start == baseStart then
    (dropNames segments names).map fun rest => ⟨joinSegments (trimVoidEnd (rest.dropWhile isVoid))⟩
  else none

end Path

end DocIndex.Files
