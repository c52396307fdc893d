import DocIndex.Files.Path

/-!
# Faults of the file system

Why an operation on files fails, and the words in which the failure is reported.
-/

namespace DocIndex.Files

/-- Why an operation on files fails. -/
inductive Fault
  /-- Nothing is there. -/
  | notFound
  /-- Something is there already. -/
  | present
  /-- A path leads through something that is no folder. -/
  | notFolder
  /-- A folder is read as a file. -/
  | isFolder
  /-- The root is to be removed. -/
  | inUse
  /-- A folder is to be removed through its own entry `.`. -/
  | selfReference
  /-- A name has more than 255 bytes, or a path more than 4095. -/
  | nameTooLong
  /-- A folder to be removed still has entries. -/
  | notEmpty
  /-- A path leads through more than 40 links. -/
  | tooManyLinks
  /-- A path contains the byte 0. -/
  | nulByte
  /-- The contents of a file are no text. -/
  | notText
  /-- A fault met while the files below a folder are listed. -/
  | listing (path : Path) (fault : Fault)
  /-- A fault that is known by its report alone. -/
  | reported (text : String)
  deriving DecidableEq, Repr

/-- The report of a fault. -/
def Fault.message : Fault → String
  | notFound => "No such file or directory (os error 2)"
  | present => "File exists (os error 17)"
  | notFolder => "Not a directory (os error 20)"
  | isFolder => "Is a directory (os error 21)"
  | inUse => "Device or resource busy (os error 16)"
  | selfReference => "Invalid argument (os error 22)"
  | nameTooLong => "File name too long (os error 36)"
  | notEmpty => "Directory not empty (os error 39)"
  | tooManyLinks => "Too many levels of symbolic links (os error 40)"
  | nulByte => "file name contained an unexpected NUL byte"
  | notText => "stream did not contain valid UTF-8"
  | listing path fault => "IO error for operation on " ++ path.text ++ ": " ++ fault.message
  | reported text => text

end DocIndex.Files
