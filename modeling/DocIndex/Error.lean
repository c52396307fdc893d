import DocIndex.Files.Fault
import DocIndex.Json.Fault

/-!
# Errors

Why indexing fails, and the words in which the failure is reported.
-/

namespace DocIndex

/-- Why the vector store refuses a request. -/
inductive StoreFault
  /-- The name of a table is empty. -/
  | emptyName
  /-- The name of a table has characters that names do not have. -/
  | invalidName (name : String)
  | tableMissing (name : String)
  | tablePresent (name : String)
  /-- The name of a table is longer than a folder can have. -/
  | nameTooLong
  /-- The database is to be found at a remote address. -/
  | remoteAddress
  /-- A table does not have the column that is asked for. -/
  | columnMissing (name : String)
  /-- Rows are of another shape than those of the table. -/
  | shapeMismatch
  /-- The condition of a deletion cannot be read. -/
  | unreadableCondition
  deriving DecidableEq, Repr

/-- The report of why the vector store refuses a request. -/
def StoreFault.message : StoreFault → String
  | emptyName => "Invalid table name (\"\"): Table names cannot be empty strings"
  | invalidName name => "Invalid table name (\"" ++ name ++ "\"): Table names can only contain " ++
      "alphanumeric characters, underscores, hyphens, and periods"
  | tableMissing name => "Table '" ++ name ++ "' was not found"
  | tablePresent name => "Table '" ++ name ++ "' already exists"
  | nameTooLong => "the name of the table is too long"
  | remoteAddress => "a remote database needs a key"
  | columnMissing name => "no column '" ++ name ++ "'"
  | shapeMismatch => "the rows do not have the columns of the table"
  | unreadableCondition => "the condition cannot be read"

/-- Why columns do not make rows. -/
inductive ColumnFault
  | schema (detail : String)
  /-- The columns are not all of one length. -/
  | unequalLengths
  deriving DecidableEq, Repr

/-- The report of why columns do not make rows. -/
def ColumnFault.message : ColumnFault → String
  | schema detail => "Schema error: " ++ detail
  | unequalLengths =>
    "Invalid argument error: all columns in a record batch must have the same length"

/-- Why indexing fails. -/
inductive Error
  | clone (url message : String)
  | docsPathMissing (url : String) (path : Files.Path)
  | io (path : Files.Path) (fault : Files.Fault)
  /-- The overlap of chunks is not smaller than their size. -/
  | chunkLimits
  | unknownModel (name : String)
  | modelLoad (name message : String)
  | embedding (message : String)
  | store (fault : StoreFault)
  | columns (fault : ColumnFault)
  | dimensionMismatch (collection : String) (expected actual : Nat)
  | metadata (document : List UInt8) (fault : Json.Fault)
  | noChunks
  /-- The operation is abandoned without a result. -/
  | abandoned

/-- The report of why indexing fails. -/
def Error.message : Error → String
  | clone url message => "failed to clone " ++ url ++ ": " ++ message
  | docsPathMissing url path => "docs path '" ++ path.text ++ "' not found in " ++ url
  | io path fault => "I/O error on " ++ path.text ++ ": " ++ fault.message
  | chunkLimits => "invalid chunking configuration: " ++
      "The overlap is larger than or equal to the desired chunk capacity"
  | unknownModel name => "unknown embedding model '" ++ name ++ "'"
  | modelLoad name message => "failed to load embedding model '" ++ name ++ "': " ++ message
  | embedding message => "embedding failed: " ++ message
  | store fault => "vector store error: " ++ fault.message
  | columns fault => "arrow error: " ++ fault.message
  | dimensionMismatch collection expected actual =>
    "embedding dimension mismatch for collection '" ++ collection ++ "': expected " ++
      toString expected ++ ", got " ++ toString actual
  | metadata document fault => "chunk metadata error: " ++ fault.message document
  | noChunks => "no document chunks to index"
  | abandoned => "the operation was abandoned"

end DocIndex
