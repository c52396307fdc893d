import DocIndex.Identifier.Uuid
import DocIndex.Text.Utf8

/-!
# Chunks

A chunk is a piece of a document together with where it comes from. Its identifier depends on its
position alone, so that indexing a document again replaces the chunks of the same positions.
-/

namespace DocIndex

open DocIndex.Text

/--
Where a chunk comes from: the source, the path of the document in it and the position in that.
-/
structure Metadata where
  source : String
  path : String
  index : Nat
  deriving DecidableEq, Repr

namespace Metadata

/-- The text that names a position. -/
def key (metadata : Metadata) : String :=
  metadata.source ++ "#" ++ metadata.path ++ "#" ++ toString metadata.index

/-- The identifier of a position. -/
def id (metadata : Metadata) : String := Identifier.uuid (Utf8.ofString metadata.key)

/-- A member of an object, of which the value is written already. -/
def member (name : String) (value : List Char) : List Char :=
  Json.quoted name.toList ++ ':' :: value

/-- The JSON text of a position. -/
def json (metadata : Metadata) : String :=
  String.ofList ('{' :: member "source" (Json.quoted metadata.source.toList) ++
    ',' :: member "path" (Json.quoted metadata.path.toList) ++
    ',' :: member "chunk_index" (toString metadata.index).toList ++ ['}'])

end Metadata

/-- A piece of a document. -/
structure Chunk where
  id : String
  text : String
  metadata : Metadata
  deriving DecidableEq, Repr

namespace Chunk

/-- The chunk with the given text at the given position. -/
def ofMetadata (metadata : Metadata) (text : String) : Chunk := ⟨metadata.id, text, metadata⟩

/-- The pieces of a document as chunks, numbered from 0. -/
def ofPieces (source path : String) (pieces : List String) : List Chunk :=
  pieces.mapIdx fun index text => ofMetadata ⟨source, path, index⟩ text

end Chunk

end DocIndex
