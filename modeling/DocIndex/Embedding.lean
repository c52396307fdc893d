import DocIndex.Action
import DocIndex.Batches
import DocIndex.Chunk

/-!
# Embedding

An embedding model gives every text a vector, and may remember what it was asked before. Chunks are
embedded batch by batch, up to the first reply that is an error, has the wrong number of vectors, or
has a vector of another width than the very first one.
-/

namespace DocIndex

/-- A model that embeds texts and has a memory. -/
abbrev Embedder (Memory Component : Type) :=
  List String → ExceptT Error (StateM Memory) (List (List Component))

namespace Embedding

variable {Memory Component : Type}

/-- The number of texts that are embedded together unless another number is asked for. -/
def standardBatch : Nat := 32

/-- The error of a reply with the wrong number of vectors. -/
def wrongCount (vectors texts : Nat) : Error :=
  .embedding
    ("model returned " ++ toString vectors ++ " vectors for " ++ toString texts ++ " texts")

/-- The error of a reply with a vector of the wrong width. -/
def wrongWidth (found expected : Nat) : Error :=
  .embedding ("inconsistent embedding width: " ++ toString found ++ " vs " ++ toString expected)

/--
Checks the reply to a batch against the width of the vectors before it, and gives the width of all
vectors so far.
-/
def checkReply (width? : Option Nat) (texts : Nat) (vectors : List (List Component)) :
    Except Error (Option Nat) :=
  if vectors.length != texts then .error (wrongCount vectors.length texts)
  else
    let width? := width?.or (vectors.head?.map List.length)
    match vectors.find? fun vector => some vector.length != width? with
    | some vector => .error (wrongWidth vector.length (width?.getD 0))
    | none => .ok width?

/-- The vectors of the chunks in the given batches, after vectors of the given width. -/
def embedBatches (embedder : Embedder Memory Component) (width? : Option Nat) :
    List (List Chunk) → ExceptT Error (StateM Memory) (List (List Component))
  | [] => pure []
  | batch :: later => do
    let vectors ← embedder (batch.map (·.text))
    let width? ← ExceptT.mk (pure (checkReply width? batch.length vectors))
    let others ← embedBatches embedder width? later
    return vectors ++ others

/-- The vectors of chunks, embedded in batches of the given size. -/
def embedChunks (embedder : Embedder Memory Component) (batchSize : Nat) (chunks : List Chunk) :
    ExceptT Error (StateM Memory) (List (List Component)) :=
  embedBatches embedder none (batches batchSize chunks)

end Embedding

end DocIndex
