import DocIndex.Proofs.Files.Inside

/-!
# Spelling a folder at length

Segments that name no place can be put in front of a path in any number. What the path leads to
stays the same until the path is too long to lead anywhere.
-/

namespace DocIndex.Documents

open DocIndex.Files

variable {files : FileSystem} {path : Path}

/-- The working folder, spelt by a number of segments `.` that name no place. -/
def dotted (count : Nat) : Path := ⟨(List.replicate count [dot, slash]).flatten⟩

@[simp]
theorem length_dotted (count : Nat) : (dotted count).bytes.length = count * 2 := by
  simp [dotted]

theorem opening_dotted (count : Nat) : (dotted count).opening = (dotted count).bytes := by
  apply Path.opening_of_closed
  rcases count with _ | count
  · exact .inl rfl
  · right
    rw [dotted, List.replicate_succ', List.flatten_append, List.getLast?_append]
    rfl

theorem segmentsOf_dotted (count : Nat) (bytes : List UInt8) :
    segmentsOf ((dotted count).bytes ++ bytes) =
      List.replicate count selfName ++ segmentsOf bytes := by
  induction count with
  | zero => rfl
  | succ count ih =>
      have first : (dotted (count + 1)).bytes ++ bytes =
          selfName ++ slash :: ((dotted count).bytes ++ bytes) := by
        rw [dotted, List.replicate_succ, List.flatten_cons]
        rfl
      rw [first, segmentsOf_append_slash (by decide), ih, List.replicate_succ, List.cons_append]

theorem walk_dotted {root folder : FileTree} {place : List Name}
    (found : root.at? place = some folder) (opened : folder.isFolder = true) (follow : Bool)
    (links count : Nat) (segments : List Name) :
    FileSystem.walk root follow links place (List.replicate count selfName ++ segments) =
      FileSystem.walk root follow links place segments := by
  induction count with
  | zero => rfl
  | succ count ih =>
      have idle : isVoid selfName = true := by decide
      rw [List.replicate_succ, List.cons_append, FileSystem.walk, found]
      simpa [opened, idle] using ih

/-- Segments that name no place make no difference, unless they make a path too long. -/
theorem find_dotted (opened : ∃ folder, files.root.at? files.working = some folder ∧
      folder.isFolder = true) (relative : path.isAbsolute = false) (some_bytes : path.bytes ≠ [])
    {count : Nat} (short : count * 2 + path.bytes.length ≤ longestPath) (follow : Bool) :
    files.find follow ((dotted count).join path) = files.find follow path := by
  rcases opened with ⟨folder, found, opened⟩
  have bytes_eq : ((dotted count).join path).bytes = (dotted count).bytes ++ path.bytes := by
    rw [Path.join_eq relative, opening_dotted]
  have length_eq : ((dotted count).join path).bytes.length = count * 2 + path.bytes.length := by
    rw [bytes_eq, List.length_append, length_dotted]
  have zero_iff : 0 ∈ ((dotted count).join path).bytes ↔ 0 ∈ path.bytes := by
    rw [bytes_eq, List.mem_append, or_iff_right]
    simp [dotted, dot, slash]
  have relativeJoined : ((dotted count).join path).isAbsolute = false := by
    apply Path.isAbsolute_join _ relative
    rcases count with _ | count
    · rfl
    · rfl
  have nonempty : ((dotted count).join path).bytes ≠ [] := by simp [bytes_eq, some_bytes]
  rw [FileSystem.find, FileSystem.find, FileSystem.locate, FileSystem.locate]
  simp only [List.contains_iff_mem, zero_iff, List.isEmpty_iff, nonempty, some_bytes, length_eq,
    Nat.not_lt.mpr short, Nat.not_lt.mpr ((Nat.le_add_left _ _).trans short), relative,
    relativeJoined, if_false, Bool.false_eq_true]
  rw [bytes_eq, segmentsOf_dotted, walk_dotted found opened]

end DocIndex.Documents
