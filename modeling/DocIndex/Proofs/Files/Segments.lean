import Mathlib.Data.List.Basic
import DocIndex.Files.Path

/-!
# Segments of paths

The segments of a path and the path say the same: joined again they are the path, and segments
without slashes are found again when they have been joined.
-/

namespace DocIndex.Files

theorem segmentsOf_ne_nil (bytes : List UInt8) : segmentsOf bytes ≠ [] := by
  fun_cases segmentsOf bytes <;> simp

theorem segmentsOf_slash (bytes : List UInt8) :
    segmentsOf (slash :: bytes) = [] :: segmentsOf bytes := by
  rw [segmentsOf]
  rfl

theorem segmentsOf_cons {byte : UInt8} (other : byte ≠ slash) {bytes segment : List UInt8}
    {later : List Name} (found : segmentsOf bytes = segment :: later) :
    segmentsOf (byte :: bytes) = (byte :: segment) :: later := by
  rw [segmentsOf, if_neg (by simpa using other), found]

theorem joinSegments_cons {later : List Name} (more : later ≠ []) (segment : Name) :
    joinSegments (segment :: later) = segment ++ slash :: joinSegments later := by
  rcases List.exists_cons_of_ne_nil more with ⟨next, rest, rfl⟩
  rfl

theorem joinSegments_append {segments others : List Name} (some_segments : segments ≠ [])
    (more : others ≠ []) :
    joinSegments (segments ++ others) =
      joinSegments segments ++ slash :: joinSegments others := by
  induction segments with
  | nil => contradiction
  | cons segment later ih =>
      rcases later with _ | ⟨next, rest⟩
      · exact joinSegments_cons more segment
      · rw [List.cons_append, joinSegments_cons (by simp), joinSegments_cons (by simp),
          ih (by simp), List.append_assoc, List.cons_append]

theorem joinSegments_segmentsOf (bytes : List UInt8) : joinSegments (segmentsOf bytes) = bytes := by
  induction bytes with
  | nil => rfl
  | cons byte bytes ih =>
      by_cases separates : byte = slash
      · rw [separates, segmentsOf_slash, joinSegments_cons (segmentsOf_ne_nil bytes), ih]
        rfl
      · rcases List.exists_cons_of_ne_nil (segmentsOf_ne_nil bytes) with ⟨segment, later, found⟩
        rw [segmentsOf_cons separates found]
        rw [found] at ih
        rcases later with _ | ⟨next, rest⟩
        · rw [← ih]
          rfl
        · rw [joinSegments_cons (List.cons_ne_nil next rest)] at ih ⊢
          rw [List.cons_append, ih]

theorem slash_not_mem_of_mem_segmentsOf {bytes : List UInt8} {segment : Name}
    (member : segment ∈ segmentsOf bytes) : slash ∉ segment := by
  induction bytes generalizing segment with
  | nil =>
      rw [List.mem_singleton.mp member]
      exact List.not_mem_nil
  | cons byte bytes ih =>
      by_cases separates : byte = slash
      · rw [separates, segmentsOf_slash] at member
        rcases List.mem_cons.mp member with rfl | inLater
        · exact List.not_mem_nil
        · exact ih inLater
      · rcases List.exists_cons_of_ne_nil (segmentsOf_ne_nil bytes) with ⟨first, later, found⟩
        rw [segmentsOf_cons separates found] at member
        rcases List.mem_cons.mp member with rfl | inLater
        · have notInFirst := ih (found ▸ List.mem_cons_self)
          rw [List.mem_cons, not_or]
          exact ⟨Ne.symm separates, notInFirst⟩
        · exact ih (found ▸ List.mem_cons_of_mem first inLater)

theorem segmentsOf_of_slash_not_mem {segment : Name} (plain : slash ∉ segment) :
    segmentsOf segment = [segment] := by
  induction segment with
  | nil => rfl
  | cons byte bytes ih =>
      rw [List.mem_cons, not_or] at plain
      exact segmentsOf_cons (Ne.symm plain.1) (ih plain.2)

theorem segmentsOf_append_slash {segment : Name} (plain : slash ∉ segment) (bytes : List UInt8) :
    segmentsOf (segment ++ slash :: bytes) = segment :: segmentsOf bytes := by
  induction segment with
  | nil => exact segmentsOf_slash bytes
  | cons byte rest ih =>
      rw [List.mem_cons, not_or] at plain
      exact segmentsOf_cons (Ne.symm plain.1) (ih plain.2)

theorem segmentsOf_joinSegments {segments : List Name} (some_segments : segments ≠ [])
    (plain : ∀ segment ∈ segments, slash ∉ segment) :
    segmentsOf (joinSegments segments) = segments := by
  induction segments with
  | nil => contradiction
  | cons segment later ih =>
      have first : slash ∉ segment := plain segment List.mem_cons_self
      rcases later with _ | ⟨next, rest⟩
      · exact segmentsOf_of_slash_not_mem first
      · rw [joinSegments_cons (List.cons_ne_nil next rest), segmentsOf_append_slash first,
          ih (List.cons_ne_nil next rest)
            fun other member => plain other (List.mem_cons_of_mem segment member)]

theorem segmentsOf_append (before after : List UInt8) :
    segmentsOf (before ++ slash :: after) = segmentsOf before ++ segmentsOf after := by
  have joined : before ++ slash :: after =
      joinSegments (segmentsOf before ++ segmentsOf after) := by
    rw [joinSegments_append (segmentsOf_ne_nil before) (segmentsOf_ne_nil after),
      joinSegments_segmentsOf, joinSegments_segmentsOf]
  rw [joined]
  apply segmentsOf_joinSegments
  · exact List.append_ne_nil_of_left_ne_nil (segmentsOf_ne_nil before) _
  · intro segment member
    rcases List.mem_append.mp member with inBefore | inAfter
    · exact slash_not_mem_of_mem_segmentsOf inBefore
    · exact slash_not_mem_of_mem_segmentsOf inAfter

/-- A path begins at the root exactly when its first segment is empty and others follow. -/
theorem Path.isAbsolute_iff {path : Path} {segment : Name} {later : List Name}
    (found : segmentsOf path.bytes = segment :: later) :
    path.isAbsolute = true ↔ segment = [] ∧ later ≠ [] := by
  rcases path with ⟨_ | ⟨byte, bytes⟩⟩
  · rcases List.cons.inj found with ⟨rfl, rfl⟩
    simp [isAbsolute]
  · rcases List.exists_cons_of_ne_nil (segmentsOf_ne_nil bytes) with ⟨first, rest, inner⟩
    by_cases separates : byte = slash
    · subst separates
      simp only [segmentsOf_slash] at found
      rcases List.cons.inj found with ⟨rfl, rfl⟩
      simp [isAbsolute, segmentsOf_ne_nil]
    · simp only [segmentsOf_cons separates inner] at found
      rcases List.cons.inj found with ⟨rfl, rfl⟩
      simp [isAbsolute, separates]

end DocIndex.Files
