import Mathlib.Data.List.TakeWhile
import DocIndex.Proofs.Files.Relative

/-!
# The last component of a path

The slashes at the end of a path name nothing, nor do the segments `.` there that have a slash in
front. Without them a path ends in its last component, the bytes behind the last slash. This is the
name of what the path leads to, unless it is empty, `.` or `..`; then the path ends in no name.
-/

namespace DocIndex.Files.Path

variable {path : Path} {front idle : List UInt8} {name : Name}

/-- What names nothing behind a path: slashes, and segments `.` with a slash in front. -/
inductive IsIdleEnd : List UInt8 → Prop
  | nil : IsIdleEnd []
  | slash {idle : List UInt8} (before : IsIdleEnd idle) : IsIdleEnd (idle ++ [slash])
  | self {idle : List UInt8} (before : IsIdleEnd idle) : IsIdleEnd (idle ++ [slash, dot])

/-- Bytes that end neither in a slash nor in a segment `.` with a slash in front. -/
structure EndsSolid (bytes : List UInt8) : Prop where
  not_slash : ∀ before, bytes ≠ before ++ [slash]
  not_self : ∀ before, bytes ≠ before ++ [slash, dot]

/-- Bytes, the last one first, without the slashes and the segments `.` that they begin with. -/
def dropIdle : List UInt8 → List UInt8
  | 0x2F :: before => dropIdle before
  | 0x2E :: 0x2F :: before => dropIdle before
  | bytes => bytes

/-- The bytes of a path up to the slashes and the segments `.` at its end. -/
def withoutIdleEnd (path : Path) : List UInt8 := (dropIdle path.bytes.reverse).reverse

/-- What follows the last slash of a path without the slashes and the segments `.` at its end. -/
def lastComponent (path : Path) : Name := path.withoutIdleEnd.rtakeWhile (· != slash)

theorem exists_idle_dropIdle (reversed : List UInt8) :
    ∃ idle, IsIdleEnd idle ∧ reversed.reverse = (dropIdle reversed).reverse ++ idle := by
  fun_induction dropIdle reversed with
  | case1 before ih =>
      rcases ih with ⟨idle, isIdle, whole⟩
      refine ⟨idle ++ [slash], .slash isIdle, ?_⟩
      rw [List.reverse_cons, whole, List.append_assoc]
      rfl
  | case2 before ih =>
      rcases ih with ⟨idle, isIdle, whole⟩
      refine ⟨idle ++ [slash, dot], .self isIdle, ?_⟩
      rw [List.reverse_cons, List.reverse_cons, whole, List.append_assoc, List.append_assoc]
      rfl
  | case3 bytes => exact ⟨[], .nil, (List.append_nil _).symm⟩

theorem endsSolid_dropIdle (reversed : List UInt8) : EndsSolid (dropIdle reversed).reverse := by
  fun_induction dropIdle reversed with
  | case1 before ih => exact ih
  | case2 before ih => exact ih
  | case3 bytes notSlash notSelf =>
      constructor
      · intro before ends
        rw [List.reverse_eq_iff, List.reverse_append] at ends
        exact notSlash before.reverse ends
      · intro before ends
        rw [List.reverse_eq_iff, List.reverse_append] at ends
        exact notSelf before.reverse ends

theorem withoutIdleEnd_of_endsSolid (solid : EndsSolid path.bytes) :
    path.withoutIdleEnd = path.bytes := by
  have kept : dropIdle path.bytes.reverse = path.bytes.reverse := by
    apply dropIdle.eq_3
    · intro before ends
      rw [List.reverse_eq_iff, List.reverse_cons] at ends
      exact solid.not_slash before.reverse ends
    · intro before ends
      rw [List.reverse_eq_iff, List.reverse_cons, List.reverse_cons, List.append_assoc] at ends
      exact solid.not_self before.reverse ends
  rw [withoutIdleEnd, kept, List.reverse_reverse]

theorem withoutIdleEnd_append (isIdle : IsIdleEnd idle) (bytes : List UInt8) :
    (⟨bytes ++ idle⟩ : Path).withoutIdleEnd = (⟨bytes⟩ : Path).withoutIdleEnd := by
  induction isIdle with
  | nil => rw [List.append_nil]
  | slash before ih =>
      rw [← ih, ← List.append_assoc, withoutIdleEnd, List.reverse_append]
      rfl
  | self before ih =>
      rw [← ih, ← List.append_assoc, withoutIdleEnd, List.reverse_append]
      rfl

/-- An idle end behind a path does not change its last component. -/
theorem lastComponent_append (isIdle : IsIdleEnd idle) (bytes : List UInt8) :
    (⟨bytes ++ idle⟩ : Path).lastComponent = (⟨bytes⟩ : Path).lastComponent := by
  rw [lastComponent, lastComponent, withoutIdleEnd_append isIdle]

/-- A path is its last component with a front that is empty or ends in a slash, and an idle end. -/
theorem exists_bytes_eq_lastComponent (path : Path) : ∃ front idle,
    path.bytes = front ++ (path.lastComponent ++ idle) ∧ IsFront front ∧
      slash ∉ path.lastComponent ∧ IsIdleEnd idle ∧ EndsSolid (front ++ path.lastComponent) := by
  have split : path.withoutIdleEnd.rdropWhile (· != slash) ++ path.lastComponent =
      path.withoutIdleEnd := List.rdropWhile_append_rtakeWhile
  rcases exists_idle_dropIdle path.bytes.reverse with ⟨idle, isIdle, whole⟩
  rw [List.reverse_reverse, ← withoutIdleEnd] at whole
  refine ⟨path.withoutIdleEnd.rdropWhile (· != slash), idle, ?_, ?_, ?_, isIdle, ?_⟩
  · rw [← List.append_assoc, split]
    exact whole
  · rcases List.eq_nil_or_concat' (path.withoutIdleEnd.rdropWhile (· != slash)) with
      none_left | ⟨before, last, cut⟩
    · exact .inl none_left
    · have isSlash : last = slash := by
        have stops := List.rdropWhile_last_not (· != slash) path.withoutIdleEnd (by rw [cut]; simp)
        simpa [cut] using stops
      rw [cut, isSlash]
      exact .inr List.getLast?_concat
  · intro member
    simpa using List.mem_rtakeWhile_imp member
  · rw [split]
    exact endsSolid_dropIdle _

/-- A name at the end of bytes stands behind every slash in them. -/
theorem suffix_of_append_eq {before after : List UInt8} (single : slash ∉ name)
    (same : front ++ name = before ++ slash :: after) : name <:+ after := by
  rcases List.append_eq_append_iff.mp same with ⟨rest, _, name_eq⟩ | ⟨rest, _, later_eq⟩
  · exact absurd (by simp [name_eq]) single
  · rcases rest with _ | ⟨byte, rest⟩
    · obtain rfl : name = slash :: after := later_eq.symm
      exact absurd List.mem_cons_self single
    · exact ⟨rest, (List.cons.inj later_eq).2.symm⟩

theorem endsSolid_append (single : slash ∉ name) (named : isVoid name = false)
    (front : List UInt8) : EndsSolid (front ++ name) := by
  constructor
  · intro before ends
    obtain rfl := List.suffix_nil.mp (suffix_of_append_eq single ends)
    contradiction
  · intro before ends
    rcases suffix_of_append_eq single ends with ⟨rest, dot_eq⟩
    rcases List.append_eq_singleton_iff.mp dot_eq with ⟨_, rfl⟩ | ⟨_, rfl⟩
    · contradiction
    · contradiction

/-- A name is the last component whatever stands in front of it, up to a slash, and idle behind. -/
theorem lastComponent_eq (isFront : IsFront front) (single : slash ∉ name)
    (named : isVoid name = false) (isIdle : IsIdleEnd idle) :
    (⟨front ++ (name ++ idle)⟩ : Path).lastComponent = name := by
  have within : ∀ byte ∈ name.reverse, (byte != slash) = true := by
    intro byte member
    rw [bne_iff_ne]
    rintro rfl
    exact single (List.mem_reverse.mp member)
  rw [← List.append_assoc, lastComponent_append isIdle, lastComponent,
    withoutIdleEnd_of_endsSolid (endsSolid_append single named front), List.rtakeWhile,
    List.reverse_append, List.takeWhile_append_of_pos within]
  rcases isFront with rfl | closed
  · simp
  · rcases List.getLast?_eq_some_iff.mp closed with ⟨before, rfl⟩
    simp

theorem EndsSolid.isVoid_eq_false {before : List UInt8}
    (solid : EndsSolid ((before ++ [slash]) ++ name)) : isVoid name = false := by
  rw [isVoid, Bool.or_eq_false_iff, List.isEmpty_eq_false_iff, beq_eq_false_iff_ne]
  constructor
  · rintro rfl
    exact solid.not_slash before (List.append_nil _)
  · rintro rfl
    exact solid.not_self before (List.append_assoc before _ _)

theorem names_append_idle (isIdle : IsIdleEnd idle) (bytes : List UInt8) :
    (⟨bytes ++ idle⟩ : Path).names = (⟨bytes⟩ : Path).names := by
  induction isIdle with
  | nil => rw [List.append_nil]
  | slash before ih =>
      rw [← ih, ← List.append_assoc, names, segmentsOf_append, List.filter_append]
      exact List.append_nil _
  | self before ih =>
      rw [← ih, ← List.append_assoc, names, segmentsOf_append, List.filter_append]
      exact List.append_nil _

/-- The names on a path end in its last component. -/
theorem getLast?_names (path : Path) :
    path.names.getLast? =
      if isVoid path.lastComponent then none else some path.lastComponent := by
  rcases path.exists_bytes_eq_lastComponent with
    ⟨front, idle, bytes_eq, isFront, single, isIdle, solid⟩
  have names_eq : path.names = (⟨front ++ path.lastComponent⟩ : Path).names := by
    rw [← names_append_idle isIdle (front ++ path.lastComponent), List.append_assoc, ← bytes_eq]
  rw [names_eq, names]
  rcases isFront with rfl | closed
  · rw [List.nil_append, segmentsOf_of_slash_not_mem single]
    by_cases void : isVoid path.lastComponent = true
    · rw [if_pos void, List.filter_cons_of_neg (by simp [void])]
      rfl
    · rw [if_neg void, List.filter_cons_of_pos (by simp [void])]
      rfl
  · rcases List.getLast?_eq_some_iff.mp closed with ⟨before, rfl⟩
    have named : isVoid path.lastComponent = false := solid.isVoid_eq_false
    rw [List.append_assoc, List.singleton_append, segmentsOf_append,
      segmentsOf_of_slash_not_mem single, List.filter_append,
      List.filter_cons_of_pos (by simp [named]), named]
    exact List.getLast?_concat

theorem getLast?_trimVoidEnd (segments : List Name) :
    (trimVoidEnd segments).getLast? = (segments.filter (! isVoid ·)).getLast? :=
  calc (trimVoidEnd segments).getLast?
      = (segments.reverse.dropWhile isVoid).head? := List.getLast?_reverse
    _ = segments.reverse.find? (! isVoid ·) := (List.find?_not_eq_head?_dropWhile _ _).symm
    _ = (segments.reverse.filter (! isVoid ·)).head? := List.head?_filter.symm
    _ = (segments.filter (! isVoid ·)).getLast? := by rw [List.filter_reverse, List.head?_reverse]

/-- The name of what a path leads to is its last component, if that is a name. -/
theorem fileName?_eq (path : Path) :
    path.fileName? = if isVoid path.lastComponent ∨ path.lastComponent = parentName then none
      else some path.lastComponent := by
  rw [fileName?, getLast?_trimVoidEnd, ← names_eq_filter_parts, getLast?_names]
  by_cases void : isVoid path.lastComponent = true
  · simp [void]
  · simp [void]

end DocIndex.Files.Path
