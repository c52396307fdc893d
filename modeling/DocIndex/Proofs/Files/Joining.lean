import Mathlib.Data.List.Basic
import DocIndex.Proofs.Files.Segments

/-!
# Joining paths

To join a relative path to a folder is to write it behind the folder, with a slash between where one
is missing. So joining is associative, the names of a joined path are those of its parts, and the
path from a folder to what is joined to it does not depend on the folder.
-/

namespace DocIndex.Files

/-- A single segment that names an entry of a folder. -/
structure IsPlain (name : Name) : Prop where
  single : slash ∉ name
  solid : isVoid name = false
  down : name ≠ parentName

instance (name : Name) : Decidable (IsPlain name) :=
  decidable_of_iff (slash ∉ name ∧ isVoid name = false ∧ name ≠ parentName)
    ⟨fun ⟨single, solid, down⟩ => ⟨single, solid, down⟩,
      fun ⟨single, solid, down⟩ => ⟨single, solid, down⟩⟩

theorem IsPlain.ne_nil {name : Name} (plain : IsPlain name) : name ≠ [] := by
  rintro rfl
  exact absurd plain.solid (by decide)

theorem IsPlain.ne_selfName {name : Name} (plain : IsPlain name) : name ≠ selfName := by
  rintro rfl
  exact absurd plain.solid (by decide)

namespace Path

variable {base path other : Path} {name : Name}

/-- What stands in front of a relative path that is joined to a folder. -/
def opening (base : Path) : List UInt8 :=
  if base.bytes.isEmpty || base.bytes.getLast? == some slash then base.bytes
  else base.bytes ++ [slash]

theorem opening_of_closed (closed : base.bytes = [] ∨ base.bytes.getLast? = some slash) :
    base.opening = base.bytes := by
  rw [opening, if_pos (by simpa using closed)]

theorem opening_of_open (some_bytes : base.bytes ≠ []) (last : base.bytes.getLast? ≠ some slash) :
    base.opening = base.bytes ++ [slash] := by
  rw [opening, if_neg (by simp [some_bytes, last])]

theorem join_eq (relative : path.isAbsolute = false) (base : Path) :
    base.join path = ⟨base.opening ++ path.bytes⟩ := by
  rw [join, relative, if_neg Bool.false_ne_true]
  by_cases closed : base.bytes = [] ∨ base.bytes.getLast? = some slash
  · rw [if_pos (by simpa using closed), opening_of_closed closed]
  · rw [if_neg (by simpa using closed)]
    rw [not_or] at closed
    rw [opening_of_open closed.1 closed.2, List.append_assoc, List.singleton_append]

theorem opening_closed (base : Path) : base.opening = [] ∨ base.opening.getLast? = some slash := by
  by_cases closed : base.bytes = [] ∨ base.bytes.getLast? = some slash
  · rw [opening_of_closed closed]
    exact closed
  · rw [not_or] at closed
    right
    rw [opening_of_open closed.1 closed.2, List.getLast?_append, List.getLast?_singleton,
      Option.some_or]

theorem opening_join (relative : path.isAbsolute = false) (base : Path) :
    (base.join path).opening = base.opening ++ path.opening := by
  rw [join_eq relative]
  by_cases empty : path.bytes = []
  · have closed := base.opening_closed
    rw [opening_of_closed (.inl empty), empty, List.append_nil]
    exact opening_of_closed closed
  · have last : (base.opening ++ path.bytes).getLast? = path.bytes.getLast? := by
      rw [List.getLast?_append, List.getLast?_eq_some_getLast empty, Option.some_or]
    by_cases closed : path.bytes.getLast? = some slash
    · rw [opening_of_closed (.inr closed)]
      exact opening_of_closed (.inr (last.trans closed))
    · rw [opening_of_open empty closed, ← List.append_assoc]
      apply opening_of_open
      · simp [empty]
      · rw [last]
        exact closed

theorem isAbsolute_join (relative : path.isAbsolute = false)
    (relativeOther : other.isAbsolute = false) : (path.join other).isAbsolute = false := by
  rw [join_eq relativeOther]
  by_cases empty : path.bytes = []
  · rw [opening_of_closed (.inl empty), empty]
    exact relativeOther
  · rcases List.exists_cons_of_ne_nil empty with ⟨byte, bytes, bytes_eq⟩
    have first : path.opening.head? = some byte := by
      rw [opening, bytes_eq]
      split <;> rfl
    rw [isAbsolute, bytes_eq] at relative
    rw [isAbsolute, List.head?_append, first, Option.some_or]
    exact relative

theorem join_assoc (relative : path.isAbsolute = false) (relativeOther : other.isAbsolute = false)
    (base : Path) : (base.join path).join other = base.join (path.join other) := by
  rw [join_eq relativeOther, join_eq (isAbsolute_join relative relativeOther),
    opening_join relative, join_eq relativeOther, List.append_assoc]

/-- The names that a path leads along, without the segments that name no place. -/
def names (path : Path) : List Name := (segmentsOf path.bytes).filter (! isVoid ·)

theorem not_mem_segmentsOf_of_names {path : Path} (inside : parentName ∉ path.names) :
    parentName ∉ segmentsOf path.bytes := by
  intro member
  exact inside (List.mem_filter.mpr ⟨member, by decide⟩)

theorem exists_segmentsOf_opening (base : Path) :
    ∃ outer, outer.filter (! isVoid ·) = base.names ∧
      ∀ bytes, segmentsOf (base.opening ++ bytes) = outer ++ segmentsOf bytes := by
  by_cases empty : base.bytes = []
  · refine ⟨[], ?_, ?_⟩
    · rw [names, empty]
      decide
    · intro bytes
      rw [opening_of_closed (.inl empty), empty]
      rfl
  · by_cases closed : base.bytes.getLast? = some slash
    · rcases List.getLast?_eq_some_iff.mp closed with ⟨before, bytes_eq⟩
      refine ⟨segmentsOf before, ?_, ?_⟩
      · rw [names, bytes_eq, segmentsOf_append, List.filter_append]
        exact (List.append_nil _).symm
      · intro bytes
        rw [opening_of_closed (.inr closed), bytes_eq, List.append_assoc, List.singleton_append,
          segmentsOf_append]
    · refine ⟨segmentsOf base.bytes, rfl, ?_⟩
      intro bytes
      rw [opening_of_open empty closed, List.append_assoc, List.singleton_append, segmentsOf_append]

theorem names_join (relative : path.isAbsolute = false) (base : Path) :
    (base.join path).names = base.names ++ path.names := by
  rcases base.exists_segmentsOf_opening with ⟨outer, names_eq, segments⟩
  rw [join_eq relative, names, segments, List.filter_append, names_eq]
  rfl

@[simp]
theorem isAbsolute_of_isPlain (plain : IsPlain name) : (⟨name⟩ : Path).isAbsolute = false := by
  rcases List.exists_cons_of_ne_nil plain.ne_nil with ⟨byte, bytes, rfl⟩
  have other : byte ≠ slash := fun same => plain.single (same ▸ List.mem_cons_self)
  simpa [isAbsolute] using other

@[simp]
theorem names_of_isPlain (plain : IsPlain name) : (⟨name⟩ : Path).names = [name] := by
  rw [names, segmentsOf_of_slash_not_mem plain.single, List.filter_cons, plain.solid]
  rfl

@[simp]
theorem names_entry (plain : IsPlain name) (folder : Path) :
    (folder.entry name).names = folder.names ++ [name] := by
  rw [entry, names_join (isAbsolute_of_isPlain plain), names_of_isPlain plain]

theorem isAbsolute_entry (plain : IsPlain name) (relative : path.isAbsolute = false) :
    (path.entry name).isAbsolute = false :=
  isAbsolute_join relative (isAbsolute_of_isPlain plain)

theorem entry_join (plain : IsPlain name) (relative : path.isAbsolute = false) (base : Path) :
    (base.join path).entry name = base.join (path.entry name) :=
  join_assoc relative (isAbsolute_of_isPlain plain) base

/-- The path that leads from a folder along names of entries. -/
def below (folder : Path) (names : List Name) : Path := names.foldl entry folder

@[simp]
theorem names_below {names : List Name} (plain : ∀ name ∈ names, IsPlain name) (folder : Path) :
    (folder.below names).names = folder.names ++ names := by
  induction names generalizing folder with
  | nil => exact (List.append_nil _).symm
  | cons name later ih =>
      rw [below, List.foldl_cons, ← below,
        ih (fun other member => plain other (List.mem_cons_of_mem name member)),
        names_entry (plain name List.mem_cons_self), List.append_assoc, List.singleton_append]

theorem isAbsolute_below {names : List Name} (plain : ∀ name ∈ names, IsPlain name)
    (relative : path.isAbsolute = false) : (path.below names).isAbsolute = false := by
  induction names generalizing path with
  | nil => exact relative
  | cons name later ih =>
      exact ih (fun other member => plain other (List.mem_cons_of_mem name member))
        (isAbsolute_entry (plain name List.mem_cons_self) relative)

theorem below_join {names : List Name} (plain : ∀ name ∈ names, IsPlain name)
    (relative : path.isAbsolute = false) (base : Path) :
    (base.join path).below names = base.join (path.below names) := by
  induction names generalizing path with
  | nil => rfl
  | cons name later ih =>
      have named : IsPlain name := plain name List.mem_cons_self
      rw [below, List.foldl_cons, ← below, entry_join named relative,
        ih (fun other member => plain other (List.mem_cons_of_mem name member))
          (isAbsolute_entry named relative)]
      rfl

/-- What is below a folder along names of entries is named by one path that is joined to it. -/
theorem exists_join_eq_below {names : List Name} (plain : ∀ name ∈ names, IsPlain name)
    (some_names : names ≠ []) (base : Path) :
    ∃ path : Path, path.isAbsolute = false ∧ path.names = names ∧
      base.below names = base.join path := by
  rcases List.exists_cons_of_ne_nil some_names with ⟨name, later, rfl⟩
  have named : IsPlain name := plain name List.mem_cons_self
  have plainLater : ∀ other ∈ later, IsPlain other := fun other member =>
    plain other (List.mem_cons_of_mem name member)
  have relative := isAbsolute_of_isPlain named
  refine ⟨(⟨name⟩ : Path).below later, isAbsolute_below plainLater relative, ?_,
    below_join plainLater relative base⟩
  rw [names_below plainLater, names_of_isPlain named, List.singleton_append]

/-- A path whose last segment is a name, as that of an entry of a folder is. -/
def EndsInName (path : Path) (name : Name) : Prop :=
  IsPlain name ∧ ∃ outer, segmentsOf path.bytes = outer ++ [name]

theorem endsInName_entry (plain : IsPlain name) (folder : Path) :
    (folder.entry name).EndsInName name := by
  rcases folder.exists_segmentsOf_opening with ⟨outer, _, segments⟩
  refine ⟨plain, outer, ?_⟩
  rw [entry, join_eq (isAbsolute_of_isPlain plain), segments,
    segmentsOf_of_slash_not_mem plain.single]

theorem EndsInName.opening_eq (ends : base.EndsInName name) :
    base.opening = base.bytes ++ [slash] := by
  rcases ends with ⟨plain, outer, segments⟩
  apply opening_of_open
  · intro empty
    rw [empty] at segments
    have last := congrArg List.getLast? segments
    rw [List.getLast?_append] at last
    exact plain.ne_nil (Option.some.inj last).symm
  · intro closed
    rcases List.getLast?_eq_some_iff.mp closed with ⟨before, bytes_eq⟩
    rw [bytes_eq, segmentsOf_append] at segments
    exact plain.ne_nil (List.singleton_inj.mp (List.append_inj_right' segments rfl)).symm

theorem EndsInName.bytes_join (ends : base.EndsInName name) (relative : path.isAbsolute = false) :
    (base.join path).bytes = base.bytes ++ slash :: path.bytes := by
  rw [join_eq relative, ends.opening_eq, List.append_assoc, List.singleton_append]

theorem EndsInName.segmentsOf_join (ends : base.EndsInName name)
    (relative : path.isAbsolute = false) :
    segmentsOf (base.join path).bytes = segmentsOf base.bytes ++ segmentsOf path.bytes := by
  rw [ends.bytes_join relative, segmentsOf_append]

/-- Where a path begins is seen from its segments up to a name. -/
theorem exists_parts (plain : IsPlain name) (outer : List Name) :
    ∃ start inner, ∀ (path : Path) (rest : List Name),
      segmentsOf path.bytes = outer ++ name :: rest →
        path.parts = (start, inner ++ name :: rest) := by
  rcases outer with _ | ⟨first, outer⟩
  · refine ⟨.implicit, [], ?_⟩
    intro path rest segments
    have named : (name == selfName) = false := beq_eq_false_iff_ne.mpr plain.ne_selfName
    rcases List.exists_cons_of_ne_nil plain.ne_nil with ⟨byte, bytes, rfl⟩
    rw [parts, segments]
    simp [named]
  · by_cases empty : first = []
    · refine ⟨.root, outer, ?_⟩
      intro path rest segments
      have deeper : outer ++ name :: rest ≠ [] := by simp
      rw [parts, segments, empty, List.cons_append]
      rcases List.exists_cons_of_ne_nil deeper with ⟨next, later, deeper_eq⟩
      rw [deeper_eq]
    · rcases List.exists_cons_of_ne_nil empty with ⟨byte, bytes, rfl⟩
      by_cases here : byte :: bytes = selfName
      · refine ⟨.here, outer, ?_⟩
        intro path rest segments
        rcases List.cons.inj here with ⟨rfl, rfl⟩
        rw [parts, segments]
        rfl
      · refine ⟨.implicit, (byte :: bytes) :: outer, ?_⟩
        intro path rest segments
        rw [parts, segments]
        simp [here]

theorem EndsInName.fileName?_eq (ends : path.EndsInName name) : path.fileName? = some name := by
  rcases ends with ⟨plain, outer, segments⟩
  rcases exists_parts plain outer with ⟨start, inner, parts⟩
  have last : (trimVoidEnd (inner ++ [name])).getLast? = some name := by
    rw [trimVoidEnd, List.reverse_append, List.reverse_singleton, List.singleton_append,
      List.dropWhile_cons_of_neg (by simp [plain.solid]), List.reverse_cons,
      List.getLast?_append, List.getLast?_singleton, Option.some_or]
  rw [fileName?, parts path [] segments]
  simp [last, plain.down]

theorem dropNames_filter (solid : isVoid name = false) (outer rest : List Name) :
    dropNames (outer ++ name :: rest) ((outer ++ [name]).filter (! isVoid ·)) = some rest := by
  induction outer with
  | nil =>
      rw [List.nil_append, List.nil_append, List.filter_cons, solid]
      simp [dropNames, solid]
  | cons segment later ih =>
      by_cases idle : isVoid segment = true
      · have more : (later ++ [name]).filter (! isVoid ·) ≠ [] := by simp [solid]
        rcases List.exists_cons_of_ne_nil more with ⟨next, names, names_eq⟩
        rw [List.cons_append, List.cons_append, List.filter_cons_of_neg (by simp [idle]), names_eq,
          dropNames, if_pos idle, ← names_eq]
        exact ih
      · rw [List.cons_append, List.cons_append, List.filter_cons_of_pos (by simp [idle]), dropNames,
          if_neg idle, if_pos (beq_self_eq_true segment)]
        exact ih

/-- A relative path without the segments at its ends that name no place. -/
def stripped (path : Path) : Path :=
  ⟨joinSegments (trimVoidEnd ((segmentsOf path.bytes).dropWhile isVoid))⟩

/-- What is joined to a path that ends in a name is found again, whatever that path is. -/
theorem EndsInName.relativeTo?_join (ends : base.EndsInName name)
    (relative : path.isAbsolute = false) :
    (base.join path).relativeTo? base = some path.stripped := by
  have segments := ends.segmentsOf_join relative
  rcases ends with ⟨plain, outer, segmentsBase⟩
  rcases exists_parts plain outer with ⟨start, inner, parts⟩
  rw [segmentsBase, List.append_assoc, List.singleton_append] at segments
  have occurs : name ∈ (inner ++ [name]).filter (! isVoid ·) := by simp [plain.solid]
  have some_names : ((inner ++ [name]).filter (! isVoid ·)).isEmpty = false := by
    rw [List.isEmpty_eq_false_iff]
    exact List.ne_nil_of_mem occurs
  rw [relativeTo?, parts _ _ segments, parts base [] segmentsBase]
  simp only [some_names, Bool.and_false, Bool.false_eq_true, if_false, beq_self_eq_true, if_true,
    dropNames_filter plain.solid, Option.map_some]
  rfl

end Path

end DocIndex.Files
