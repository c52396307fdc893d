import DocIndex.Proofs.Files.Around

/-!
# Paths seen from a folder

The path from a folder to what is below another one that is joined to it is spelt by the names on
the way. What stands in front of these names is the same for all of them, and ends in a slash if it
is anything.
-/

namespace DocIndex.Files.Path

variable {base path : Path} {names : List Name}

/-- What may stand in front of names in a path: nothing, or bytes that end in a slash. -/
def IsFront (front : List UInt8) : Prop := front = [] ∨ front.getLast? = some slash

theorem exists_front (segments : List Name) : ∃ front, IsFront front ∧
    ∀ names, names ≠ [] → joinSegments (segments ++ names) = front ++ joinSegments names := by
  by_cases none_before : segments = []
  · exact ⟨[], .inl rfl, fun names _ => by rw [none_before]; rfl⟩
  · refine ⟨joinSegments segments ++ [slash], .inr List.getLast?_concat, fun names more => ?_⟩
    rw [joinSegments_append none_before more, List.append_assoc, List.singleton_append]

theorem exists_front_ofParts (start : Start) (segments : List Name) : ∃ front, IsFront front ∧
    ∀ names, names ≠ [] → ofParts start (segments ++ names) = ⟨front ++ joinSegments names⟩ := by
  cases start with
  | root =>
      rcases exists_front segments with ⟨front, isFront, joined⟩
      refine ⟨slash :: front, .inr ?_, fun names more => ?_⟩
      · rcases isFront with rfl | closed
        · rfl
        · rw [List.getLast?_cons, closed]
          rfl
      · rw [ofParts, joined names more]
        rfl
  | here =>
      rcases exists_front (selfName :: segments) with ⟨front, isFront, joined⟩
      exact ⟨front, isFront, fun names more => congrArg Path.mk (joined names more)⟩
  | implicit =>
      rcases exists_front segments with ⟨front, isFront, joined⟩
      exact ⟨front, isFront, fun names more => congrArg Path.mk (joined names more)⟩

theorem bytes_below (some_names : names ≠ []) (plain : ∀ name ∈ names, IsPlain name)
    (folder : Path) : (folder.below names).bytes = folder.opening ++ joinSegments names := by
  induction names generalizing folder with
  | nil => contradiction
  | cons name later ih =>
      have named : IsPlain name := plain name List.mem_cons_self
      have entry_eq : (folder.entry name).bytes = folder.opening ++ name := by
        rw [entry, join_eq (isAbsolute_of_isPlain named)]
      rw [below, List.foldl_cons, ← below]
      by_cases last : later = []
      · rw [last]
        exact entry_eq
      · rw [ih last fun other member => plain other (List.mem_cons_of_mem name member),
          (endsInName_entry named folder).opening_eq, entry_eq, joinSegments_cons last,
          List.append_assoc, List.append_assoc, List.singleton_append]

theorem segmentsOf_join_names (some_names : names ≠ []) (plain : ∀ name ∈ names, IsPlain name) :
    segmentsOf (joinSegments names) = names :=
  segmentsOf_joinSegments some_names fun name member => (plain name member).single

/-- Where the paths below a folder begin, and their segments from there. -/
theorem exists_parts_below (folder : Path) : ∃ start inner, ∀ names, names ≠ [] →
    (∀ name ∈ names, IsPlain name) → (folder.below names).parts = (start, inner ++ names) := by
  by_cases empty : folder.bytes = []
  · refine ⟨.implicit, [], fun names some_names plain => ?_⟩
    have bytes_eq := bytes_below some_names plain folder
    rw [opening_of_closed (.inl empty), empty, List.nil_append] at bytes_eq
    rcases List.exists_cons_of_ne_nil some_names with ⟨name, later, rfl⟩
    have named : IsPlain name := plain name List.mem_cons_self
    have segments : segmentsOf (folder.below (name :: later)).bytes = name :: later := by
      rw [bytes_eq, segmentsOf_join_names some_names plain]
    rw [parts_of_segmentsOf segments, if_neg named.ne_nil, if_neg named.ne_selfName]
    rfl
  · rcases exists_parts_opening empty with ⟨start, inner, _, _, _, _, joinedParts⟩
    refine ⟨start, inner, fun names some_names plain => ?_⟩
    have below_eq : folder.below names = ⟨folder.opening ++ joinSegments names⟩ :=
      congrArg Path.mk (bytes_below some_names plain folder)
    rw [below_eq, joinedParts, segmentsOf_join_names some_names plain]

/-- What names leave of segments that begin with them does not depend on what comes behind. -/
theorem exists_dropNames (outer : List Name) : ∃ left, ∀ rest,
    dropNames (outer ++ rest) (outer.filter (! isVoid ·)) = some (left ++ rest) := by
  induction outer with
  | nil => exact ⟨[], fun rest => by simp [dropNames]⟩
  | cons segment later ih =>
      rcases ih with ⟨left, dropped⟩
      by_cases idle : isVoid segment = true
      · rcases names_eq : later.filter (! isVoid ·) with _ | ⟨name, names⟩
        · refine ⟨segment :: later, fun rest => ?_⟩
          rw [List.filter_cons_of_neg (by simp [idle]), names_eq]
          simp [dropNames]
        · refine ⟨left, fun rest => ?_⟩
          rw [List.filter_cons_of_neg (by simp [idle]), names_eq, List.cons_append, dropNames,
            if_pos idle, ← names_eq, dropped]
      · refine ⟨left, fun rest => ?_⟩
        rw [List.filter_cons_of_pos (by simp [idle]), List.cons_append, dropNames, if_neg idle,
          if_pos (beq_self_eq_true segment), dropped]

theorem trimVoidEnd_append_names (some_names : names ≠ []) (plain : ∀ name ∈ names, IsPlain name)
    (segments : List Name) : trimVoidEnd (segments ++ names) = segments ++ names := by
  rcases List.eq_nil_or_concat' names with none_left | ⟨before, last, rfl⟩
  · exact absurd none_left some_names
  · rw [← List.append_assoc,
      trimVoidEnd_concat (plain last (List.mem_append_right before List.mem_cons_self)).solid]

theorem dropWhile_append_names (some_names : names ≠ []) (plain : ∀ name ∈ names, IsPlain name)
    (segments : List Name) :
    (segments ++ names).dropWhile isVoid = segments.dropWhile isVoid ++ names := by
  have stays : names.dropWhile isVoid = names := by
    rcases List.exists_cons_of_ne_nil some_names with ⟨name, later, rfl⟩
    rw [List.dropWhile_cons_of_neg (by simp [(plain name List.mem_cons_self).solid])]
  rw [List.dropWhile_append, stays]
  split
  · rename_i empty
    rw [List.isEmpty_iff.mp empty, List.nil_append]
  · rfl

theorem filter_append_void (segments : List Name) {idle : List Name}
    (void : ∀ segment ∈ idle, isVoid segment = true) :
    (segments ++ idle).filter (! isVoid ·) = segments.filter (! isVoid ·) := by
  have none_idle : idle.filter (! isVoid ·) = [] := by
    rw [List.filter_eq_nil_iff]
    intro segment member
    simp [void segment member]
  rw [List.filter_append, none_idle, List.append_nil]

/-- Seen from a folder, paths below what is joined to it differ in the names alone. -/
theorem exists_front_relativeTo? (base : Path) (relative : path.isAbsolute = false) :
    ∃ front, IsFront front ∧ ∀ names, names ≠ [] → (∀ name ∈ names, IsPlain name) →
      ((base.join path).below names).relativeTo? base = some ⟨front ++ joinSegments names⟩ := by
  by_cases empty : base.bytes = []
  · rcases exists_parts_below (base.join path) with ⟨start, inner, belowParts⟩
    rcases exists_front_ofParts start inner with ⟨front, isFront, spelt⟩
    refine ⟨front, isFront, fun names some_names plain => ?_⟩
    have baseParts : base.parts = (.implicit, []) := by
      rw [parts, empty]
      rfl
    rw [relativeTo?, belowParts names some_names plain, baseParts]
    simp only [beq_self_eq_true, List.filter_nil, List.isEmpty_nil, Bool.and_true, if_true]
    rw [trimVoidEnd_append_names some_names plain, spelt names some_names]
  · rcases exists_parts_opening empty with ⟨start, inner, idle, void, baseParts, solid, joinedParts⟩
    rcases path.exists_segmentsOf_opening with ⟨outer, _, segments⟩
    rcases exists_dropNames inner with ⟨left, dropped⟩
    rcases exists_front ((left ++ outer).dropWhile isVoid) with ⟨front, isFront, joined⟩
    refine ⟨front, isFront, fun names some_names plain => ?_⟩
    have below_eq : (base.join path).below names =
        ⟨base.opening ++ (path.opening ++ joinSegments names)⟩ := by
      have bytes_eq := bytes_below some_names plain (base.join path)
      rw [opening_join relative, List.append_assoc] at bytes_eq
      exact congrArg Path.mk bytes_eq
    have baseNames := filter_append_void inner void
    have named : (start == .implicit && (inner.filter (! isVoid ·)).isEmpty) = false := by
      rw [Bool.and_eq_false_imp]
      intro same
      rcases solid (eq_of_beq same) with ⟨segment, member, isSolid⟩
      rw [List.isEmpty_eq_false_iff]
      exact List.ne_nil_of_mem (List.mem_filter.mpr ⟨member, by simp [isSolid]⟩)
    rw [relativeTo?, below_eq, joinedParts, segments, segmentsOf_join_names some_names plain,
      baseParts]
    simp only [baseNames, named, Bool.false_eq_true, if_false, beq_self_eq_true, if_true, dropped,
      Option.map_some]
    rw [← List.append_assoc, dropWhile_append_names some_names plain,
      trimVoidEnd_append_names some_names plain, joined names some_names]

@[simp]
theorem filter_trimVoidEnd (segments : List Name) :
    (trimVoidEnd segments).filter (! isVoid ·) = segments.filter (! isVoid ·) := by
  rcases exists_eq_trimVoidEnd_append segments with ⟨idle, void, whole⟩
  conv_rhs => rw [whole, filter_append_void _ void]

theorem filter_dropWhile_void (segments : List Name) :
    (segments.dropWhile isVoid).filter (! isVoid ·) = segments.filter (! isVoid ·) := by
  induction segments with
  | nil => rfl
  | cons segment later ih =>
      by_cases idle : isVoid segment = true
      · rw [List.dropWhile_cons_of_pos idle, List.filter_cons_of_neg (by simp [idle]), ih]
      · rw [List.dropWhile_cons_of_neg idle]

theorem filter_of_dropNames {segments rest : List Name}
    (dropped : dropNames segments names = some rest) :
    segments.filter (! isVoid ·) = names ++ rest.filter (! isVoid ·) := by
  induction segments generalizing names with
  | nil =>
      rcases names with _ | ⟨name, names⟩
      · cases dropped
        rfl
      · contradiction
  | cons segment later ih =>
      rcases names with _ | ⟨name, names⟩
      · cases dropped
        rfl
      · rw [dropNames] at dropped
        split at dropped
        · rename_i idle
          rw [List.filter_cons_of_neg (by simp [idle]), ih dropped]
        · rename_i solid
          split at dropped
          · rename_i same
            rw [List.filter_cons_of_pos (by simp [solid]), ih dropped, eq_of_beq same,
              List.cons_append]
          · contradiction

theorem suffix_of_dropNames {segments rest : List Name}
    (dropped : dropNames segments names = some rest) : rest <:+ segments := by
  induction segments generalizing names with
  | nil =>
      rcases names with _ | ⟨name, names⟩
      · cases dropped
        exact List.suffix_rfl
      · contradiction
  | cons segment later ih =>
      rcases names with _ | ⟨name, names⟩
      · cases dropped
        exact List.suffix_rfl
      · rw [dropNames] at dropped
        split at dropped
        · exact (ih dropped).trans (List.suffix_cons segment later)
        · split at dropped
          · exact (ih dropped).trans (List.suffix_cons segment later)
          · contradiction

theorem names_joinSegments {segments : List Name} (single : ∀ segment ∈ segments, slash ∉ segment) :
    (⟨joinSegments segments⟩ : Path).names = segments.filter (! isVoid ·) := by
  by_cases none_left : segments = []
  · rw [none_left]
    decide
  · rw [Path.names, segmentsOf_joinSegments none_left single]

theorem names_ofParts {segments : List Name} (single : ∀ segment ∈ segments, slash ∉ segment)
    (start : Start) : (ofParts start segments).names = segments.filter (! isVoid ·) := by
  cases start with
  | root =>
      rw [ofParts, Path.names, segmentsOf_slash]
      exact names_joinSegments single
  | here =>
      have singleToo : ∀ segment ∈ selfName :: segments, slash ∉ segment :=
        List.forall_mem_cons.mpr ⟨by decide, single⟩
      rw [ofParts, names_joinSegments singleToo, List.filter_cons_of_neg (by decide)]
  | implicit => exact names_joinSegments single

theorem names_eq_filter_parts (path : Path) : path.names = path.parts.2.filter (! isVoid ·) := by
  rcases List.exists_cons_of_ne_nil (segmentsOf_ne_nil path.bytes) with ⟨first, later, segments⟩
  rw [Path.names, parts_of_segmentsOf segments, segments]
  by_cases atRoot : first = []
  · rw [if_pos atRoot, atRoot, List.filter_cons_of_neg (by decide)]
    split
    · rename_i last
      rw [last]
    · rfl
  · rw [if_neg atRoot]
    split
    · rename_i here
      rw [here, List.filter_cons_of_neg (by decide)]
    · rfl

/-- The path from a folder leads along the names that follow those of the folder. -/
theorem names_of_relativeTo? {inner : Path} (seen : path.relativeTo? base = some inner) :
    path.names = base.names ++ inner.names := by
  have single : ∀ segment ∈ path.parts.2, slash ∉ segment := fun segment member =>
    slash_not_mem_of_mem_segmentsOf (mem_segmentsOf_of_mem_parts member)
  rw [names_eq_filter_parts path, names_eq_filter_parts base]
  rw [relativeTo?] at seen
  rcases pathParts : path.parts with ⟨start, segments⟩
  rcases baseParts : base.parts with ⟨baseStart, baseSegments⟩
  simp only [pathParts, baseParts] at single seen ⊢
  split at seen
  · rename_i whole
    rw [Bool.and_eq_true, List.isEmpty_iff] at whole
    rw [← Option.some.inj seen, whole.2, List.nil_append, names_ofParts, filter_trimVoidEnd]
    exact fun segment member => single segment (mem_of_mem_trimVoidEnd member)
  · split at seen
    · rcases Option.map_eq_some_iff.mp seen with ⟨rest, dropped, rfl⟩
      have within := (suffix_of_dropNames dropped).subset
      rw [filter_of_dropNames dropped, names_joinSegments, filter_trimVoidEnd,
        filter_dropWhile_void]
      exact fun segment member => single segment
        (within ((List.dropWhile_suffix isVoid).subset (mem_of_mem_trimVoidEnd member)))
    · contradiction

/-- Seen from a folder, a path below what is joined to it leads along the names of both. -/
theorem exists_relativeTo?_below (base : Path) (relative : path.isAbsolute = false)
    (some_names : names ≠ []) (plain : ∀ name ∈ names, IsPlain name) :
    ∃ inner, ((base.join path).below names).relativeTo? base = some inner ∧
      inner.names = path.names ++ names := by
  rcases exists_front_relativeTo? base relative with ⟨front, _, seen⟩
  have along := names_of_relativeTo? (seen names some_names plain)
  rw [names_below plain, names_join relative, List.append_assoc,
    List.append_cancel_left_eq] at along
  exact ⟨_, seen names some_names plain, along.symm⟩

end DocIndex.Files.Path
