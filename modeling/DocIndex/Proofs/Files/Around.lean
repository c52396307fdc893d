import DocIndex.Proofs.Files.Below

/-!
# The folder around an entry

The parent of an entry is the folder that the entry was joined to, spelt without the segments at its
end that name no place. It leads where the folder leads, so to make the folders around an entry
changes nothing where the folder is there.
-/

namespace DocIndex.Files

theorem trimVoidEnd_append_void (segments : List Name) {idle : List Name}
    (void : ∀ segment ∈ idle, isVoid segment = true) :
    trimVoidEnd (segments ++ idle) = trimVoidEnd segments := by
  have blank : ∀ segment ∈ idle.reverse, isVoid segment = true := fun segment member =>
    void segment (List.mem_reverse.mp member)
  rw [trimVoidEnd, trimVoidEnd, List.reverse_append, List.dropWhile_append_of_pos blank]

theorem trimVoidEnd_concat {name : Name} (solid : isVoid name = false) (segments : List Name) :
    trimVoidEnd (segments ++ [name]) = segments ++ [name] := by
  rw [trimVoidEnd, List.reverse_append, List.reverse_singleton, List.singleton_append,
    List.dropWhile_cons_of_neg (by simp [solid]), List.reverse_cons, List.reverse_reverse]

theorem exists_eq_trimVoidEnd_append (segments : List Name) :
    ∃ idle, (∀ segment ∈ idle, isVoid segment = true) ∧
      segments = trimVoidEnd segments ++ idle := by
  refine ⟨segments.rtakeWhile isVoid, fun segment member => List.mem_rtakeWhile_imp member, ?_⟩
  exact List.rdropWhile_append_rtakeWhile.symm

theorem mem_of_mem_trimVoidEnd {segments : List Name} {segment : Name}
    (member : segment ∈ trimVoidEnd segments) : segment ∈ segments := by
  rcases exists_eq_trimVoidEnd_append segments with ⟨idle, _, whole⟩
  rw [whole]
  exact List.mem_append_left idle member

theorem joinSegments_prefix (segments more : List Name) :
    joinSegments segments <+: joinSegments (segments ++ more) := by
  by_cases none_left : segments = []
  · rw [none_left]
    exact List.nil_prefix
  · by_cases none_more : more = []
    · rw [none_more, List.append_nil]
    · rw [joinSegments_append none_left none_more]
      exact List.prefix_append _ _

namespace Path

/-- A path without the segments at its end that name no place, as parents are spelt. -/
def trimmed (path : Path) : Path := ofParts path.parts.1 (trimVoidEnd path.parts.2)

theorem parts_of_segmentsOf {path : Path} {first : Name} {later : List Name}
    (segments : segmentsOf path.bytes = first :: later) :
    path.parts =
      if first = [] then if later = [] then (.implicit, []) else (.root, later)
      else if first = selfName then (.here, later) else (.implicit, first :: later) := by
  rw [parts, segments]
  rcases first with _ | ⟨byte, bytes⟩
  · rcases later with _ | ⟨next, later⟩
    · rfl
    · rfl
  · simp

theorem mem_segmentsOf_of_mem_parts {path : Path} {segment : Name}
    (member : segment ∈ path.parts.2) : segment ∈ segmentsOf path.bytes := by
  rcases List.exists_cons_of_ne_nil (segmentsOf_ne_nil path.bytes) with ⟨first, later, segments⟩
  rw [parts_of_segmentsOf segments] at member
  rw [segments]
  split at member
  · split at member
    · contradiction
    · exact List.mem_cons_of_mem first member
  · split at member
    · exact List.mem_cons_of_mem first member
    · exact member

/-- Where a path and the paths joined to it begin, and their segments from there. -/
theorem exists_parts_opening {base : Path} (some_bytes : base.bytes ≠ []) :
    ∃ start inner idle, (∀ segment ∈ idle, isVoid segment = true) ∧
      base.parts = (start, inner ++ idle) ∧
      (start = .implicit → ∃ segment ∈ inner, isVoid segment = false) ∧
      ∀ bytes, (⟨base.opening ++ bytes⟩ : Path).parts = (start, inner ++ segmentsOf bytes) := by
  rcases base.exists_outer with ⟨outer, idle, void, segments, segmentsJoin⟩
  rw [orHere_of_ne_nil some_bytes] at segments
  have bytes_eq := joinSegments_segmentsOf base.bytes
  have opening_eq := joinSegments_segmentsOf base.opening
  rw [← List.append_nil base.opening, segmentsJoin, List.append_nil] at opening_eq
  rcases outer with _ | ⟨first, rest⟩
  · -- Nothing stands in front of what is joined to the empty path alone.
    exfalso
    apply some_bytes
    rw [opening] at opening_eq
    split at opening_eq
    · exact opening_eq.symm
    · exact absurd opening_eq.symm (List.append_ne_nil_of_right_ne_nil _ (by simp))
  · have joinedParts (bytes : List UInt8) :=
      @parts_of_segmentsOf ⟨base.opening ++ bytes⟩ _ _
        ((segmentsJoin bytes).trans List.cons_append)
    have baseParts := parts_of_segmentsOf (segments.trans List.cons_append)
    by_cases atRoot : first = []
    · have more : rest ++ idle ≠ [] := by
        intro none_more
        rw [segments, List.cons_append, none_more, atRoot] at bytes_eq
        exact some_bytes bytes_eq.symm
      refine ⟨.root, rest, idle, void, ?_, fun absurd => by contradiction, fun bytes => ?_⟩
      · rw [baseParts, if_pos atRoot, if_neg more]
      · rw [joinedParts, if_pos atRoot, if_neg (by simp [segmentsOf_ne_nil])]
    · by_cases here : first = selfName
      · refine ⟨.here, rest, idle, void, ?_, fun absurd => by contradiction, fun bytes => ?_⟩
        · rw [baseParts, if_neg atRoot, if_pos here]
        · rw [joinedParts, if_neg atRoot, if_pos here]
      · refine ⟨.implicit, first :: rest, idle, void, ?_, fun _ => ?_, fun bytes => ?_⟩
        · rw [baseParts, if_neg atRoot, if_neg here]
          rfl
        · exact ⟨first, List.mem_cons_self, by simp [isVoid, atRoot, here]⟩
        · rw [joinedParts, if_neg atRoot, if_neg here]
          rfl

theorem exists_parts_entry (base : Path) :
    ∃ start inner idle, (∀ segment ∈ idle, isVoid segment = true) ∧
      base.parts = (start, inner ++ idle) ∧
      ∀ name, IsPlain name → (base.entry name).parts = (start, inner ++ [name]) := by
  have entry_eq {name : Name} (plain : IsPlain name) :
      base.entry name = ⟨base.opening ++ name⟩ := by
    rw [entry, join_eq (isAbsolute_of_isPlain plain)]
  by_cases empty : base.bytes = []
  · refine ⟨.implicit, [], [], by simp, ?_, ?_⟩
    · rw [parts, empty]
      rfl
    · intro name plain
      have here : segmentsOf (base.entry name).bytes = [name] := by
        rw [entry_eq plain, opening_of_closed (.inl empty), empty, List.nil_append,
          segmentsOf_of_slash_not_mem plain.single]
      rw [parts_of_segmentsOf here, if_neg plain.ne_nil, if_neg plain.ne_selfName]
      rfl
  · rcases exists_parts_opening empty with ⟨start, inner, idle, void, baseParts, _, joinedParts⟩
    refine ⟨start, inner, idle, void, baseParts, fun name plain => ?_⟩
    rw [entry_eq plain, joinedParts, segmentsOf_of_slash_not_mem plain.single]

/-- The parent of an entry is the folder that it was joined to. -/
theorem parent?_entry {name : Name} (plain : IsPlain name) (base : Path) :
    (base.entry name).parent? = some base.trimmed := by
  rcases base.exists_parts_entry with ⟨start, inner, idle, void, baseParts, entryParts⟩
  rw [parent?, entryParts name plain, trimmed, baseParts]
  simp only [trimVoidEnd_concat plain.solid, trimVoidEnd_append_void inner void]
  rcases List.exists_cons_of_ne_nil (List.concat_ne_nil name inner) with ⟨first, rest, whole⟩
  rw [whole]
  simp only
  rw [← whole, List.dropLast_concat]

/-- A trimmed path is made of the segments up to the last that names a place. -/
theorem exists_trimmed_eq (path : Path) (some_bytes : path.trimmed.bytes ≠ []) :
    ∃ front idle, (∀ segment ∈ idle, isVoid segment = true) ∧
      segmentsOf path.bytes = front ++ idle ∧ front ≠ [] ∧
      path.trimmed = FileSystem.outerPath front := by
  rcases List.exists_cons_of_ne_nil (segmentsOf_ne_nil path.bytes) with ⟨first, later, segments⟩
  have parts_eq := parts_of_segmentsOf segments
  rcases exists_eq_trimVoidEnd_append later with ⟨idle, void, later_eq⟩
  have kept : segmentsOf path.bytes = (first :: trimVoidEnd later) ++ idle := by
    rw [List.cons_append, ← later_eq, segments]
  by_cases atRoot : first = []
  · by_cases more : later = []
    · rw [trimmed, parts_eq, if_pos atRoot, if_pos more] at some_bytes
      exact absurd rfl some_bytes
    · refine ⟨first :: trimVoidEnd later, idle, void, kept, List.cons_ne_nil _ _, ?_⟩
      rw [trimmed, parts_eq, if_pos atRoot, if_neg more, atRoot]
      simp only [ofParts]
      by_cases blank : trimVoidEnd later = []
      · rw [blank]
        rfl
      · rw [FileSystem.outerPath_of_ne (List.cons_ne_nil _ _) (by simpa using blank),
          joinSegments_cons blank, List.nil_append]
  · by_cases here : first = selfName
    · refine ⟨first :: trimVoidEnd later, idle, void, kept, List.cons_ne_nil _ _, ?_⟩
      rw [trimmed, parts_eq, if_neg atRoot, if_pos here,
        FileSystem.outerPath_of_ne (List.cons_ne_nil _ _) (by simp [atRoot]), here]
      rfl
    · rcases exists_eq_trimVoidEnd_append (first :: later) with ⟨idleAll, voidAll, whole⟩
      have trimmed_eq : path.trimmed = ⟨joinSegments (trimVoidEnd (first :: later))⟩ := by
        rw [trimmed, parts_eq, if_neg atRoot, if_neg here]
        rfl
      rw [trimmed_eq] at some_bytes ⊢
      have some_front : trimVoidEnd (first :: later) ≠ [] := by
        intro blank
        rw [blank] at some_bytes
        exact some_bytes rfl
      have notRoot : trimVoidEnd (first :: later) ≠ [[]] := by
        intro blank
        rw [blank] at some_bytes
        exact some_bytes rfl
      refine ⟨_, idleAll, voidAll, segments.trans whole, some_front, ?_⟩
      rw [FileSystem.outerPath_of_ne some_front notRoot]

theorem exists_segmentsOf_trimmed (path : Path) (some_bytes : path.trimmed.bytes ≠ []) :
    path.trimmed.bytes <+: path.bytes ∧
      ∃ front idle after, (∀ segment ∈ idle, isVoid segment = true) ∧
        (∀ segment ∈ after, isVoid segment = true) ∧ segmentsOf path.bytes = front ++ idle ∧
        segmentsOf path.trimmed.bytes = front ++ after := by
  rcases path.exists_trimmed_eq some_bytes with
    ⟨front, idle, void, segments, some_front, trimmed_eq⟩
  have bytes_eq := joinSegments_segmentsOf path.bytes
  rw [segments] at bytes_eq
  rw [trimmed_eq] at some_bytes ⊢
  by_cases atRoot : front = [[]]
  · subst atRoot
    have more : idle ≠ [] := by
      rintro rfl
      have empty : path.bytes = [] := bytes_eq.symm
      rw [trimmed, parts, empty] at trimmed_eq
      contradiction
    rw [joinSegments_append some_front more] at bytes_eq
    refine ⟨⟨joinSegments idle, bytes_eq⟩, [[]], idle, [[]], void, by decide, segments, rfl⟩
  · rw [FileSystem.outerPath_of_ne some_front atRoot]
    refine ⟨bytes_eq ▸ joinSegments_prefix front idle, front, idle, [], void, by simp, segments,
      ?_⟩
    rw [List.append_nil]
    apply segmentsOf_joinSegments some_front
    intro segment member
    apply slash_not_mem_of_mem_segmentsOf
    rw [segments]
    exact List.mem_append_left idle member

end Path

namespace FileSystem

variable {files : FileSystem} {base : Path} {place : List Name} {folder : FileTree}

theorem locate_trimmed (located : files.locate true base.orHere = .ok place)
    (there : files.root.at? place = some folder) (opened : folder.isFolder = true)
    (some_bytes : base.trimmed.bytes ≠ []) : files.locate true base.trimmed = .ok place := by
  rcases base.exists_segmentsOf_trimmed some_bytes with
    ⟨isPrefix, front, idle, after, void, voidAfter, segments, trimmedSegments⟩
  have nonempty : base.bytes ≠ [] := fun empty => some_bytes (List.prefix_nil.mp (empty ▸ isPrefix))
  rw [Path.orHere_of_ne_nil nonempty] at located
  rcases locate_eq_ok_iff.mp located with ⟨⟨zero, _, short⟩, leads⟩
  rw [segments] at leads
  rcases leads.exists_between (.inl rfl) with ⟨between, _, leadsFront, leadsIdle⟩
  rw [← leadsIdle.eq_of_void void] at leadsFront
  have sameStart : files.startOf base.trimmed = files.startOf base := by
    rcases List.exists_cons_of_ne_nil some_bytes with ⟨byte, bytes, bytes_eq⟩
    rcases isPrefix with ⟨rest, whole⟩
    rw [startOf, startOf, Path.isAbsolute, Path.isAbsolute, ← whole, bytes_eq]
    rfl
  rw [locate_eq_ok_iff, sameStart, trimmedSegments]
  refine ⟨⟨fun member => zero (isPrefix.mem member), some_bytes,
    isPrefix.length_le.trans short⟩, ?_⟩
  exact leadsFront.append_void there opened voidAfter

/-- The folders around an entry are left alone where they are there. -/
theorem makeFolders_trimmed (located : files.locate true base.orHere = .ok place)
    (there : files.root.at? place = some folder) (opened : folder.isFolder = true) :
    files.makeFolders base.trimmed = .ok files := by
  by_cases empty : base.trimmed.bytes = []
  · rw [makeFolders, makeFoldersWithin.eq_def, if_pos (by simpa using empty)]
  · apply makeFolders_of_isFolder
    exact isFolder_of_locate (locate_trimmed located there opened empty) there opened

end FileSystem

end DocIndex.Files
