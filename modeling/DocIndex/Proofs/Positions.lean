import Mathlib.Data.List.Forall2
import DocIndex.Chunk

/-!
# Positions and their keys

A key joins source, path and position by `#` without marking where they end. The position is read
off the end, as numbers have no `#`; source and path are told apart when one of them is known, or
when the path has no `#`. Otherwise two keys are the same just when the one source goes on with a
text with which the other path begins.
-/

namespace DocIndex

variable {Item Other : Type}

theorem exists_of_forall₂_of_mem {related : Item → Other → Prop} {items : List Item}
    {others : List Other} (all : List.Forall₂ related items others) {other : Other}
    (member : other ∈ others) : ∃ item ∈ items, related item other := by
  induction all with
  | nil => contradiction
  | @cons item first items later holds rest ih =>
      rcases List.mem_cons.mp member with rfl | inLater
      · exact ⟨item, List.mem_cons_self, holds⟩
      · rcases ih inLater with ⟨found, inItems, holdsFound⟩
        exact ⟨found, List.mem_cons_of_mem item inItems, holdsFound⟩

/-- Texts around a separator are the same if the second cut is the first, behind it or before it. -/
theorem append_separator_eq_iff {separator : Item} {left right rest other : List Item} :
    left ++ separator :: rest = right ++ separator :: other ↔
      (left = right ∧ rest = other) ∨
      (∃ between, left = right ++ separator :: between ∧ other = between ++ separator :: rest) ∨
      ∃ between, right = left ++ separator :: between ∧ rest = between ++ separator :: other := by
  constructor
  · intro same
    rcases List.append_eq_append_iff.mp same with ⟨between, right_eq, rest_eq⟩ |
      ⟨between, left_eq, other_eq⟩
    · rcases between with _ | ⟨first, between⟩
      · left
        exact ⟨by simpa using right_eq.symm, (List.cons.inj rest_eq).2⟩
      · rcases List.cons.inj rest_eq with ⟨rfl, later_eq⟩
        exact .inr (.inr ⟨between, right_eq, later_eq⟩)
    · rcases between with _ | ⟨first, between⟩
      · left
        exact ⟨by simpa using left_eq, (List.cons.inj other_eq).2.symm⟩
      · rcases List.cons.inj other_eq with ⟨rfl, later_eq⟩
        exact .inr (.inl ⟨between, left_eq, later_eq⟩)
  · rintro (⟨rfl, rfl⟩ | ⟨between, rfl, rfl⟩ | ⟨between, rfl, rfl⟩)
    · rfl
    · simp
    · simp

/-- What follows the last separator is told apart from what stands before it. -/
theorem eq_of_append_separator {separator : Item} {left right rest other : List Item}
    (free : separator ∉ rest) (freeToo : separator ∉ other)
    (same : left ++ separator :: rest = right ++ separator :: other) :
    left = right ∧ rest = other := by
  rcases append_separator_eq_iff.mp same with both | ⟨between, _, rfl⟩ | ⟨between, _, rfl⟩
  · exact both
  · exact absurd (List.mem_append_right between List.mem_cons_self) freeToo
  · exact absurd (List.mem_append_right between List.mem_cons_self) free

namespace Metadata

variable {position other : Metadata}

theorem toList_toString (index : Nat) : (toString index).toList = Nat.toDigits 10 index := by
  rw [Nat.toString_eq_repr, Nat.toList_repr]

theorem hash_not_mem_toString (index : Nat) : '#' ∉ (toString index).toList := by
  rw [toList_toString]
  intro member
  have isDigit := Nat.isDigit_of_mem_toDigits (by decide) (by decide) member
  contradiction

theorem toList_key (position : Metadata) :
    position.key.toList = (position.source ++ "#" ++ position.path).toList ++
      '#' :: (toString position.index).toList := by
  rw [key, String.toList_append, String.toList_append, List.append_assoc]
  rfl

/-- The position of a chunk in its document is read off the key. -/
theorem index_of_key (same : position.key = other.key) :
    position.source ++ "#" ++ position.path = other.source ++ "#" ++ other.path ∧
      position.index = other.index := by
  have lists := congrArg String.toList same
  rw [toList_key, toList_key] at lists
  rcases eq_of_append_separator (hash_not_mem_toString _) (hash_not_mem_toString _) lists with
    ⟨front, digits⟩
  rw [toList_toString, toList_toString] at digits
  have numbers := congrArg (fun digits => Nat.ofDigitChars 10 digits 0) digits
  exact ⟨String.toList_inj.mp front, by simpa using numbers⟩

theorem path_of_key (same : position.key = other.key) (source : position.source = other.source) :
    position.path = other.path := by
  have front := congrArg String.toList (index_of_key same).1
  simp only [source, String.toList_append, List.append_cancel_left_eq] at front
  exact String.toList_inj.mp front

/-- Source and path are read off the key of a path without `#`. -/
theorem source_of_key (free : '#' ∉ position.path.toList) (freeToo : '#' ∉ other.path.toList)
    (same : position.key = other.key) : position.source = other.source := by
  have front := congrArg String.toList (index_of_key same).1
  simp only [String.toList_append, List.append_assoc] at front
  exact String.toList_inj.mp (eq_of_append_separator free freeToo front).1

/--
The source of the first position goes on where that of the second ends, with a text that stands at
the front of the path of the second.
-/
def ReachesInto (position other : Metadata) : Prop :=
  ∃ shared, position.source = other.source ++ "#" ++ shared ∧
    other.path = shared ++ "#" ++ position.path

theorem reachesInto_iff : position.ReachesInto other ↔
    ∃ between, position.source.toList = other.source.toList ++ '#' :: between ∧
      other.path.toList = between ++ '#' :: position.path.toList := by
  constructor
  · rintro ⟨shared, source, path⟩
    exact ⟨shared.toList, by simp [source], by simp [path]⟩
  · rintro ⟨between, source, path⟩
    refine ⟨String.ofList between, ?_, ?_⟩
    · apply String.toList_inj.mp
      simp [source]
    · apply String.toList_inj.mp
      simp [path]

/-- A source and a path can be joined to the same text by others in two ways. -/
theorem append_hash_eq_iff :
    position.source ++ "#" ++ position.path = other.source ++ "#" ++ other.path ↔
      (position.source = other.source ∧ position.path = other.path) ∨
        position.ReachesInto other ∨ other.ReachesInto position := by
  rw [reachesInto_iff, reachesInto_iff, ← String.toList_inj, ← String.toList_inj,
    ← String.toList_inj]
  simp only [String.toList_append, List.append_assoc]
  exact append_separator_eq_iff

/-- The source of no position reaches over its own end, or into a path without `#`. -/
theorem not_reachesInto (apart : position.source = other.source ∨ '#' ∉ other.path.toList) :
    ¬ position.ReachesInto other := by
  intro reaches
  rcases reachesInto_iff.mp reaches with ⟨between, source, path⟩
  rcases apart with same | free
  · simp [same] at source
  · apply free
    simp [path]

/--
Two positions have one key exactly if they are the same, or have one index and the source of one
reaches into the path of the other. So different positions have different keys where the sources are
the same or no path has a `#`.
-/
theorem key_eq_iff (position other : Metadata) :
    (position.key = other.key ↔ position = other ∨ position.index = other.index ∧
      (position.ReachesInto other ∨ other.ReachesInto position)) ∧
    (position ≠ other → position.source = other.source ∨
        ('#' ∉ position.path.toList ∧ '#' ∉ other.path.toList) → position.key ≠ other.key) := by
  have shared : position.key = other.key ↔ position = other ∨ position.index = other.index ∧
      (position.ReachesInto other ∨ other.ReachesInto position) := by
    constructor
    · intro same
      rcases index_of_key same with ⟨front, index⟩
      rcases append_hash_eq_iff.mp front with ⟨source, path⟩ | reaches
      · left
        cases position
        cases other
        simp_all
      · exact .inr ⟨index, reaches⟩
    · rintro (rfl | ⟨index, reaches⟩)
      · rfl
      · rw [key, key, append_hash_eq_iff.mpr (.inr reaches), index]
  refine ⟨shared, fun different apart same => ?_⟩
  rcases shared.mp same with equal | ⟨_, reaches | reaches⟩
  · exact different equal
  · exact not_reachesInto (apart.imp_right And.right) reaches
  · exact not_reachesInto (apart.imp Eq.symm And.left) reaches

/-- A `#` in an address and one in a path share a key; within one source they do not. -/
theorem key_eq_iff_of_hashes :
    (⟨"https://h/r#v", "a.md", 0⟩ : Metadata).key = (⟨"https://h/r", "v#a.md", 0⟩ : Metadata).key ∧
      (⟨"https://h/r", "v#a.md", 0⟩ : Metadata).key ≠
        (⟨"https://h/r", "v##a.md", 0⟩ : Metadata).key := by
  have reaches : (⟨"https://h/r#v", "a.md", 0⟩ : Metadata).ReachesInto
      ⟨"https://h/r", "v#a.md", 0⟩ := ⟨"v", by decide, by decide⟩
  exact ⟨(key_eq_iff _ _).1.mpr (.inr ⟨rfl, .inl reaches⟩),
    (key_eq_iff _ _).2 (by decide) (.inl rfl)⟩

end Metadata

namespace Chunk

/-- The texts from which the identifiers of chunks are made. -/
def keys (chunks : List Chunk) : List String := chunks.map (·.metadata.key)

theorem metadata_of_mem_ofPieces {chunk : Chunk} {source path : String} {pieces : List String}
    (member : chunk ∈ ofPieces source path pieces) :
    chunk.metadata.source = source ∧ chunk.metadata.path = path := by
  rcases List.mem_mapIdx.mp member with ⟨index, inside, rfl⟩
  exact ⟨rfl, rfl⟩

/-- The pieces of one document are numbered, so their keys are different. -/
theorem nodup_keys_ofPieces (source path : String) (pieces : List String) :
    (keys (ofPieces source path pieces)).Nodup := by
  rw [keys, List.Nodup, List.pairwise_map, List.pairwise_iff_getElem]
  intro first second inFirst inSecond before same
  simp only [ofPieces, List.getElem_mapIdx] at same
  exact absurd (Metadata.index_of_key same).2 (Nat.ne_of_lt before)

/-- Chunks of one source, with the identifiers of their positions, which all are different. -/
structure ComeFrom (source : String) (chunks : List Chunk) : Prop where
  source_eq : ∀ chunk ∈ chunks, chunk.metadata.source = source
  id_eq : ∀ chunk ∈ chunks, chunk.id = chunk.metadata.id
  distinct : (keys chunks).Nodup

theorem id_of_mem_ofPieces {chunk : Chunk} {source path : String} {pieces : List String}
    (member : chunk ∈ ofPieces source path pieces) : chunk.id = chunk.metadata.id := by
  rcases List.mem_mapIdx.mp member with ⟨index, inside, rfl⟩
  rfl

theorem comeFrom_ofPieces (source path : String) (pieces : List String) :
    ComeFrom source (ofPieces source path pieces) :=
  ⟨fun _ member => (metadata_of_mem_ofPieces member).1, fun _ => id_of_mem_ofPieces,
    nodup_keys_ofPieces source path pieces⟩

/-- Chunks of groups have different keys if those of every group have, and those of every two. -/
theorem nodup_keys_flatten {Name : Type} {holds : Name → List Chunk → Prop} {names : List Name}
    {groups : List (List Chunk)} (each : List.Forall₂ holds names groups) (distinct : names.Nodup)
    (inner : ∀ group ∈ groups, (keys group).Nodup)
    (apart : ∀ name ∈ names, ∀ other ∈ names, name ≠ other → ∀ group ∈ groups, ∀ next ∈ groups,
      holds name group → holds other next → ∀ chunk ∈ group, ∀ further ∈ next,
        chunk.metadata.key ≠ further.metadata.key) : (keys groups.flatten).Nodup := by
  induction each with
  | nil => exact List.nodup_nil
  | @cons name group names groups first rest ih =>
      rw [List.nodup_cons] at distinct
      rw [keys, List.flatten_cons, List.map_append, List.nodup_append]
      refine ⟨inner group List.mem_cons_self, ?_, ?_⟩
      · refine ih distinct.2 (fun next member => inner next (List.mem_cons_of_mem group member)) ?_
        intro first isFirst second isSecond different next isNext further isFurther
        exact apart first (List.mem_cons_of_mem name isFirst) second
          (List.mem_cons_of_mem name isSecond) different next (List.mem_cons_of_mem group isNext)
          further (List.mem_cons_of_mem group isFurther)
      · intro key inGroup other inRest
        rcases List.mem_map.mp inGroup with ⟨chunk, isChunk, rfl⟩
        rcases List.mem_map.mp inRest with ⟨further, isFurther, rfl⟩
        rcases List.mem_flatten.mp isFurther with ⟨next, isNext, inNext⟩
        rcases exists_of_forall₂_of_mem rest isNext with ⟨other, inNames, holdsNext⟩
        have different : name ≠ other := by
          rintro rfl
          exact distinct.1 inNames
        exact apart name List.mem_cons_self other (List.mem_cons_of_mem name inNames) different
          group List.mem_cons_self next (List.mem_cons_of_mem group isNext) first holdsNext
          chunk isChunk further inNext

end Chunk

end DocIndex
