import Mathlib
import DocIndex.Proofs.Documents.Listing

/-!
# Folders that cannot be read

In a listing the entries of every folder come by their names, so folders are entered in the order of
the names on the ways to them. The listing ends at the first of them whose path is too long for the
folder to be read, if there is one.
-/

namespace DocIndex.Documents

open DocIndex.Files DocIndex.Text

variable {folder : Path} {tree : FileTree} {entries : List (Name × FileTree)} {name : Name}

theorem Name.lt_of_le_of_ne {left right : Name} (before : left ≤ right) (apart : left ≠ right) :
    left < right := by
  by_contra after
  exact apart (List.le_antisymm before (List.not_lt.mp after))

/-- Entries of different names are sorted by their names. -/
theorem pairwise_mergeSort_entries (distinct : (entries.map (·.1)).Nodup) :
    (entries.mergeSort comesBefore).Pairwise fun left right => left.1 < right.1 := by
  have sorted := @List.pairwise_mergeSort _ comesBefore
    (fun first second third => by simpa [comesBefore] using List.le_trans)
    (fun first second => by simpa [comesBefore] using List.le_total first.1 second.1) entries
  have apart : (entries.mergeSort comesBefore).Pairwise fun left right => left.1 ≠ right.1 := by
    apply List.pairwise_map.mp
    exact ((List.mergeSort_perm entries comesBefore).map (·.1)).nodup_iff.mpr distinct
  refine (sorted.and apart).imp ?_
  rintro left right ⟨before, different⟩
  exact Name.lt_of_le_of_ne (by simpa [comesBefore] using before) different

theorem mergeSort_map_entries {Listed : Type} (found : Name × FileTree → Listed)
    (entries : List (Name × FileTree)) :
    (entries.map fun entry => (entry.1, found entry)).mergeSort comesBefore =
      (entries.mergeSort comesBefore).map fun entry => (entry.1, found entry) :=
  (@List.map_mergeSort _ _ comesBefore comesBefore (fun entry => (entry.1, found entry)) entries
    fun _ _ _ _ => rfl).symm

theorem overlongEntries_eq_map (folder : Path) (entries : List (Name × FileTree)) :
    overlongEntries folder entries = entries.map fun entry =>
      (entry.1, if isHidden entry.1 then none else overlong? (folder.entry entry.1) entry.2) := by
  induction entries with
  | nil => rw [overlongEntries, List.map_nil]
  | cons entry later ih => rw [overlongEntries, List.map_cons, ih]

theorem overlong?_folder (folder : Path) (entries : List (Name × FileTree)) :
    overlong? folder (.folder entries) =
      if longestPath < folder.bytes.length then some folder
      else (entries.mergeSort comesBefore).findSome? fun entry =>
        if isHidden entry.1 then none else overlong? (folder.entry entry.1) entry.2 := by
  rw [overlong?, overlongEntries_eq_map, mergeSort_map_entries, List.findSome?_map]
  rfl

/-- A name that is text and begins with a full stop. -/
def BeginsWithDot (name : Name) : Prop := ∃ later, Utf8.decode? name = some ('.' :: later)

theorem isHidden_iff : isHidden name = true ↔ BeginsWithDot name := by
  rw [isHidden, BeginsWithDot]
  split
  · rename_i later decoded
    exact ⟨fun _ => ⟨later, decoded⟩, fun _ => rfl⟩
  · rename_i other
    exact ⟨fun absurd => by contradiction, fun ⟨later, decoded⟩ => absurd decoded (other later)⟩

/-- A folder that is entered in the course of a listing, by the names on the way to it. -/
structure IsEntered (tree : FileTree) (names : List Name) : Prop where
  isFolder : ∃ inner, tree.at? names = some inner ∧ inner.isFolder = true
  shown : ∀ name ∈ names, ¬ BeginsWithDot name

theorem isEntered_cons_iff {child : FileTree} (isChild : tree.child? name = some child)
    (later : List Name) :
    IsEntered tree (name :: later) ↔ ¬ BeginsWithDot name ∧ IsEntered child later := by
  have reached : tree.at? (name :: later) = child.at? later := by
    rw [FileTree.at?, isChild, Option.bind_some]
  constructor
  · rintro ⟨isFolder, shown⟩
    rw [reached] at isFolder
    rw [List.forall_mem_cons] at shown
    exact ⟨shown.1, isFolder, shown.2⟩
  · rintro ⟨shown, isFolder, shownLater⟩
    exact ⟨reached ▸ isFolder, List.forall_mem_cons.mpr ⟨shown, shownLater⟩⟩

/-- The path along names from a folder is not too long for what it leads to to be read. -/
def Fits (folder : Path) (names : List Name) : Prop :=
  (folder.below names).bytes.length ≤ longestPath

/-- The first folder in the order of names that is entered but cannot be read. -/
structure IsFirstOverlong (folder : Path) (tree : FileTree) (names : List Name) : Prop where
  entered : IsEntered tree names
  long : ¬ Fits folder names
  first : ∀ earlier, IsEntered tree earlier → earlier < names → Fits folder earlier

/-- Of entries in which something is found the one with the first name gives what is found. -/
theorem exists_first_of_findSome? {Found : Type} {search : Name × FileTree → Option Found}
    {result : Found} (distinct : (entries.map (·.1)).Nodup)
    (found : (entries.mergeSort comesBefore).findSome? search = some result) :
    ∃ entry ∈ entries, search entry = some result ∧
      ∀ other ∈ entries, other.1 < entry.1 → search other = none := by
  rcases List.findSome?_eq_some_iff.mp found with ⟨before, entry, after, sorted, isFound, missed⟩
  have order := pairwise_mergeSort_entries distinct
  rw [sorted, List.pairwise_append, List.pairwise_cons] at order
  have mem_iff : ∀ other, other ∈ entries ↔ other ∈ before ++ entry :: after := by
    intro other
    rw [← sorted, List.mem_mergeSort]
  refine ⟨entry, (mem_iff entry).mpr (by simp), isFound, fun other member less => ?_⟩
  rcases List.mem_append.mp ((mem_iff other).mp member) with inBefore | inAfter
  · exact missed other inBefore
  · rcases List.mem_cons.mp inAfter with rfl | inAfter
    · exact absurd less (List.lt_irrefl _)
    · exact absurd (order.2.1.1 other inAfter) (List.lt_asymm less)

theorem isEntered_of_entries (closed : tree.entries = []) {names : List Name} :
    IsEntered tree names ↔ names = [] ∧ tree.isFolder = true := by
  constructor
  · rintro ⟨⟨inner, reached, isFolder⟩, _⟩
    rcases names with _ | ⟨name, later⟩
    · cases reached
      exact ⟨rfl, isFolder⟩
    · rw [FileTree.at?, FileTree.child?, closed] at reached
      contradiction
  · rintro ⟨rfl, isFolder⟩
    exact ⟨⟨tree, rfl, isFolder⟩, fun _ member => absurd member List.not_mem_nil⟩

/-- The result of the search for a folder that cannot be read. -/
def SearchEnds (folder : Path) (tree : FileTree) (found : Option Path) : Prop :=
  (found = none ∧ ∀ names, IsEntered tree names → Fits folder names) ∨
    ∃ names, found = some (folder.below names) ∧ IsFirstOverlong folder tree names

theorem searchEnds_of_long (isFolder : tree.isFolder = true)
    (long : longestPath < folder.bytes.length) : SearchEnds folder tree (some folder) := by
  refine .inr ⟨[], rfl, ⟨⟨tree, rfl, isFolder⟩, fun _ member => absurd member List.not_mem_nil⟩,
    Nat.not_le.mpr long, ?_⟩
  exact fun earlier _ less => absurd less (List.not_lt_nil earlier)

/-- Where a folder itself can be read, the search goes through its entries by their names. -/
theorem searchEnds_folder (distinct : (entries.map (·.1)).Nodup) (here : Fits folder [])
    (each : ∀ entry ∈ entries, SearchEnds (folder.entry entry.1) entry.2
      (overlong? (folder.entry entry.1) entry.2)) :
    SearchEnds folder (.folder entries) ((entries.mergeSort comesBefore).findSome? fun entry =>
      if isHidden entry.1 then none else overlong? (folder.entry entry.1) entry.2) := by
  have isChild {name : Name} {child : FileTree} (member : (name, child) ∈ entries) :
      (FileTree.folder entries).child? name = some child := lookup_of_mem distinct member
  have exists_entry {name : Name} {later : List Name}
      (entered : IsEntered (.folder entries) (name :: later)) :
      ∃ child, (name, child) ∈ entries := by
    rcases entered.isFolder with ⟨_, reached, _⟩
    rcases Option.bind_eq_some_iff.mp reached with ⟨child, isChild, _⟩
    exact ⟨child, mem_of_lookup isChild⟩
  have passed {name : Name} {child : FileTree} (member : (name, child) ∈ entries)
      (missed : (if isHidden name then none else overlong? (folder.entry name) child) = none)
      (later : List Name) (entered : IsEntered (.folder entries) (name :: later)) :
      Fits folder (name :: later) := by
    rw [isEntered_cons_iff (isChild member)] at entered
    rw [if_neg (mt isHidden_iff.mp entered.1)] at missed
    rcases each _ member with ⟨_, fits⟩ | ⟨names, found, _⟩
    · exact fits later entered.2
    · rw [missed] at found
      contradiction
  rcases found : (entries.mergeSort comesBefore).findSome? _ with _ | path
  · refine .inl ⟨rfl, fun names entered => ?_⟩
    rcases names with _ | ⟨name, later⟩
    · exact here
    · rcases exists_entry entered with ⟨child, member⟩
      have missed := List.findSome?_eq_none_iff.mp found _ (List.mem_mergeSort.mpr member)
      exact passed member missed later entered
  · rcases exists_first_of_findSome? distinct found with ⟨⟨name, child⟩, member, isFound, missed⟩
    rcases hidden : isHidden name with _ | _
    · rw [hidden, if_neg Bool.false_ne_true] at isFound
      rcases each _ member with ⟨none_found, _⟩ | ⟨names, isPath, isFirst⟩
      · rw [none_found] at isFound
        contradiction
      · cases isFound.symm.trans isPath
        have shown : ¬ BeginsWithDot name := by
          rw [← isHidden_iff, hidden]
          exact Bool.false_ne_true
        refine .inr ⟨name :: names, rfl, ?_, isFirst.long, ?_⟩
        · exact (isEntered_cons_iff (isChild member) names).mpr ⟨shown, isFirst.entered⟩
        · intro earlier entered less
          rcases earlier with _ | ⟨other, later⟩
          · exact here
          · rcases exists_entry entered with ⟨otherChild, isMember⟩
            rcases List.cons_lt_cons_iff.mp less with lessName | ⟨rfl, lessLater⟩
            · exact passed isMember (missed _ isMember lessName) later entered
            · rw [isEntered_cons_iff (isChild member)] at entered
              exact isFirst.first later entered.2 lessLater
    · rw [hidden, if_pos rfl] at isFound
      contradiction

/-- A folder that cannot be read is found exactly if there is one, and the first one is found. -/
theorem searchEnds_overlong? (proper : tree.IsProper) (folder : Path) :
    SearchEnds folder tree (overlong? folder tree) := by
  induction proper generalizing folder with
  | file | link =>
      rw [overlong?]
      refine .inl ⟨rfl, fun names entered => ?_⟩
      exact absurd ((isEntered_of_entries rfl).mp entered).2 Bool.false_ne_true
  | repository commit =>
      rw [overlong?]
      split
      · rename_i long
        exact searchEnds_of_long rfl long
      · rename_i short
        refine .inl ⟨rfl, fun names entered => ?_⟩
        rw [((isEntered_of_entries rfl).mp entered).1]
        exact Nat.not_lt.mp short
  | @folder entries distinct plain inner ih =>
      rw [overlong?_folder]
      split
      · rename_i long
        exact searchEnds_of_long rfl long
      · rename_i short
        exact searchEnds_folder distinct (Nat.not_lt.mp short) fun entry member =>
          ih entry member (folder.entry entry.1)

end DocIndex.Documents
