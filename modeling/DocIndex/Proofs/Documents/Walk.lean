import Mathlib
import DocIndex.Proofs.Documents.Search
import DocIndex.Proofs.Documents.Spelling

/-!
# The order of a listing

The files below a folder are listed depth first, the entries of every folder by their names. So they
come in the order of the names on the ways to them, each once, and just those files come that have
the extension of Markdown and no hidden folder around them.
-/

namespace DocIndex.Documents

open DocIndex.Files DocIndex.Text

variable {folder root : Path} {tree : FileTree} {entries : List (Name × FileTree)} {name : Name}

/-- A name with a stem that is not empty and an extension of Markdown behind its last full stop. -/
def IsMarkdownName (name : Name) : Prop :=
  ∃ stem extension, name = stem ++ dot :: extension ∧ stem ≠ [] ∧
    (extension = Utf8.ofString "md" ∨ extension = Utf8.ofString "markdown")

/-- A file that is listed, by the names on the way to it. -/
structure IsListed (tree : FileTree) (names : List Name) : Prop where
  isFile : ∃ bytes, tree.at? names = some (.file bytes)
  named : ∃ name ∈ names.getLast?, IsMarkdownName name
  shown : ∀ name ∈ names.dropLast, ¬ BeginsWithDot name

theorem IsListed.ne_nil {names : List Name} (listed : IsListed tree names) : names ≠ [] := by
  rintro rfl
  rcases listed.named with ⟨_, none_left, _⟩
  contradiction

/-- The extension of a name is what follows its last full stop, if something stands before that. -/
theorem extension?_eq_some_iff {path : Path} {extension : List UInt8}
    (named : path.fileName? = some name) :
    path.extension? = some extension ↔
      ∃ stem, name = stem ++ dot :: extension ∧ stem ≠ [] ∧ dot ∉ extension := by
  rw [Path.extension?, named]
  have whole : name.rdropWhile (· != dot) ++ name.rtakeWhile (· != dot) = name :=
    List.rdropWhile_append_rtakeWhile
  have tail_eq : (name.reverse.takeWhile (· != dot)).reverse = name.rtakeWhile (· != dot) := rfl
  simp only [tail_eq]
  constructor
  · intro found
    split at found
    · rename_i both
      rw [Option.some.injEq] at found
      rw [found] at whole both
      have free : dot ∉ extension := by
        rw [← found]
        intro member
        simpa using List.mem_rtakeWhile_imp member
      rcases List.eq_nil_or_concat' (name.rdropWhile (· != dot)) with none_left | ⟨stem, last, cut⟩
      · rw [none_left, List.nil_append] at whole
        rw [whole] at both
        simp at both
      · have isDot : last = dot := by
          have kept := List.rdropWhile_last_not (· != dot) name (by rw [cut]; simp)
          simpa [cut] using kept
        rw [cut, isDot, List.append_assoc, List.singleton_append] at whole
        refine ⟨stem, whole.symm, ?_, free⟩
        rintro rfl
        rw [← whole] at both
        simp at both
    · contradiction
  · rintro ⟨stem, rfl, some_stem, free⟩
    have tail : (stem ++ dot :: extension).rtakeWhile (· != dot) = extension := by
      have all : ∀ byte ∈ extension.reverse, (byte != dot) = true := by
        intro byte member
        rw [bne_iff_ne]
        rintro rfl
        exact free (List.mem_reverse.mp member)
      rw [List.rtakeWhile, List.reverse_append, List.reverse_cons, List.append_assoc,
        List.takeWhile_append_of_pos all]
      simp
    have stem_eq : (stem ++ dot :: extension).take
        ((stem ++ dot :: extension).length - extension.length - 1) = stem := by
      have length : (stem ++ dot :: extension).length - extension.length - 1 = stem.length := by
        simp
        omega
      rw [length, List.take_left]
    rw [tail, stem_eq]
    have shorter : extension.length < (stem ++ dot :: extension).length := by
      rw [List.length_append, List.length_cons]
      omega
    have occupied : stem.isEmpty = false := by simpa using some_stem
    rw [decide_eq_true shorter, occupied]
    rfl

theorem isMarkdownName_iff : IsMarkdownName name ↔
    ∃ extension ∈ TextKind.markdownExtensions, ∃ stem,
      name = stem ++ dot :: extension ∧ stem ≠ [] := by
  constructor
  · rintro ⟨stem, extension, whole, some_stem, known⟩
    exact ⟨extension, by simpa [TextKind.markdownExtensions] using known, stem, whole, some_stem⟩
  · rintro ⟨extension, known, stem, whole, some_stem⟩
    exact ⟨stem, extension, whole, some_stem, by simpa [TextKind.markdownExtensions] using known⟩

theorem TextKind.ofPath_eq_markdown_iff {path : Path} (named : path.fileName? = some name) :
    TextKind.ofPath path = .markdown ↔ IsMarkdownName name := by
  have found_iff : TextKind.ofPath path = .markdown ↔
      ∃ extension ∈ TextKind.markdownExtensions, path.extension? = some extension := by
    rw [TextKind.ofPath]
    rcases path.extension? with _ | extension
    · simp
    · by_cases member : extension ∈ TextKind.markdownExtensions
      · simp [member]
      · simp [member]
  have undotted : ∀ extension ∈ TextKind.markdownExtensions, dot ∉ extension := by decide
  rw [found_iff, isMarkdownName_iff]
  apply exists_congr
  intro extension
  apply and_congr_right
  intro known
  rw [extension?_eq_some_iff named]
  simp [undotted extension known]

theorem isMarkdown_entry (plain : IsPlain name) (folder : Path) :
    isMarkdown (folder.entry name) = true ↔ IsMarkdownName name := by
  rw [isMarkdown, beq_iff_eq]
  exact TextKind.ofPath_eq_markdown_iff (Path.endsInName_entry plain folder).fileName?_eq

theorem IsListed.of_cons {child : FileTree} {later : List Name}
    (isChild : tree.child? name = some child) (more : later ≠ [])
    (shown : ¬ BeginsWithDot name) (listed : IsListed child later) :
    IsListed tree (name :: later) := by
  rcases listed with ⟨isFile, named, shownLater⟩
  refine ⟨?_, ?_, ?_⟩
  · rw [FileTree.at?, isChild]
    exact isFile
  · rw [List.getLast?_cons_of_ne_nil more]
    exact named
  · rw [List.dropLast_cons_of_ne_nil more]
    exact List.forall_mem_cons.mpr ⟨shown, shownLater⟩

theorem IsListed.cons {child : FileTree} {later : List Name}
    (isChild : tree.child? name = some child) (listed : IsListed tree (name :: later)) :
    later = [] ∧ IsMarkdownName name ∧ (∃ bytes, child = .file bytes) ∨
      later ≠ [] ∧ ¬ BeginsWithDot name ∧ IsListed child later := by
  rcases listed with ⟨isFile, named, shown⟩
  rw [FileTree.at?, isChild, Option.bind_some] at isFile
  by_cases last : later = []
  · subst last
    left
    rcases isFile with ⟨bytes, isFile⟩
    exact ⟨rfl, by simpa using named, bytes, by simpa [FileTree.at?] using isFile⟩
  · right
    rw [List.getLast?_cons_of_ne_nil last] at named
    rw [List.dropLast_cons_of_ne_nil last, List.forall_mem_cons] at shown
    exact ⟨last, shown.1, isFile, named, shown.2⟩

theorem not_isListed_of_entries (closed : tree.entries = []) (names : List Name) :
    ¬ IsListed tree names := by
  rintro ⟨⟨bytes, isFile⟩, ⟨name, last, _⟩, _⟩
  rcases names with _ | ⟨first, later⟩
  · contradiction
  · rw [FileTree.at?, FileTree.child?, closed] at isFile
    contradiction

/-- Paths from a folder along just the names that are wanted, each once, in the order of names. -/
def ListsInOrder (folder : Path) (wanted : List Name → Prop) (paths : List Path) : Prop :=
  ∃ listed : List (List Name), paths = listed.map folder.below ∧ listed.Pairwise (· < ·) ∧
    ∀ names, names ∈ listed ↔ wanted names

variable {wanted other : List Name → Prop} {paths : List Path}

theorem ListsInOrder.nil (noneWanted : ∀ names, ¬ wanted names) :
    ListsInOrder folder wanted [] :=
  ⟨[], rfl, .nil, fun names => iff_of_false List.not_mem_nil (noneWanted names)⟩

theorem ListsInOrder.congr (lists : ListsInOrder folder wanted paths)
    (same : ∀ names, wanted names ↔ other names) : ListsInOrder folder other paths := by
  rcases lists with ⟨listed, paths_eq, sorted, mem_iff⟩
  exact ⟨listed, paths_eq, sorted, fun names => (mem_iff names).trans (same names)⟩

/-- Paths from an entry of a folder are paths from the folder with the name in front. -/
theorem ListsInOrder.entry (lists : ListsInOrder (folder.entry name) wanted paths) :
    ListsInOrder folder (fun names => ∃ later, names = name :: later ∧ wanted later) paths := by
  rcases lists with ⟨listed, rfl, sorted, mem_iff⟩
  refine ⟨listed.map (name :: ·), ?_, ?_, fun names => ?_⟩
  · rw [List.map_map]
    rfl
  · refine List.pairwise_map.mpr (sorted.imp fun before => ?_)
    exact List.cons_lt_cons_iff.mpr (.inr ⟨rfl, before⟩)
  · simp only [List.mem_map, mem_iff]
    constructor
    · rintro ⟨later, isWanted, rfl⟩
      exact ⟨later, rfl, isWanted⟩
    · rintro ⟨later, rfl, isWanted⟩
      exact ⟨later, isWanted, rfl⟩

/-- What entries hold is in order if the entries are. -/
theorem ListsInOrder.flatMap {found : Name × FileTree → List Path}
    (sorted : entries.Pairwise fun left right => left.1 < right.1)
    (each : ∀ entry ∈ entries, ListsInOrder folder
      (fun names => ∃ later, names = entry.1 :: later ∧ wanted names) (found entry)) :
    ListsInOrder folder
      (fun names => ∃ entry ∈ entries, ∃ later, names = entry.1 :: later ∧ wanted names)
      (entries.flatMap found) := by
  induction entries with
  | nil => exact .nil fun names => by simp
  | cons entry later ih =>
      rw [List.pairwise_cons] at sorted
      rcases each entry List.mem_cons_self with ⟨first, first_eq, firstSorted, firstMem⟩
      rcases ih sorted.2 fun next member => each next (List.mem_cons_of_mem entry member) with
        ⟨rest, rest_eq, restSorted, restMem⟩
      refine ⟨first ++ rest, ?_, ?_, fun names => ?_⟩
      · rw [List.flatMap_cons, first_eq, rest_eq, List.map_append]
      · refine List.pairwise_append.mpr ⟨firstSorted, restSorted, ?_⟩
        intro names inFirst others inRest
        rcases (firstMem names).mp inFirst with ⟨_, rfl, _⟩
        rcases (restMem others).mp inRest with ⟨next, member, _, rfl, _⟩
        exact List.cons_lt_cons_iff.mpr (.inl (sorted.1 next member))
      · rw [List.mem_append, firstMem, restMem]
        exact (List.exists_mem_cons_iff (fun next : Name × FileTree =>
          ∃ inner, names = next.1 :: inner ∧ wanted names) entry later).symm

theorem markdownBelow_eq_flatMap (folder : Path) (entries : List (Name × FileTree)) :
    markdownBelow folder (.folder entries) =
      (entries.mergeSort comesBefore).flatMap fun entry => markdownAt folder entry.1 entry.2 := by
  rw [markdownBelow_folder, mergeSort_map_entries, List.flatMap_map]

/-- Of an entry is listed the file that it is, or what is below a folder that is not hidden. -/
theorem listsInOrder_markdownAt {child : FileTree} (plain : IsPlain name)
    (isChild : (FileTree.folder entries).child? name = some child)
    (below : ListsInOrder (folder.entry name) (IsListed child)
      (markdownBelow (folder.entry name) child)) :
    ListsInOrder folder (fun names => ∃ later, names = name :: later ∧
      IsListed (.folder entries) names) (markdownAt folder name child) := by
  have deeper (inner : ∀ bytes, child ≠ .file bytes) :
      ListsInOrder folder (fun names => ∃ later, names = name :: later ∧
          IsListed (.folder entries) names)
        (if isHidden name then [] else markdownBelow (folder.entry name) child) := by
    by_cases hidden : isHidden name = true
    · rw [if_pos hidden]
      apply ListsInOrder.nil
      rintro _ ⟨later, rfl, listed⟩
      rcases listed.cons isChild with ⟨_, _, bytes, isFile⟩ | ⟨_, shown, _⟩
      · exact inner bytes isFile
      · exact shown (isHidden_iff.mp hidden)
    · rw [if_neg hidden]
      refine below.entry.congr fun names => exists_congr fun later => ?_
      constructor
      · rintro ⟨rfl, listed⟩
        exact ⟨rfl, .of_cons isChild listed.ne_nil (mt isHidden_iff.mpr hidden) listed⟩
      · rintro ⟨rfl, listed⟩
        rcases listed.cons isChild with ⟨_, _, bytes, isFile⟩ | ⟨_, _, listedLater⟩
        · exact absurd isFile (inner bytes)
        · exact ⟨rfl, listedLater⟩
  cases child with
  | file bytes =>
      rw [markdownAt]
      have alone : ∀ later, IsListed (.folder entries) (name :: later) ↔
          later = [] ∧ IsMarkdownName name := by
        intro later
        constructor
        · intro listed
          rcases listed.cons isChild with ⟨last, named, _⟩ | ⟨_, _, listedLater⟩
          · exact ⟨last, named⟩
          · exact absurd listedLater (not_isListed_of_entries rfl later)
        · rintro ⟨rfl, named⟩
          refine ⟨⟨bytes, ?_⟩, ⟨name, rfl, named⟩, fun _ member => by contradiction⟩
          rw [FileTree.at?, isChild]
          rfl
      by_cases named : IsMarkdownName name
      · rw [if_pos ((isMarkdown_entry plain folder).mpr named)]
        refine ⟨[[name]], rfl, List.pairwise_singleton _ _, fun names => ?_⟩
        rw [List.mem_singleton]
        constructor
        · rintro rfl
          exact ⟨[], rfl, (alone []).mpr ⟨rfl, named⟩⟩
        · rintro ⟨later, rfl, listed⟩
          rw [((alone later).mp listed).1]
      · rw [if_neg (mt (isMarkdown_entry plain folder).mp named)]
        apply ListsInOrder.nil
        rintro _ ⟨later, rfl, listed⟩
        exact named ((alone later).mp listed).2
  | link _ | folder _ | repository _ => exact deeper fun _ => FileTree.noConfusion

/-- The files below a tree that are to be listed are listed in order, each once. -/
theorem listsInOrder_markdownBelow (proper : tree.IsProper) (folder : Path) :
    ListsInOrder folder (IsListed tree) (markdownBelow folder tree) := by
  induction proper generalizing folder with
  | file | link | repository =>
      rw [markdownBelow]
      exact .nil (not_isListed_of_entries rfl)
  | @folder entries distinct plain inner ih =>
      rw [markdownBelow_eq_flatMap]
      have each : ∀ entry ∈ entries.mergeSort comesBefore, ListsInOrder folder
          (fun names => ∃ later, names = entry.1 :: later ∧ IsListed (.folder entries) names)
          (markdownAt folder entry.1 entry.2) := by
        intro entry sorted
        have member := List.mem_mergeSort.mp sorted
        exact listsInOrder_markdownAt (plain entry member) (lookup_of_mem distinct member)
          (ih entry member (folder.entry entry.1))
      refine (ListsInOrder.flatMap (pairwise_mergeSort_entries distinct) each).congr fun names => ?_
      constructor
      · rintro ⟨_, _, _, _, listed⟩
        exact listed
      · intro listed
        rcases names with _ | ⟨name, later⟩
        · exact absurd rfl listed.ne_nil
        · rcases listed.isFile with ⟨bytes, isFile⟩
          rcases Option.bind_eq_some_iff.mp isFile with ⟨child, isChild, _⟩
          exact ⟨(name, child), List.mem_mergeSort.mpr (mem_of_lookup isChild), later, rfl, listed⟩

/--
The listing of a folder gives the files that are to be listed, in order and each once; or it fails
at the first folder, in this order, whose path is too long for the folder to be read.
-/
theorem listMarkdown_of_folder {files : FileSystem} (proper : files.root.IsProper)
    (found : files.find false root = .ok tree) (isFolder : tree.isFolder = true) :
    ((∀ names, IsEntered tree names → Fits root names) ∧ ∃ paths,
      listMarkdown files root = .ok paths ∧ ListsInOrder root (IsListed tree) paths) ∨
    ∃ names, IsFirstOverlong root tree names ∧ listMarkdown files root =
      .error (.io (root.below names) (.listing (root.below names) .nameTooLong)) := by
  have properTree : tree.IsProper := by
    rcases FileSystem.exists_place_of_find found with ⟨place, _, there⟩
    exact proper.of_at? there
  have lists : listMarkdown files root = listFolder root tree := by
    rw [listMarkdown, found]
    cases tree with
    | file _ | link _ => contradiction
    | folder _ | repository _ => rfl
  rw [lists, listFolder]
  rcases searchEnds_overlong? properTree root with ⟨none_found, fits⟩ | ⟨names, isFound, isFirst⟩
  · rw [none_found]
    exact .inl ⟨fits, _, rfl, listsInOrder_markdownBelow properTree root⟩
  · rw [isFound]
    exact .inr ⟨names, isFirst, rfl⟩

/-- An entry with a text of one letter. -/
def letterFile (name : String) : Name × FileTree :=
  (Utf8.ofString name, .file (Utf8.ofString "A"))

/-- A folder in which the names of files and folders have beginnings in common. -/
def mixedFolder : FileTree :=
  .folder [letterFile "a.md", (Utf8.ofString "a-b", .folder [letterFile "y.md"]),
    (Utf8.ofString ".h", .folder [letterFile "x.md"]),
    (Utf8.ofString "a", .folder [letterFile "z.md", letterFile ".z.md", letterFile ".md"])]

theorem isProper_letterFile (name : String) (plain : IsPlain (Utf8.ofString name)) :
    (FileTree.folder [letterFile name]).IsProper :=
  .cons (.file _) plain List.not_mem_nil FileTree.isProper_emptyFolder

theorem isProper_mixedFolder : mixedFolder.IsProper := by
  have files : (FileTree.folder
      [letterFile "z.md", letterFile ".z.md", letterFile ".md"]).IsProper :=
    .cons (.file _) (by decide) (by decide) <| .cons (.file _) (by decide) (by decide) <|
      isProper_letterFile ".md" (by decide)
  exact .cons (.file _) (by decide) (by decide) <|
    .cons (isProper_letterFile "y.md" (by decide)) (by decide) (by decide) <|
    .cons (isProper_letterFile "x.md" (by decide)) (by decide) (by decide) <|
    .cons files (by decide) (by decide) FileTree.isProper_emptyFolder

/-- The order is that of the names, in which a folder comes before a name that is longer. -/
theorem listMarkdown_of_mixedFolder :
    let files : FileSystem := ⟨.folder [(Utf8.ofString "c", mixedFolder)], []⟩
    files.root.IsProper ∧ files.find false (.ofString "c") = .ok mixedFolder ∧
      mixedFolder.isFolder = true ∧
      ListsInOrder (.ofString "c") (IsListed mixedFolder) [.ofString "c/a/.z.md",
        .ofString "c/a/z.md", .ofString "c/a-b/y.md", .ofString "c/a.md"] := by
  intro files
  have proper : files.root.IsProper :=
    .cons isProper_mixedFolder (by decide) (by decide) FileTree.isProper_emptyFolder
  have found : files.find false (.ofString "c") = .ok mixedFolder := by cbv
  have run : listMarkdown files (.ofString "c") = .ok [.ofString "c/a/.z.md",
      .ofString "c/a/z.md", .ofString "c/a-b/y.md", .ofString "c/a.md"] := by cbv
  refine ⟨proper, found, rfl, ?_⟩
  rcases listMarkdown_of_folder proper found rfl with ⟨_, paths, listed, lists⟩ | ⟨_, _, fails⟩
  · rw [run] at listed
    cases listed
    exact lists
  · rw [run] at fails
    contradiction

/-- A folder whose path is too long ends the listing, though the file in it is to be listed. -/
theorem listMarkdown_fails_when_long :
    let tree : FileTree := .folder [(Utf8.ofString "dddd", .folder [letterFile "a.md"])]
    let files : FileSystem := ⟨tree, []⟩
    let root := (dotted 2046).join ⟨selfName⟩
    tree.IsProper ∧ files.find false root = .ok tree ∧ tree.isFolder = true ∧
      IsListed tree [Utf8.ofString "dddd", Utf8.ofString "a.md"] ∧
      ∃ error, listMarkdown files root = .error error := by
  intro tree files root
  have plain : IsPlain (Utf8.ofString "dddd") := by decide
  have proper : tree.IsProper :=
    .cons (isProper_letterFile "a.md" (by decide)) plain (by decide) FileTree.isProper_emptyFolder
  have found : files.find false root = .ok tree := by
    rw [find_dotted ⟨tree, rfl, rfl⟩ (by decide) (by decide) (by decide)]
    cbv
  have bytes_eq : root.bytes = (dotted 2046).bytes ++ [dot] := by
    have relative : (⟨selfName⟩ : Path).isAbsolute = false := rfl
    change ((dotted 2046).join ⟨selfName⟩).bytes = _
    rw [Path.join_eq relative, opening_dotted]
    rfl
  have shown : ¬ BeginsWithDot (Utf8.ofString "dddd") := by
    have visible : isHidden (Utf8.ofString "dddd") = false := by cbv
    rw [← isHidden_iff, visible]
    exact Bool.false_ne_true
  have entered : IsEntered tree [Utf8.ofString "dddd"] :=
    ⟨⟨_, rfl, rfl⟩, by simpa using shown⟩
  have long : ¬ Fits root [Utf8.ofString "dddd"] := by
    have ends : root.bytes.getLast? = some dot := by rw [bytes_eq, List.getLast?_concat]
    have opening_eq : root.opening = root.bytes ++ [slash] :=
      Path.opening_of_open (by simp [bytes_eq]) (by rw [ends]; decide)
    rw [Fits, Path.below, List.foldl_cons, List.foldl_nil, Path.entry,
      Path.join_eq (Path.isAbsolute_of_isPlain plain), opening_eq, bytes_eq]
    have limit : longestPath = 4095 := rfl
    have length : (Utf8.ofString "dddd").length = 4 := by decide
    simp only [List.length_append, List.length_singleton, length_dotted]
    omega
  refine ⟨proper, found, rfl, ⟨⟨_, rfl⟩, ⟨_, rfl, ?_⟩, by simpa using shown⟩, ?_⟩
  · exact ⟨Utf8.ofString "a", Utf8.ofString "md", by decide, by decide, .inl rfl⟩
  · have lists : listMarkdown files root = listFolder root tree := by
      rw [listMarkdown, found]
    rw [lists, listFolder]
    rcases searchEnds_overlong? proper root with ⟨_, fits⟩ | ⟨names, isFound, _⟩
    · exact absurd (fits _ entered) long
    · rw [isFound]
      exact ⟨_, rfl⟩

end DocIndex.Documents
