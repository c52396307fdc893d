import DocIndex.Proofs.Documents.Links
import DocIndex.Proofs.Documents.Pieces
import DocIndex.Proofs.Documents.Walk
import DocIndex.Proofs.Files.Reading
import DocIndex.Proofs.Text.Utf8

/-!
# Loading a folder of documents

The documents below a folder are loaded in the order of the listing. Each gives the pieces of its
text as chunks that are numbered from 0, and the first that gives none because it cannot be read or
cut ends the loading with its error. Nothing is loaded where the folder is missing or where the
listing fails.
-/

namespace DocIndex.Documents

open DocIndex.Files DocIndex.Split DocIndex.Text

variable {files : FileSystem} {limits : Limits} {url : String} {checkout docsPath : Path}
  {docs : FileTree} {names : List Name}

/--
The chunks of a document of the folder that `docsPath` leads to in a checkout: the pieces of its
text in order, with their numbers, under the path along which the document is found.
-/
inductive IsBlock (limits : Limits) (url : String) (checkout docsPath : Path) (docs : FileTree)
    (names : List Name) : List Chunk → Prop
  | intro {bytes : List UInt8} {text : List Char} {pieces : List String} {path : Path}
      (fits : Fits (checkout.join docsPath) names)
      (isFile : docs.at? names = some (.file bytes)) (isText : Utf8.decode? bytes = some text)
      (cut : TextKind.markdown.pieces limits text = .ok pieces)
      (blank : pieces = [] ↔ isBlank text = true)
      (seen : ((checkout.join docsPath).below names).relativeTo? checkout = some path)
      (named : path.names = docsPath.names ++ names) :
      IsBlock limits url checkout docsPath docs names
        (pieces.mapIdx fun index piece => .ofMetadata ⟨url, path.text, index⟩ piece)

/-- Why a document cannot be loaded: its path is too long, it is no text or it cannot be cut. -/
inductive IsFailure (limits : Limits) (root : Path) (docs : FileTree) (names : List Name) :
    Error → Prop
  | long (long : ¬ Fits root names) :
      IsFailure limits root docs names (.io (root.below names) .nameTooLong)
  | notText {bytes : List UInt8} (fits : Fits root names)
      (isFile : docs.at? names = some (.file bytes)) (noText : Utf8.decode? bytes = none) :
      IsFailure limits root docs names (.io (root.below names) .notText)
  | uncut {bytes : List UInt8} {text : List Char} (fits : Fits root names)
      (isFile : docs.at? names = some (.file bytes)) (isText : Utf8.decode? bytes = some text)
      (invalid : limits.size ≤ limits.overlap) :
      IsFailure limits root docs names .chunkLimits

theorem loadEach_cons (load : Path → Except Error (List Chunk)) (path : Path)
    (later : List Path) : loadEach load (path :: later) =
      match load path with
      | .error error => .error error
      | .ok block => (loadEach load later).map (block ++ ·) := by
  rw [loadEach, loadEach, List.mapM_cons]
  rcases load path with error | block
  · rfl
  · rcases later.mapM load with error | blocks
    · rfl
    · rfl

/-- What is loaded one by one is all loaded, or ends at the first that fails. -/
theorem loadEach_cases {Item : Type} {load : Path → Except Error (List Chunk)}
    {path : Item → Path} {gives : Item → List Chunk → Prop} {fails : Item → Error → Prop}
    {items : List Item} (each : ∀ item ∈ items,
      (∃ block, load (path item) = .ok block ∧ gives item block) ∨
        ∃ error, load (path item) = .error error ∧ fails item error) :
    (∃ blocks, List.Forall₂ gives items blocks ∧
      loadEach load (items.map path) = .ok blocks.flatten) ∨
    ∃ before item after error, items = before ++ item :: after ∧
      (∀ earlier ∈ before, ∃ block, gives earlier block) ∧ fails item error ∧
        loadEach load (items.map path) = .error error := by
  induction items with
  | nil => exact .inl ⟨[], .nil, rfl⟩
  | cons item later ih =>
      rw [List.forall_mem_cons] at each
      rw [List.map_cons, loadEach_cons]
      rcases each.1 with ⟨block, loads, isBlock⟩ | ⟨error, stops, isFailure⟩
      · rw [loads]
        rcases ih each.2 with ⟨blocks, all, loadsLater⟩ |
          ⟨before, failing, after, error, rfl, earlier, isFailure, stops⟩
        · rw [loadsLater]
          exact .inl ⟨block :: blocks, .cons isBlock all, rfl⟩
        · rw [stops]
          refine .inr ⟨item :: before, failing, after, error, rfl, ?_, isFailure, rfl⟩
          exact List.forall_mem_cons.mpr ⟨⟨block, isBlock⟩, earlier⟩
      · rw [stops]
        exact .inr ⟨[], item, later, error, rfl, fun _ member => absurd member List.not_mem_nil,
          isFailure, rfl⟩

theorem readText_of_find {path : Path} {bytes : List UInt8}
    (found : files.find true path = .ok (.file bytes)) :
    files.readText path =
      match Utf8.decode? bytes with
      | none => .error .notText
      | some text => .ok text := by
  rcases decoded : Utf8.decode? bytes with _ | text
  · simp only [FileSystem.readText, FileSystem.readBytes, found, decoded]
  · simp only [FileSystem.readText, FileSystem.readBytes, found, decoded]

/-- Every document that is listed is loaded, or fails for one of the known reasons. -/
theorem loadFile_below (proper : docs.IsProper) (storable : docs.IsStorable)
    (relative : docsPath.isAbsolute = false)
    (found : files.find true (checkout.join docsPath) = .ok docs) (listed : IsListed docs names) :
    let path := (checkout.join docsPath).below names
    let loaded := loadFile files limits .markdown path url
      ((path.relativeTo? checkout).getD path).text
    (∃ block, loaded = .ok block ∧ IsBlock limits url checkout docsPath docs names block) ∨
      ∃ error, loaded = .error error ∧
        IsFailure limits (checkout.join docsPath) docs names error := by
  intro path loaded
  rcases listed.isFile with ⟨bytes, isFile⟩
  have plain := proper.isPlain_of_at? isFile
  have reads := FileSystem.find_below found listed.ne_nil plain (storable names _ isFile) isFile
  -- A path that is too long is found out first, then bytes that are no text, then the limits.
  by_cases fits : Fits (checkout.join docsPath) names
  · rw [if_neg (Nat.not_lt.mpr fits)] at reads
    have text_eq := readText_of_find reads
    rcases isText : Utf8.decode? bytes with _ | text
    · right
      rw [isText] at text_eq
      refine ⟨_, ?_, .notText fits isFile isText⟩
      simp only [loaded, loadFile, path, text_eq]
    · rw [isText] at text_eq
      by_cases invalid : limits.size ≤ limits.overlap
      · right
        refine ⟨_, ?_, .uncut fits isFile isText invalid⟩
        simp only [loaded, loadFile, path, text_eq, TextKind.pieces_of_invalid _ invalid]
        rfl
      · left
        have valid : limits.overlap < limits.size := Nat.not_le.mp invalid
        have keep := spans_keep .unicode TextKind.markdown.trimming valid
          (TextKind.markdown.regions text) text
        have cut := TextKind.markdown.pieces_eq valid text
        rcases Path.exists_relativeTo?_below checkout relative listed.ne_nil plain with
          ⟨inner, seen, named⟩
        refine ⟨_, ?_, .intro fits isFile isText cut ?_ seen named⟩
        · simp only [loaded, loadFile, path, text_eq, cut, seen]
          rfl
        · rw [List.map_eq_nil_iff]
          exact keep.eq_nil_iff
  · right
    rw [if_pos (Nat.not_le.mp fits)] at reads
    refine ⟨_, ?_, .long fits⟩
    simp only [loaded, loadFile, path, FileSystem.readText, FileSystem.readBytes, reads]

/-- What a load gives for documents in their order: all their blocks, or the first failure. -/
def LoadsInOrder (limits : Limits) (url : String) (checkout docsPath : Path) (docs : FileTree)
    (listed : List (List Name)) (loaded : Except Error (List Chunk)) : Prop :=
  (∃ blocks, List.Forall₂ (IsBlock limits url checkout docsPath docs) listed blocks ∧
    loaded = .ok blocks.flatten) ∨
  ∃ before names after error, listed = before ++ names :: after ∧
    (∀ earlier ∈ before, ∃ block, IsBlock limits url checkout docsPath docs earlier block) ∧
    IsFailure limits (checkout.join docsPath) docs names error ∧ loaded = .error error

theorem loadDocs_of_find (relative : docsPath.isAbsolute = false)
    (found : files.find true (checkout.join docsPath) = .ok docs)
    (opened : docs.isFolder = true) : loadDocs files limits url checkout docsPath =
      match listMarkdown files (checkout.join docsPath) with
      | .error error => .error error
      | .ok paths => loadEach (fun path => loadFile files limits .markdown path url
          ((path.relativeTo? checkout).getD path).text) paths := by
  have present : ¬ (docsPath.isAbsolute || ! files.isFolder (checkout.join docsPath)) = true := by
    simp [relative, FileSystem.isFolder, found, opened]
  exact if_neg present

/--
A load of a folder fails where there is no such folder or its path is not relative, and at the first
folder below it that cannot be read. Otherwise its documents are loaded in their order.
-/
theorem loadDocs_in_order (proper : files.root.IsProper) (storable : files.root.IsStorable)
    (limits : Limits) (url : String) (checkout docsPath : Path) :
    let root := checkout.join docsPath
    let loaded := loadDocs files limits url checkout docsPath
    (docsPath.isAbsolute = true ∨ files.isFolder root = false →
      loaded = .error (.docsPathMissing url docsPath)) ∧
    ∀ docs, docsPath.isAbsolute = false → files.find true root = .ok docs → docs.isFolder = true →
      (∃ names, IsFirstOverlong root docs names ∧
        loaded = .error (.io (root.below names) (.listing (root.below names) .nameTooLong))) ∨
      (∀ names, IsEntered docs names → Fits root names) ∧
        ∃ listed : List (List Name), listed.Pairwise (· < ·) ∧
          (∀ names, names ∈ listed ↔ IsListed docs names) ∧
          listMarkdown files root = .ok (listed.map root.below) ∧
          LoadsInOrder limits url checkout docsPath docs listed loaded ∧
          (listed = [] → loaded = .ok []) := by
  intro root loaded
  constructor
  · intro missing
    have refused : (docsPath.isAbsolute || ! files.isFolder root) = true := by
      simpa using missing
    simp only [loaded, loadDocs]
    rw [if_pos refused]
  · intro docs relative found opened
    rcases FileSystem.exists_place_of_find found with ⟨place, _, there⟩
    have properDocs := proper.of_at? there
    have storableDocs := storable.of_at? there
    have listing := listMarkdown_of_find found opened
    rw [listFolder] at listing
    rcases searchEnds_overlong? properDocs root with ⟨none_found, fits⟩ | ⟨names, isFound, isFirst⟩
    · right
      rcases listsInOrder_markdownBelow properDocs root with ⟨listed, paths_eq, sorted, mem_iff⟩
      simp only [none_found, paths_eq] at listing
      have loaded_eq := @loadDocs_of_find files limits url _ _ _ relative found opened
      rw [listing] at loaded_eq
      have each := fun names member => @loadFile_below files limits url _ _ _ names properDocs
        storableDocs relative found ((mem_iff names).mp member)
      refine ⟨fits, listed, sorted, mem_iff, listing, ?_, ?_⟩
      · simp only [LoadsInOrder, loaded, loaded_eq]
        exact loadEach_cases each
      · rintro rfl
        exact loaded_eq
    · left
      simp only [isFound] at listing
      have loaded_eq := @loadDocs_of_find files limits url _ _ _ relative found opened
      rw [listing] at loaded_eq
      exact ⟨names, isFirst, loaded_eq⟩

/-- A folder with an empty document, one that is no text, and one behind it. -/
def brokenFolder : FileTree :=
  .folder [(Utf8.ofString "b.md", .file [0xFF]), letterFile "c.md",
    (Utf8.ofString "a.md", .file [])]

theorem isProper_brokenFolder : brokenFolder.IsProper :=
  .cons (.file _) (by decide) (by decide) <| .cons (.file _) (by decide) (by decide) <|
    .cons (.file _) (by decide) (by decide) FileTree.isProper_emptyFolder

theorem isStorable_brokenFolder : brokenFolder.IsStorable :=
  .cons (FileTree.isStorable_file _) (by decide) <|
    .cons (FileTree.isStorable_file _) (by decide) <|
      .cons (FileTree.isStorable_file _) (by decide) FileTree.isStorable_emptyFolder

/-- The document that is no text ends the load; nothing is looked for under an absolute path. -/
theorem loadDocs_in_order_of_brokenFolder :
    let files : FileSystem := ⟨.folder [(Utf8.ofString "docs", brokenFolder)], []⟩
    let checkout : Path := .ofString "."
    let failure := Error.io (.ofString "./docs/b.md") .notText
    files.root.IsProper ∧ files.root.IsStorable ∧
      loadDocs files ⟨1000, 200⟩ "u" checkout (.ofString "/docs") =
        .error (.docsPathMissing "u" (.ofString "/docs")) ∧
      loadDocs files ⟨1000, 200⟩ "u" checkout (.ofString "docs") = .error failure ∧
      ∃ listed, (∀ names, names ∈ listed ↔ IsListed brokenFolder names) ∧
        LoadsInOrder ⟨1000, 200⟩ "u" checkout (.ofString "docs") brokenFolder listed
          (.error failure) := by
  intro files checkout failure
  have proper : files.root.IsProper :=
    .cons isProper_brokenFolder (by decide) (by decide) FileTree.isProper_emptyFolder
  have storable : files.root.IsStorable :=
    .cons isStorable_brokenFolder (by decide) FileTree.isStorable_emptyFolder
  have found : files.find true (checkout.join (.ofString "docs")) = .ok brokenFolder := by cbv
  have run : loadDocs files ⟨1000, 200⟩ "u" checkout (.ofString "docs") = .error failure := by cbv
  refine ⟨proper, storable, ?_, run, ?_⟩
  · exact (loadDocs_in_order proper storable ⟨1000, 200⟩ "u" checkout (.ofString "/docs")).1
      (.inl (by decide))
  · rcases (loadDocs_in_order proper storable ⟨1000, 200⟩ "u" checkout (.ofString "docs")).2
      brokenFolder (by decide) found rfl with
      ⟨names, _, fails⟩ | ⟨_, listed, _, mem_iff, _, loads, _⟩
    · rw [run] at fails
      simp [failure] at fails
    · rw [run] at loads
      exact ⟨listed, mem_iff, loads⟩

/-- A document is listed but not loaded where its folder can be read by its path and it cannot. -/
theorem loadDocs_of_long {root : Path} (root_eq : checkout.join docsPath = root)
    (relative : docsPath.isAbsolute = false)
    (found : files.find true root = .ok (.folder [letterFile "a.md"])) (here : Fits root [])
    (long : ¬ Fits root [Utf8.ofString "a.md"]) :
    listMarkdown files root = .ok [root.entry (Utf8.ofString "a.md")] ∧
      loadDocs files limits url checkout docsPath =
        .error (.io (root.entry (Utf8.ofString "a.md")) .nameTooLong) := by
  have plain : IsPlain (Utf8.ofString "a.md") := by decide
  have markdown : isMarkdown (root.entry (Utf8.ofString "a.md")) = true :=
    (isMarkdown_entry plain root).mpr
      ⟨Utf8.ofString "a", Utf8.ofString "md", by decide, by decide, .inl rfl⟩
  have listed : listMarkdown files root = .ok [root.entry (Utf8.ofString "a.md")] := by
    have none_found : overlong? root (.folder [letterFile "a.md"]) = none := by
      have readable : ¬ longestPath < root.bytes.length := Nat.not_lt.mpr here
      rw [overlong?_folder, if_neg readable, List.mergeSort_singleton]
      simp [letterFile, overlong?]
    rw [listMarkdown_of_find found rfl, listFolder, none_found, markdownBelow_eq_flatMap,
      List.mergeSort_singleton, List.flatMap_singleton]
    exact congrArg Except.ok (if_pos markdown)
  have unread : files.find true (root.entry (Utf8.ofString "a.md")) = .error .nameTooLong := by
    have reads := FileSystem.find_below found (List.cons_ne_nil _ [])
      (List.forall_mem_singleton.mpr plain) (by decide) rfl
    exact reads.trans (if_pos (Nat.not_le.mp long))
  refine ⟨listed, ?_⟩
  rw [loadDocs_of_find relative (root_eq ▸ found) rfl, root_eq, listed]
  simp only [loadEach_cons, loadFile, FileSystem.readText, FileSystem.readBytes, unread]

/-- The only document is listed and is text, but its path is too long for it to be read. -/
theorem loadDocs_fails_at_long_document :
    let docs : FileTree := .folder [letterFile "a.md"]
    let files : FileSystem := ⟨.folder [(Utf8.ofString "docs", docs)], []⟩
    let checkout := (dotted 2043).join ⟨selfName⟩
    let root := checkout.join (.ofString "docs")
    let document := root.entry (Utf8.ofString "a.md")
    files.root.IsProper ∧ files.root.IsStorable ∧ files.find true root = .ok docs ∧
      docs.at? [Utf8.ofString "a.md"] = some (.file (Utf8.ofString "A")) ∧
      listMarkdown files root = .ok [document] ∧
      Utf8.decode? (Utf8.ofString "A") = some ['A'] ∧
      (⟨1000, 200⟩ : Limits).overlap < (⟨1000, 200⟩ : Limits).size ∧
      loadDocs files ⟨1000, 200⟩ "u" checkout (.ofString "docs") =
        .error (.io document .nameTooLong) := by
  intro docs files checkout root document
  have plain : IsPlain (Utf8.ofString "a.md") := by decide
  have properDocs : docs.IsProper := isProper_letterFile "a.md" plain
  have storable : files.root.IsStorable :=
    .cons (.cons (FileTree.isStorable_file _) (by decide) FileTree.isStorable_emptyFolder)
      (by decide) FileTree.isStorable_emptyFolder
  have relative : (Path.ofString "docs").isAbsolute = false := by decide
  have root_eq : root = (dotted 2043).join ((⟨selfName⟩ : Path).join (.ofString "docs")) :=
    Path.join_assoc rfl relative _
  have found : files.find true root = .ok docs := by
    rw [root_eq, find_dotted ⟨files.root, rfl, rfl⟩ (by decide) (by decide) (by decide)]
    cbv
  have bytes_eq : root.bytes = (dotted 2043).bytes ++ Utf8.ofString "./docs" := by
    rw [root_eq, Path.join_eq (by decide), opening_dotted]
    rfl
  have opening_eq : root.opening = (dotted 2043).bytes ++ Utf8.ofString "./docs/" := by
    rw [root_eq, Path.opening_join (by decide), opening_dotted]
    rfl
  have joined : checkout.join (.ofString "docs") = root := rfl
  clear_value root
  have here : Fits root [] := by
    change root.bytes.length ≤ 4095
    rw [bytes_eq, List.length_append, length_dotted]
    decide
  have long : ¬ Fits root [Utf8.ofString "a.md"] := by
    change ¬ (root.join ⟨Utf8.ofString "a.md"⟩).bytes.length ≤ 4095
    rw [Path.join_eq (Path.isAbsolute_of_isPlain plain), opening_eq, List.length_append,
      List.length_append, length_dotted]
    decide
  rcases @loadDocs_of_long files ⟨1000, 200⟩ "u" _ _ root joined relative found here long with
    ⟨listed, fails⟩
  exact ⟨.cons properDocs (by decide) (by decide) FileTree.isProper_emptyFolder, storable, found,
    rfl, listed, Utf8.decode?_encode ['A'], by decide, fails⟩

end DocIndex.Documents
