import Mathlib
import DocIndex.Documents.Load
import DocIndex.Proofs.Documents.Loading
import DocIndex.Proofs.Documents.Spelling

/-!
# Checkouts in other places

What loading gives from a checkout is a function of the tree in it. So identifiers, texts and
positions of the chunks stay the same when a repository is cloned elsewhere, however the path of the
checkout is spelt, as long as no path that loading opens is too long from one place only.
-/

namespace DocIndex

/-- What an error is, without its particulars. -/
inductive Error.Kind
  | clone
  | docsPathMissing
  | io
  | chunkLimits
  | unknownModel
  | modelLoad
  | embedding
  | store
  | columns
  | dimensionMismatch
  | metadata
  | noChunks
  | abandoned
  deriving DecidableEq, Repr

/-- What an error is. -/
def Error.kind : Error → Kind
  | clone _ _ => .clone
  | docsPathMissing _ _ => .docsPathMissing
  | io _ _ => .io
  | chunkLimits => .chunkLimits
  | unknownModel _ => .unknownModel
  | modelLoad _ _ => .modelLoad
  | embedding _ => .embedding
  | store _ => .store
  | columns _ => .columns
  | dimensionMismatch _ _ _ => .dimensionMismatch
  | metadata _ _ => .metadata
  | noChunks => .noChunks
  | abandoned => .abandoned

namespace Documents

open DocIndex.Files DocIndex.Split DocIndex.Text

variable {files others : FileSystem} {tree docs : FileTree} {checkout other docsPath path : Path}
  {name otherName : Name} {names : List Name} {limits : Limits} {url : String}

/-- The chunks of the Markdown file that a path names in a tree. -/
def loadInside (tree : FileTree) (limits : Limits) (url : String) (path : Path) :
    Except Error.Kind (List Chunk) :=
  match tree.look? path with
  | some (.file bytes) =>
    match Utf8.decode? bytes with
    | none => .error .io
    | some text =>
      ((TextKind.markdown.pieces limits text).map
        (Chunk.ofPieces url path.stripped.text)).mapError Error.kind
  | _ => .error .io

/-- Loads with the same chunks, or with errors of the same kind. -/
def LoadAlike (first second : Except Error (List Chunk)) : Prop :=
  first.mapError Error.kind = second.mapError Error.kind

theorem loadAlike_iff {first second : Except Error (List Chunk)} :
    LoadAlike first second ↔ (∃ chunks, first = .ok chunks ∧ second = .ok chunks) ∨
      ∃ error other, first = .error error ∧ second = .error other ∧ other.kind = error.kind := by
  rcases first with error | chunks
  · rcases second with other | others
    · simp [LoadAlike, Except.mapError, eq_comm]
    · simp [LoadAlike, Except.mapError]
  · rcases second with other | others
    · simp [LoadAlike, Except.mapError]
    · simp [LoadAlike, Except.mapError, eq_comm]

/-- Loads that come to the same, unless one of them fails with an error of a certain sort. -/
def AlikeUnless (fails failsOther : Error → Prop) (first second : Except Error (List Chunk)) :
    Prop :=
  LoadAlike first second ∨ (∃ error, first = .error error ∧ fails error) ∨
    ∃ error, second = .error error ∧ failsOther error

/-- Loads of which each fails with an error of one kind unless its path fits. -/
theorem alikeUnless_of_fits {fails failsOther : Error → Prop} {fits fitsOther : Prop}
    {first second : Except Error (List Chunk)} {error errorOther : Error}
    (kinds : errorOther.kind = error.kind)
    (both : fits → fitsOther → AlikeUnless fails failsOther first second)
    (long : ¬ fits → first = .error error)
    (longOther : ¬ fitsOther → second = .error errorOther)
    (isSort : ¬ fits → fitsOther → fails error)
    (isSortOther : ¬ fitsOther → fits → failsOther errorOther) :
    AlikeUnless fails failsOther first second := by
  by_cases short : fits
  · by_cases shortOther : fitsOther
    · exact both short shortOther
    · exact .inr (.inr ⟨errorOther, longOther shortOther, isSortOther shortOther short⟩)
  · by_cases shortOther : fitsOther
    · exact .inr (.inl ⟨error, long short, isSort short shortOther⟩)
    · left
      rw [LoadAlike, long short, longOther shortOther]
      exact congrArg Except.error kinds.symm

/-- The error of a load that meets a path that is too long, by the names on the way to it. -/
inductive IsTooLong (url : String) (docsPath : Path) (docs : FileTree) (root : Path) :
    List Name → Error → Prop
  /-- The folder of documents is missed. -/
  | docs (opened : docs.isFolder = true) :
      IsTooLong url docsPath docs root [] (.docsPathMissing url docsPath)
  /-- A folder that is entered cannot be read. -/
  | folder {names : List Name} (entered : IsEntered docs names) :
      IsTooLong url docsPath docs root names
        (.io (root.below names) (.listing (root.below names) .nameTooLong))
  /-- A document that is listed cannot be read. -/
  | document {names : List Name} (listed : IsListed docs names) :
      IsTooLong url docsPath docs root names (.io (root.below names) .nameTooLong)

/-- The error of a load at a path that is too long from its own checkout and not from another. -/
def IsByLength (tree : FileTree) (url : String) (docsPath checkout other : Path) (error : Error) :
    Prop :=
  ∃ docs names, tree.at? docsPath.names = some docs ∧ ¬ Fits (checkout.join docsPath) names ∧
    Fits (other.join docsPath) names ∧
    IsTooLong url docsPath docs (checkout.join docsPath) names error

/-- A checkout whose path ends in a name and leads to a tree. -/
structure Holds (files : FileSystem) (checkout : Path) (tree : FileTree) : Prop where
  copy : files.find true checkout = .ok tree
  ends : ∃ name, checkout.EndsInName name

namespace Holds

/-- A path that is not too long names in a checkout what it names in the tree of the checkout. -/
theorem toOption_find (holds : Holds files checkout tree) (relative : path.isAbsolute = false)
    (noLink : tree.NoLinkOn path.names) (inside : parentName ∉ path.names)
    (short : (checkout.join path).bytes.length ≤ longestPath) (follow : Bool) :
    (files.find follow (checkout.join path)).toOption = tree.look? path := by
  rcases holds.ends with ⟨name, ends⟩
  exact FileSystem.find_join holds.copy ends relative noLink inside short follow

theorem find_of_long (holds : Holds files checkout tree) (relative : path.isAbsolute = false)
    (whole : 0 ∉ path.bytes) (long : longestPath < (checkout.join path).bytes.length) :
    files.find true (checkout.join path) = .error .nameTooLong := by
  rcases holds.ends with ⟨name, ends⟩
  rcases FileSystem.exists_place_of_find holds.copy with ⟨place, located, _⟩
  rcases FileSystem.locate_eq_ok_iff.mp located with ⟨⟨zero, _, _⟩, _⟩
  have bytes_eq := ends.bytes_join relative
  have absent : 0 ∉ (checkout.join path).bytes := by
    simp [bytes_eq, zero, whole, slash]
  have nonempty : (checkout.join path).bytes ≠ [] := by simp [bytes_eq]
  simp [FileSystem.find, FileSystem.locate, absent, nonempty, long]

/-- A folder of documents is missed where the tree has none, and where its path is too long. -/
theorem loadDocs_of_missing (holds : Holds files checkout tree)
    (noLink : tree.NoLinkOn docsPath.names) (inside : parentName ∉ docsPath.names)
    (missing : (∀ docs, tree.look? docsPath = some docs → docs.isFolder = false) ∨
      ¬ Fits (checkout.join docsPath) []) :
    loadDocs files limits url checkout docsPath = .error (.docsPathMissing url docsPath) := by
  rcases relative : docsPath.isAbsolute with _ | _
  · have absent : files.isFolder (checkout.join docsPath) = false := by
      rw [← Bool.not_eq_true]
      intro isFolder
      rcases FileSystem.exists_locate_of_isFolder isFolder with ⟨_, _, located, _⟩
      have short := (FileSystem.locate_eq_ok_iff.mp located).1.2.2
      rcases missing with none | long
      · have shows := holds.toOption_find relative noLink inside short true
        rw [FileSystem.isFolder] at isFolder
        rcases found : files.find true (checkout.join docsPath) with fault | docs
        · rw [found] at isFolder
          contradiction
        · rw [found] at shows isFolder
          simp only [none docs shows.symm] at isFolder
          contradiction
      · exact long short
    simp [loadDocs, absent]
  · simp [loadDocs, relative]

end Holds

/-- The chunks of the document that names lead to from the folder of documents in a checkout. -/
def loadBelow (files : FileSystem) (limits : Limits) (url : String) (checkout docsPath : Path)
    (names : List Name) : Except Error (List Chunk) :=
  loadFile files limits .markdown ((checkout.join docsPath).below names) url
    ((((checkout.join docsPath).below names).relativeTo? checkout).getD
      ((checkout.join docsPath).below names)).text

section Document

variable (relative : docsPath.isAbsolute = false) (plain : ∀ name ∈ names, IsPlain name)

include relative plain

theorem Holds.loadBelow_of_long (holds : Holds files checkout tree)
    (whole : 0 ∉ (docsPath.below names).bytes) (long : ¬ Fits (checkout.join docsPath) names) :
    loadBelow files limits url checkout docsPath names =
      .error (.io ((checkout.join docsPath).below names) .nameTooLong) := by
  have unread := holds.find_of_long (Path.isAbsolute_below plain relative) whole
    (by rwa [Fits, Path.below_join plain relative, Nat.not_le] at long)
  rw [← Path.below_join plain relative] at unread
  simp only [loadBelow, loadFile, FileSystem.readText, FileSystem.readBytes, unread]

/-- A path with the byte 0 leads nowhere from any checkout. -/
theorem mapError_loadBelow_of_zero (zero : 0 ∈ (docsPath.below names).bytes) :
    (loadBelow files limits url checkout docsPath names).mapError Error.kind = .error .io := by
  have contained : 0 ∈ ((checkout.join docsPath).below names).bytes := by
    rw [Path.below_join plain relative, Path.join_eq (Path.isAbsolute_below plain relative)]
    exact List.mem_append_right _ zero
  have unread : files.find true ((checkout.join docsPath).below names) = .error .nulByte := by
    simp [FileSystem.find, FileSystem.locate, contained]
  simp only [loadBelow, loadFile, FileSystem.readText, FileSystem.readBytes, unread]
  rfl

variable (inside : parentName ∉ docsPath.names) (reached : tree.at? docsPath.names = some docs)
  (listed : IsListed docs names)

include inside reached listed

/-- What a document gives is seen from the tree, where its path is not too long. -/
theorem Holds.mapError_loadBelow (holds : Holds files checkout tree)
    (fits : Fits (checkout.join docsPath) names) :
    (loadBelow files limits url checkout docsPath names).mapError Error.kind =
      loadInside tree limits url (docsPath.below names) := by
  rcases listed.isFile with ⟨bytes, isFile⟩
  have whole : tree.at? (docsPath.below names).names = some (.file bytes) := by
    rw [Path.names_below plain, FileTree.at?_append, reached]
    exact isFile
  have insideBelow : parentName ∉ (docsPath.below names).names := by
    rw [Path.names_below plain, List.mem_append, not_or]
    refine ⟨inside, ?_⟩
    intro member
    exact (plain _ member).down rfl
  have relativeBelow := Path.isAbsolute_below plain relative
  rw [Fits, Path.below_join plain relative] at fits
  -- No link is met on the way to the document, since the tree has a file there.
  have shows := holds.toOption_find relativeBelow
    (FileTree.noLinkOn_of_at? whole (by simp)) insideBelow fits true
  rcases holds.ends with ⟨name, ends⟩
  rw [loadBelow, Path.below_join plain relative, ends.relativeTo?_join relativeBelow,
    Option.getD_some, loadFile, FileSystem.readText, FileSystem.readBytes, loadInside, ← shows]
  rcases files.find true (checkout.join (docsPath.below names)) with fault | found
  · rfl
  · cases found with
    | file bytes =>
        simp only [Except.toOption]
        rcases Utf8.decode? bytes with _ | text
        · rfl
        · rfl
    | link _ | folder _ | repository _ => rfl

/-- A document gives the same from two checkouts, unless its path is too long from one of them. -/
theorem Holds.loadBelow_alike (holds : Holds files checkout tree)
    (holdsOther : Holds others other tree) :
    AlikeUnless (IsByLength tree url docsPath checkout other)
      (IsByLength tree url docsPath other checkout)
      (loadBelow files limits url checkout docsPath names)
      (loadBelow others limits url other docsPath names) := by
  by_cases zero : 0 ∈ (docsPath.below names).bytes
  · left
    rw [LoadAlike, mapError_loadBelow_of_zero relative plain zero,
      mapError_loadBelow_of_zero relative plain zero]
  · refine alikeUnless_of_fits ?_ ?_ (holds.loadBelow_of_long relative plain zero)
      (holdsOther.loadBelow_of_long relative plain zero) ?_ ?_
    · rfl
    · intro fits fitsOther
      left
      rw [LoadAlike, holds.mapError_loadBelow relative plain inside reached listed fits,
        holdsOther.mapError_loadBelow relative plain inside reached listed fitsOther]
    · exact fun long fits => ⟨docs, names, reached, long, fits, .document listed⟩
    · exact fun long fits => ⟨docs, names, reached, long, fits, .document listed⟩

end Document

/-- Files that are loaded alike one by one are loaded alike in a row. -/
theorem loadEach_alike {load loadOther : Path → Except Error (List Chunk)}
    {place placeOther : List Name → Path} {fails failsOther : Error → Prop}
    {listed : List (List Name)} (each : ∀ names ∈ listed,
      AlikeUnless fails failsOther (load (place names)) (loadOther (placeOther names))) :
    AlikeUnless fails failsOther (loadEach load (listed.map place))
      (loadEach loadOther (listed.map placeOther)) := by
  induction listed with
  | nil => exact .inl rfl
  | cons names later ih =>
      rw [List.forall_mem_cons] at each
      rw [List.map_cons, List.map_cons, loadEach_cons, loadEach_cons]
      rcases each.1 with same | ⟨error, failed, isSort⟩ | ⟨error, failed, isSort⟩
      · rcases loadAlike_iff.mp same with ⟨block, loads, loadsOther⟩ |
          ⟨error, errorOther, failed, failedOther, kinds⟩
        · rw [loads, loadsOther]
          -- With the same chunks in front, the rest decides.
          rcases ih each.2 with sameLater | ⟨error, failed, isSort⟩ | ⟨error, failed, isSort⟩
          · left
            rcases loadAlike_iff.mp sameLater with ⟨blocks, loads, loadsOther⟩ |
              ⟨error, errorOther, failed, failedOther, kinds⟩
            · rw [loads, loadsOther]
              rfl
            · rw [failed, failedOther]
              exact congrArg Except.error kinds.symm
          · rw [failed]
            exact .inr (.inl ⟨error, rfl, isSort⟩)
          · rw [failed]
            exact .inr (.inr ⟨error, rfl, isSort⟩)
        · left
          rw [failed, failedOther]
          exact congrArg Except.error kinds.symm
      · rw [failed]
        exact .inr (.inl ⟨error, rfl, isSort⟩)
      · rw [failed]
        exact .inr (.inr ⟨error, rfl, isSort⟩)

/-- A folder of documents that is found from two checkouts is loaded alike from them. -/
theorem Holds.loadDocs_alike (holds : Holds files checkout tree)
    (holdsOther : Holds others other tree) (proper : tree.IsProper)
    (relative : docsPath.isAbsolute = false) (inside : parentName ∉ docsPath.names)
    (reached : tree.at? docsPath.names = some docs) (opened : docs.isFolder = true)
    (found : files.find true (checkout.join docsPath) = .ok docs)
    (foundOther : others.find true (other.join docsPath) = .ok docs) :
    AlikeUnless (IsByLength tree url docsPath checkout other)
      (IsByLength tree url docsPath other checkout)
      (loadDocs files limits url checkout docsPath)
      (loadDocs others limits url other docsPath) := by
  have properDocs := proper.of_at? reached
  rw [loadDocs_of_find relative found opened, loadDocs_of_find relative foundOther opened,
    listMarkdown_of_find found opened, listMarkdown_of_find foundOther opened, listFolder,
    listFolder]
  rcases searchEnds_overlong? properDocs (checkout.join docsPath) with
    ⟨passed, fits⟩ | ⟨names, isFound, isFirst⟩
  · rcases searchEnds_overlong? properDocs (other.join docsPath) with
      ⟨passedOther, _⟩ | ⟨names, isFound, isFirst⟩
    · rw [passed, passedOther]
      -- The same documents are listed, by the names on the ways to them.
      rcases listsInOrder_markdownBelow properDocs docsPath with ⟨listed, paths_eq, _, mem_iff⟩
      have place (base : Path) : markdownBelow (base.join docsPath) docs =
          listed.map (base.join docsPath).below := by
        rw [markdownBelow_join properDocs relative, paths_eq, List.map_map]
        apply List.map_congr_left
        intro names member
        rcases ((mem_iff names).mp member).isFile with ⟨_, isFile⟩
        exact (Path.below_join (properDocs.isPlain_of_at? isFile) relative base).symm
      simp only [place]
      apply loadEach_alike
      intro names member
      have isListed := (mem_iff names).mp member
      rcases isListed.isFile with ⟨_, isFile⟩
      exact holds.loadBelow_alike relative (properDocs.isPlain_of_at? isFile) inside reached
        isListed holdsOther
    · rw [passed, isFound]
      right
      right
      exact ⟨_, rfl, docs, names, reached, isFirst.long, fits names isFirst.entered,
        .folder isFirst.entered⟩
  · rcases searchEnds_overlong? properDocs (other.join docsPath) with
      ⟨passedOther, fitsOther⟩ | ⟨namesOther, isFoundOther, _⟩
    · rw [isFound, passedOther]
      right
      left
      exact ⟨_, rfl, docs, names, reached, isFirst.long, fitsOther names isFirst.entered,
        .folder isFirst.entered⟩
    · rw [isFound, isFoundOther]
      exact .inl rfl

/--
Loading gives the same chunks, or fails for the same kind of reason, from every checkout that holds
a tree, wherever it is and however its path is spelt; or else it fails from one of them because a
path that it needs is too long from there, though it is not from the other.
-/
theorem loadDocs_relocated (cloneRoot otherRoot : Path) (plain : IsPlain name)
    (plainOther : IsPlain otherName) (proper : tree.IsProper)
    (noLink : tree.NoLinkOn docsPath.names) (inside : parentName ∉ docsPath.names)
    (copy : files.find true (cloneRoot.entry name) = .ok tree)
    (copyOther : others.find true (otherRoot.entry otherName) = .ok tree) (limits : Limits)
    (url : String) :
    let checkout := cloneRoot.entry name
    let other := otherRoot.entry otherName
    let first := loadDocs files limits url checkout docsPath
    let second := loadDocs others limits url other docsPath
    ((∃ chunks, first = .ok chunks ∧ second = .ok chunks) ∨
      ∃ error other, first = .error error ∧ second = .error other ∧ other.kind = error.kind) ∨
    (∃ error, first = .error error ∧ IsByLength tree url docsPath checkout other error) ∨
      ∃ error, second = .error error ∧ IsByLength tree url docsPath other checkout error := by
  intro checkout other first second
  rw [← loadAlike_iff]
  have holds : Holds files checkout tree := ⟨copy, name, Path.endsInName_entry plain cloneRoot⟩
  have holdsOther : Holds others other tree :=
    ⟨copyOther, otherName, Path.endsInName_entry plainOther otherRoot⟩
  have missing {base : Path} {system : FileSystem} (holds : Holds system base tree) :=
    @Holds.loadDocs_of_missing system tree base docsPath limits url holds noLink inside
  by_cases there : ∃ docs, tree.look? docsPath = some docs ∧ docs.isFolder = true
  · rcases there with ⟨docs, looked, opened⟩
    have reached := FileTree.at?_of_look? looked
    rcases relative : docsPath.isAbsolute with _ | _
    · have found {base : Path} {system : FileSystem} (holds : Holds system base tree)
          (fits : Fits (base.join docsPath) []) :
          system.find true (base.join docsPath) = .ok docs := by
        have shows := holds.toOption_find relative noLink inside fits true
        rw [looked] at shows
        rcases result : system.find true (base.join docsPath) with fault | tree
        · rw [result] at shows
          contradiction
        · rw [result] at shows
          exact congrArg Except.ok (Option.some.inj shows)
      refine alikeUnless_of_fits rfl ?_ (fun long => missing holds (.inr long))
        (fun long => missing holdsOther (.inr long)) ?_ ?_
      · intro fits fitsOther
        exact holds.loadDocs_alike holdsOther proper relative inside reached opened
          (found holds fits) (found holdsOther fitsOther)
      · exact fun long fits => ⟨docs, [], reached, long, fits, .docs opened⟩
      · exact fun long fits => ⟨docs, [], reached, long, fits, .docs opened⟩
    · left
      simp only [first, second, loadDocs, relative, Bool.true_or, if_true]
      rfl
  · have none : ∀ docs, tree.look? docsPath = some docs → docs.isFolder = false := by
      intro docs looked
      rw [← Bool.not_eq_true]
      exact fun opened => there ⟨docs, looked, opened⟩
    left
    simp only [first, second, missing holds (.inl none), missing holdsOther (.inl none)]
    rfl

/-- The name of a folder of documents. -/
def docsName : Name := Utf8.ofString "docs"

/-- The name of a document. -/
def documentName : Name := Utf8.ofString "a.md"

/-- A checkout with one document. -/
def oneDocument : FileTree :=
  .folder [(docsName, .folder [(documentName, .file (Utf8.ofString "A"))])]

/-- A working folder with a checkout in it. -/
def workingCheckout : FileSystem := ⟨.folder [(Utf8.ofString "c", oneDocument)], []⟩

/-- Another working folder with the same checkout further down. -/
def deeperCheckout : FileSystem :=
  ⟨.folder [(Utf8.ofString "tmp", .folder [(Utf8.ofString "d", oneDocument)])], []⟩

theorem isPlain_docsName : IsPlain docsName := ⟨by decide, by decide, by decide⟩

theorem isProper_oneDocument : oneDocument.IsProper := by
  have document : ∀ entry ∈ [(documentName, FileTree.file (Utf8.ofString "A"))],
      IsPlain entry.1 ∧ entry.2.IsProper := by
    rintro _ (_ | ⟨_, _ | _⟩)
    exact ⟨⟨by decide, by decide, by decide⟩, .file _⟩
  refine .folder (by decide) ?_ ?_
  · rintro _ (_ | ⟨_, _ | _⟩)
    exact isPlain_docsName
  · rintro _ (_ | ⟨_, _ | _⟩)
    exact .folder (by decide) (fun entry member => (document entry member).1)
      fun entry member => (document entry member).2

theorem at?_docsName : oneDocument.at? (⟨docsName⟩ : Path).names =
    some (.folder [(documentName, .file (Utf8.ofString "A"))]) := by
  rw [Path.names_of_isPlain isPlain_docsName]
  rfl

theorem noLinkOn_docsName : oneDocument.NoLinkOn (⟨docsName⟩ : Path).names :=
  FileTree.noLinkOn_of_at? at?_docsName (by simp)

theorem parentName_not_mem_names : parentName ∉ (⟨docsName⟩ : Path).names := by
  rw [Path.names_of_isPlain isPlain_docsName]
  decide

theorem length_join_le (relative : path.isAbsolute = false) (base : Path) :
    (base.join path).bytes.length ≤ base.bytes.length + 1 + path.bytes.length := by
  rw [Path.join_eq relative, Path.opening]
  split
  · rw [List.length_append]
    omega
  · rw [List.length_append, List.length_append, List.length_singleton]

theorem eq_of_isSome_at? {names : List Name} (there : ((FileTree.folder
      [(documentName, .file (Utf8.ofString "A"))]).at? names).isSome) :
    names = [] ∨ names = [documentName] := by
  rcases names with _ | ⟨name, later⟩
  · exact .inl rfl
  · rw [FileTree.at?, FileTree.child?, FileTree.entries, List.lookup_cons, List.lookup_nil] at there
    rcases same : name == documentName with _ | _
    · rw [same] at there
      contradiction
    · rw [same] at there
      rw [eq_of_beq same]
      rcases later with _ | ⟨next, later⟩
      · exact .inr rfl
      · contradiction

/-- The paths from a checkout to the folder of documents and to the document are not too long. -/
theorem fits_oneDocument (brief : checkout.bytes.length ≤ 4000)
    (there : ((FileTree.folder [(documentName, .file (Utf8.ofString "A"))]).at? names).isSome) :
    Fits (checkout.join ⟨docsName⟩) names := by
  have plain : IsPlain documentName := ⟨by decide, by decide, by decide⟩
  have lengthDocs := length_join_le (Path.isAbsolute_of_isPlain isPlain_docsName) checkout
  have lengthDocument := length_join_le (Path.isAbsolute_of_isPlain plain)
    (checkout.join ⟨docsName⟩)
  have docsLength : docsName.length = 4 := by decide
  have documentLength : documentName.length = 4 := by decide
  have limit : longestPath = 4095 := rfl
  simp only at lengthDocs lengthDocument
  rcases eq_of_isSome_at? there with rfl | rfl
  · change (checkout.join ⟨docsName⟩).bytes.length ≤ longestPath
    omega
  · change ((checkout.join ⟨docsName⟩).join ⟨documentName⟩).bytes.length ≤ longestPath
    omega

theorem not_isByLength_oneDocument {error : Error} (brief : checkout.bytes.length ≤ 4000) :
    ¬ IsByLength oneDocument url ⟨docsName⟩ checkout other error := by
  rintro ⟨docs, names, reached, long, -, tooLong⟩
  rw [at?_docsName, Option.some.injEq] at reached
  subst reached
  apply long
  apply fits_oneDocument brief
  cases tooLong with
  | docs opened => rfl
  | folder entered =>
      rcases entered with ⟨⟨inner, there, _⟩, _⟩
      rw [there]
      rfl
  | document listed =>
      rcases listed.isFile with ⟨_, there⟩
      rw [there]
      rfl

theorem loadDocs_workingCheckout :
    loadDocs workingCheckout ⟨1000, 200⟩ "u" ((⟨[]⟩ : Path).entry (Utf8.ofString "c"))
      ⟨docsName⟩ = .ok (Chunk.ofPieces "u" "docs/a.md" ["A"]) := by
  cbv

/-- A checkout with another path, with slashes and segments to spare, gives the same chunk. -/
theorem loadDocs_relocated_deeper :
    loadDocs deeperCheckout ⟨1000, 200⟩ "u"
      ((Path.ofString ".//tmp/../tmp/").entry (Utf8.ofString "d")) ⟨docsName⟩ =
        .ok (Chunk.ofPieces "u" "docs/a.md" ["A"]) := by
  have copy : workingCheckout.find true ((⟨[]⟩ : Path).entry (Utf8.ofString "c")) =
      .ok oneDocument := by cbv
  have copyOther : deeperCheckout.find true
      ((Path.ofString ".//tmp/../tmp/").entry (Utf8.ofString "d")) = .ok oneDocument := by cbv
  rcases loadDocs_relocated ⟨[]⟩ (Path.ofString ".//tmp/../tmp/")
      ⟨by decide, by decide, by decide⟩ ⟨by decide, by decide, by decide⟩ isProper_oneDocument
      noLinkOn_docsName parentName_not_mem_names copy copyOther ⟨1000, 200⟩ "u" with
    (⟨chunks, first, second⟩ | ⟨error, _, fails, _⟩) | ⟨error, fails, _⟩ | ⟨error, _, byLength⟩
  · rw [second, ← first]
    exact loadDocs_workingCheckout
  · rw [loadDocs_workingCheckout] at fails
    contradiction
  · rw [loadDocs_workingCheckout] at fails
    contradiction
  · exact absurd byLength (not_isByLength_oneDocument (by decide))

/-- A folder of documents is missed where its path is too long, though the checkout is found. -/
theorem loadDocs_fails_when_long :
    IsPlain (Utf8.ofString "c") ∧ IsPlain docsName ∧ oneDocument.IsProper ∧
      oneDocument.NoLinkOn (⟨docsName⟩ : Path).names ∧
      workingCheckout.find true ((⟨[]⟩ : Path).entry (Utf8.ofString "c")) = .ok oneDocument ∧
      workingCheckout.find true ((dotted 2046).entry (Utf8.ofString "c")) = .ok oneDocument ∧
      loadDocs workingCheckout ⟨1000, 200⟩ "u" ((⟨[]⟩ : Path).entry (Utf8.ofString "c"))
        ⟨docsName⟩ = .ok (Chunk.ofPieces "u" "docs/a.md" ["A"]) ∧
      loadDocs workingCheckout ⟨1000, 200⟩ "u" ((dotted 2046).entry (Utf8.ofString "c"))
        ⟨docsName⟩ = .error (.docsPathMissing "u" ⟨docsName⟩) := by
  have plain : IsPlain (Utf8.ofString "c") := ⟨by decide, by decide, by decide⟩
  have copy : workingCheckout.find true ((⟨[]⟩ : Path).entry (Utf8.ofString "c")) =
      .ok oneDocument := by cbv
  have copyDotted : workingCheckout.find true ((dotted 2046).entry (Utf8.ofString "c")) =
      .ok oneDocument := by
    rw [Path.entry, find_dotted ⟨_, rfl, rfl⟩ (Path.isAbsolute_of_isPlain plain) plain.ne_nil
      (by decide)]
    exact copy
  have relative := Path.isAbsolute_of_isPlain isPlain_docsName
  have long : longestPath <
      (((dotted 2046).entry (Utf8.ofString "c")).join ⟨docsName⟩).bytes.length := by
    rw [Path.join_eq relative, (Path.endsInName_entry plain _).opening_eq, Path.entry,
      Path.join_eq (Path.isAbsolute_of_isPlain plain), opening_dotted, List.length_append,
      List.length_append, List.length_append, length_dotted]
    decide
  have missing : workingCheckout.isFolder
      (((dotted 2046).entry (Utf8.ofString "c")).join ⟨docsName⟩) = false := by
    rw [← Bool.not_eq_true]
    intro isFolder
    rcases FileSystem.exists_locate_of_isFolder isFolder with ⟨_, _, located, _⟩
    exact absurd (FileSystem.locate_eq_ok_iff.mp located).1.2.2 (Nat.not_le.mpr long)
  refine ⟨plain, isPlain_docsName, isProper_oneDocument, noLinkOn_docsName, copy, copyDotted,
    loadDocs_workingCheckout, ?_⟩
  rw [loadDocs, missing, Bool.not_false, Bool.or_true, if_pos rfl]

end Documents

end DocIndex
