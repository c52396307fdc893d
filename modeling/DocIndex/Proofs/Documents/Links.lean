import Mathlib
import DocIndex.Documents.Load
import DocIndex.Proofs.Documents.Listing
import DocIndex.Proofs.Documents.Whole
import DocIndex.Proofs.Files.Below
import DocIndex.Proofs.Positions

/-!
# Links in a checkout

Below the folder from which documents are listed no link is followed: every chunk comes from a file
that is reached from there through folders. The path of that folder itself is looked up like any
other, links included, so it stays in the checkout only if no link stands on it.
-/

namespace DocIndex

namespace Files.FileSystem

variable {files : FileSystem} {base path : Path} {tree found : FileTree} {follow : Bool}

theorem orHere_join_of_find (reached : files.find follow (base.join path) = .ok found)
    (relative : path.isAbsolute = false) : ∃ tree, files.find true base.orHere = .ok tree := by
  rcases exists_place_of_find reached with ⟨final, located, _⟩
  rcases exists_base_of_locate_join located relative with ⟨place, left, locatedBase, leads⟩
  rcases List.exists_cons_of_ne_nil (segmentsOf_ne_nil path.bytes) with ⟨first, later, whole⟩
  rw [whole] at leads
  rcases leads.exists_folder with ⟨tree, there, _⟩
  refine ⟨tree, ?_⟩
  rw [find, locatedBase]
  simp only [there]

/-- Along a path without links and without `..` a tree has what the path names below its folder. -/
theorem at?_of_find_join (copy : files.find true base.orHere = .ok tree)
    (reached : files.find follow (base.join path) = .ok found)
    (relative : path.isAbsolute = false) (noLink : tree.NoLinkOn path.names)
    (inside : parentName ∉ path.names) : tree.at? path.names = some found := by
  rcases exists_place_of_find copy with ⟨place, located, there⟩
  rcases exists_place_of_find reached with ⟨final, locatedFinal, thereFinal⟩
  rcases (locate_eq_ok_iff.mp locatedFinal).1 with ⟨zero, some_bytes, short⟩
  rcases exists_locate_join located relative some_bytes with ⟨left, locate_eq⟩
  rw [locate_eq files (.refl files), if_neg (by simpa using zero),
    if_neg (Nat.not_lt.mpr short)] at locatedFinal
  have insideAll := Path.not_mem_segmentsOf_of_names inside
  have walked := walk_inside there noLink insideAll follow left
  rw [locatedFinal, Except.toOption, Option.bind_some, thereFinal] at walked
  exact FileTree.at?_of_descend? walked.symm

/-- A file that a folder has along names of entries is what the path along them names. -/
theorem eq_file_of_find_below (copy : files.find true base = .ok tree) {names : List Name}
    (plain : ∀ name ∈ names, IsPlain name) {bytes : List UInt8}
    (there : tree.at? names = some (.file bytes))
    (reached : files.find true (base.below names) = .ok found) : found = .file bytes := by
  by_cases some_names : names = []
  · rw [some_names, FileTree.at?, Option.some.injEq] at there
    rw [some_names] at reached
    exact (Except.ok.inj (copy.symm.trans reached)).symm.trans there
  · rcases exists_place_of_find copy with ⟨place, located, _⟩
    rw [← Path.orHere_of_ne_nil (locate_eq_ok_iff.mp located).1.2.1] at copy
    rcases Path.exists_join_eq_below plain some_names base with ⟨path, relative, rfl, below_eq⟩
    rw [below_eq] at reached
    have noLink := FileTree.noLinkOn_of_at? there (by simp)
    have inside : parentName ∉ path.names := fun member => (plain _ member).down rfl
    have again := at?_of_find_join copy reached relative noLink inside
    exact Option.some.inj (again.symm.trans there)

end Files.FileSystem

namespace Documents

open DocIndex.Files DocIndex.Split DocIndex.Text

variable {files : FileSystem} {limits : Limits} {url : String} {checkout docsPath : Path}
  {chunks : List Chunk}

/-- A chunk is one of those that the contents of a file in a checkout are cut into. -/
def IsChunkOf (limits : Limits) (url : String) (checkout file : Path) (bytes : List UInt8)
    (chunk : Chunk) : Prop :=
  ∃ text pieces, Utf8.decode? bytes = some text ∧
    TextKind.markdown.pieces limits text = .ok pieces ∧
      chunk ∈ Chunk.ofPieces url ((file.relativeTo? checkout).getD file).text pieces

theorem exists_of_loadFile {kind : TextKind} {file : Path} {path : String}
    (loaded : loadFile files limits kind file url path = .ok chunks) :
    ∃ bytes text pieces, files.find true file = .ok (.file bytes) ∧
      Utf8.decode? bytes = some text ∧ kind.pieces limits text = .ok pieces ∧
        chunks = Chunk.ofPieces url path pieces := by
  rw [loadFile, FileSystem.readText, FileSystem.readBytes] at loaded
  rcases found : files.find true file with fault | tree
  · rw [found] at loaded
    contradiction
  · rw [found] at loaded
    cases tree with
    | file bytes =>
        rcases decoded : Utf8.decode? bytes with _ | text
        · simp [decoded] at loaded
        · rcases cut : kind.pieces limits text with error | pieces
          · simp [decoded, cut, Except.map] at loaded
          · simp only [decoded, cut, Except.map, Except.ok.injEq] at loaded
            exact ⟨bytes, text, pieces, rfl, decoded, cut, loaded.symm⟩
    | link _ => contradiction
    | folder _ => contradiction
    | repository _ => contradiction

/-- Where all files can be loaded, the chunks are those of the files, one file after the other. -/
theorem exists_groups_of_loadEach {load : Path → Except Error (List Chunk)} {paths : List Path}
    (loaded : loadEach load paths = .ok chunks) :
    ∃ groups, chunks = groups.flatten ∧
      List.Forall₂ (fun path group => load path = .ok group) paths groups := by
  induction paths generalizing chunks with
  | nil =>
      cases loaded
      exact ⟨[], rfl, .nil⟩
  | cons path later ih =>
      rw [loadEach, List.mapM_cons] at loaded
      rcases first : load path with error | each
      · rw [first] at loaded
        contradiction
      · rw [first] at loaded
        rcases rest : later.mapM load with error | others
        · rw [rest] at loaded
          contradiction
        · rw [rest] at loaded
          cases loaded
          have loadedLater : loadEach load later = .ok others.flatten := by
            rw [loadEach, rest]
            rfl
          rcases ih loadedLater with ⟨groups, same, all⟩
          refine ⟨each :: groups, ?_, .cons first all⟩
          rw [List.flatten_cons, List.flatten_cons, same]

theorem exists_mem_of_loadEach {load : Path → Except Error (List Chunk)} {paths : List Path}
    (loaded : loadEach load paths = .ok chunks) {chunk : Chunk} (member : chunk ∈ chunks) :
    ∃ path ∈ paths, ∃ each, load path = .ok each ∧ chunk ∈ each := by
  rcases exists_groups_of_loadEach loaded with ⟨groups, rfl, all⟩
  rcases List.mem_flatten.mp member with ⟨each, inGroups, inEach⟩
  rcases exists_of_forall₂_of_mem all inGroups with ⟨path, inPaths, loads⟩
  exact ⟨path, inPaths, each, loads, inEach⟩

/-- Of a folder the files below it are listed, be it reached through a link or not. -/
theorem listMarkdown_of_find {root : Path} {docs : FileTree}
    (found : files.find true root = .ok docs) (opened : docs.isFolder = true) :
    listMarkdown files root = listFolder root docs := by
  rcases FileSystem.exists_place_of_find found with ⟨place, located, _⟩
  rcases FileSystem.exists_find_false located with ⟨tree, foundTree⟩
  rw [listMarkdown, foundTree]
  cases tree with
  | link target => simp only [found]
  | file bytes =>
      have same := FileSystem.find_true_of_find_false foundTree (by simp)
      rw [found, Except.ok.injEq] at same
      rw [same] at opened
      contradiction
  | folder entries =>
      have same := FileSystem.find_true_of_find_false foundTree (by simp)
      rw [found, Except.ok.injEq] at same
      rw [same]
  | repository commit =>
      have same := FileSystem.find_true_of_find_false foundTree (by simp)
      rw [found, Except.ok.injEq] at same
      rw [same]

theorem eq_markdownBelow_of_listFolder {root : Path} {docs : FileTree} {paths : List Path}
    (listed : listFolder root docs = .ok paths) : paths = markdownBelow root docs := by
  rw [listFolder] at listed
  split at listed
  · contradiction
  · exact (Except.ok.inj listed).symm

theorem exists_of_loadDocs (loaded : loadDocs files limits url checkout docsPath = .ok chunks) :
    docsPath.isAbsolute = false ∧ ∃ docs,
      files.find true (checkout.join docsPath) = .ok docs ∧ docs.isFolder = true ∧
        loadEach (fun path => loadFile files limits .markdown path url
          ((path.relativeTo? checkout).getD path).text)
          (markdownBelow (checkout.join docsPath) docs) = .ok chunks := by
  rw [loadDocs] at loaded
  rcases relative : docsPath.isAbsolute with _ | _
  · rcases found : files.find true (checkout.join docsPath) with fault | docs
    · simp [relative, FileSystem.isFolder, found] at loaded
    · rcases opened : docs.isFolder with _ | _
      · simp [relative, FileSystem.isFolder, found, opened] at loaded
      · refine ⟨rfl, docs, rfl, opened, ?_⟩
        rw [relative, FileSystem.isFolder, found, listMarkdown_of_find found opened] at loaded
        simp only [opened, Bool.not_true, Bool.or_false, Bool.false_eq_true, if_false] at loaded
        rcases listed : listFolder (checkout.join docsPath) docs with error | paths
        · rw [listed] at loaded
          contradiction
        · rw [listed] at loaded
          rw [← eq_markdownBelow_of_listFolder listed]
          exact loaded
  · simp [relative] at loaded

/--
Every chunk that is loaded comes from a file that is reached from the folder of documents through
folders alone; and the files are reached from the checkout so exactly when no link stands on the
path of that folder, or no chunks are loaded at all.
-/
theorem chunks_from_files (proper : files.root.IsProper)
    (loaded : loadDocs files limits url checkout docsPath = .ok chunks) :
    ∃ tree docs, files.find true checkout.orHere = .ok tree ∧
      files.find true (checkout.join docsPath) = .ok docs ∧
      (∀ chunk ∈ chunks, ∃ names bytes, docs.at? names = some (.file bytes) ∧
        IsChunkOf limits url checkout ((checkout.join docsPath).below names) bytes chunk) ∧
      (parentName ∉ docsPath.names →
        ((∀ chunk ∈ chunks, ∃ names bytes,
          tree.at? (docsPath.names ++ names) = some (.file bytes) ∧
          IsChunkOf limits url checkout ((checkout.join docsPath).below names) bytes chunk) ↔
        chunks = [] ∨ tree.NoLinkOn docsPath.names)) := by
  rcases exists_of_loadDocs loaded with ⟨relative, docs, found, opened, loadedEach⟩
  rcases FileSystem.orHere_join_of_find found relative with ⟨tree, copy⟩
  have properDocs : docs.IsProper := by
    rcases FileSystem.exists_place_of_find found with ⟨place, _, there⟩
    exact proper.of_at? there
  have fromFiles : ∀ chunk ∈ chunks, ∃ names bytes, docs.at? names = some (.file bytes) ∧
      IsChunkOf limits url checkout ((checkout.join docsPath).below names) bytes chunk := by
    intro chunk member
    rcases exists_mem_of_loadEach loadedEach member with ⟨path, listed, each, loads, inEach⟩
    rcases exists_of_mem_markdownBelow properDocs listed with ⟨names, bytes, plain, rfl, there⟩
    rcases exists_of_loadFile loads with ⟨others, text, pieces, read, decoded, cut, rfl⟩
    cases FileSystem.eq_file_of_find_below found plain there read
    exact ⟨names, bytes, there, text, pieces, decoded, cut, inEach⟩
  refine ⟨tree, docs, copy, found, fromFiles, ?_⟩
  intro inside
  constructor
  · intro fromCheckout
    rcases chunks with _ | ⟨chunk, later⟩
    · exact .inl rfl
    · right
      rcases fromCheckout chunk List.mem_cons_self with ⟨names, bytes, there, _⟩
      intro before target isPrefix
      exact FileTree.noLinkOn_of_at? there (by simp) before target
        (isPrefix.trans (List.prefix_append _ _))
  · rintro (rfl | noLink)
    · exact fun chunk member => absurd member List.not_mem_nil
    · intro chunk member
      rcases fromFiles chunk member with ⟨names, bytes, there, isChunk⟩
      refine ⟨names, bytes, ?_, isChunk⟩
      rw [FileTree.at?_append,
        FileSystem.at?_of_find_join copy found relative noLink inside]
      exact there

/-- The document that a link leads to. -/
def linkedDocument : Name × FileTree := (Utf8.ofString "a.md", .file (Utf8.ofString "A"))

/-- A folder of documents in which links lead to a document and to a folder around. -/
def linkedFolder : FileTree :=
  .folder [(Utf8.ofString "l.md", .link (.ofString "a.md")), linkedDocument,
    (Utf8.ofString "up", .link (.ofString ".."))]

/-- A checkout with the given entry, and a document beside it. -/
def checkoutOf (entry : Name × FileTree) : FileSystem :=
  ⟨.folder [(Utf8.ofString "c", .folder [entry]),
    (Utf8.ofString "outside", .folder [linkedDocument])], []⟩

theorem isProper_checkoutOf {name : Name} {tree : FileTree} (plain : IsPlain name)
    (proper : tree.IsProper) : (checkoutOf (name, tree)).root.IsProper := by
  have document : (FileTree.folder [linkedDocument]).IsProper :=
    .cons (.file _) (by decide) (by decide) FileTree.isProper_emptyFolder
  have checkout : (FileTree.folder [(name, tree)]).IsProper :=
    .cons proper plain List.not_mem_nil FileTree.isProper_emptyFolder
  exact .cons checkout (by decide) (by decide)
    (.cons document (by decide) (by decide) FileTree.isProper_emptyFolder)

theorem isProper_linkedFolder : linkedFolder.IsProper :=
  .cons (.link _) (by decide) (by decide) <|
    .cons (.file _) (by decide) (by decide) <|
      .cons (.link _) (by decide) (by decide) FileTree.isProper_emptyFolder

theorem pieces_of_letter : TextKind.markdown.pieces ⟨1000, 200⟩ ['A'] = .ok ["A"] :=
  TextKind.pieces_of_strip_fits .markdown (by decide) (by decide) (by decide)

/-- The document is loaded once, from where it is; the links beside it are passed over. -/
theorem chunks_from_files_beside_links :
    loadDocs (checkoutOf (Utf8.ofString "docs", linkedFolder)) ⟨1000, 200⟩ "u" (.ofString "c")
        (.ofString "docs") = .ok (Chunk.ofPieces "u" "docs/a.md" ["A"]) ∧
      ∀ chunk ∈ Chunk.ofPieces "u" "docs/a.md" ["A"], ∃ names bytes,
        linkedFolder.at? names = some (.file bytes) ∧
          IsChunkOf ⟨1000, 200⟩ "u" (.ofString "c")
            (((Path.ofString "c").join (.ofString "docs")).below names) bytes chunk := by
  have loaded : loadDocs (checkoutOf (Utf8.ofString "docs", linkedFolder)) ⟨1000, 200⟩ "u"
      (.ofString "c") (.ofString "docs") = .ok (Chunk.ofPieces "u" "docs/a.md" ["A"]) := by
    have listed : listMarkdown (checkoutOf (Utf8.ofString "docs", linkedFolder))
        ((Path.ofString "c").join (.ofString "docs")) = .ok [.ofString "c/docs/a.md"] := by cbv
    have read : (checkoutOf (Utf8.ofString "docs", linkedFolder)).readText
        (.ofString "c/docs/a.md") = .ok ['A'] := by cbv
    exact loadDocs_of_single rfl (by cbv) listed (by cbv) read pieces_of_letter
  have found : (checkoutOf (Utf8.ofString "docs", linkedFolder)).find true
      ((Path.ofString "c").join (.ofString "docs")) = .ok linkedFolder := by
    cbv
  have named : IsPlain (Utf8.ofString "docs") := by decide
  rcases chunks_from_files (isProper_checkoutOf named isProper_linkedFolder) loaded with
    ⟨_, docs, _, foundDocs, fromFiles, _⟩
  cases found.symm.trans foundDocs
  exact ⟨loaded, fromFiles⟩

theorem at?_link_ne_file (target : Path) (names : List Name) (bytes : List UInt8) :
    (FileTree.link target).at? names ≠ some (.file bytes) := by
  rcases names with _ | ⟨name, later⟩
  · simp [FileTree.at?]
  · simp [FileTree.at?, FileTree.child?, FileTree.entries]

/-- A checkout without any file gives a chunk when a link stands for the folder of documents. -/
theorem chunk_through_link :
    let files := checkoutOf (Utf8.ofString "docs", .link (.ofString "../outside"))
    ∃ tree, files.root.IsProper ∧ files.find true (.ofString "c") = .ok tree ∧
      IsPlain (Utf8.ofString "docs") ∧ (∀ names bytes, tree.at? names ≠ some (.file bytes)) ∧
      loadDocs files ⟨1000, 200⟩ "u" (.ofString "c") ⟨Utf8.ofString "docs"⟩ =
        .ok (Chunk.ofPieces "u" "docs/a.md" ["A"]) := by
  intro files
  have named : IsPlain (Utf8.ofString "docs") := by decide
  have listed : listMarkdown files ((Path.ofString "c").join ⟨Utf8.ofString "docs"⟩) =
      .ok [.ofString "c/docs/a.md"] := by cbv
  have read : files.readText (.ofString "c/docs/a.md") = .ok ['A'] := by cbv
  refine ⟨.folder [(Utf8.ofString "docs", .link (.ofString "../outside"))],
    isProper_checkoutOf named (.link _), by cbv, named, ?_,
    loadDocs_of_single rfl (by cbv) listed (by cbv) read pieces_of_letter⟩
  intro names bytes
  rcases names with _ | ⟨name, later⟩
  · simp [FileTree.at?]
  · rw [FileTree.at?, FileTree.child?, FileTree.entries, List.lookup_cons]
    rcases name == Utf8.ofString "docs" with _ | _
    · simp
    · exact at?_link_ne_file _ later bytes

end Documents

end DocIndex
