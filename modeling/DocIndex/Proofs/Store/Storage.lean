import DocIndex.Proofs.Files.Repeated
import DocIndex.Proofs.Files.Setting
import DocIndex.Proofs.Store.Collection
import DocIndex.Store.Storage

/-!
# Connecting to databases

What is seen of a collection is what is found when one connects to its folder and opens it. To
connect either ends with a folder that has the database from then on, or fails now and later alike.
-/

namespace DocIndex.Store.Storage

open DocIndex.Action DocIndex.Files

variable {Component Result : Type} {storage after : Storage Component} {folder : Path}
  {place : List Name} {name : String}

/-- The rows that are found when the collection with a name in a folder is opened. -/
def rowsAt (storage : Storage Component) (folder : Path) (name : String) : List (Row Component) :=
  match (Action.runOn (inDatabase folder (openTable name)) storage).1 with
  | .ok table => table.rows
  | .error _ => []

/-- What is kept true of all collections. -/
def Kept (storage : Storage Component) : Prop :=
  ∀ (place : List Name) (name : String), (storage.database place).KeptAt name

/-- A folder that is there, at a place, and is no remote address. -/
structure Connected (folder : Path) (place : List Name) (storage : Storage Component) : Prop where
  isLocal : isRemote folder = false
  located : storage.files.locate true folder = .ok place
  isFolder : storage.files.isFolder folder = true

theorem database_setDatabase (place other : List Name) (database : Database Component)
    (storage : Storage Component) :
    (setDatabase place database storage).database other =
      if other == place then database else storage.database other := by
  rw [Storage.database, setDatabase, List.lookup_cons, lookup_filter_ne]
  cases other == place <;> rfl

@[simp]
theorem database_setDatabase_self (place : List Name) (database : Database Component)
    (storage : Storage Component) :
    (setDatabase place database storage).database place = database := by
  rw [database_setDatabase, beq_self_eq_true, if_pos rfl]

theorem Connected.setDatabase (connected : storage.Connected folder place)
    (database : Database Component) : (setDatabase place database storage).Connected folder place :=
  ⟨connected.isLocal, connected.located, connected.isFolder⟩

/-- Connecting where the folder is there changes nothing. -/
theorem Connected.yields_connect (connected : storage.Connected folder place) :
    Yields (connect folder) storage (.ok place) storage := by
  have made := FileSystem.makeFolders_of_isFolder connected.isFolder
  rcases FileSystem.exists_locate_of_isFolder connected.isFolder with
    ⟨other, tree, located, there, _⟩
  cases located.symm.trans connected.located
  apply Yields.bind (yields_world storage)
  simp only [made]
  apply Yields.bind (yields_setWorld storage _)
  simp only [connected.isLocal, connected.located, there]
  exact yields_pure _ _

theorem Connected.yields_inDatabase (connected : storage.Connected folder place)
    {action : Action (Database Component) Result} {result : Except Error Result}
    {database : Database Component}
    (yields : Yields action (storage.database place) result database) :
    Yields (inDatabase folder action) storage result
      (Storage.setDatabase place database storage) := by
  apply Yields.bind connected.yields_connect
  apply Yields.onPart
  exact yields

theorem Connected.rowsAt_eq (connected : storage.Connected folder place) (name : String) :
    storage.rowsAt folder name = (storage.database place).rowsOf name := by
  rw [rowsAt, (connected.yields_inDatabase (yields_openTable rfl)).runOn_fst]
  rfl

/-- A folder with a database that holds rows in the table with a name. -/
def Shows (folder : Path) (name : String) (rows : List (Row Component))
    (storage : Storage Component) : Prop :=
  ∃ place table, storage.Connected folder place ∧
    tableAt (storage.database place) name = .ok table ∧ table.rows = rows

theorem Shows.rowsAt_eq {rows : List (Row Component)} (shows : storage.Shows folder name rows) :
    storage.rowsAt folder name = rows := by
  rcases shows with ⟨place, table, connected, opened, rows_eq⟩
  rw [connected.rowsAt_eq, Database.rowsOf_eq opened, rows_eq]

theorem rowsAt_of_error {error : Error}
    (fails : Yields (connect folder) storage (.error error) after) (name : String) :
    storage.rowsAt folder name = [] := by
  have failed : Yields (inDatabase folder (openTable name)) storage (.error error) after :=
    Yields.bind_error _ fails
  rw [rowsAt, failed.runOn_fst]

/-- A folder that is connected to; where nothing has been before, its database has no tables. -/
structure Connects (folder : Path) (place : List Name) (storage after : Storage Component) :
    Prop where
  connected : after.Connected folder place
  extended : storage.files.Extends after.files
  database_eq : ∀ other, after.database other =
    if other = place ∧ storage.files.root.at? place = none then [] else storage.database other

theorem Connects.others (connects : Connects folder place storage after) (other : List Name) :
    after.database other = storage.database other ∨ after.database other = [] := by
  rw [connects.database_eq]
  split
  · exact .inr rfl
  · exact .inl rfl

/-- A folder that cannot be connected to, for the same reason whenever it is tried. -/
structure Refuses (folder : Path) (error : Error) (storage after : Storage Component) : Prop where
  again : Yields (connect folder) after (.error error) after
  extended : storage.files.Extends after.files
  databases_eq : after.databases = storage.databases

/-- What connecting comes to where the folder has been made. -/
theorem connect_of_makeFolders {files : FileSystem}
    (made : storage.files.makeFolders folder = .ok files) :
    (∃ error, Yields (connect folder) storage (.error error) { storage with files } ∧
      ∀ other : Storage Component, other.files.makeFolders folder = .ok files →
        Yields (connect folder) other (.error error) { other with files }) ∨
    ∃ place, files.locate true folder = .ok place ∧ isRemote folder = false ∧
      Yields (connect folder) storage (.ok place)
        (if (storage.files.root.at? place).isNone then setDatabase place [] { storage with files }
          else { storage with files }) := by
  by_cases remote : isRemote folder = true
  · have fails (other : Storage Component) (made : other.files.makeFolders folder = .ok files) :
        Yields (connect folder) other (.error (.store .remoteAddress)) { other with files } := by
      apply Yields.bind (yields_world other)
      simp only [made]
      apply Yields.bind (yields_setWorld other _)
      simp only [remote, if_true]
      exact Yields.bind_error _ (yields_throw _ _)
    exact .inl ⟨_, fails storage made, fails⟩
  · rcases located : files.locate true folder with fault | place
    · have fails (other : Storage Component) (made : other.files.makeFolders folder = .ok files) :
          Yields (connect folder) other (.error (.io folder fault)) { other with files } := by
        apply Yields.bind (yields_world other)
        simp only [made]
        apply Yields.bind (yields_setWorld other _)
        simp only [remote, located]
        exact yields_throw _ _
      exact .inl ⟨_, fails storage made, fails⟩
    · right
      refine ⟨place, rfl, by simpa using remote, Yields.bind (yields_world storage) ?_⟩
      simp only [made]
      apply Yields.bind (yields_setWorld storage _)
      simp only [remote, located]
      rcases there : storage.files.root.at? place with _ | tree
      · exact Yields.bind (yields_setWorld _ _) (yields_pure _ _)
      · exact yields_pure _ _

theorem connect_cases (storage : Storage Component) (folder : Path) :
    (∃ error after, Yields (connect folder) storage (.error error) after ∧
      Refuses folder error storage after) ∨
    ∃ place after, Yields (connect folder) storage (.ok place) after ∧
      Connects folder place storage after := by
  rcases made : storage.files.makeFolders folder with fault | files
  · left
    have fails : Yields (connect folder) storage (.error (.io folder fault)) storage := by
      apply Yields.bind (yields_world storage)
      simp only [made]
      exact yields_throw storage _
    exact ⟨_, storage, fails, fails, .refl storage.files, rfl⟩
  · have extended := FileSystem.extends_of_makeFolders made
    have again := FileSystem.makeFolders_again made
    rcases connect_of_makeFolders made with ⟨error, fails, always⟩ | ⟨place, located, isLocal, ran⟩
    · exact .inl ⟨error, _, fails, always { storage with files } again, extended, rfl⟩
    · right
      have connected : Connected folder place { storage with files } :=
        ⟨isLocal, located, FileSystem.isFolder_of_makeFolders made located⟩
      refine ⟨place, _, ran, ?_⟩
      rcases there : storage.files.root.at? place with _ | tree
      · refine ⟨connected.setDatabase [], extended, fun other => ?_⟩
        rw [Option.isNone_none, if_pos rfl, database_setDatabase]
        simp [there, database]
      · refine ⟨connected, extended, fun other => ?_⟩
        have kept : ¬ (other = place ∧ storage.files.root.at? place = none) := by simp [there]
        rw [if_neg kept]
        rfl

theorem rowsAt_of_connect (ran : Yields (connect folder) storage (.ok place) after)
    (name : String) :
    storage.rowsAt folder name = (after.database place).rowsOf name := by
  have opened : Yields (inDatabase folder (openTable name)) storage
      (tableAt (after.database place) name) (setDatabase place (after.database place) after) := by
    apply Yields.bind ran
    apply Yields.onPart
    exact yields_openTable rfl
  rw [rowsAt, opened.runOn_fst]
  rfl

/-- A folder that is connected to shows the rows at its place, or none where it had to be made. -/
theorem rowsAt_of_place (ran : Yields (connect folder) storage (.ok place) after) (name : String) :
    storage.rowsAt folder name =
      if storage.files.root.at? place = none then []
      else (storage.database place).rowsOf name := by
  rcases connect_cases storage folder with ⟨error, other, fails, _⟩ | ⟨_, _, ranAlso, connects⟩
  · rcases ran.unique fails with ⟨_, _⟩
    contradiction
  · rcases ran.unique ranAlso with ⟨same, rfl⟩
    cases same
    rw [rowsAt_of_connect ran, connects.database_eq]
    simp only [true_and]
    split
    · exact Database.rowsOf_nil name
    · rfl

end DocIndex.Store.Storage
