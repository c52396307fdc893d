import DocIndex.Proofs.Store.Operations

/-!
# Collections side by side

The action of an operation sees and changes the table of its collection alone. So operations on one
collection answer as they do without those on others in between, and it ends up the same; that they
share the folder, which the first of them makes, makes no difference.
-/

namespace DocIndex.Store

open DocIndex.Action DocIndex.Files Storage

variable {Component Memory Result Other : Type} {name other : String} {folder : Path}

/-- An action on a database that sees and changes the table with a name alone. -/
structure Local (name : String) (action : Action (Database Component) Result) : Prop where
  congr : ∀ (database twin : Database Component) (printed : List String),
    List.lookup name database = List.lookup name twin →
      (action.run.run ⟨database, printed⟩).1 = (action.run.run ⟨twin, printed⟩).1 ∧
      (action.run.run ⟨database, printed⟩).2.printed =
        (action.run.run ⟨twin, printed⟩).2.printed ∧
      List.lookup name (action.run.run ⟨database, printed⟩).2.world =
        List.lookup name (action.run.run ⟨twin, printed⟩).2.world
  others : ∀ (database : Database Component) (printed : List String),
    database.SameApart name (action.run.run ⟨database, printed⟩).2.world

/-- An action that changes nothing, and sees nothing but the table. -/
theorem Local.of_view {action : Action (Database Component) Result}
    (view : Database Component → List String → Except Error Result × List String)
    (run_eq : ∀ (database : Database Component) (printed : List String),
      action.run.run ⟨database, printed⟩ =
        ((view database printed).1, ⟨database, (view database printed).2⟩))
    (same : ∀ database twin : Database Component,
      List.lookup name database = List.lookup name twin → view database = view twin) :
    Local name action where
  congr database twin printed agree := by
    rw [run_eq, run_eq, same database twin agree]
    exact ⟨rfl, rfl, agree⟩
  others database printed key apart := by rw [run_eq]

theorem local_pure (value : Result) :
    Local name (pure value : Action (Database Component) Result) :=
  .of_view (fun _ printed => (.ok value, printed)) (fun _ _ => rfl) fun _ _ _ => rfl

theorem local_throw (error : Error) :
    Local name (throw error : Action (Database Component) Result) :=
  .of_view (fun _ printed => (.error error, printed)) (fun _ _ => rfl) fun _ _ _ => rfl

theorem local_print (line : String) : Local name (print line : Action (Database Component) Unit) :=
  .of_view (fun _ printed => (.ok (), printed ++ [line])) (fun _ _ => rfl) fun _ _ _ => rfl

theorem local_ofExcept (result : Except Error Result) :
    Local name (Action.ofExcept result : Action (Database Component) Result) :=
  .of_view (fun _ printed => (result, printed)) (fun _ _ => rfl) fun _ _ _ => rfl

theorem Local.bind {first : Action (Database Component) Result}
    {next : Result → Action (Database Component) Other} (begins : Local name first)
    (continues : ∀ value, Local name (next value)) : Local name (first >>= next) where
  congr database twin printed same := by
    rcases begins.congr database twin printed same with ⟨results, lines, tables⟩
    rw [run_bind, run_bind]
    generalize first.run.run ⟨database, printed⟩ = ran at results lines tables ⊢
    generalize first.run.run ⟨twin, printed⟩ = ranTwin at results lines tables ⊢
    rcases ran with ⟨result, after, printedAfter⟩
    rcases ranTwin with ⟨_, afterTwin, _⟩
    cases results
    cases lines
    rcases result with error | value
    · exact ⟨rfl, rfl, tables⟩
    · exact (continues value).congr after afterTwin printedAfter tables
  others database printed key apart := by
    have before := begins.others database printed key apart
    rw [run_bind]
    generalize first.run.run ⟨database, printed⟩ = ran at before ⊢
    rcases ran with ⟨error | value, after, printedAfter⟩
    · exact before
    · exact ((continues value).others after printedAfter key apart).trans before

theorem local_collectionExists (name : String) :
    Local name (collectionExists name : Action (Database Component) Bool) := by
  apply Local.of_view fun database printed => (.ok (database.hasTable name), printed)
  · exact fun _ _ => rfl
  · intro database twin agree
    rw [Database.hasTable, Database.hasTable, agree]

theorem tableAt_congr {database twin : Database Component}
    (agree : List.lookup name database = List.lookup name twin) :
    tableAt database name = tableAt twin name := by
  rw [tableAt, tableAt, agree]

theorem local_openTable (name : String) :
    Local name (openTable name : Action (Database Component) _) := by
  apply Local.of_view fun database printed => (tableAt database name, printed)
  · intro database printed
    rw [openTable, tableAt]
    rcases isTableName name with _ | _
    · rfl
    · simp only [Bool.not_true, Bool.false_eq_true, if_false]
      by_cases long : longestTableName < name.length
      · rw [if_pos long, if_pos long]
        rfl
      · rw [if_neg long, if_neg long]
        have looks : (Action.world : Action (Database Component) _).run.run ⟨database, printed⟩ =
            (.ok database, ⟨database, printed⟩) := rfl
        rw [run_bind, looks]
        simp only
        rcases List.lookup name database with _ | table
        · rfl
        · rfl
  · intro database twin agree
    rw [tableAt_congr agree]

/-- To put a table under the name in one step that depends on the table alone. -/
theorem local_change_assign (changed : Table Component) (result : Except Error Result) :
    Local name (Action.change fun database => (Database.assign database name changed, result)) where
  congr database twin printed agree := by
    refine ⟨rfl, rfl, ?_⟩
    exact (database.lookup_assign_self name changed).trans
      (twin.lookup_assign_self name changed).symm
  others database printed key apart := database.lookup_assign_of_ne changed apart

theorem local_inTable (name : String)
    (step : Table Component → Table Component × Except Error Result) :
    Local name (inTable name step) :=
  (local_openTable name).bind fun table => local_change_assign (step table).1 (step table).2

/-- An action that may fail before it goes on. -/
theorem Local.guarded {condition : Prop} [Decidable condition] {error : Error}
    {rest : Unit → Action (Database Component) Result} (goesOn : Local name (rest ())) :
    Local name (if condition then throw error >>= rest else rest ()) := by
  split
  · exact (local_throw error).bind fun _ => goesOn
  · exact goesOn

/-- To put a table under the name where there is none yet. -/
theorem local_add (name : String) (table : Table Component) :
    Local name (do
      let database ← Action.world
      if database.hasTable name then throw (.store (.tablePresent name))
      Action.setWorld (database.assign name table)) := by
  have run_eq (database : Database Component) (printed : List String) :
      (do
        let database ← Action.world
        if database.hasTable name then throw (.store (.tablePresent name))
        Action.setWorld (database.assign name table) :
          Action (Database Component) Unit).run.run ⟨database, printed⟩ =
        if database.hasTable name then (.error (.store (.tablePresent name)), ⟨database, printed⟩)
        else (.ok (), ⟨database.assign name table, printed⟩) := by
    have looks : (Action.world : Action (Database Component) _).run.run ⟨database, printed⟩ =
        (.ok database, ⟨database, printed⟩) := rfl
    rw [run_bind, looks]
    simp only
    split
    · rfl
    · rfl
  constructor
  · intro database twin printed agree
    have same : twin.hasTable name = database.hasTable name := by
      rw [Database.hasTable, Database.hasTable, agree]
    rw [run_eq, run_eq, same]
    split
    · exact ⟨rfl, rfl, agree⟩
    · exact ⟨rfl, rfl, (database.lookup_assign_self name table).trans
        (twin.lookup_assign_self name table).symm⟩
  · intro database printed key apart
    rw [run_eq]
    split
    · rfl
    · exact database.lookup_assign_of_ne table apart

theorem local_createTable (name : String) (table : Table Component) :
    Local name (createTable name table) := by
  unfold createTable
  refine Local.guarded ?_
  refine Local.guarded ?_
  refine Local.guarded ?_
  exact local_add name table

theorem local_createIfMissing (name : String) (width : Nat) :
    Local name (createIfMissing name width : Action (Database Component) Unit) := by
  refine (local_collectionExists name).bind fun present => ?_
  rcases present with _ | _
  · exact (local_ofExcept _).bind fun shape => (local_createTable name _).bind fun _ =>
      local_print _
  · exact (local_openTable name).bind fun table => .guarded (local_print _)

theorem local_load (name : String) (chunks : List Chunk) (vectors : List (List Component)) :
    Local name (load name chunks vectors) :=
  (local_createIfMissing name _).bind fun _ => (local_inTable name _).bind fun _ =>
    (local_inTable name _).bind fun _ => local_pure ()

theorem local_action (name : String) (request : Request Component) :
    Local name (request.action name) := by
  cases request with
  | isThere => exact (local_collectionExists name).bind fun _ => local_pure _
  | create width => exact (local_createIfMissing name width).bind fun _ => local_pure _
  | upsert chunks vectors => exact (local_inTable name _).bind fun _ => local_pure _
  | removeStale chunks => exact (local_inTable name _).bind fun _ => local_pure _
  | count => exact ((local_openTable name).bind fun _ => local_pure _).bind fun _ => local_pure _
  | rows => exact (local_openTable name).bind fun _ => local_pure _

section Seen

variable {storage twin between : Storage Component}

/-- What connecting to a folder shows of the collection with a name. -/
def Storage.seen (folder : Path) (name : String) (storage : Storage Component) :
    Except Error (Option (Table Component)) :=
  match Action.runOn (connect folder) storage with
  | (.ok place, session) => .ok (List.lookup name (session.world.database place))
  | (.error error, _) => .error error

theorem seen_of_connect {place : List Name}
    (connects : Yields (connect folder) storage (.ok place) between) (name : String) :
    storage.seen folder name = .ok (List.lookup name (between.database place)) := by
  rw [Storage.seen, Action.runOn, run_connect connects]

theorem seen_of_error {error : Error}
    (fails : Yields (connect folder) storage (.error error) between) (name : String) :
    storage.seen folder name = .error error := by
  rw [Storage.seen, Action.runOn, run_connect fails]

/-- What is seen of a collection after the database of its folder has been replaced. -/
theorem seen_setDatabase {place : List Name} (connected : storage.Connected folder place)
    (database : Database Component) (name : String) :
    (setDatabase place database storage).seen folder name = .ok (List.lookup name database) := by
  rw [seen_of_connect (connected.setDatabase database).yields_connect,
    database_setDatabase_self]

/-- An action on one collection comes to the same wherever the same is seen of the collection. -/
theorem Local.inDatabase_congr {action : Action (Database Component) Result}
    (within : Local name action) (same : storage.seen folder name = twin.seen folder name) :
    let ran := Action.runOn (inDatabase folder action) storage
    let ranTwin := Action.runOn (inDatabase folder action) twin
    ran.1 = ranTwin.1 ∧ ran.2.printed = ranTwin.2.printed ∧
      ran.2.world.seen folder name = ranTwin.2.world.seen folder name := by
  simp only [Action.runOn]
  rcases connect_cases storage folder with ⟨error, after, fails, refuses⟩ |
    ⟨place, after, connects, holds⟩
  · rcases connect_cases twin folder with ⟨twinError, afterTwin, failsTwin, refusesTwin⟩ |
      ⟨placeTwin, afterTwin, connectsTwin, -⟩
    · rw [seen_of_error fails, seen_of_error failsTwin] at same
      cases same
      rw [run_inDatabase_of_error fails, run_inDatabase_of_error failsTwin]
      exact ⟨rfl, rfl, (seen_of_error refuses.again name).trans
        (seen_of_error refusesTwin.again name).symm⟩
    · rw [seen_of_error fails, seen_of_connect connectsTwin] at same
      cases same
  · rcases connect_cases twin folder with ⟨twinError, afterTwin, failsTwin, -⟩ |
      ⟨placeTwin, afterTwin, connectsTwin, holdsTwin⟩
    · rw [seen_of_connect connects, seen_of_error failsTwin] at same
      cases same
    · rw [seen_of_connect connects, seen_of_connect connectsTwin] at same
      rcases within.congr (after.database place) (afterTwin.database placeTwin) []
        (Except.ok.inj same) with ⟨results, lines, tables⟩
      rw [run_inDatabase connects, run_inDatabase connectsTwin]
      refine ⟨results, lines, ?_⟩
      rw [seen_setDatabase holds.connected, seen_setDatabase holdsTwin.connected, tables]

/-- An action on one collection changes nothing of what is seen of the others. -/
theorem Local.inDatabase_others {action : Action (Database Component) Result}
    (within : Local name action) (apart : other ≠ name) :
    (Action.runOn (inDatabase folder action) storage).2.world.seen folder other =
      storage.seen folder other := by
  rw [Action.runOn]
  rcases connect_cases storage folder with ⟨error, after, fails, refuses⟩ |
    ⟨place, after, connects, holds⟩
  · rw [run_inDatabase_of_error fails, seen_of_error refuses.again, seen_of_error fails]
  · rw [run_inDatabase connects, seen_setDatabase holds.connected, seen_of_connect connects,
      within.others _ _ other apart]

theorem Operation.run_congr (operation : Operation Component Memory)
    (same : storage.seen folder name = twin.seen folder name) :
    (operation.run folder name storage).1 = (operation.run folder name twin).1 ∧
      (operation.run folder name storage).2.seen folder name =
        (operation.run folder name twin).2.seen folder name := by
  cases operation with
  | request asked =>
    rcases (local_action name asked).inDatabase_congr same with ⟨results, lines, tables⟩
    refine ⟨?_, tables⟩
    simp only [Operation.run, results, lines]
  | build call =>
    simp only [Operation.run, BuildCall.run_eq]
    split
    · exact ⟨rfl, same⟩
    · split
      · exact ⟨rfl, same⟩
      · next vectors memory embedded =>
        rcases (local_load name call.chunks vectors).inDatabase_congr same with
          ⟨results, lines, tables⟩
        rw [Action.runOn, Action.runOn] at results lines tables
        simp only [results, lines, tables]
        exact ⟨trivial, trivial⟩

theorem Operation.run_others (operation : Operation Component Memory) (apart : other ≠ name)
    (storage : Storage Component) :
    (operation.run folder name storage).2.seen folder other = storage.seen folder other := by
  cases operation with
  | request asked => exact (local_action name asked).inDatabase_others apart
  | build call =>
    simp only [Operation.run, BuildCall.run_eq]
    split
    · rfl
    · split
      · rfl
      · exact (local_load name call.chunks _).inDatabase_others apart

end Seen

/-- The answers to operations on collections in a folder, each with the name of its collection. -/
def runAll (folder : Path) (storage : Storage Component) :
    List (String × Operation Component Memory) →
      List (String × Answer Component Memory) × Storage Component
  | [] => ([], storage)
  | (name, operation) :: later =>
    let (answer, between) := operation.run folder name storage
    let (answers, after) := runAll folder between later
    ((name, answer) :: answers, after)

/-- The induction is on the operations; what is seen of the one collection stays the same. -/
theorem runAll_congr (steps : List (String × Operation Component Memory)) (name : String)
    {storage twin : Storage Component}
    (same : storage.seen folder name = twin.seen folder name) :
    (runAll folder storage steps).1.filter (·.1 == name) =
        (runAll folder twin (steps.filter (·.1 == name))).1 ∧
      (runAll folder storage steps).2.seen folder name =
        (runAll folder twin (steps.filter (·.1 == name))).2.seen folder name := by
  induction steps generalizing storage twin with
  | nil => exact ⟨rfl, same⟩
  | cons step later ih =>
    rcases step with ⟨other, operation⟩
    by_cases own : other = name
    · subst own
      rcases operation.run_congr same with ⟨answers, tables⟩
      rcases ih tables with ⟨laterAnswers, laterTables⟩
      rw [List.filter_cons_of_pos (by simp)]
      simp only [runAll]
      rw [List.filter_cons_of_pos (by simp), laterAnswers, answers]
      exact ⟨rfl, laterTables⟩
    · have kept : (operation.run folder other storage).2.seen folder name =
          twin.seen folder name := (operation.run_others (Ne.symm own) storage).trans same
      rw [List.filter_cons_of_neg (by simpa using own)]
      simp only [runAll]
      rw [List.filter_cons_of_neg (by simpa using own)]
      exact ih kept

/--
Operations on one collection, with any operations on others in between, answer as they do alone,
and what they leave of the collection is what they leave alone.
-/
theorem runAll_alone (folder : Path) (storage : Storage Component)
    (steps : List (String × Operation Component Memory)) (name : String) :
    (runAll folder storage steps).1.filter (·.1 == name) =
        (runAll folder storage (steps.filter (·.1 == name))).1 ∧
      (Action.runOn (inDatabase folder (openTable name)) (runAll folder storage steps).2).1 =
        (Action.runOn (inDatabase folder (openTable name))
          (runAll folder storage (steps.filter (·.1 == name))).2).1 := by
  rcases runAll_congr steps name (rfl : storage.seen folder name = storage.seen folder name) with
    ⟨answers, tables⟩
  exact ⟨answers, ((local_openTable name).inDatabase_congr tables).1⟩

end DocIndex.Store
