import Mathlib
import DocIndex.Indexing.Calls
import DocIndex.Proofs.Action

/-!
# The protocol of a run

A run calls its collaborators in a fixed order and breaks off at the first that fails. To see what
they answer they are heard as well as recorded: the replies are noted beside the calls, which makes
no difference to the run. Calls and replies together make exchanges, and the exchanges of a run
follow the protocol up to a reply that fails.
-/

namespace DocIndex.Indexing

open DocIndex.Action DocIndex.Files DocIndex.Split

variable {World View Model Result Other : Type}

/-- What a collaborator answers to a call. -/
inductive Reply
  | loaded (chunks : List Chunk)
  | found
  | built
  | counted (rows : Option Nat)
  | failed (error : Error)

/-- Whether a reply gives what a call asks for. -/
def Reply.answers : Reply → Call → Bool
  | .loaded _, .loadSource _ _ | .loaded _, .loadFiles _ _ => true
  | .found, .findModel _ => true
  | .built, .build _ _ _ => true
  | .counted _, .count => true
  | _, _ => false

/-- The reply to a call that comes to the given result. -/
def Reply.of (reply : Result → Reply) : Except Error Result → Reply
  | .ok value => reply value
  | .error error => .failed error

/-- What the loads among replies have given. -/
def loadedOf (replies : List Reply) : List (List Chunk) :=
  replies.filterMap fun
    | .loaded chunks => some chunks
    | _ => none

/-- Whether a call comes before anything is stored: a load, or the search for a model. -/
def Call.prepares : Call → Bool
  | .loadSource _ _ | .loadFiles _ _ | .findModel _ => true
  | .build _ _ _ | .count => false

/-- A world together with the replies given in it so far. -/
structure Heard (World : Type) where
  world : World
  replies : List Reply

/-- Does work and notes what it comes to. -/
def hear (reply : Result → Reply) (work : Action World Result) : Action (Heard World) Result :=
  ExceptT.mk do
    let result ← (onPart (·.world) (fun world heard => { heard with world }) work).run
    modify fun session =>
      let replies := session.world.replies ++ [Reply.of reply result]
      { session with world := { session.world with replies } }
    return result

/-- Collaborators that do the same, while their replies are noted. -/
def Collaborators.heard (collaborators : Collaborators World Model) :
    Collaborators (Heard World) Model where
  loadSource source limits := hear .loaded (collaborators.loadSource source limits)
  loadFiles paths limits := hear .loaded (collaborators.loadFiles paths limits)
  findModel name := hear (fun _ => .found) (collaborators.findModel name)
  build collection model chunks folder := do
    let count ← hear (fun _ => .built) (collaborators.build collection model chunks folder)
    return hear .counted count

/-- A world together with the calls made and the replies given so far. -/
abbrev Watched (World : Type) := Recorded (Heard World)

/-- What is left of a session when calls and replies are left out. -/
def bare (session : Session (Watched World)) : Session World :=
  ⟨session.world.world.world, session.printed⟩

/-- The session after an exchange that has led from one bare session to another. -/
def exchanged (call : Call) (reply : Reply) (session : Session (Watched World))
    (after : Session World) : Session (Watched World) where
  world := ⟨⟨after.world, session.world.world.replies ++ [reply]⟩, session.world.calls ++ [call]⟩
  printed := after.printed

theorem run_record (call : Call) (work : Action World Result) (session : Session (Recorded World)) :
    (record call work).run.run session =
      ((work.run.run ⟨session.world.world, session.printed⟩).1,
        ⟨⟨(work.run.run ⟨session.world.world, session.printed⟩).2.world,
          session.world.calls ++ [call]⟩,
          (work.run.run ⟨session.world.world, session.printed⟩).2.printed⟩) := rfl

theorem run_watched (call : Call) (reply : Result → Reply) (work : Action World Result)
    (session : Session (Watched World)) :
    (record call (hear reply work)).run.run session =
      ((work.run.run (bare session)).1,
        exchanged call (Reply.of reply (work.run.run (bare session)).1) session
          (work.run.run (bare session)).2) := rfl

/-- The error that work ends with, if it fails. -/
def failure? : Except Error Result → Option Error
  | .ok _ => none
  | .error error => some error

/-- Exchanges go through calls in order, up to the first that fails. -/
inductive Follows : List Call → List (Call × Reply) → Option Error → Prop
  | finished : Follows [] [] none
  | answered {call : Call} {reply : Reply} {later : List Call} {exchanges : List (Call × Reply)}
      {ending : Option Error} (answers : reply.answers call = true)
      (rest : Follows later exchanges ending) :
      Follows (call :: later) ((call, reply) :: exchanges) ending
  | broken {call : Call} {later : List Call} {error : Error} :
      Follows (call :: later) [(call, .failed error)] (some error)

namespace Follows

variable {script later : List Call} {exchanges more : List (Call × Reply)} {error : Error}
  {ending : Option Error}

theorem append (follows : Follows script exchanges none) (continues : Follows later more ending) :
    Follows (script ++ later) (exchanges ++ more) ending := by
  generalize completed : (none : Option Error) = finish at follows
  induction follows with
  | finished => exact continues
  | answered answers rest ih => exact .answered answers (ih completed)
  | broken => contradiction

theorem append_of_failed (follows : Follows script exchanges (some error)) (later : List Call) :
    Follows (script ++ later) exchanges (some error) := by
  generalize stopped : some error = finish at follows
  induction follows with
  | finished => contradiction
  | answered answers rest ih => exact .answered answers (ih stopped)
  | broken => exact .broken

theorem isPrefix (follows : Follows script exchanges ending) :
    exchanges.map (·.1) <+: script := by
  induction follows with
  | finished => exact List.prefix_refl []
  | answered answers rest ih => exact (List.prefix_cons_inj _).mpr ih
  | broken => exact ⟨_, rfl⟩

theorem calls_eq (follows : Follows script exchanges none) :
    exchanges.map (·.1) = script ∧
      ∀ exchange ∈ exchanges, exchange.2.answers exchange.1 = true := by
  generalize completed : (none : Option Error) = finish at follows
  induction follows with
  | finished => exact ⟨rfl, by simp⟩
  | answered answers rest ih =>
      rcases ih completed with ⟨calls, all⟩
      refine ⟨by rw [List.map_cons, calls], ?_⟩
      intro exchange member
      rcases List.mem_cons.mp member with rfl | inRest
      · exact answers
      · exact all exchange inRest
  | broken => contradiction

theorem exists_failed (follows : Follows script exchanges (some error)) :
    ∃ earlier call, exchanges = earlier ++ [(call, .failed error)] ∧
      ∀ exchange ∈ earlier, exchange.2.answers exchange.1 = true := by
  generalize stopped : some error = finish at follows
  induction follows with
  | finished => contradiction
  | @answered call reply later exchanges ending answers rest ih =>
      rcases ih stopped with ⟨earlier, last, rfl, all⟩
      refine ⟨(call, reply) :: earlier, last, rfl, ?_⟩
      intro exchange member
      rcases List.mem_cons.mp member with rfl | inEarlier
      · exact answers
      · exact all exchange inEarlier
  | broken =>
      cases stopped
      exact ⟨[], _, rfl, by simp⟩

/-- Calls that load nothing are not answered by chunks. -/
theorem loadedOf_eq_nil (follows : Follows script exchanges ending)
    (other : ∀ call ∈ script, ∀ chunks, (Reply.loaded chunks).answers call = false) :
    loadedOf (exchanges.map (·.2)) = [] := by
  induction follows with
  | finished => rfl
  | @answered call reply later exchanges ending answers rest ih =>
      have rest_eq := ih fun call member => other call (List.mem_cons_of_mem _ member)
      cases reply with
      | loaded chunks =>
          rw [other call List.mem_cons_self chunks] at answers
          contradiction
      | found | built | counted | failed => exact rest_eq
  | broken => rfl

end Follows

/-- The exchanges that an action adds, and what its calls leave of a part of the world. -/
structure Adds (view : World → View) (action : Action (Watched World) Result)
    (session : Session (Watched World)) (exchanges : List (Call × Reply)) : Prop where
  calls : (action.run.run session).2.world.calls = session.world.calls ++ exchanges.map (·.1)
  replies : (action.run.run session).2.world.world.replies =
    session.world.world.replies ++ exchanges.map (·.2)
  spared : (∀ exchange ∈ exchanges, exchange.1.prepares = true) →
    view (bare (action.run.run session).2).world = view (bare session).world

/--
An action makes calls in the order of a script, which may depend on the replies, up to the first
that fails; and its result agrees with the replies.
-/
def Talks (view : World → View) (action : Action (Watched World) Result)
    (session : Session (Watched World)) (script : List Reply → List Call)
    (agrees : List Reply → Result → Prop) : Prop :=
  ∃ exchanges, Adds view action session exchanges ∧
    Follows (script (exchanges.map (·.2))) exchanges (failure? (action.run.run session).1) ∧
    ∀ value, (action.run.run session).1 = .ok value → agrees (exchanges.map (·.2)) value

section Talks

variable {view : World → View} {session : Session (Watched World)}
  {agrees : List Reply → Result → Prop}

theorem talks_pure (value : Result) (agree : agrees [] value) :
    Talks view (pure value) session (fun _ => []) agrees := by
  refine ⟨[], ⟨(List.append_nil _).symm, (List.append_nil _).symm, fun _ => rfl⟩, .finished, ?_⟩
  intro other same
  cases same
  exact agree

theorem talks_print_bind {next : Unit → Action (Watched World) Result} (line : String)
    {script : List Reply → List Call}
    (talks : Talks view (next ()) ⟨session.world, session.printed ++ [line]⟩ script agrees) :
    Talks view (print line >>= next) session script agrees := by
  rcases talks with ⟨exchanges, ⟨calls, replies, spared⟩, follows, agree⟩
  exact ⟨exchanges, ⟨calls, replies, spared⟩, follows, agree⟩

/-- One call, the reply to which decides how its work has come out. -/
theorem talks_watched (call : Call) (reply : Result → Reply)
    (answers : ∀ value, (reply value).answers call = true) (work : Action World Result)
    (session : Session (Watched World))
    (keeps : call.prepares = true → ∀ session, view (work.run.run session).2.world =
      view session.world) :
    Talks view (record call (hear reply work)) session (fun _ => [call])
      fun replies value => replies = [reply value] := by
  refine ⟨[(call, Reply.of reply (work.run.run (bare session)).1)], ⟨rfl, rfl, ?_⟩, ?_, ?_⟩
  · intro prepares
    exact keeps (prepares _ List.mem_cons_self) (bare session)
  · rw [run_watched]
    rcases (work.run.run (bare session)).1 with error | value
    · exact .broken
    · exact .answered (answers value) .finished
  · intro value succeeded
    rw [run_watched] at succeeded
    simp only at succeeded
    rw [succeeded]
    rfl

theorem Talks.bind {first : Action (Watched World) Result}
    {next : Result → Action (Watched World) Other} {script : List Call}
    {agreesOn : List Reply → Other → Prop} (later : List Reply → List Call)
    (begins : Talks view first session (fun _ => script) agrees)
    (continues : ∀ value replies between, agrees replies value →
      Talks view (next value) between (fun more => later (replies ++ more))
        fun more => agreesOn (replies ++ more)) :
    Talks view (first >>= next) session (fun replies => script ++ later replies) agreesOn := by
  rcases begins with ⟨exchanges, ⟨calls, replies, spared⟩, follows, agree⟩
  rcases ran : first.run.run session with ⟨error | value, between⟩
  · have whole : (first >>= next).run.run session = (.error error, between) := by
      rw [run_bind, ran]
    rw [ran] at calls replies spared follows
    refine ⟨exchanges, ⟨?_, ?_, ?_⟩, ?_, ?_⟩
    · rw [whole]
      exact calls
    · rw [whole]
      exact replies
    · rw [whole]
      exact spared
    · rw [whole]
      exact follows.append_of_failed _
    · intro value succeeded
      rw [whole] at succeeded
      contradiction
  · have whole : (first >>= next).run.run session = (next value).run.run between := by
      rw [run_bind, ran]
    rw [ran] at calls replies spared follows agree
    rcases continues value (exchanges.map (·.2)) between (agree value rfl) with
      ⟨more, ⟨callsOn, repliesOn, sparedOn⟩, followsOn, agreeOn⟩
    refine ⟨exchanges ++ more, ⟨?_, ?_, ?_⟩, ?_, ?_⟩
    · rw [whole, callsOn, calls, List.map_append, List.append_assoc]
    · rw [whole, repliesOn, replies, List.map_append, List.append_assoc]
    · intro prepares
      rw [whole, sparedOn fun exchange member => prepares exchange (List.mem_append_right _ member)]
      exact spared fun exchange member => prepares exchange (List.mem_append_left _ member)
    · rw [whole, List.map_append]
      exact follows.append followsOn
    · intro other succeeded
      rw [whole] at succeeded
      rw [List.map_append]
      exact agreeOn other succeeded

theorem Adds.of_run_eq {action : Action (Watched World) Result}
    {other : Action (Watched World) Other} {exchanges : List (Call × Reply)}
    (adds : Adds view action session exchanges)
    (same : (other.run.run session).2 = (action.run.run session).2) :
    Adds view other session exchanges := by
  rcases adds with ⟨calls, replies, spared⟩
  rw [← same] at calls replies spared
  exact ⟨calls, replies, spared⟩

/-- To make something of the result at the end takes no call. -/
theorem Talks.map {action : Action (Watched World) Result} {script : List Reply → List Call}
    {agreesToo : List Reply → Other → Prop} (talks : Talks view action session script agrees)
    (make : Result → Other)
    (agree : ∀ replies value, agrees replies value → agreesToo replies (make value)) :
    Talks view (action >>= fun value => pure (make value)) session script agreesToo := by
  rcases talks with ⟨exchanges, adds, follows, agreed⟩
  have whole := run_bind action (fun value => pure (make value)) session
  rcases ran : action.run.run session with ⟨error | value, after⟩
  · rw [ran] at whole follows
    refine ⟨exchanges, adds.of_run_eq (by rw [whole, ran]), by rwa [whole], ?_⟩
    intro other succeeded
    rw [whole] at succeeded
    contradiction
  · rw [ran] at whole follows agreed
    refine ⟨exchanges, adds.of_run_eq (by rw [whole, ran]; rfl), by rwa [whole], ?_⟩
    intro other succeeded
    rw [whole] at succeeded
    cases succeeded
    exact agree _ _ (agreed value rfl)

theorem Talks.imp {action : Action (Watched World) Result} {script other : List Reply → List Call}
    (talks : Talks view action session script agrees)
    (same : ∀ exchanges ending, Follows (script (exchanges.map (·.2))) exchanges ending →
      other (exchanges.map (·.2)) = script (exchanges.map (·.2))) :
    Talks view action session other agrees := by
  rcases talks with ⟨exchanges, adds, follows, agree⟩
  refine ⟨exchanges, adds, ?_, agree⟩
  rw [same _ _ follows]
  exact follows

end Talks

/-- An action leaves a part of the world alone, whatever it comes to. -/
def Keeps (view : World → View) (action : Action World Result) : Prop :=
  ∀ session, view (action.run.run session).2.world = view session.world

/-- Loads and searches for models leave a part of the world alone, whatever they come to. -/
structure Collaborators.Spares (collaborators : Collaborators World Model) (view : World → View) :
    Prop where
  loadSource : ∀ source limits, Keeps view (collaborators.loadSource source limits)
  loadFiles : ∀ paths limits, Keeps view (collaborators.loadFiles paths limits)
  findModel : ∀ name, Keeps view (collaborators.findModel name)

section Run

variable {view : World → View} {collaborators : Collaborators World Model}

theorem talks_loadSources (spares : collaborators.Spares view) (limits : Limits)
    (sources : List Source) (session : Session (Watched World)) :
    Talks view (loadSources collaborators.heard.recorded limits sources) session
      (fun _ => sources.map (.loadSource · limits))
      fun replies loaded => loaded.map (·.1) = sources.map (·.url) ∧
        loadedOf replies = loaded.map (·.2) := by
  induction sources generalizing session with
  | nil => exact talks_pure [] ⟨rfl, rfl⟩
  | cons source later ih =>
      rw [loadSources]
      apply talks_print_bind
      apply Talks.bind (fun _ => later.map (.loadSource · limits))
        (talks_watched (.loadSource source limits) .loaded (fun _ => rfl)
          (collaborators.loadSource source limits) _ fun _ => spares.loadSource source limits)
      rintro chunks _ between rfl
      apply talks_print_bind
      apply (ih _).map
      rintro replies others ⟨names, loaded⟩
      exact ⟨congrArg (source.url :: ·) names, congrArg (chunks :: ·) loaded⟩

theorem talks_loadHelp (spares : collaborators.Spares view) (config : Config)
    (session : Session (Watched World)) :
    Talks view (loadHelp collaborators.heard.recorded config) session
      (fun _ => [.loadFiles [config.helpFile] config.limits])
      fun replies help => help.1 = config.helpFile.text ∧ loadedOf replies = [help.2] := by
  apply talks_print_bind
  apply Talks.bind (fun _ => [])
    (talks_watched (.loadFiles [config.helpFile] config.limits) .loaded (fun _ => rfl)
      (collaborators.loadFiles [config.helpFile] config.limits) _
      fun _ => spares.loadFiles [config.helpFile] config.limits)
  rintro chunks _ between rfl
  apply talks_print_bind
  exact talks_pure _ ⟨rfl, rfl⟩

theorem record_map (call : Call) (work : Action World Result) (make : Result → Other) :
    record call (work >>= fun value => pure (make value)) =
      record call work >>= fun value => pure (make value) := by
  apply ExceptT.ext
  funext session
  apply (run_record call (work >>= fun value => pure (make value)) session).trans
  apply Eq.trans _ (run_bind (record call work) (fun value => pure (make value)) session).symm
  rw [run_record, run_bind]
  rcases work.run.run ⟨session.world.world, session.printed⟩ with ⟨error | value, after⟩
  · rfl
  · rfl

theorem recorded_build (collaborators : Collaborators World Model) (name : String) (model : Model)
    (chunks : List Chunk) (folder : Path) :
    collaborators.heard.recorded.build name model chunks folder =
      record (.build name chunks folder)
        (hear (fun _ => .built) (collaborators.build name model chunks folder)) >>=
          fun count => pure (record .count (hear .counted count)) := by
  rw [Collaborators.recorded]
  simp only [Collaborators.heard, record_map, bind_assoc, pure_bind]

/-- The call that builds, after which the collection can be counted once. -/
theorem talks_build (name : String) (model : Model) (chunks : List Chunk) (folder : Path)
    (session : Session (Watched World)) :
    Talks view (collaborators.heard.recorded.build name model chunks folder) session
      (fun _ => [.build name chunks folder])
      fun replies count => replies = [.built] ∧
        ∃ plain, count = record .count (hear .counted plain) := by
  rw [recorded_build]
  apply (talks_watched (.build name chunks folder) (fun _ => .built) (fun _ => rfl)
    (collaborators.build name model chunks folder) session (by simp [Call.prepares])).map
  rintro _ count rfl
  exact ⟨rfl, count, rfl⟩

theorem talks_buildAndCount (spares : collaborators.Spares view) (config : Config)
    (chunks : List Chunk) (session : Session (Watched World)) :
    Talks view (buildAndCount collaborators.heard.recorded config chunks) session
      (fun _ => [.findModel config.model,
        .build config.collection chunks config.persistDir, .count])
      fun replies verified => replies = [.found, .built, .counted verified] := by
  rw [buildAndCount]
  apply talks_print_bind
  apply talks_print_bind
  apply Talks.bind (fun _ => [.build config.collection chunks config.persistDir, .count])
    (talks_watched (.findModel config.model) (fun _ => .found) (fun _ => rfl)
      (collaborators.findModel config.model) _ fun _ => spares.findModel config.model)
  rintro model _ between rfl
  apply talks_print_bind
  apply Talks.bind (fun _ => [.count])
    (talks_build config.collection model chunks config.persistDir _)
  rintro _ _ built ⟨rfl, count, rfl⟩
  apply talks_print_bind
  apply talks_print_bind
  apply talks_print_bind
  apply Talks.bind (fun _ => [])
    (talks_watched .count .counted (fun _ => rfl) count _ (by simp [Call.prepares]))
  rintro verified _ counted rfl
  rcases verified with _ | rows
  · exact talks_pure none rfl
  · apply talks_print_bind
    exact talks_pure (some rows) rfl

/-- The calls of a run that loads the given chunks in all. -/
def protocol (config : Config) (chunks : List Chunk) : List Call :=
  config.sources.map (.loadSource · config.limits) ++
    [.loadFiles [config.helpFile] config.limits, .findModel config.model,
      .build config.collection chunks config.persistDir, .count]

/-- A report says what the replies have said. -/
structure Report.Agrees (config : Config) (replies : List Reply) (report : Report) : Prop where
  names : report.perSource.map (·.1) = config.sources.map (·.url) ++ [config.helpFile.text]
  counts : report.perSource.map (·.2) = (loadedOf replies).map List.length
  total : report.totalChunks = ((loadedOf replies).map List.length).sum
  counted : replies.getLast? = some (.counted report.verifiedCount)

@[simp]
theorem loadedOf_append (replies more : List Reply) :
    loadedOf (replies ++ more) = loadedOf replies ++ loadedOf more :=
  List.filterMap_append

theorem talks_run (spares : collaborators.Spares view) (config : Config)
    (session : Session (Watched World)) :
    Talks view (run collaborators.heard.recorded config) session
      (fun replies => protocol config (loadedOf replies).flatten) (Report.Agrees config) := by
  rw [run]
  apply talks_print_bind
  apply talks_print_bind
  apply Talks.bind (fun replies => [.loadFiles [config.helpFile] config.limits,
      .findModel config.model,
      .build config.collection (loadedOf replies).flatten config.persistDir, .count])
    (talks_loadSources spares config.limits config.sources _)
  rintro sources replies between ⟨names, loaded⟩
  apply Talks.bind (fun more => [.findModel config.model,
      .build config.collection (loadedOf (replies ++ more)).flatten config.persistDir, .count])
    (talks_loadHelp spares config between)
  rintro ⟨helpName, helpChunks⟩ helpReplies after ⟨rfl, helpLoaded⟩
  have chunks_eq : (sources ++ [(config.helpFile.text, helpChunks)]).flatMap (·.2) =
      (loadedOf (replies ++ helpReplies)).flatten := by
    rw [loadedOf_append, loaded, helpLoaded, List.flatMap_append]
    simp [List.flatMap]
  simp only [chunks_eq]
  refine Talks.map ((talks_buildAndCount spares config _ after).imp ?_) _ ?_
  · intro exchanges ending follows
    rw [← List.append_assoc, loadedOf_append, follows.loadedOf_eq_nil, List.append_nil]
    simp [Reply.answers]
  · rintro _ verified rfl
    have same : loadedOf (replies ++ (helpReplies ++ [.found, .built, .counted verified])) =
        loadedOf (replies ++ helpReplies) := by
      rw [← List.append_assoc, loadedOf_append]
      exact List.append_nil _
    refine ⟨?_, ?_, ?_, ?_⟩
    · rw [List.map_map, ← names, List.map_append]
      rfl
    · rw [same, loadedOf_append, loaded, helpLoaded, List.map_map, List.map_append, List.map_append,
        List.map_map]
      rfl
    · rw [same]
      exact List.length_flatten
    · simp

/-- An action in a watched world is the one in the world itself, as far as that sees. -/
def Mirrors (watched : Action (Watched World) Result) (plain : Action World Other)
    (same : Result → Other → Prop) : Prop :=
  ∀ session, bare (watched.run.run session).2 = (plain.run.run (bare session)).2 ∧
    ((∃ error, (watched.run.run session).1 = .error error ∧
        (plain.run.run (bare session)).1 = .error error) ∨
      ∃ value other, (watched.run.run session).1 = .ok value ∧
        (plain.run.run (bare session)).1 = .ok other ∧ same value other)

theorem mirrors_pure {same : Result → Other → Prop} {value : Result} {other : Other}
    (agree : same value other) :
    Mirrors (pure value : Action (Watched World) Result) (pure other) same :=
  fun _ => ⟨rfl, .inr ⟨value, other, rfl, rfl, agree⟩⟩

theorem mirrors_print_bind {next : Unit → Action (Watched World) Result}
    {nextPlain : Unit → Action World Other} {same : Result → Other → Prop} {line : String}
    (continues : Mirrors (next ()) (nextPlain ()) same) :
    Mirrors (print line >>= next) (print line >>= nextPlain) same :=
  fun session => continues ⟨session.world, session.printed ++ [line]⟩

theorem mirrors_watched (call : Call) (reply : Result → Reply) (work : Action World Result) :
    Mirrors (record call (hear reply work)) work Eq := by
  intro session
  rw [run_watched]
  refine ⟨rfl, ?_⟩
  rcases (work.run.run (bare session)).1 with error | value
  · exact .inl ⟨error, rfl, rfl⟩
  · exact .inr ⟨value, value, rfl, rfl, rfl⟩

theorem Mirrors.bind {Next Last : Type} {watched : Action (Watched World) Result}
    {plain : Action World Other} {same : Result → Other → Prop}
    {next : Result → Action (Watched World) Next} {nextPlain : Other → Action World Last}
    {sameNext : Next → Last → Prop} (begins : Mirrors watched plain same)
    (continues : ∀ value other, same value other →
      Mirrors (next value) (nextPlain other) sameNext) :
    Mirrors (watched >>= next) (plain >>= nextPlain) sameNext := by
  intro session
  rw [run_bind, run_bind]
  have first := begins session
  generalize watched.run.run session = ending at first ⊢
  generalize plain.run.run (bare session) = endingPlain at first ⊢
  rcases ending with ⟨result, between⟩
  rcases endingPlain with ⟨resultPlain, betweenPlain⟩
  rcases first with ⟨rfl, ⟨error, rfl, rfl⟩ | ⟨value, other, rfl, rfl, agree⟩⟩
  · exact ⟨rfl, .inl ⟨error, rfl, rfl⟩⟩
  · exact continues value other agree between

theorem mirrors_build (name : String) (model : Model) (chunks : List Chunk) (folder : Path) :
    Mirrors (collaborators.heard.recorded.build name model chunks folder)
      (collaborators.build name model chunks folder) fun count plain => Mirrors count plain Eq := by
  rw [recorded_build]
  nth_rewrite 2 [← bind_pure (collaborators.build name model chunks folder)]
  apply (mirrors_watched _ _ _).bind
  rintro count _ rfl
  exact mirrors_pure (mirrors_watched _ _ _)

theorem mirrors_loadSources (limits : Limits) (sources : List Source) :
    Mirrors (loadSources collaborators.heard.recorded limits sources)
      (loadSources collaborators limits sources) Eq := by
  induction sources with
  | nil => exact mirrors_pure rfl
  | cons source later ih =>
      rw [loadSources, loadSources]
      apply mirrors_print_bind
      apply (mirrors_watched _ _ _).bind
      rintro chunks _ rfl
      apply mirrors_print_bind
      apply ih.bind
      rintro others _ rfl
      exact mirrors_pure rfl

theorem mirrors_loadHelp (config : Config) :
    Mirrors (loadHelp collaborators.heard.recorded config) (loadHelp collaborators config) Eq := by
  apply mirrors_print_bind
  apply (mirrors_watched _ _ _).bind
  rintro chunks _ rfl
  apply mirrors_print_bind
  exact mirrors_pure rfl

theorem mirrors_buildAndCount (config : Config) (chunks : List Chunk) :
    Mirrors (buildAndCount collaborators.heard.recorded config chunks)
      (buildAndCount collaborators config chunks) Eq := by
  rw [buildAndCount, buildAndCount]
  apply mirrors_print_bind
  apply mirrors_print_bind
  apply (mirrors_watched _ _ _).bind
  rintro model _ rfl
  apply mirrors_print_bind
  apply (mirrors_build _ _ _ _).bind
  intro count plain mirrors
  apply mirrors_print_bind
  apply mirrors_print_bind
  apply mirrors_print_bind
  apply mirrors.bind
  rintro verified _ rfl
  rcases verified with _ | rows
  · exact mirrors_pure rfl
  · apply mirrors_print_bind
    exact mirrors_pure rfl

/-- To watch a run makes no difference to it. -/
theorem mirrors_run (collaborators : Collaborators World Model) (config : Config) :
    Mirrors (run collaborators.heard.recorded config) (run collaborators config) Eq := by
  rw [run, run]
  apply mirrors_print_bind
  apply mirrors_print_bind
  apply (mirrors_loadSources _ _).bind
  rintro sources _ rfl
  apply (mirrors_loadHelp _).bind
  rintro help _ rfl
  apply (mirrors_buildAndCount _ _).bind
  rintro verified _ rfl
  exact mirrors_pure rfl

/-- The run that is watched, with no calls made and no replies given before it. -/
def runWatched (collaborators : Collaborators World Model) (config : Config) (world : World) :
    Except Error Report × Session (Watched World) :=
  runOn (run collaborators.heard.recorded config) ⟨⟨world, []⟩, []⟩

/-- Of the calls of the protocol, all up to one that prepares prepare. -/
theorem prepares_of_getLast? {config : Config} {chunks : List Chunk} {calls : List Call}
    (isPrefix : calls <+: protocol config chunks) {call : Call} (last : calls.getLast? = some call)
    (prepares : call.prepares = true) : ∀ other ∈ calls, other.prepares = true := by
  -- No call that prepares comes after one that does not.
  have ordered : (protocol config chunks).Pairwise fun earlier later =>
      later.prepares = true → earlier.prepares = true := by
    simp [protocol, Call.prepares, List.pairwise_append, List.pairwise_map,
      List.pairwise_of_forall]
  have sorted := ordered.sublist isPrefix.sublist
  rcases List.getLast?_eq_some_iff.mp last with ⟨before, rfl⟩
  rw [List.pairwise_append] at sorted
  intro other member
  rcases List.mem_append.mp member with inBefore | isLast
  · exact sorted.2.2 other inBefore call List.mem_cons_self prepares
  · rw [List.mem_singleton.mp isLast]
    exact prepares

/-- Replies that give what the calls have asked for, one for each. -/
def Answered (calls : List Call) (replies : List Reply) : Prop :=
  List.Forall₂ (fun call reply => reply.answers call = true) calls replies

theorem answered_of_exchanges {exchanges : List (Call × Reply)}
    (answers : ∀ exchange ∈ exchanges, exchange.2.answers exchange.1 = true) :
    Answered (exchanges.map (·.1)) (exchanges.map (·.2)) := by
  rw [Answered, List.forall₂_map_left_iff, List.forall₂_map_right_iff, List.forall₂_same]
  exact answers

/--
Whatever its collaborators do, a run makes the calls of the protocol in order. It breaks off after
the first that fails, with the error of that one; and if none fails it reports what it has been
told. What loads and searches for models leave alone is changed by no run that ends with one.
-/
theorem run_follows_protocol (collaborators : Collaborators World Model) (config : Config)
    (world : World) :
    let ended := runOn (run collaborators config) world
    let watched := runWatched collaborators config world
    let calls := watched.2.world.calls
    let replies := watched.2.world.world.replies
    watched.1 = ended.1 ∧ bare watched.2 = ended.2 ∧
      calls <+: protocol config (loadedOf replies).flatten ∧
      (∀ error, ended.1 = .error error → ∃ earlier call replied,
        calls = earlier ++ [call] ∧ replies = replied ++ [.failed error] ∧
          Answered earlier replied) ∧
      (∀ report, ended.1 = .ok report →
        calls = protocol config (loadedOf replies).flatten ∧ Answered calls replies ∧
          report.Agrees config replies) ∧
      ∀ {View : Type} (view : World → View), collaborators.Spares view →
        ∀ call, calls.getLast? = some call → call.prepares = true →
          view ended.2.world = view world := by
  intro ended watched calls replies
  -- Calls and replies do not depend on what is viewed, so a view of nothing gives them.
  have nothing : collaborators.Spares fun _ => () :=
    ⟨fun _ _ _ => rfl, fun _ _ _ => rfl, fun _ _ => rfl⟩
  rcases talks_run nothing config ⟨⟨⟨world, []⟩, []⟩, []⟩ with ⟨exchanges, adds, followed, agree⟩
  have follows : Follows (protocol config (loadedOf (exchanges.map (·.2))).flatten) exchanges
      (failure? watched.1) := followed
  have calls_eq : calls = exchanges.map (·.1) := adds.calls
  have replies_eq : replies = exchanges.map (·.2) := adds.replies
  have isPrefix : calls <+: protocol config (loadedOf replies).flatten := by
    rw [calls_eq, replies_eq]
    exact follows.isPrefix
  rcases mirrors_run collaborators config ⟨⟨⟨world, []⟩, []⟩, []⟩ with
    ⟨sameSession, sameResult⟩
  have sameEnd : bare watched.2 = ended.2 := sameSession
  have same : watched.1 = ended.1 := by
    rcases sameResult with ⟨error, failed, failedToo⟩ | ⟨report, _, succeeded, succeededToo, rfl⟩
    · exact failed.trans failedToo.symm
    · exact succeeded.trans succeededToo.symm
  refine ⟨same, sameEnd, isPrefix, ?_, ?_, ?_⟩
  · intro error failed
    rw [same, failed] at follows
    rcases follows.exists_failed with ⟨earlier, call, rfl, answers⟩
    refine ⟨earlier.map (·.1), call, earlier.map (·.2), ?_, ?_, answered_of_exchanges answers⟩
    · rw [calls_eq, List.map_append]
      rfl
    · rw [replies_eq, List.map_append]
      rfl
  · intro report succeeded
    have reported := agree report (same.trans succeeded)
    rw [same, succeeded] at follows
    rcases follows.calls_eq with ⟨all, answers⟩
    rw [calls_eq, replies_eq]
    exact ⟨all, answered_of_exchanges answers, reported⟩
  · intro View view spares call last prepares
    rcases talks_run spares config ⟨⟨⟨world, []⟩, []⟩, []⟩ with ⟨again, addsAgain, _, _⟩
    have calls_again : calls = again.map (·.1) := addsAgain.calls
    have kept : view (bare watched.2).world = view world := addsAgain.spared
      fun exchange member => prepares_of_getLast? isPrefix last prepares exchange.1
        (calls_again ▸ List.mem_map_of_mem member)
    rw [← sameEnd]
    exact kept

end Run

/-- Collaborators that count how often a collection is built, but know no model. -/
def modelless : Collaborators Nat Unit where
  loadSource source _ := pure [⟨"a", "A", ⟨source.url, "a.md", 0⟩⟩]
  loadFiles _ _ := pure []
  findModel name := throw (.unknownModel name)
  build _ _ _ _ := do
    setWorld ((← Action.world) + 1)
    return pure none

/-- A run that finds no model has loaded everything, and builds nothing. -/
theorem run_follows_protocol_without_model :
    let config := { Config.standard with sources := [⟨"first", .ofString "."⟩] }
    let ended := runOn (run modelless config) 7
    let watched := runWatched modelless config 7
    watched.2.world.calls = [.loadSource ⟨"first", .ofString "."⟩ config.limits,
        .loadFiles [config.helpFile] config.limits, .findModel "qwen-small"] ∧
      ended.1 = .error (.unknownModel "qwen-small") ∧
      (∃ replied, watched.2.world.world.replies =
        replied ++ [.failed (.unknownModel "qwen-small")]) ∧ ended.2.world = 7 := by
  intro config ended watched
  have spares : modelless.Spares (id : Nat → Nat) :=
    ⟨fun _ _ _ => rfl, fun _ _ _ => rfl, fun _ _ => rfl⟩
  have called : watched.2.world.calls = [.loadSource ⟨"first", .ofString "."⟩ config.limits,
      .loadFiles [config.helpFile] config.limits, .findModel "qwen-small"] := rfl
  have failed : ended.1 = .error (.unknownModel "qwen-small") := rfl
  rcases run_follows_protocol modelless config 7 with ⟨_, _, _, breaksOff, _, spared⟩
  rcases breaksOff _ failed with ⟨_, _, replied, _, replies, _⟩
  exact ⟨called, failed, ⟨replied, replies⟩,
    spared id spares (.findModel "qwen-small") (by rw [called]; rfl) rfl⟩

end DocIndex.Indexing
