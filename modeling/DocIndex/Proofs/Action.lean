import DocIndex.Action

/-!
# What actions come to

An action is judged by its result and by what becomes of the world; neither depends on the lines
that have been printed. What a sequence of actions comes to follows from what its parts come to.
-/

namespace DocIndex.Action

variable {World Part Result Other : Type}

theorem run_bind (first : Action World Result) (next : Result → Action World Other)
    (session : Session World) :
    (first >>= next).run.run session =
      match first.run.run session with
      | (.ok value, between) => (next value).run.run between
      | (.error error, after) => (.error error, after) := by
  rw [ExceptT.run_bind, StateT.run_bind]
  rcases first.run.run session with ⟨error | value, after⟩
  · rfl
  · rfl

/-- An action on a world gives a result and leaves another world, whatever has been printed. -/
def Yields (action : Action World Result) (world : World) (result : Except Error Result)
    (after : World) : Prop :=
  ∀ printed : List String, ∃ printedAfter : List String,
    action.run.run ⟨world, printed⟩ = (result, ⟨after, printedAfter⟩)

theorem yields_pure (world : World) (result : Result) :
    Yields (pure result) world (.ok result) world :=
  fun printed => ⟨printed, rfl⟩

theorem yields_throw (world : World) (error : Error) :
    Yields (throw error : Action World Result) world (.error error) world :=
  fun printed => ⟨printed, rfl⟩

theorem yields_print (world : World) (line : String) : Yields (print line) world (.ok ()) world :=
  fun printed => ⟨printed ++ [line], rfl⟩

theorem yields_world (world : World) : Yields Action.world world (.ok world) world :=
  fun printed => ⟨printed, rfl⟩

theorem yields_setWorld (world after : World) : Yields (setWorld after) world (.ok ()) after :=
  fun printed => ⟨printed, rfl⟩

theorem yields_ofExcept {found result : Except Error Result} (world : World)
    (same : found = result) : Yields (ofExcept found) world result world :=
  fun printed => ⟨printed, by rw [← same]; rfl⟩

theorem Yields.bind {first : Action World Result} {next : Result → Action World Other}
    {world between after : World} {value : Result} {result : Except Error Other}
    (begins : Yields first world (.ok value) between)
    (continues : Yields (next value) between result after) :
    Yields (first >>= next) world result after := by
  intro printed
  rcases begins printed with ⟨printedBetween, ran⟩
  rcases continues printedBetween with ⟨printedAfter, ranOn⟩
  refine ⟨printedAfter, ?_⟩
  rw [ExceptT.run_bind, StateT.run_bind, ran]
  exact ranOn

theorem Yields.bind_error {first : Action World Result} (next : Result → Action World Other)
    {world after : World} {error : Error} (fails : Yields first world (.error error) after) :
    Yields (first >>= next) world (.error error) after := by
  intro printed
  rcases fails printed with ⟨printedAfter, ran⟩
  refine ⟨printedAfter, ?_⟩
  rw [ExceptT.run_bind, StateT.run_bind, ran]
  rfl

theorem yields_change (step : World → World × Except Error Result) (world : World) :
    Yields (change step) world (step world).2 (step world).1 :=
  fun printed => ⟨printed, rfl⟩

theorem yields_change_of_eq {step : World → World × Except Error Result} {world after : World}
    {result : Except Error Result} (changes : step world = (after, result)) :
    Yields (change step) world result after := by
  have yields := yields_change step world
  rwa [changes] at yields

theorem Yields.onPart {part : World → Part} {replace : Part → World → World}
    {action : Action Part Result} {world : World} {after : Part} {result : Except Error Result}
    (yields : Yields action (part world) result after) :
    Yields (Action.onPart part replace action) world result (replace after world) := by
  intro printed
  rcases yields printed with ⟨printedAfter, ran⟩
  refine ⟨printedAfter, ?_⟩
  have unfolded : (Action.onPart part replace action).run.run ⟨world, printed⟩ =
      ((action.run.run ⟨part world, printed⟩).1,
        ⟨replace (action.run.run ⟨part world, printed⟩).2.world world,
          (action.run.run ⟨part world, printed⟩).2.printed⟩) := rfl
  rw [unfolded, ran]

theorem Yields.runOn_fst {action : Action World Result} {world after : World}
    {result : Except Error Result} (yields : Yields action world result after) :
    (runOn action world).1 = result := by
  rcases yields [] with ⟨printedAfter, ran⟩
  rw [runOn, ran]

theorem Yields.world_runOn {action : Action World Result} {world after : World}
    {result : Except Error Result} (yields : Yields action world result after) :
    (runOn action world).2.world = after := by
  rcases yields [] with ⟨printedAfter, ran⟩
  rw [runOn, ran]

/-- What an action comes to is determined. -/
theorem Yields.unique {action : Action World Result} {world after other : World}
    {result otherResult : Except Error Result} (yields : Yields action world result after)
    (otherwise : Yields action world otherResult other) :
    result = otherResult ∧ after = other :=
  ⟨yields.runOn_fst.symm.trans otherwise.runOn_fst,
    yields.world_runOn.symm.trans otherwise.world_runOn⟩

/-- An action succeeds exactly under a condition; what holds then and otherwise is given. -/
def Decides (action : Action World Result) (world : World) (condition : Prop)
    (done : Result → World → Prop) (failed : World → Prop) : Prop :=
  condition ∧ (∃ value after, Yields action world (.ok value) after ∧ done value after) ∨
    ¬ condition ∧ ∃ error after, Yields action world (.error error) after ∧ failed after

variable {condition : Prop} {world : World} {failed : World → Prop}

/-- What is sure to succeed decides nothing more. -/
theorem Decides.bind {first : Action World Result} {next : Result → Action World Other}
    {between : Result → World → Prop} {done : Other → World → Prop}
    (decides : Decides first world condition between failed)
    (continues : ∀ value after, between value after →
      ∃ result final, Yields (next value) after (.ok result) final ∧ done result final) :
    Decides (first >>= next) world condition done failed := by
  rcases decides with ⟨holds, value, after, ran, reached⟩ | ⟨refused, error, after, fails, left⟩
  · rcases continues value after reached with ⟨result, final, ranOn, reachedOn⟩
    exact .inl ⟨holds, result, final, Yields.bind ran ranOn, reachedOn⟩
  · exact .inr ⟨refused, error, after, Yields.bind_error _ fails, left⟩

/-- The world that an action works on as a part of another one. -/
theorem Decides.onPart {part : World → Part} {replace : Part → World → World}
    {action : Action Part Result} {done : Result → Part → Prop} {failed : Part → Prop}
    (decides : Decides action (part world) condition done failed) :
    Decides (Action.onPart part replace action) world condition
      (fun value after => ∃ changed, after = replace changed world ∧ done value changed)
      (fun after => ∃ changed, after = replace changed world ∧ failed changed) := by
  rcases decides with ⟨holds, value, after, ran, reached⟩ | ⟨refused, error, after, fails, left⟩
  · exact .inl ⟨holds, value, _, Yields.onPart ran, after, rfl, reached⟩
  · exact .inr ⟨refused, error, _, Yields.onPart fails, after, rfl, left⟩

theorem Decides.imp {action : Action World Result} {done other : Result → World → Prop}
    {failedOther : World → Prop} (decides : Decides action world condition done failed)
    (done_imp : ∀ value after, done value after → other value after)
    (failed_imp : ∀ after, failed after → failedOther after) :
    Decides action world condition other failedOther := by
  rcases decides with ⟨holds, value, after, ran, reached⟩ | ⟨refused, error, after, fails, left⟩
  · exact .inl ⟨holds, value, after, ran, done_imp value after reached⟩
  · exact .inr ⟨refused, error, after, fails, failed_imp after left⟩

theorem Decides.runOn {action : Action World Result} {done : Result → World → Prop}
    (decides : Decides action world condition done failed) :
    condition ∧ (∃ value, (Action.runOn action world).1 = .ok value ∧
        done value (Action.runOn action world).2.world) ∨
      ¬ condition ∧ ∃ error, (Action.runOn action world).1 = .error error ∧
        failed (Action.runOn action world).2.world := by
  rcases decides with ⟨holds, value, after, ran, reached⟩ | ⟨refused, error, after, fails, left⟩
  · exact .inl ⟨holds, value, ran.runOn_fst, ran.world_runOn ▸ reached⟩
  · exact .inr ⟨refused, error, fails.runOn_fst, fails.world_runOn ▸ left⟩

end DocIndex.Action
