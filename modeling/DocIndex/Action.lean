import DocIndex.Error

/-!
# Actions

An action works on the state of a world, prints lines, and gives a result or an error. What it has
done and printed before an error stays done and printed.
-/

namespace DocIndex

/-- The world that an action works on, and the lines that have been printed. -/
structure Session (World : Type) where
  world : World
  printed : List String

/-- What works on a world, prints lines and may fail. -/
abbrev Action (World Result : Type) := ExceptT Error (StateM (Session World)) Result

namespace Action

variable {World Part Result : Type}

/-- Prints a line. -/
def print (line : String) : Action World Unit :=
  modify fun session => { session with printed := session.printed ++ [line] }

/-- The world as it is. -/
def world : Action World World := do return (← get).world

/-- Makes the world another one. -/
def setWorld (world : World) : Action World Unit := modify fun session => { session with world }

/-- Gives a result that has been found, or fails with the error that was. -/
def ofExcept (result : Except Error Result) : Action World Result := ExceptT.mk (pure result)

/-- Changes the world in one step, which may fail and still have changed it. -/
def change (step : World → World × Except Error Result) : Action World Result := do
  let (changed, result) := step (← world)
  setWorld changed
  ofExcept result

/-- An action on a part of a world as an action on the world. -/
def onPart (part : World → Part) (replace : Part → World → World) (action : Action Part Result) :
    Action World Result :=
  ExceptT.mk fun session =>
    let (result, after) := (action.run.run ⟨part session.world, session.printed⟩ :
      Except Error Result × Session Part)
    (result, ⟨replace after.world session.world, after.printed⟩)

/-- The result of an action on a world, what becomes of the world, and the lines printed. -/
def runOn (action : Action World Result) (world : World) : Except Error Result × Session World :=
  action.run.run ⟨world, []⟩

end Action

end DocIndex
