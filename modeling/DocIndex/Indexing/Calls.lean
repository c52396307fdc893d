import DocIndex.Indexing.Run

/-!
# Calls of collaborators

The calls that a run makes can be recorded: every collaborator notes that it is called before it
does its work.
-/

namespace DocIndex.Indexing

open DocIndex.Files DocIndex.Split

/-- A call of a collaborator. -/
inductive Call
  | loadSource (source : Source) (limits : Limits)
  | loadFiles (paths : List Path) (limits : Limits)
  | findModel (name : String)
  | build (collection : String) (chunks : List Chunk) (folder : Path)
  | count
  deriving DecidableEq, Repr

/-- A world together with the calls made so far. -/
structure Recorded (World : Type) where
  world : World
  calls : List Call

variable {World Model Result : Type}

/-- Notes a call and does the work that it asks for. -/
def record (call : Call) (work : Action World Result) : Action (Recorded World) Result := do
  Action.setWorld { (← Action.world) with calls := (← Action.world).calls ++ [call] }
  Action.onPart (·.world) (fun world recorded => { recorded with world }) work

/-- Collaborators that note every call before they do their work. -/
def Collaborators.recorded (collaborators : Collaborators World Model) :
    Collaborators (Recorded World) Model where
  loadSource source limits :=
    record (.loadSource source limits) (collaborators.loadSource source limits)
  loadFiles paths limits := record (.loadFiles paths limits) (collaborators.loadFiles paths limits)
  findModel name := record (.findModel name) (collaborators.findModel name)
  build collection model chunks folder := do
    let count ← record (.build collection chunks folder)
      (collaborators.build collection model chunks folder)
    return record .count count

end DocIndex.Indexing
