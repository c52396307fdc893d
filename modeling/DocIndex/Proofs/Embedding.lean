import Mathlib.Data.List.Basic
import DocIndex.Embedding
import DocIndex.Proofs.Batches

/-!
# Embedding in batches

When the chunks have been embedded, the vectors are the replies to all batches one after the other,
one vector for each chunk, and all of them have one width.
-/

namespace DocIndex.Embedding

variable {Memory Component First Second : Type}

/-- A request that has succeeded in two steps has succeeded in the first. -/
theorem exists_of_run_bind_eq_ok {first : ExceptT Error (StateM Memory) First}
    {next : First → ExceptT Error (StateM Memory) Second} {memory after : Memory} {value : Second}
    (ran : (first >>= next).run.run memory = (.ok value, after)) :
    ∃ given between, first.run.run memory = (.ok given, between) ∧
      (next given).run.run between = (.ok value, after) := by
  rw [ExceptT.run_bind, StateT.run_bind] at ran
  rcases began : first.run.run memory with ⟨error | given, between⟩
  · rw [began] at ran
    cases ran
  · rw [began] at ran
    exact ⟨given, between, rfl, ran⟩

theorem run_bind_of_eq_ok {first : ExceptT Error (StateM Memory) First} {given : First}
    {memory between : Memory} (next : First → ExceptT Error (StateM Memory) Second)
    (ran : first.run.run memory = (.ok given, between)) :
    (first >>= next).run.run memory = (next given).run.run between := by
  rw [ExceptT.run_bind, StateT.run_bind, ran]
  rfl

theorem run_bind_of_eq_error {first : ExceptT Error (StateM Memory) First} {error : Error}
    {memory after : Memory} (next : First → ExceptT Error (StateM Memory) Second)
    (ran : first.run.run memory = (.error error, after)) :
    (first >>= next).run.run memory = (.error error, after) := by
  rw [ExceptT.run_bind, StateT.run_bind, ran]
  rfl

/-- The width that vectors have together with vectors of a width before them. -/
def widthWith (width? : Option Nat) (vectors : List (List Component)) : Option Nat :=
  width?.or (vectors.head?.map List.length)

theorem widthWith_append (width? : Option Nat) (vectors others : List (List Component)) :
    widthWith width? (vectors ++ others) = widthWith (widthWith width? vectors) others := by
  rw [widthWith, widthWith, widthWith, List.head?_append, Option.map_or, Option.or_assoc]

theorem checkReply_eq_ok {width? found? : Option Nat} {texts : Nat}
    {vectors : List (List Component)} (accepted : checkReply width? texts vectors = .ok found?) :
    vectors.length = texts ∧ found? = widthWith width? vectors ∧
      ∀ vector ∈ vectors, some vector.length = found? := by
  rw [checkReply] at accepted
  split at accepted
  · contradiction
  · rename_i counted
    simp only at accepted
    split at accepted
    · contradiction
    · rename_i none
      cases accepted
      refine ⟨by simpa using counted, rfl, ?_⟩
      intro vector member
      have := List.find?_eq_none.mp none vector member
      simpa using this

/-- The replies of a model to the batches, in turn. -/
def repliesTo (embedder : Embedder Memory Component) (groups : List (List Chunk)) :
    ExceptT Error (StateM Memory) (List (List (List Component))) :=
  groups.mapM fun batch => embedder (batch.map (·.text))

theorem embedBatches_eq_ok {embedder : Embedder Memory Component} {groups : List (List Chunk)}
    {width? : Option Nat} {memory after : Memory} {vectors : List (List Component)}
    (ran : (embedBatches embedder width? groups).run.run memory = (.ok vectors, after)) :
    (∃ replies, (repliesTo embedder groups).run.run memory = (.ok replies, after) ∧
        vectors = replies.flatten) ∧
      vectors.length = groups.flatten.length ∧
      ∀ vector ∈ vectors, some vector.length = widthWith width? vectors := by
  induction groups generalizing width? memory vectors with
  | nil =>
      cases ran
      exact ⟨⟨[], rfl, rfl⟩, rfl, by simp⟩
  | cons batch later ih =>
      rcases exists_of_run_bind_eq_ok ran with ⟨reply, asked, answered, ranChecked⟩
      rcases exists_of_run_bind_eq_ok ranChecked with ⟨found?, checked, ranCheck, ranLater⟩
      rcases exists_of_run_bind_eq_ok ranLater with ⟨others, final, ranOthers, ended⟩
      rcases Prod.mk.inj ranCheck with ⟨accepted, rfl⟩
      rcases checkReply_eq_ok accepted with ⟨counted, rfl, uniform⟩
      cases ended
      rcases ih ranOthers with ⟨⟨replies, answeredLater, rfl⟩, countedLater, uniformLater⟩
      refine ⟨⟨reply :: replies, ?_, rfl⟩, ?_, ?_⟩
      · rw [repliesTo, List.mapM_cons, run_bind_of_eq_ok _ answered]
        rw [repliesTo] at answeredLater
        rw [run_bind_of_eq_ok _ answeredLater]
        rfl
      · rw [List.length_append, counted, countedLater, List.flatten_cons, List.length_append]
      · intro vector member
        rw [widthWith_append]
        rcases List.mem_append.mp member with inReply | inLater
        · rw [← uniform vector inReply, widthWith, Option.some_or]
        · exact uniformLater vector inLater

/-- Chunks that have been embedded have one vector each, and all vectors have one width. -/
theorem embedChunks_eq_ok {embedder : Embedder Memory Component} {batchSize : Nat}
    {chunks : List Chunk} {memory after : Memory} {vectors : List (List Component)}
    (ran : (embedChunks embedder batchSize chunks).run.run memory = (.ok vectors, after)) :
    (∃ replies, (repliesTo embedder (batches batchSize chunks)).run.run memory =
        (.ok replies, after) ∧ vectors = replies.flatten) ∧
      chunks.length = vectors.length ∧
      ∀ vector ∈ vectors, vector.length = (vectors.head?.map List.length).getD 0 := by
  rcases embedBatches_eq_ok ran with ⟨answered, counted, uniform⟩
  rw [flatten_batches] at counted
  refine ⟨answered, counted.symm, ?_⟩
  intro vector member
  rw [widthWith, Option.none_or] at uniform
  rw [← uniform vector member, Option.getD_some]

end DocIndex.Embedding
