import DocIndex.Proofs.Embedding

/-!
# Requests with one answer

A request may have the same answer whatever is remembered when it is made. An embedder that gives
every text a vector of its own is asked in such requests, and then the batches in which chunks are
embedded do not matter.
-/

namespace DocIndex

variable {Memory Component Result Other : Type}

/-- A request with the same answer whatever is remembered. -/
def Always (request : ExceptT Error (StateM Memory) Result) (answer : Except Error Result) : Prop :=
  ∀ memory, (request.run.run memory).1 = answer

theorem Always.run_eq {request : ExceptT Error (StateM Memory) Result}
    {answer : Except Error Result} (always : Always request answer) (memory : Memory) :
    request.run.run memory = (answer, (request.run.run memory).2) :=
  Prod.ext (always memory) rfl

theorem Always.bind {first : ExceptT Error (StateM Memory) Result}
    {next : Result → ExceptT Error (StateM Memory) Other} {value : Result}
    {answer : Except Error Other} (begins : Always first (.ok value))
    (continues : Always (next value) answer) : Always (first >>= next) answer := by
  intro memory
  rw [Embedding.run_bind_of_eq_ok next (begins.run_eq memory)]
  exact continues _

theorem Always.bind_error {first : ExceptT Error (StateM Memory) Result}
    (next : Result → ExceptT Error (StateM Memory) Other) {error : Error}
    (fails : Always first (.error error)) : Always (first >>= next) (.error error) := by
  intro memory
  rw [ExceptT.run_bind, StateT.run_bind, fails.run_eq memory]
  rfl

namespace Embedding

variable {width : Nat} {vectorOf : String → List Component} {embedder : Embedder Memory Component}

end Embedding

end DocIndex
