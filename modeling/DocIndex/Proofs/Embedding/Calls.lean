import DocIndex.Proofs.Embedding

/-!
# Calls of the model

A model can be made to note each of its calls with the reply, which makes no difference to what it
is used for. The calls that embed chunks follow the batches of their texts, up to the first reply
that is refused; and what they come to is decided by the replies alone.
-/

namespace DocIndex.Embedding

variable {Memory Component : Type}

/-- A call of a model: the texts that it is given, and its reply. -/
structure Exchange (Component : Type) where
  texts : List String
  reply : Except Error (List (List Component))

/-- A model that notes its calls beside what it remembers. -/
def noting (embedder : Embedder Memory Component) :
    Embedder (Memory × List (Exchange Component)) Component := fun texts =>
  ExceptT.mk fun session =>
    let answered := (embedder texts).run.run session.1
    (answered.1, answered.2, session.2 ++ [⟨texts, answered.1⟩])

/-- The vectors that calls have given. -/
def given (calls : List (Exchange Component)) : List (List Component) :=
  calls.flatMap fun call => call.reply.toOption.getD []

/-- Each call has been answered with one vector for each text, and all vectors have one width. -/
structure Sound (calls : List (Exchange Component)) : Prop where
  counted : ∀ call ∈ calls, ∃ vectors, call.reply = .ok vectors ∧
    vectors.length = call.texts.length
  uniform : ∃ width, ∀ vector ∈ given calls, vector.length = width

/-- Why a call is refused after some vectors: the error, or the first of the faults in its reply. -/
inductive Refused (before : List (List Component)) : Exchange Component → Error → Prop
  | failed {texts : List String} {error : Error} : Refused before ⟨texts, .error error⟩ error
  | miscounted {texts : List String} {vectors : List (List Component)}
      (differ : vectors.length ≠ texts.length) :
      Refused before ⟨texts, .ok vectors⟩ (wrongCount vectors.length texts.length)
  | misshapen {texts : List String} {first vector : List Component}
      {fitting later : List (List Component)}
      (counted : (fitting ++ vector :: later).length = texts.length)
      (head : first ∈ (before ++ (fitting ++ vector :: later)).head?)
      (fits : ∀ other ∈ fitting, other.length = first.length)
      (differ : vector.length ≠ first.length) :
      Refused before ⟨texts, .ok (fitting ++ vector :: later)⟩
        (wrongWidth vector.length first.length)

theorem given_append (calls others : List (Exchange Component)) :
    given (calls ++ others) = given calls ++ given others :=
  List.flatMap_append

theorem given_concat_ok (calls : List (Exchange Component)) (texts : List String)
    (vectors : List (List Component)) :
    given (calls ++ [⟨texts, .ok vectors⟩]) = given calls ++ vectors := by
  rw [given_append]
  exact congrArg _ (List.append_nil vectors)

/-- The width that is found in the calls so far. -/
def widthOf (calls : List (Exchange Component)) : Option Nat :=
  widthWith none (given calls)

theorem widthOf_concat_ok (calls : List (Exchange Component)) (texts : List String)
    (vectors : List (List Component)) :
    widthOf (calls ++ [⟨texts, .ok vectors⟩]) = widthWith (widthOf calls) vectors := by
  rw [widthOf, given_concat_ok, widthWith_append, widthOf]

theorem Sound.length_given {calls : List (Exchange Component)} (sound : Sound calls) :
    (given calls).length = (calls.flatMap (·.texts)).length := by
  have each : calls.map (fun call => (call.reply.toOption.getD []).length) =
      calls.map fun call => call.texts.length := by
    apply List.map_congr_left
    intro call member
    rcases sound.counted call member with ⟨vectors, answered, counted⟩
    rw [answered]
    exact counted
  rw [given, List.length_flatMap, List.length_flatMap, each]

theorem Sound.width_eq {calls : List (Exchange Component)} (sound : Sound calls) :
    ∀ vector ∈ given calls, some vector.length = widthOf calls := by
  rcases sound.uniform with ⟨width, uniform⟩
  intro vector member
  rw [widthOf, widthWith, Option.none_or]
  generalize given calls = vectors at uniform member
  rcases vectors with _ | ⟨first, later⟩
  · contradiction
  · rw [uniform vector member, List.head?_cons, Option.map_some, uniform first List.mem_cons_self]

theorem Sound.concat {calls : List (Exchange Component)} {texts : List String}
    {vectors : List (List Component)} {found? : Option Nat} (sound : Sound calls)
    (accepted : checkReply (widthOf calls) texts.length vectors = .ok found?) :
    Sound (calls ++ [⟨texts, .ok vectors⟩]) ∧
      found? = widthOf (calls ++ [⟨texts, .ok vectors⟩]) := by
  rcases checkReply_eq_ok accepted with ⟨counted, rfl, uniform⟩
  refine ⟨⟨?_, ?_⟩, (widthOf_concat_ok calls texts vectors).symm⟩
  · intro call member
    rcases List.mem_append.mp member with before | new
    · exact sound.counted call before
    · rw [List.mem_singleton.mp new]
      exact ⟨vectors, rfl, counted⟩
  · refine ⟨(widthWith (widthOf calls) vectors).getD 0, ?_⟩
    intro vector member
    have found : some vector.length = widthWith (widthOf calls) vectors := by
      rw [given_concat_ok] at member
      rcases List.mem_append.mp member with before | new
      · rw [← sound.width_eq vector before, widthWith, Option.some_or]
      · exact uniform vector new
    rw [← found, Option.getD_some]

/-- A reply that is not accepted is refused for the reason that is given. -/
theorem refused_of_checkReply {calls : List (Exchange Component)} {texts : List String}
    {vectors : List (List Component)} {error : Error}
    (fails : checkReply (widthOf calls) texts.length vectors = .error error) :
    Refused (given calls) ⟨texts, .ok vectors⟩ error := by
  rw [checkReply] at fails
  split at fails
  · rename_i differ
    cases fails
    exact .miscounted (by simpa using differ)
  · rename_i same
    have counted : vectors.length = texts.length := by simpa using same
    have width_eq : (widthOf calls).or (vectors.head?.map List.length) =
        (given calls ++ vectors).head?.map List.length := by
      rw [widthOf, widthWith, Option.none_or, ← Option.map_or, List.head?_append]
    simp only [width_eq] at fails
    split at fails
    · rename_i vector found
      cases fails
      rcases List.find?_eq_some_iff_append.mp found with ⟨differ, fitting, later, rfl, fits⟩
      rcases head : (given calls ++ (fitting ++ vector :: later)).head? with _ | first
      · simp at head
      · rw [head] at differ fits
        exact .misshapen counted head (fun other member => by simpa using fits other member)
          (by simpa using differ)
    · cases fails

theorem Refused.not_sound {calls : List (Exchange Component)} {call : Exchange Component}
    {error : Error} (refused : Refused (given calls) call error) : ¬ Sound (calls ++ [call]) := by
  intro sound
  rcases sound.counted call (List.mem_append_right _ (List.mem_singleton_self call)) with
    ⟨vectors, answered, counted⟩
  cases refused with
  | failed => cases answered
  | miscounted differ =>
      cases answered
      exact differ counted
  | @misshapen texts first vector fitting later _ head _ differ =>
      rcases sound.uniform with ⟨width, uniform⟩
      rw [given_concat_ok] at uniform
      have inReply : vector ∈ fitting ++ vector :: later :=
        List.mem_append_right _ List.mem_cons_self
      exact differ ((uniform vector (List.mem_append_right _ inReply)).trans
        (uniform first (List.mem_of_mem_head? head)).symm)

/--
How calls for blocks of texts go on after others, and what they come to: all are made, or they end
with the first that is refused.
-/
inductive Goes (blocks : List (List String)) (before : List (Exchange Component)) :
    List (Exchange Component) → Except Error (List (List Component)) → Prop
  | through {calls : List (Exchange Component)} (each : calls.map (·.texts) = blocks)
      (sound : Sound (before ++ calls)) : Goes blocks before calls (.ok (given calls))
  | broken (calls : List (Exchange Component)) {call : Exchange Component} {error : Error}
      (isPrefix : (calls ++ [call]).map (·.texts) <+: blocks) (sound : Sound (before ++ calls))
      (refused : Refused (given (before ++ calls)) call error) :
      Goes blocks before (calls ++ [call]) (.error error)

namespace Goes

variable {blocks : List (List String)} {before calls : List (Exchange Component)}
  {result : Except Error (List (List Component))}

theorem cons {block : List String} {vectors : List (List Component)}
    (goes : Goes blocks (before ++ [⟨block, .ok vectors⟩]) calls result) :
    Goes (block :: blocks) before (⟨block, .ok vectors⟩ :: calls) (result.map (vectors ++ ·)) := by
  cases goes with
  | through each sound =>
      rw [List.append_assoc] at sound
      exact .through (congrArg (block :: ·) each) sound
  | broken calls isPrefix sound refused =>
      rw [List.append_assoc] at sound refused
      exact .broken (⟨block, .ok vectors⟩ :: calls) ((List.prefix_cons_inj block).mpr isPrefix)
        sound refused

theorem isPrefix (goes : Goes blocks before calls result) : calls.map (·.texts) <+: blocks := by
  cases goes with
  | through each _ => exact each ▸ List.prefix_refl _
  | broken _ isPrefix _ _ => exact isPrefix

theorem of_ok {vectors : List (List Component)} (goes : Goes blocks before calls (.ok vectors)) :
    calls.map (·.texts) = blocks ∧ Sound (before ++ calls) ∧ vectors = given calls := by
  cases goes with
  | through each sound => exact ⟨each, sound, rfl⟩

theorem of_error {error : Error} (goes : Goes blocks before calls (.error error)) :
    ∃ earlier last, calls = earlier ++ [last] ∧ Sound (before ++ earlier) ∧
      Refused (given (before ++ earlier)) last error := by
  cases goes with
  | broken _ _ sound refused => exact ⟨_, _, rfl, sound, refused⟩

theorem ok_iff (goes : Goes blocks before calls result) :
    (∃ vectors, result = .ok vectors) ↔ Sound (before ++ calls) := by
  cases goes with
  | through _ sound => exact ⟨fun _ => sound, fun _ => ⟨_, rfl⟩⟩
  | broken _ _ _ refused =>
      rw [← List.append_assoc]
      exact ⟨fun succeeded => by simp at succeeded, fun sound => absurd sound refused.not_sound⟩

end Goes

section Run

variable {embedder : Embedder Memory Component} {width? : Option Nat} {batch : List Chunk}
  {memory after : Memory}

theorem run_embedBatches_of_failed {error : Error} (later : List (List Chunk))
    (answered : (embedder (batch.map (·.text))).run.run memory = (.error error, after)) :
    (embedBatches embedder width? (batch :: later)).run.run memory = (.error error, after) :=
  run_bind_of_eq_error _ answered

theorem run_embedBatches_of_refused {vectors : List (List Component)} {error : Error}
    (later : List (List Chunk))
    (answered : (embedder (batch.map (·.text))).run.run memory = (.ok vectors, after))
    (refused : checkReply width? batch.length vectors = .error error) :
    (embedBatches embedder width? (batch :: later)).run.run memory = (.error error, after) := by
  rw [embedBatches, run_bind_of_eq_ok _ answered, refused]
  rfl

theorem run_embedBatches_of_accepted {vectors : List (List Component)} {found? : Option Nat}
    (later : List (List Chunk))
    (answered : (embedder (batch.map (·.text))).run.run memory = (.ok vectors, after))
    (accepted : checkReply width? batch.length vectors = .ok found?) :
    (embedBatches embedder width? (batch :: later)).run.run memory =
      (((embedBatches embedder found? later).run.run after).1.map (vectors ++ ·),
        ((embedBatches embedder found? later).run.run after).2) := by
  have checked : (ExceptT.mk (pure (checkReply width? batch.length vectors)) :
      ExceptT Error (StateM Memory) (Option Nat)).run.run after = (.ok found?, after) := by
    rw [accepted]
    rfl
  rw [embedBatches, run_bind_of_eq_ok _ answered, run_bind_of_eq_ok _ checked]
  rcases ran : (embedBatches embedder found? later).run.run after with ⟨error | others, ended⟩
  · exact run_bind_of_eq_error _ ran
  · exact run_bind_of_eq_ok _ ran

end Run

theorem run_noting {embedder : Embedder Memory Component} {texts : List String}
    {memory after : Memory} {reply : Except Error (List (List Component))}
    (answered : (embedder texts).run.run memory = (reply, after))
    (calls : List (Exchange Component)) :
    (noting embedder texts).run.run (memory, calls) =
      (reply, after, calls ++ [⟨texts, reply⟩]) := by
  have unfolded : (noting embedder texts).run.run (memory, calls) =
      (((embedder texts).run.run memory).1, ((embedder texts).run.run memory).2,
        calls ++ [⟨texts, ((embedder texts).run.run memory).1⟩]) := rfl
  rw [unfolded, answered]

/-- Batches are embedded after sound calls by calls that go as they should. -/
theorem goes_embedBatches (embedder : Embedder Memory Component) (groups : List (List Chunk))
    (memory : Memory) {before : List (Exchange Component)} (sound : Sound before) :
    let plain := (embedBatches embedder (widthOf before) groups).run.run memory
    ∃ calls, (embedBatches (noting embedder) (widthOf before) groups).run.run (memory, before) =
        (plain.1, plain.2, before ++ calls) ∧
      Goes (groups.map (List.map (·.text))) before calls plain.1 := by
  -- The calls so far are sound, and the width that is passed on is the one found in them.
  induction groups generalizing memory before with
  | nil =>
      refine ⟨[], ?_, .through rfl (by rwa [List.append_nil])⟩
      rw [List.append_nil]
      rfl
  | cons batch later ih =>
      have same : Sound (before ++ []) := by rwa [List.append_nil]
      rcases answered : (embedder (batch.map (·.text))).run.run memory with ⟨reply, after⟩
      have noted := run_noting answered before
      rcases reply with error | vectors
      · rw [run_embedBatches_of_failed later answered, run_embedBatches_of_failed later noted]
        exact ⟨_, rfl, .broken [] (List.prefix_append _ _) same .failed⟩
      · rcases checked : checkReply (widthOf before) batch.length vectors with error | found?
        · rw [run_embedBatches_of_refused later answered checked,
            run_embedBatches_of_refused later noted checked]
          rw [← List.length_map (·.text)] at checked
          refine ⟨_, rfl, .broken [] (List.prefix_append _ _) same ?_⟩
          rw [List.append_nil]
          exact refused_of_checkReply checked
        · rw [run_embedBatches_of_accepted later answered checked,
            run_embedBatches_of_accepted later noted checked]
          rw [← List.length_map (·.text)] at checked
          rcases sound.concat checked with ⟨soundToo, rfl⟩
          rcases ih after soundToo with ⟨calls, ran, goes⟩
          have goesOn := goes.cons
          refine ⟨_, ?_, goesOn⟩
          rw [ran, List.append_assoc]
          rfl

/--
A model that notes its calls gives the same vectors or the same error, and is left with the same
memory. It has been called for consecutive blocks of the texts; chunks have been embedded exactly
when its calls are sound, and then by all of them; otherwise the last call has been refused.
-/
theorem embedChunks_calls (embedder : Embedder Memory Component) (batchSize : Nat)
    (chunks : List Chunk) (memory : Memory) :
    let plain := (embedChunks embedder batchSize chunks).run.run memory
    let noted := (embedChunks (noting embedder) batchSize chunks).run.run (memory, [])
    let calls := noted.2.2
    plain = (noted.1, noted.2.1) ∧
      (∃ blocks, Blocks (max 1 batchSize) (chunks.map (·.text)) blocks ∧
        calls.map (·.texts) <+: blocks ∧
        ((∃ vectors, plain.1 = .ok vectors) → calls.map (·.texts) = blocks)) ∧
      (chunks = [] → calls = []) ∧
      ((∃ vectors, plain.1 = .ok vectors) ↔ Sound calls) ∧
      (∀ vectors, plain.1 = .ok vectors → vectors = given calls ∧
        vectors.length = chunks.length) ∧
      ∀ error, plain.1 = .error error → ∃ earlier last, calls = earlier ++ [last] ∧
        Sound earlier ∧ Refused (given earlier) last error := by
  intro plain noted calls
  have start : Sound ([] : List (Exchange Component)) := ⟨by simp, 0, by simp [given]⟩
  rcases goes_embedBatches embedder (batches batchSize chunks) memory start with
    ⟨made, ran, followed⟩
  have noted_eq : noted = (plain.1, plain.2, made) := ran
  have goes : Goes ((batches batchSize chunks).map (List.map (·.text))) [] made plain.1 := followed
  have blocks := blocks_batches batchSize (chunks.map (·.text))
  rw [batches_map] at blocks
  have calls_eq : calls = made := congrArg (·.2.2) noted_eq
  rw [noted_eq, calls_eq]
  refine ⟨rfl, ⟨_, blocks, goes.isPrefix, ?_⟩, ?_, goes.ok_iff, ?_, ?_⟩
  · rintro ⟨vectors, succeeded⟩
    exact (succeeded ▸ goes).of_ok.1
  · rintro rfl
    have none := goes.isPrefix
    rw [batches_nil] at none
    exact List.map_eq_nil_iff.mp (List.prefix_nil.mp none)
  · intro vectors succeeded
    rcases (succeeded ▸ goes).of_ok with ⟨each, sound, rfl⟩
    have counted := sound.length_given
    rw [List.nil_append, List.flatMap_def, each, blocks.whole, List.length_map] at counted
    exact ⟨rfl, counted⟩
  · intro error failed
    exact (failed ▸ goes).of_error

end DocIndex.Embedding
