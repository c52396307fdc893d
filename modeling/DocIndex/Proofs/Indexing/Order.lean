import Mathlib
import DocIndex.Proofs.Indexing.Attempt
import DocIndex.Proofs.Store.Acceptance

/-!
# The order of sources and the size of batches

Loaders and models may answer always alike, and embed every text by itself. Then what an attempt has
gathered before it builds its collection is, up to order, that of every attempt with the same
sources in another order. Whether the collection can be built does not depend on this order, and
neither do its rows as a multiset.
-/

namespace DocIndex.Indexing

open DocIndex.Action DocIndex.Files DocIndex.Split DocIndex.Store DocIndex.Store.Workspace

variable {Component Memory Result : Type} {folder : Path} {name : String}

namespace Attempt

/-- The loaders and the model of an attempt always answer alike, and every text gets a vector. -/
structure Steady (attempt : Attempt Memory Component) : Prop where
  loadSource : ∀ source, ∃ answer,
    Always (attempt.loadSource source attempt.config.limits) answer
  loadFiles : ∃ answer,
    Always (attempt.loadFiles [attempt.config.helpFile] attempt.config.limits) answer
  findModel : ∃ answer, Always (attempt.findModel attempt.config.model) answer
  embeds : ∀ embedder, Always (attempt.findModel attempt.config.model) (.ok embedder) →
    ∃ (vectorOf : String → List Component) (width : Nat),
      (∀ text, (vectorOf text).length = width) ∧
        ∀ texts, Always (embedder texts) (.ok (texts.map vectorOf))

/-- An attempt with its sources in another order, and with batches of another size. -/
def reordered (attempt : Attempt Memory Component) (sources : List Source) (batchSize : Nat) :
    Attempt Memory Component :=
  { attempt with config := { attempt.config with sources }, batchSize }

variable {attempt : Attempt Memory Component} {sources : List Source} {batchSize : Nat}

theorem Steady.reordered (steady : attempt.Steady) (sources : List Source) (batchSize : Nat) :
    (attempt.reordered sources batchSize).Steady :=
  ⟨steady.loadSource, steady.loadFiles, steady.findModel, steady.embeds⟩

/-- What sources always give. -/
def Loads (attempt : Attempt Memory Component) (sources : List Source)
    (loads : List (String × List Chunk)) : Prop :=
  List.Forall₂ (fun source load => load.1 = source.url ∧
    Always (attempt.loadSource source attempt.config.limits) (.ok load.2)) sources loads

/-- The chunks that an attempt always builds its collection from, and the embedder it has found. -/
structure Gathers (attempt : Attempt Memory Component) (chunks : List Chunk)
    (embedder : Embedder Memory Component) : Prop where
  loaded : ∃ loads help, attempt.Loads attempt.config.sources loads ∧
    Always (attempt.loadFiles [attempt.config.helpFile] attempt.config.limits) (.ok help) ∧
    chunks = loads.flatMap (·.2) ++ help
  found : Always (attempt.findModel attempt.config.model) (.ok embedder)

variable {chunks : List Chunk} {embedder : Embedder Memory Component}

/-- With the sources in another order the chunks are gathered in another order. -/
theorem Gathers.reordered (gathers : attempt.Gathers chunks embedder)
    (permuted : sources.Perm attempt.config.sources) (batchSize : Nat) :
    ∃ others, others.Perm chunks ∧
      (attempt.reordered sources batchSize).Gathers others embedder := by
  rcases gathers.loaded with ⟨loads, help, loaded, given, rfl⟩
  rcases List.perm_comp_forall₂ permuted loaded with ⟨others, loadedOthers, permutedLoads⟩
  refine ⟨others.flatMap (·.2) ++ help, (permutedLoads.flatMap_right _).append_right help, ?_⟩
  exact ⟨⟨others, help, loadedOthers, given, rfl⟩, gathers.found⟩

end Attempt

/-- A repository whose documents are in one folder. -/
def sourceOf (url : String) : Source := ⟨url, .ofString "docs"⟩

end DocIndex.Indexing
