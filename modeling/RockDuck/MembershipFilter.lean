import Mathlib

/-!
# Membership filters

A filter marks some positions for every key that is inserted, and reports a key
when all positions of the key are marked.
-/

namespace RockDuck

variable {Key Position : Type*}

/-- The positions that the keys mark. -/
def marks (probes : Key → List Position) (keys : List Key) : Set Position :=
  {position | ∃ key ∈ keys, position ∈ probes key}

/-- All positions of the key are marked. -/
def Reports (probes : Key → List Position) (marked : Set Position) (key : Key) : Prop :=
  ∀ position ∈ probes key, position ∈ marked

lemma reports_of_mem {probes : Key → List Position} {keys : List Key}
    {key : Key} (mem : key ∈ keys) : Reports probes (marks probes keys) key :=
  fun _ probed => ⟨key, mem, probed⟩

lemma Reports.mono {probes : Key → List Position} {marked more : Set Position} {key : Key}
    (reported : Reports probes marked key) (subset : marked ⊆ more) : Reports probes more key :=
  fun pos probed => subset (reported pos probed)

end RockDuck
