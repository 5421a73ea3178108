import Mathlib

/-!
# The life of a transaction

Independently of any storage, a transaction id is idle until it is begun,
active until it is committed or aborted, and a committed id stays committed.
-/

namespace RockDuck

/-- Where a transaction id is in its life.  A committed id carries the stamp
it was committed with. -/
inductive Phase (Stamp : Type*) where
  | idle
  | active
  | committed (stamp : Stamp)
  | aborted

/-- What happens to a transaction. -/
inductive LedgerAction (Id Stamp : Type*) where
  | begin (id : Id)
  | commit (id : Id) (stamp : Stamp)
  | abort (id : Id)
  | keep

/-- The phase of every transaction. -/
abbrev Ledger (Id Stamp : Type*) := Id → Phase Stamp

namespace Ledger

variable {Id Stamp : Type*}

def empty : Ledger Id Stamp := fun _ => .idle

/-- Record an action. -/
def record [DecidableEq Id] (ledger : Ledger Id Stamp) : LedgerAction Id Stamp → Ledger Id Stamp
  | .begin target, id =>
    if id = target then
      match ledger id with
      | .committed stamp => .committed stamp
      | _ => .active
    else ledger id
  | .commit target stamp, id =>
    if id = target then
      match ledger id with
      | .active => .committed stamp
      | phase => phase
    else ledger id
  | .abort target, id =>
    if id = target then
      match ledger id with
      | .active => .aborted
      | phase => phase
    else ledger id
  | .keep, id => ledger id

variable [DecidableEq Id]

@[simp]
lemma record_keep (ledger : Ledger Id Stamp) : ledger.record .keep = ledger := rfl

variable {ledger : Ledger Id Stamp} {id : Id} {stamp : Stamp}

lemma record_abort_of_not_active (inactive : ledger id ≠ .active) :
    ledger.record (.abort id) = ledger := by
  funext other
  by_cases same : other = id
  · subst other
    cases phase : ledger id <;> simp_all [record]
  · simp [record, same]

lemma record_committed (committed : ledger id = .committed stamp)
    (action) : ledger.record action id = .committed stamp := by
  cases action <;> simp [record, committed]

lemma committed_of_record {action}
    (committed : ledger.record action id = .committed stamp) : ledger id = .committed stamp ∨
      (ledger id = .active ∧ action = .commit id stamp) := by
  cases action with
  | begin target =>
    left
    by_cases same : id = target
    · subst target
      cases phase : ledger id <;> simp [record, phase] at committed ⊢
      exact committed
    · simpa [record, same] using committed
  | commit target targetStamp =>
    by_cases same : id = target
    · subst target
      cases phase : ledger id <;> simp [record, phase] at committed ⊢ <;>
        simp [committed]
    · left
      simpa [record, same] using committed
  | abort target =>
    left
    by_cases same : id = target
    · subst target
      cases phase : ledger id <;> simp [record, phase] at committed ⊢
      exact committed
    · simpa [record, same] using committed
  | keep => exact Or.inl committed

/-- The ledger after some actions. -/
def after (actions : List (LedgerAction Id Stamp)) : Ledger Id Stamp :=
  actions.foldl record empty

@[simp]
lemma after_concat (actions : List (LedgerAction Id Stamp)) (action : LedgerAction Id Stamp) :
    after (actions ++ [action]) = (after actions).record action := by
  simp [after]

lemma commit_mem_of_after {actions}
    (committed : after actions id = .committed stamp) : .commit id stamp ∈ actions := by
  induction actions using List.reverseRecOn with
  | nil => simp [after, empty] at committed
  | append_singleton actions action ih =>
    rw [after_concat] at committed
    rcases committed_of_record committed with before | ⟨-, now⟩
    · exact List.mem_append_left _ (ih before)
    · simp [now]

end Ledger

end RockDuck
