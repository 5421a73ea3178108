import RockDuck.ChangeStream

/-!
# Retries of a read of changes

A read of changes starts again when a flush ends while it reads.
-/

namespace RockDuck

/-- What an attempt sees: the two watermarks at its start, and the number of
flushes at its end. -/
structure ReadWindow where
  committed : TxnId
  since : TxnId
  flushEpoch : Nat

/-- A call of `read_changes` among flushes: the number of flushes is read once, and
every attempt after it. -/
structure ReadExecution where
  capturedEpoch : Nat
  window : Nat → ReadWindow
  captured_le : capturedEpoch ≤ (window 0).flushEpoch
  epoch_mono : Monotone fun attempt => (window attempt).flushEpoch

namespace ReadExecution

/-- The attempt at which the call returns, among so many from a given one. -/
def returnsWithin (execution : ReadExecution) : Nat → Nat → Option Nat
  | 0, _ => none
  | attempts + 1, attempt =>
    let window := execution.window attempt
    if window.committed ≤ window.since then some attempt
    else if window.flushEpoch = execution.capturedEpoch then some attempt
    else execution.returnsWithin attempts (attempt + 1)

def Returns (execution : ReadExecution) : Prop :=
  ∃ attempts, (execution.returnsWithin attempts 0).isSome = true

variable (execution : ReadExecution)

lemma isSome_returnsWithin_iff (attempts first : Nat) :
    (execution.returnsWithin attempts first).isSome = true ↔
      ∃ attempt, first ≤ attempt ∧ attempt < first + attempts ∧
        ((execution.window attempt).committed ≤ (execution.window attempt).since ∨
          (execution.window attempt).flushEpoch = execution.capturedEpoch) := by
  induction attempts generalizing first with
  | zero =>
    simp only [returnsWithin, Option.isSome_none, Bool.false_eq_true, false_iff]
    rintro ⟨attempt, least, most, -⟩
    omega
  | succ attempts ih =>
    rw [returnsWithin]
    split
    · rename_i nothing
      exact iff_of_true rfl ⟨first, le_rfl, by omega, Or.inl nothing⟩
    · rename_i something
      split
      · rename_i unflushed
        exact iff_of_true rfl ⟨first, le_rfl, by omega, Or.inr unflushed⟩
      · rename_i flushed
        rw [ih]
        constructor
        · rintro ⟨attempt, least, most, ends⟩
          exact ⟨attempt, by omega, by omega, ends⟩
        · rintro ⟨attempt, least, most, ends⟩
          refine ⟨attempt, ?_, by omega, ends⟩
          refine Nat.lt_of_le_of_ne least ?_
          rintro rfl
          exact ends.elim something flushed

/-- A read returns exactly when no flush ends before its first attempt does, or
an attempt finds nothing to read. -/
theorem returns_iff :
    execution.Returns ↔ (execution.window 0).flushEpoch = execution.capturedEpoch ∨
      ∃ attempt, (execution.window attempt).committed ≤ (execution.window attempt).since := by
  simp only [Returns, isSome_returnsWithin_iff]
  constructor
  · rintro ⟨attempts, attempt, -, -, nothing | unflushed⟩
    · exact Or.inr ⟨attempt, nothing⟩
    · have grown : (execution.window 0).flushEpoch ≤ (execution.window attempt).flushEpoch :=
        execution.epoch_mono (Nat.zero_le attempt)
      exact Or.inl (le_antisymm (grown.trans unflushed.le) execution.captured_le)
  · rintro (unflushed | ⟨attempt, nothing⟩)
    · exact ⟨1, 0, le_rfl, by omega, Or.inr unflushed⟩
    · exact ⟨attempt + 1, attempt, Nat.zero_le _, by omega, Or.inl nothing⟩

/-- One flush ends during the first attempt, and a change is committed. -/
def oneFlush : ReadExecution where
  capturedEpoch := 0
  window _ := ⟨1, 0, 1⟩
  captured_le := by decide
  epoch_mono _ _ _ := le_rfl

theorem oneFlush_not_returns : ¬ oneFlush.Returns := by
  simp [returns_iff, oneFlush]

end ReadExecution

end RockDuck
