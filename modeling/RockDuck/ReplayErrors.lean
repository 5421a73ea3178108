import RockDuck.WalReplay

/-!
# Fatal errors of the replay

The closure that replays the log keeps a fatal error aside and goes on to the
next record; the error is looked at when the reader is through.
-/

namespace RockDuck

open List ReplayState

abbrev ApplyCall := WalOp × Except RockDuckError Unit

/-- The call fails with an error that is classified as fatal. -/
def ApplyCall.Fatal (classify : RockDuckError → TxnId → ReplayErrorKind)
    (call : ApplyCall) : Prop :=
  ∃ error message, call.2 = .error error ∧ classify error call.1.txnId = .fatal message

/-- The function `apply` together with the calls made to it and their
outcomes. -/
def noting {World : Type*} (apply : World → WalOp → World × Except RockDuckError Unit)
    (state : World × List ApplyCall) (op : WalOp) :
    (World × List ApplyCall) × Except RockDuckError Unit :=
  (((apply state.1 op).1, state.2 ++ [(op, (apply state.1 op).2)]), (apply state.1 op).2)

section

variable {World : Type*} (classify : RockDuckError → TxnId → ReplayErrorKind)
    (apply : World → WalOp → World × Except RockDuckError Unit)

/-- What is known of the calls made for one batch. -/
structure CallsOf (world : World) (batch : TxnId × List WalOp) (calls : List ApplyCall) :
    Prop where
  nil_iff : calls = [] ↔ batch.2 = []
  fatal_iff : (∃ call ∈ calls, call.Fatal classify) ↔ FailsFatally classify apply world batch
  last : calls.Pairwise fun call _ => ¬ call.Fatal classify

lemma applyUntilFailure_noting {txnId} (own : ∀ op ∈ ops, op.txnId = txnId) (world : World) (calls) :
    ∃ made, applyUntilFailure (noting apply) (world, calls) ops =
        (((applyUntilFailure apply world ops).1, calls ++ made),
          (applyUntilFailure apply world ops).2) ∧
      CallsOf classify apply world (txnId, ops) made := by
  induction ops generalizing world calls with
  | nil =>
    refine ⟨[], by simp [applyUntilFailure], by simp, ?_, Pairwise.nil⟩
    simp [FailsFatally, applyUntilFailure]
  | cons op ops ih =>
    obtain ⟨ownOp, ownOps⟩ := forall_mem_cons.mp own
    have call : noting apply (world, calls) op =
        (((apply world op).1, calls ++ [(op, (apply world op).2)]), (apply world op).2) := rfl
    rcases out : apply world op with ⟨after, error | done⟩
    · rw [out] at call
      refine ⟨[(op, .error error)], by simp [applyUntilFailure, call, out], by simp, ?_,
        pairwise_singleton _ _⟩
      simp [FailsFatally, ApplyCall.Fatal, applyUntilFailure, out, ownOp]
    · rw [out] at call
      obtain ⟨made, noted, of⟩ := ih ownOps after (calls ++ [(op, .ok done)])
      have harmless : ¬ ApplyCall.Fatal classify (op, .ok done) := by simp [ApplyCall.Fatal]
      refine ⟨(op, .ok done) :: made, ?_, by simp, ?_, pairwise_cons.mpr ⟨fun _ _ => harmless, of.last⟩⟩
      · simp [applyUntilFailure, call, out, noted]
      · simp only [exists_mem_cons_iff, harmless, false_or, of.fatal_iff]
        simp [FailsFatally, applyUntilFailure, out]

/-- Nothing is left to apply after a batch that fails fatally. -/
def FatalIsLast (world : World) (batches : List (TxnId × List WalOp)) : Prop :=
  ∀ front batch rest, batches = front ++ batch :: rest →
    FailsFatally classify apply (applyBatches apply world front) batch →
      ∀ later ∈ rest, later.2 = []

lemma fatalIsLast_cons (world : World) (batch batches) :
    FatalIsLast classify apply world (batch :: batches) ↔
      (FailsFatally classify apply world batch → ∀ later ∈ batches, later.2 = []) ∧
        FatalIsLast classify apply (applyUntilFailure apply world batch.2).1 batches := by
  constructor
  · intro last
    exact ⟨last [] batch batches rfl, fun front other rest split =>
      last (batch :: front) other rest (by rw [split, cons_append])⟩
  · rintro ⟨first, others⟩ front other rest split fails
    rcases front with _ | ⟨head, front⟩
    · obtain ⟨rfl, rfl⟩ := cons_eq_cons.mp split
      exact first fails
    · obtain ⟨rfl, rfl⟩ := cons_eq_cons.mp split
      exact others front other rest rfl fails

/-- The calls made for the batches of a log: none comes after a fatal one
exactly when a fatal batch is the last with an operation. -/
lemma applyBatches_noting (own : ∀ batch ∈ batches, ∀ op ∈ batch.2, op.txnId = batch.1)
    (world : World) (calls) : ∃ made, applyBatches (noting apply) (world, calls) batches =
        (applyBatches apply world batches, calls ++ made) ∧
      (made = [] ↔ ∀ batch ∈ batches, batch.2 = []) ∧
      ((∃ call ∈ made, call.Fatal classify) → ∃ front batch rest,
        batches = front ++ batch :: rest ∧
          FailsFatally classify apply (applyBatches apply world front) batch) ∧
      ((made.Pairwise fun call _ => ¬ call.Fatal classify) ↔
        FatalIsLast classify apply world batches) := by
  induction batches generalizing world calls with
  | nil => exact ⟨[], by simp [applyBatches], by simp, by simp, by simp [FatalIsLast]⟩
  | cons batch batches ih =>
    obtain ⟨ownBatch, ownRest⟩ := forall_mem_cons.mp own
    obtain ⟨first, noted, of⟩ := applyUntilFailure_noting classify apply ownBatch world calls
    obtain ⟨others, rest, nil, fatal, last⟩ := ih ownRest (applyUntilFailure apply world batch.2).1
      (calls ++ first)
    refine ⟨first ++ others, ?_, ?_, ?_, ?_⟩
    · simp only [applyBatches, foldl_cons, noted] at rest ⊢
      rw [rest, append_assoc]
    · rw [append_eq_nil_iff, of.nil_iff, nil, forall_mem_cons]
    · simp only [mem_append, or_and_right, exists_or]
      rintro (here | later)
      · exact ⟨[], batch, batches, rfl, of.fatal_iff.mp here⟩
      · obtain ⟨front, other, after, rfl, fails⟩ := fatal later
        exact ⟨batch :: front, other, after, rfl, fails⟩
    · rw [pairwise_append, last, fatalIsLast_cons, ← of.fatal_iff, ← nil]
      constructor
      · rintro ⟨-, later, apart⟩
        refine ⟨?_, later⟩
        rintro ⟨call, mem, fatal⟩
        exact eq_nil_iff_forall_not_mem.mpr fun other among => apart call mem other among fatal
      · rintro ⟨none, later⟩
        refine ⟨of.last, later, fun call mem other among fatal => ?_⟩
        rw [none ⟨call, mem, fatal⟩] at among
        exact not_mem_nil among

end

lemma owner_of_mem_committedBatches {log : List WalOp}
    (mem : batch ∈ walView.committedBatches log) : ∀ op ∈ batch.2, op.txnId = batch.1 := by
  intro op inBatch
  obtain ⟨-, -, -, -, -, operates, -⟩ := LogView.position_of_mem_committedBatches mem inBatch
  exact (LogView.operates_iff.mp operates).1

/-- A fatal error makes the replay fail, but it stops the replay only where
nothing is left to apply: no call of `apply` follows a fatal one exactly when
no later committed transaction has an operation. -/
theorem replay_stops_at_fatal_iff {World : Type*}
    (classify : RockDuckError → TxnId → ReplayErrorKind)
    (apply : World → WalOp → World × Except RockDuckError Unit) (world : World)
    (records : List WalOp) (readerError : Option String) :
    let replayed := replayCommittedOpsWith classify (noting apply) (world, []) records readerError
    ((∃ call ∈ replayed.1.2, call.Fatal classify) → ∃ error, replayed.2 = .error error) ∧
      ((replayed.1.2.Pairwise fun call _ => ¬ call.Fatal classify) ↔
        FatalIsLast classify apply world (walView.committedBatches records)) := by
  intro replayed
  have own : ∀ batch ∈ walView.committedBatches records, ∀ op ∈ batch.2, op.txnId = batch.1 :=
    fun _ => owner_of_mem_committedBatches
  obtain ⟨made, noted, -, fatal, last⟩ := applyBatches_noting classify apply own world []
  have calls : replayed.1.2 = made := by
    rw [world_replayCommittedOpsWith, noted, nil_append]
  rw [calls]
  refine ⟨fun called => ?_, last⟩
  obtain ⟨front, batch, rest, split, error, message, failed, kind⟩ := fatal called
  rw [split] at own
  obtain ⟨earlier, before, -⟩ := applyBatches_noting classify apply
    (fun other mem => own other (mem_append_left _ mem)) world []
  obtain ⟨_, here, -⟩ := applyUntilFailure_noting classify apply
    (own batch (mem_append_right _ mem_cons_self)) (applyBatches apply world front) ([] ++ earlier)
  have kept := (fatalError_replayRecordsWith classify (noting apply) (world, []) records).mpr
    ⟨front, batch, rest, split, error, message, by rw [before, here, failed], kind⟩
  obtain ⟨first, kept⟩ := Option.isSome_iff_exists.mp kept
  unfold replayed replayCommittedOpsWith
  cases readerError with
  | some message => exact ⟨_, rfl⟩
  | none => exact ⟨first, by simp [kept]⟩

private def twoDeletes : List WalOp :=
  [⟨.delete, 1, .delete "t" [1] [] "seg_0_c0" 0 0⟩, ⟨.commit, 1, .commit 1 none⟩,
    ⟨.delete, 2, .delete "t" [2] [] "seg_0_c0" 0 1⟩, ⟨.commit, 2, .commit 2 none⟩]

/-- The second transaction is applied although the first failed fatally. -/
theorem applied_after_fatal_error :
    ¬ ∀ (classify : RockDuckError → TxnId → ReplayErrorKind) (records : List WalOp),
      ((replayCommittedOpsWith classify (noting fun (world : Unit) _ => (world, .error (.write "")))
        ((), []) records none).1.2.Pairwise fun call _ => ¬ call.Fatal classify) := by
  intro stops
  refine (pairwise_cons.mp (stops (fun _ _ => .fatal "") twoDeletes)).1 _ mem_cons_self
    ⟨.write "", "", rfl, rfl⟩

end RockDuck
