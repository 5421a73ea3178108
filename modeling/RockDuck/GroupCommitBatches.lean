import RockDuck.GroupCommit

/-!
# Batches of a group commit

Every interleaving conserves the queued records: they are in the log, in the
hands of the leader or in the queue, in the order in which they were queued.
-/

namespace RockDuck

open List

/-- The batch that a leader has taken. -/
def LeaderPhase.batch : LeaderPhase → List QueuedOp
  | .writing batch | .requeueing batch => batch
  | .storing _ next => next.batch
  | _ => []

attribute [local simp] LeaderPhase.batch

/-- The records that a failed write leaves in the log. -/
def Leader.leftBehind (leader : Leader) : Option BatchOutcome → List QueuedOp
  | none | some .synced => []
  | some outcome =>
    match leader.phase with
    | .writing batch => outcome.written batch
    | _ => []

namespace GroupCommit

/-- The records that still have to be written, in their order: those the leader
holds and those in the queue. -/
def unwritten (state : GroupCommit) : List QueuedOp :=
  state.leader.elim [] (fun leader => leader.phase.batch) ++ state.queue

/-- What an event puts into the queue. -/
def queuedBy (state : GroupCommit) : GroupCommitEvent → List QueuedOp
  | .append id op => if (state.calls id).isNone then [⟨id, op⟩] else []
  | _ => []

/-- The records that a step leaves in the log although they stay queued. -/
def leftBehind (state : GroupCommit) : GroupCommitEvent → List QueuedOp
  | .append _ _ => []
  | .advance id outcome =>
    match state.calls id, state.leader with
    | some _, some leader =>
      if leader.agent = .call id then leader.leftBehind (some outcome)
      else []
    | _, _ => []
  | .flusher outcome =>
    match state.leader with
    | some leader =>
      if leader.agent = .flusher then leader.leftBehind outcome else []
    | none => []

lemma unwritten_of_leader {state : GroupCommit} {leader}
    (held : state.leader = some leader) : state.unwritten = leader.phase.batch ++ state.queue := by
  simp [unwritten, held]

variable (state : GroupCommit) (agent : LeaderAgent)

@[simp]
lemma unwritten_lead (leader phase) :
    (state.lead leader phase).unwritten = phase.batch ++ state.queue :=
  rfl

@[simp]
lemma log_lead (leader phase) : (state.lead leader phase).log = state.log :=
  rfl

@[simp]
lemma queue_perform (store) : (state.perform store).queue = state.queue := by
  cases store <;> rfl

@[simp]
lemma log_perform (store) : (state.perform store).log = state.log := by
  cases store <;> rfl

@[simp]
lemma batch_whenEmpty : agent.whenEmpty.batch = [] := by
  cases agent <;> rfl

@[simp]
lemma batch_whenSynced : agent.whenSynced.batch = [] := by
  cases agent <;> rfl

@[simp]
lemma batch_whenFailed (batch) : (agent.whenFailed batch).batch = batch := by
  cases agent <;> rfl

/-- What one step does to the records on their way to the log: `queued` joins
them at the end, and `left` is written without leaving them. -/
structure Moves (before after : GroupCommit) (queued left : List QueuedOp) :
    Prop where
  order : left = [] →
    after.log.appended ++ after.unwritten =
      before.log.appended ++ (before.unwritten ++ queued)
  length :
    after.log.appended.length + after.unwritten.length =
      before.log.appended.length +
        (before.unwritten.length + queued.length + left.length)
  flushed : before.log.flushed = before.log.appended ∨ before.unwritten ≠ [] →
    after.log.flushed = after.log.appended ∨ after.unwritten ≠ []

lemma moves_of_eq {before after : GroupCommit} (log : after.log = before.log)
    (unwritten : after.unwritten = before.unwritten) : Moves before after [] [] := by
  constructor <;> simp [log, unwritten]

lemma moves_refl : Moves state state [] [] := moves_of_eq rfl rfl

lemma waitForBatchFlushStrict_moves (id : Nat) (call) :
    Moves state (state.waitForBatchFlushStrict id call) [] [] := by
  cases phase : call.phase with
  | claiming =>
    simp only [waitForBatchFlushStrict, phase]
    cases held : state.leader with
    | none =>
      exact moves_of_eq rfl (by
        simp [unwritten, held, setPhase])
    | some leader => exact moves_of_eq rfl rfl
  | waiting =>
    simp only [waitForBatchFlushStrict, phase]
    split <;> exact moves_of_eq rfl rfl
  | _ =>
    simp only [waitForBatchFlushStrict, phase]
    exact moves_of_eq rfl rfl

section

variable {state : GroupCommit} {leader : Leader} (held : state.leader = some leader)
include held

lemma write_moves {batch} (writing : leader.phase = .writing batch)
    (out : BatchOutcome) : Moves state ({ state with log := state.log.write batch out }.lead leader
        (if out = BatchOutcome.synced then leader.agent.whenSynced
          else leader.agent.whenFailed batch))
      [] (leader.leftBehind (some out)) := by
  have before : state.unwritten = batch ++ state.queue := by
    simp [unwritten_of_leader held, writing]
  by_cases synced : out = .synced
  · subst synced
    constructor <;>
      simp [before, CommitLog.write, BatchOutcome.written, Leader.leftBehind, Nat.add_assoc]
  · have left : leader.leftBehind (some out) = out.written batch := by
      cases out <;> simp_all [Leader.leftBehind]
    rw [left]
    constructor
    · intro nothing
      simp [before, CommitLog.write, nothing, synced]
    · simp only [before, CommitLog.write, synced, if_false, log_lead,
        unwritten_lead, batch_whenFailed, length_append, length_nil]
      omega
    · -- a batch that is refused stays in flight, unless it is empty
      intro old
      by_cases empty : batch = []
      · have nothing : out.written batch = [] := by
          cases out <;> simp [BatchOutcome.written, empty]
        simpa [before, CommitLog.write, nothing, synced] using old
      · exact Or.inr (by simp [synced, empty])

/-- Outside its write the leader only passes records between the queue and its
own hands. -/
lemma leaderStep_keeps (elsewhere : ∀ batch, leader.phase ≠ .writing batch)
    (out) : (state.leaderStep leader out).log = state.log ∧
      (state.leaderStep leader out).unwritten = state.unwritten := by
  rw [unwritten_of_leader held]
  cases phase : leader.phase with
  | writing batch => exact absurd phase (elsewhere batch)
  | retrying =>
    simp only [leaderStep, phase, log_lead, unwritten_lead, true_and]
    split <;> rfl
  | clearing => simp [leaderStep, phase]
  | draining =>
    simp only [leaderStep, phase, log_lead, unwritten_lead, true_and]
    split
    case isTrue empty => simp [empty]
    case isFalse => simp
  | requeueing batch =>
    cases agent : leader.agent <;>
      simp [leaderStep, phase, agent]
  | storing stores next =>
    cases stores with
    | nil => simp [leaderStep, phase]
    | cons store stores =>
      simp only [leaderStep, phase, log_lead, log_perform, unwritten_lead, queue_perform, true_and]
      split <;> rfl
  | checking =>
    simp only [leaderStep, phase]
    split
    · exact ⟨rfl, rfl⟩
    · split <;> exact ⟨rfl, rfl⟩
  | releasing => exact ⟨by simp [leaderStep, phase, releaseLeadership],
      by simp [leaderStep, phase, releaseLeadership, unwritten]⟩

lemma leaderStep_moves (out) :
    Moves state (state.leaderStep leader out) [] (leader.leftBehind out) := by
  by_cases writing : ∃ batch, leader.phase = .writing batch
  · obtain ⟨batch, phase⟩ := writing
    cases out with
    | some out => simpa [leaderStep, phase] using write_moves held phase out
    | none =>
      simp only [leaderStep, phase, Leader.leftBehind]
      cases leader.agent with
      | call id => exact moves_refl state
      | flusher =>
        exact moves_of_eq rfl (by
          simp [unwritten_of_leader held, phase])
  · push Not at writing
    obtain ⟨log, unwritten⟩ := leaderStep_keeps held writing out
    have left : leader.leftBehind out = [] := by
      unfold Leader.leftBehind
      split
      · rfl
      · rfl
      · split
        case h_1 batch phase => exact absurd phase (writing batch)
        case h_2 => rfl
    rw [left]
    exact moves_of_eq log unwritten

end

lemma queueCommitForBatch_moves (id : Nat) (op) :
    Moves state (state.queueCommitForBatch id op) [⟨id, op⟩] [] := by
  have log : (state.queueCommitForBatch id op).log = state.log := rfl
  have after : (state.queueCommitForBatch id op).unwritten = state.unwritten ++ [⟨id, op⟩] := by
    simp [unwritten, queueCommitForBatch]
  constructor <;> simp [log, after]

lemma step_moves (event) :
    Moves state (state.step event) (state.queuedBy event) (state.leftBehind event) := by
  unfold step queuedBy leftBehind
  cases event with
  | append id op =>
    cases found : state.calls id with
    | none => simpa [found] using queueCommitForBatch_moves state id op
    | some call => simpa [found] using moves_refl state
  | advance id out =>
    cases found : state.calls id with
    | none => simpa [found] using moves_refl state
    | some call =>
      cases held : state.leader with
      | none => simpa [*] using waitForBatchFlushStrict_moves state id call
      | some leader =>
        by_cases own : leader.agent = .call id
        · simpa [*] using leaderStep_moves held (some out)
        · simpa [*] using waitForBatchFlushStrict_moves state id call
  | flusher out =>
    cases held : state.leader with
    | none =>
      exact moves_of_eq rfl (by simp [unwritten, held])
    | some leader =>
      by_cases own : leader.agent = .flusher
      · simpa [*] using leaderStep_moves held out
      · simp only [own, if_false]
        exact moves_refl state

end GroupCommit

open GroupCommit

lemma groupCommit_conserves (events : List GroupCommitEvent) :
    let state := groupCommitMachine.stateAfter events
    let queued := groupCommitMachine.collect queuedBy events
    let left := groupCommitMachine.collect leftBehind events
    (left = [] → state.log.appended ++ state.unwritten = queued) ∧
      state.log.appended.length + state.unwritten.length =
        queued.length + left.length ∧
      (state.log.flushed = state.log.appended ∨ state.unwritten ≠ []) := by
  induction events using List.reverseRecOn with
  | nil => simp [Machine.stateAfter, groupCommitMachine, GroupCommit.new, unwritten]
  | append_singleton events event ih =>
    obtain ⟨order, length, flushed⟩ := ih
    have moved := step_moves (groupCommitMachine.stateAfter events) event
    simp only [Machine.stateAfter_concat, Machine.collect_concat, groupCommitMachine_next]
    refine ⟨?_, ?_, moved.flushed flushed⟩
    · intro nothing
      rw [append_eq_nil_iff] at nothing
      rw [← order nothing.1, append_assoc]
      exact moved.order nothing.2
    · have stepLength := moved.length
      simp only [length_append]
      omega

/-- Once nothing is left to write, the durable log holds the queued records,
each once and in their order, exactly when no failed write had put a part of
its batch into the log. -/
theorem flushed_eq_queued_iff (events : List GroupCommitEvent)
    (settled : (groupCommitMachine.stateAfter events).unwritten = []) :
    (groupCommitMachine.stateAfter events).log.flushed =
        groupCommitMachine.collect queuedBy events ↔
      groupCommitMachine.collect leftBehind events = [] := by
  obtain ⟨order, length, flushed⟩ := groupCommit_conserves events
  have durable := flushed.resolve_right fun pending => pending settled
  rw [durable]
  constructor
  · intro same
    rw [settled, same, length_nil] at length
    exact eq_nil_of_length_eq_zero (by omega)
  · intro nothing
    simpa [settled] using order nothing

def commitRecord (txnId : TxnId) : WalOp :=
  ⟨.commit, txnId, .commit 0 none⟩

/-- A call on its own whose first write meets the given outcome and whose
second one succeeds. -/
def retriedAppend (outcome : BatchOutcome) : List GroupCommitEvent :=
  .append 1 (commitRecord 1) ::
    (List.replicate 8 (.advance 1 outcome) ++ List.replicate 14 (.advance 1 .synced))

theorem retriedAppend_flushed :
    (groupCommitMachine.stateAfter (retriedAppend (.appendFailed 0))).log.flushed =
      groupCommitMachine.collect queuedBy (retriedAppend (.appendFailed 0)) :=
  (flushed_eq_queued_iff (retriedAppend (.appendFailed 0))
    (by decide +kernel)).mpr (by decide +kernel)

/-- A flush that fails after the append leaves the batch in the log, and the
retry writes it a second time. -/
theorem retriedAppend_duplicates :
    (groupCommitMachine.stateAfter (retriedAppend .flushFailed)).unwritten = [] ∧
      groupCommitMachine.collect queuedBy (retriedAppend .flushFailed) = [⟨1, commitRecord 1⟩] ∧
      (groupCommitMachine.stateAfter (retriedAppend .flushFailed)).log.flushed =
        [⟨1, commitRecord 1⟩, ⟨1, commitRecord 1⟩] := by
  decide +kernel

end RockDuck
