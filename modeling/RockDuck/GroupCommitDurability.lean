import RockDuck.GroupCommitBatches

/-!
# Durability of group commit

A call returns `Ok` when it sees the success flag.
-/

namespace RockDuck

open GroupCommit List

/-- The leader is to announce success. -/
def LeaderPhase.Announces : LeaderPhase → Prop
  | .storing stores next => .flushSuccess true ∈ stores ∨ next.Announces
  | _ => False

/-- The leader has its batch still to write. -/
def LeaderPhase.BeforeWrite : LeaderPhase → Prop
  | .writing _ => True
  | .storing _ next => next.BeforeWrite
  | _ => False

namespace GroupCommit

/-- No flush that could be taken for the one of a new record has succeeded or
is under way. -/
def Fresh (state : GroupCommit) : Prop :=
  state.flushSuccess = false ∧ ∀ leader, state.leader = some leader →
    ¬ leader.phase.Announces ∧ ¬ leader.phase.BeforeWrite

/-- The success flag, set or about to be set, speaks about every record. -/
structure Confirmed (state : GroupCommit) : Prop where
  appended : ∀ record ∈ state.log.flushed, record ∈ state.log.appended
  accounted : ∀ id call, state.calls id = some call →
    ⟨id, call.op⟩ ∈ state.unwritten ∨ ⟨id, call.op⟩ ∈ state.log.flushed
  successful : state.flushSuccess = true → state.unwritten = []
  announced : ∀ leader, state.leader = some leader →
    leader.phase.Announces → state.unwritten = []
  drained : ∀ leader, state.leader = some leader →
    leader.phase.BeforeWrite → state.queue = []
  returned : ∀ id call, state.calls id = some call →
    call.phase = .returned true → ⟨id, call.op⟩ ∈ state.log.flushed

lemma confirmed_new : Confirmed new := by
  constructor <;> simp [new]

/-- Every call was there before, and it returned `Ok` by now only if it had
done so or if the flag is set. -/
def CallsAdvance (before after : GroupCommit) : Prop :=
  ∀ id moved, after.calls id = some moved →
    ∃ call, before.calls id = some call ∧ call.op = moved.op ∧
      (moved.phase = .returned true → call.phase = .returned true ∨ before.flushSuccess = true)

lemma callsAdvance_of_eq {before after : GroupCommit}
    (same : after.calls = before.calls) : CallsAdvance before after := by
  intro id moved found
  exact ⟨moved, same ▸ found, rfl, Or.inl⟩

lemma setPhase_callsAdvance {state : GroupCommit} {id call} (found : state.calls id = some call)
    {phase} (honest : phase = .returned true → state.flushSuccess = true) :
    CallsAdvance state (state.setPhase id call phase) := by
  intro other moved foundAfter
  by_cases same : other = id
  · subst same
    simp only [setPhase, Function.update_self, Option.some.injEq] at foundAfter
    subst foundAfter
    exact ⟨call, found, rfl, fun back => Or.inr (honest back)⟩
  · simp only [setPhase, Function.update_of_ne same] at foundAfter
    exact ⟨moved, foundAfter, rfl, Or.inl⟩

lemma releaseLeadership_callsAdvance (state agent) :
    CallsAdvance state (state.releaseLeadership agent) := by
  cases agent with
  | flusher => exact callsAdvance_of_eq rfl
  | call id =>
    intro other moved foundAfter
    by_cases same : other = id
    · subst same
      simp only [releaseLeadership, Function.update_self, Option.map_eq_some_iff] at foundAfter
      obtain ⟨call, found, rfl⟩ := foundAfter
      exact ⟨call, found, rfl, by simp⟩
    · simp only [releaseLeadership, Function.update_of_ne same] at foundAfter
      exact ⟨moved, foundAfter, rfl, Or.inl⟩

namespace Confirmed

variable {state after : GroupCommit} {id : Nat}

section

variable (confirmed : Confirmed state)
include confirmed

variable {call : AppendCall}

lemma flushed_of_success (success : state.flushSuccess = true)
    (found : state.calls id = some call) : ⟨id, call.op⟩ ∈ state.log.flushed := by
  have settled := confirmed.successful success
  simpa [settled] using confirmed.accounted id call found

/-- A step that writes nothing only has to be careful with the flags. -/
lemma of_keeps (calls : CallsAdvance state after) (log : after.log = state.log)
    (unwritten : after.unwritten = state.unwritten)
    (successful : after.flushSuccess = true → state.unwritten = [])
    (announced : ∀ leader, after.leader = some leader → leader.phase.Announces → state.unwritten =
      [])
    (drained : ∀ leader, after.leader = some leader → leader.phase.BeforeWrite → after.queue = []) :
    Confirmed after where
  appended := log ▸ confirmed.appended
  successful success := unwritten.trans (successful success)
  announced leader held announces := unwritten.trans (announced leader held announces)
  drained := drained
  accounted id moved found := by
    obtain ⟨call, foundBefore, op, _⟩ := calls id moved found
    rw [log, unwritten, ← op]
    exact confirmed.accounted id call foundBefore
  returned id moved found back := by
    obtain ⟨call, foundBefore, op, old⟩ := calls id moved found
    rw [log, ← op]
    rcases old back with backBefore | success
    · exact confirmed.returned id call foundBefore backBefore
    · exact confirmed.flushed_of_success success foundBefore

lemma of_lead {leader phase} (calls : after.calls = state.calls) (log : after.log = state.log)
    (unwritten : (after.lead leader phase).unwritten = state.unwritten)
    (successful : after.flushSuccess = true → state.unwritten = [])
    (announced : phase.Announces → state.unwritten = [])
    (drained : phase.BeforeWrite → after.queue = []) : Confirmed (after.lead leader phase) := by
  refine confirmed.of_keeps (callsAdvance_of_eq calls) log unwritten successful ?_ ?_
  · intro next held
    cases held
    exact announced
  · intro next held
    cases held
    exact drained

lemma setPhase (found : state.calls id = some call)
    (honest : phase = .returned true → state.flushSuccess = true) :
    Confirmed (state.setPhase id call phase) :=
  confirmed.of_keeps (setPhase_callsAdvance found honest) rfl rfl
    confirmed.successful confirmed.announced confirmed.drained

lemma waitForBatchFlushStrict (found : state.calls id = some call) :
    Confirmed (state.waitForBatchFlushStrict id call) := by
  unfold GroupCommit.waitForBatchFlushStrict
  cases phase : call.phase with
  | signalling =>
    exact confirmed.of_keeps (setPhase_callsAdvance found (by simp)) rfl rfl
      confirmed.successful confirmed.announced confirmed.drained
  | polling => exact confirmed.setPhase found (by split <;> simp)
  | polled | woken => exact confirmed.setPhase found (by split <;> simp [*])
  | claiming =>
    dsimp only
    cases held : state.leader with
    | none =>
      refine confirmed.of_keeps (setPhase_callsAdvance found (by simp)) rfl
        ?_ confirmed.successful ?_ ?_
      · simp [unwritten, held, GroupCommit.setPhase, LeaderPhase.batch]
      · simp [GroupCommit.setPhase, LeaderPhase.Announces]
      · simp [GroupCommit.setPhase, LeaderPhase.BeforeWrite]
    | some leader => exact confirmed.setPhase found (by simp)
  | released => exact confirmed.setPhase found (by simp)
  | waiting =>
    dsimp only
    split
    · exact confirmed
    · exact confirmed.setPhase found (by simp)
  | leading | returned ok => exact confirmed

lemma write {leader} (held : state.leader = some leader) {batch}
    (writing : leader.phase = .writing batch) (out : BatchOutcome) : Confirmed
      ({ state with log := state.log.write batch out }.lead leader
        (if out = BatchOutcome.synced then leader.agent.whenSynced
          else leader.agent.whenFailed batch)) := by
  have before : state.unwritten = batch ++ state.queue := by
    simp [unwritten_of_leader held, writing, LeaderPhase.batch]
  have emptied : state.queue = [] :=
    confirmed.drained leader held (by simp [writing, LeaderPhase.BeforeWrite])
  by_cases synced : out = .synced
  · subst synced
    have settled : ({ state with
        log := state.log.write batch .synced }.lead leader
          leader.agent.whenSynced).unwritten = [] := by
      simp [emptied]
    have durable : ∀ record, record ∈ state.unwritten ∨ record ∈ state.log.flushed →
        record ∈ state.log.appended ++ batch := by
      intro record old
      rw [mem_append]
      rcases old with pending | flushed
      · exact Or.inr (by simpa [before, emptied] using pending)
      · exact Or.inl (confirmed.appended record flushed)
    exact {
      appended := fun _ mem => mem
      accounted := fun id call found => Or.inr (durable _ (confirmed.accounted id call found))
      successful := fun _ => settled
      announced := fun _ _ _ => settled
      drained := fun _ _ _ => emptied
      returned := fun id call found back =>
        durable _ (Or.inr (confirmed.returned id call found back)) }
  · have unwritten : ({ state with
        log := state.log.write batch out }.lead leader
          (leader.agent.whenFailed batch)).unwritten = state.unwritten := by
      simp [before]
    have flushed : (state.log.write batch out).flushed = state.log.flushed := by
      simp [CommitLog.write, synced]
    have quiet : ¬ (leader.agent.whenFailed batch).Announces := by
      cases leader.agent <;>
        simp [LeaderAgent.whenFailed, LeaderPhase.Announces]
    simp only [synced, if_false]
    exact {
      appended := by
        intro record mem
        exact mem_append_left _ (confirmed.appended record (flushed ▸ mem))
      accounted := by
        intro id call found
        rw [unwritten, log_lead, flushed]
        exact confirmed.accounted id call found
      successful := fun success => unwritten.trans (confirmed.successful success)
      announced := by
        intro next heldAfter announces
        cases heldAfter
        exact absurd announces quiet
      drained := fun _ _ _ => emptied
      returned := by
        intro id call found back
        rw [log_lead, flushed]
        exact confirmed.returned id call found back }

lemma leaderStep {leader} (held : state.leader = some leader)
    (out) : Confirmed (state.leaderStep leader out) := by
  by_cases writing : ∃ batch, leader.phase = .writing batch
  · obtain ⟨batch, phase⟩ := writing
    cases out with
    | some out => simpa [GroupCommit.leaderStep, phase] using confirmed.write held phase out
    | none =>
      simp only [GroupCommit.leaderStep, phase]
      cases leader.agent with
      | call id => exact confirmed
      | flusher =>
        refine confirmed.of_lead rfl rfl ?_ confirmed.successful ?_ ?_
        · simp [unwritten_of_leader held, phase, LeaderPhase.batch]
        · simp [LeaderAgent.whenFailed, LeaderPhase.Announces]
        · simp [LeaderAgent.whenFailed, LeaderPhase.BeforeWrite]
  · push Not at writing
    obtain ⟨log, unwritten⟩ := leaderStep_keeps held writing out
    cases phase : leader.phase with
    | writing batch => exact absurd phase (writing batch)
    | retrying =>
      simp only [GroupCommit.leaderStep, phase] at unwritten ⊢
      refine confirmed.of_lead rfl rfl unwritten confirmed.successful ?_ ?_ <;>
        split <;> simp [LeaderPhase.Announces, LeaderPhase.BeforeWrite]
    | clearing =>
      simp only [GroupCommit.leaderStep, phase] at unwritten ⊢
      exact confirmed.of_lead rfl rfl unwritten (by simp)
        (by simp [LeaderPhase.Announces])
        (by simp [LeaderPhase.BeforeWrite])
    | draining =>
      simp only [GroupCommit.leaderStep, phase] at unwritten ⊢
      refine confirmed.of_lead rfl rfl unwritten confirmed.successful ?_ (fun _ => rfl)
      split
      case isTrue empty =>
          intro _
          simp [unwritten_of_leader held, phase, LeaderPhase.batch, empty]
      case isFalse => simp [LeaderPhase.Announces]
    | requeueing batch =>
      simp only [GroupCommit.leaderStep, phase] at unwritten ⊢
      cases agent : leader.agent with
      | call id | flusher =>
        simp only [agent] at unwritten ⊢
        exact confirmed.of_lead rfl rfl unwritten confirmed.successful
          (by simp [LeaderPhase.Announces])
          (by simp [LeaderPhase.BeforeWrite])
    | storing stores next =>
      have announced := confirmed.announced leader held
      have drained := confirmed.drained leader held
      cases stores with
      | nil =>
        simp only [GroupCommit.leaderStep, phase] at unwritten ⊢
        simp only [phase, LeaderPhase.Announces, LeaderPhase.BeforeWrite,
          not_mem_nil, false_or] at announced drained
        exact confirmed.of_lead rfl rfl unwritten confirmed.successful announced drained
      | cons store stores =>
        simp only [GroupCommit.leaderStep, phase] at unwritten ⊢
        simp only [phase, LeaderPhase.Announces, LeaderPhase.BeforeWrite,
          mem_cons] at announced drained
        refine confirmed.of_lead (by cases store <;> rfl) (by simp) unwritten
          ?_ ?_ ?_
        · cases store with
          | flushSuccess val =>
            intro success
            exact announced (Or.inl (Or.inl (by
              rw [show val = true from success])))
          | _ => exact confirmed.successful
        · split
          · exact fun announces => announced (Or.inr announces)
          · rintro (announces | announces)
            · exact announced (Or.inl (Or.inr announces))
            · exact announced (Or.inr announces)
        · rw [queue_perform]
          split <;> exact drained
    | checking =>
      have quiet (chosen : Leader) (next : LeaderPhase)
          (simple : next = .releasing ∨ next = .retrying) :
          Confirmed (state.lead chosen next) := by
        refine confirmed.of_lead rfl rfl ?_ confirmed.successful ?_ ?_ <;>
          rcases simple with rfl | rfl <;>
          simp [unwritten_of_leader held, phase, LeaderPhase.batch,
            LeaderPhase.Announces, LeaderPhase.BeforeWrite]
      simp only [GroupCommit.leaderStep, phase]
      split
      · exact quiet leader .releasing (Or.inl rfl)
      · split
        · exact quiet _ .retrying (Or.inr rfl)
        · exact quiet leader .releasing (Or.inl rfl)
    | releasing =>
      simp only [GroupCommit.leaderStep, phase] at log unwritten ⊢
      exact confirmed.of_keeps (releaseLeadership_callsAdvance state _) log
        unwritten confirmed.successful (by simp [releaseLeadership])
        (by simp [releaseLeadership])

lemma queueCommitForBatch (fresh : state.Fresh) (id : Nat) (op) :
    Confirmed (state.queueCommitForBatch id op) := by
  have unwritten : (state.queueCommitForBatch id op).unwritten = state.unwritten ++ [⟨id, op⟩] := by
    simp [GroupCommit.unwritten, GroupCommit.queueCommitForBatch]
  have calls : ∀ other call, (state.queueCommitForBatch id op).calls other = some call →
      (other = id ∧ call = ⟨op, .signalling⟩) ∨
        state.calls other = some call := by
    intro other call found
    by_cases same : other = id
    · subst same
      exact Or.inl ⟨rfl, by
        simpa [GroupCommit.queueCommitForBatch] using found.symm⟩
    · exact Or.inr (by
        simpa [GroupCommit.queueCommitForBatch, same] using found)
  exact {
    appended := confirmed.appended
    accounted := by
      intro other call found
      rw [unwritten]
      rcases calls other call found with ⟨rfl, rfl⟩ | earlier
      · simp
      · exact (confirmed.accounted other call earlier).imp_left (mem_append_left _)
    successful := fun success => absurd fresh.1 (by
      rw [show state.flushSuccess = true from success]
      simp)
    announced := fun leader held announces => absurd announces (fresh.2 leader held).1
    drained := fun leader held drained => absurd drained (fresh.2 leader held).2
    returned := by
      intro other call found back
      rcases calls other call found with ⟨rfl, rfl⟩ | earlier
      · simp at back
      · exact confirmed.returned other call earlier back }

lemma step (event) (fresh : ∀ id op, event = .append id op → state.Fresh) :
    Confirmed (state.step event) := by
  cases event with
  | append id op =>
    simp only [GroupCommit.step]
    split
    · exact confirmed.queueCommitForBatch (fresh id op rfl) id op
    · exact confirmed
  | advance id out =>
    cases found : state.calls id with
    | none => simpa [GroupCommit.step, found] using confirmed
    | some call =>
      have waits := confirmed.waitForBatchFlushStrict found
      cases held : state.leader with
      | none => simpa [GroupCommit.step, found, held] using waits
      | some leader =>
        simp only [GroupCommit.step, found, held]
        split
        · exact confirmed.leaderStep held (some out)
        · exact waits
  | flusher out =>
    cases held : state.leader with
    | none =>
      simp only [GroupCommit.step, held]
      refine confirmed.of_keeps (callsAdvance_of_eq rfl) rfl ?_ confirmed.successful ?_ ?_
      · simp [unwritten, held, LeaderPhase.batch]
      · simp [LeaderPhase.Announces]
      · simp [LeaderPhase.BeforeWrite]
    | some leader =>
      simp only [GroupCommit.step, held]
      split
      · exact confirmed.leaderStep held out
      · exact confirmed

end

end Confirmed

end GroupCommit

/-- In every interleaving whose records all enter the queue before the flush
that they wait for, a call returns `Ok` only once a flush has covered its
record. -/
theorem returned_flushed_of_fresh (events : List GroupCommitEvent)
    (fresh : ∀ index id op, events[index]? = some (.append id op) →
      (groupCommitMachine.stateAt events index).Fresh) (id : Nat) (call : AppendCall)
    (found : (groupCommitMachine.stateAfter events).calls id = some call)
    (ok : call.phase = .returned true) :
    ⟨id, call.op⟩ ∈ (groupCommitMachine.stateAfter events).log.flushed := by
  have confirmed := groupCommitMachine.stateInvariant_of_allowed Confirmed
    (fun state event => ∀ id op, event = .append id op → state.Fresh)
    confirmed_new (fun state event fresh before => before.step event fresh)
    events (fun index event at_ id op same => fresh index id op (same ▸ at_))
  exact confirmed.returned id call found ok

/-- A call on its own, taking a given number of steps. -/
def soloAppend (id steps : Nat) : List GroupCommitEvent :=
  .append id (commitRecord id) :: List.replicate steps (.advance id .synced)

theorem soloAppend_flushed : ⟨1, commitRecord 1⟩ ∈
      (groupCommitMachine.stateAfter (soloAppend 1 13)).log.flushed := by
  refine returned_flushed_of_fresh (soloAppend 1 13) ?_ 1
    ⟨commitRecord 1, .returned true⟩ (by decide +kernel) rfl
  intro index id op found
  cases index with
  | zero => exact ⟨rfl, by simp [Machine.stateAt, Machine.stateAfter,
      groupCommitMachine, GroupCommit.new]⟩
  | succ index =>
    rw [soloAppend, getElem?_cons_succ] at found
    have advances := eq_of_mem_replicate (mem_of_getElem? found)
    cases advances

/-- The second of two calls, one after the other, returns `Ok` while its record
is still queued. -/
theorem secondAppend_unflushed :
    let state := groupCommitMachine.stateAfter (soloAppend 1 13 ++ soloAppend 2 6)
    state.calls 2 = some ⟨commitRecord 2, .returned true⟩ ∧
      ⟨2, commitRecord 2⟩ ∉ state.log.appended ∧
      state.queue = [⟨2, commitRecord 2⟩] := by
  decide +kernel

end RockDuck
