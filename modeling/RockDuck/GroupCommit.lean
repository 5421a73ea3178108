import RockDuck.MachineRuns
import RockDuck.WalRecords

/-!
# Group commit

Calls of `append_durable` under `GroupCommitStrict` push their record into a
shared queue and wait until it is durable.
-/

namespace RockDuck

/-- An operation of a call, in the queue. -/
structure QueuedOp where
  call : Nat
  op : WalOp
  deriving DecidableEq

/-- How the log takes a batch.  A failed append may have written some of the
records. -/
inductive BatchOutcome where
  | synced
  | appendFailed (count : Nat)
  | flushFailed
  deriving DecidableEq

/-- What a write has appended of its batch. -/
def BatchOutcome.written (batch : List QueuedOp) : BatchOutcome → List QueuedOp
  | .synced | .flushFailed => batch
  | .appendFailed count => batch.take count

/-- The records handed to the log, and those of them that a successful flush
covers. -/
structure CommitLog where
  appended : List QueuedOp
  flushed : List QueuedOp

/-- The log after a write. -/
def CommitLog.write (log : CommitLog) (batch : List QueuedOp)
    (outcome : BatchOutcome) : CommitLog :=
  let appended := log.appended ++ outcome.written batch
  { appended := appended
    flushed := if outcome = .synced then appended else log.flushed }

/-- A store to one of the flags that the leader shares with the waiters. -/
inductive FlagStore where
  | queueSize (size : Nat)
  | flushSuccess (value : Bool)
  | flushNeeded (value : Bool)
  deriving DecidableEq

/-- Where a leader is. -/
inductive LeaderPhase where
  | retrying
  | clearing
  | draining
  | writing (batch : List QueuedOp)
  | requeueing (batch : List QueuedOp)
  | storing (stores : List FlagStore) (next : LeaderPhase)
  | checking
  | releasing
  deriving DecidableEq

/-- Who leads: a call or the background flusher. -/
inductive LeaderAgent where
  | call (id : Nat)
  | flusher
  deriving DecidableEq

/-- The thread that writes the queue. -/
structure Leader where
  agent : LeaderAgent
  attempt : Nat
  phase : LeaderPhase
  deriving DecidableEq

/-- Where a call of `append_durable` is, once its record is queued. -/
inductive AppendPhase where
  | signalling
  | polling
  | polled
  | claiming
  | leading
  | released
  | waiting
  | woken
  | returned (ok : Bool)
  deriving DecidableEq

/-- A call of `append`. -/
structure AppendCall where
  op : WalOp
  phase : AppendPhase
  deriving DecidableEq

/-- The state that calls and the flusher share. -/
structure GroupCommit where
  queue : List QueuedOp
  queueSize : Nat
  flushNeeded : Bool
  flushSuccess : Bool
  leader : Option Leader
  log : CommitLog
  calls : Nat → Option AppendCall

/-- A step of a call or of the flusher. -/
inductive GroupCommitEvent where
  | append (id : Nat) (op : WalOp)
  | advance (id : Nat) (outcome : BatchOutcome)
  | flusher (outcome : Option BatchOutcome)
  deriving DecidableEq

namespace LeaderAgent

/-- What a leader does when the queue is empty. -/
def whenEmpty : LeaderAgent → LeaderPhase
  | .call _ => .storing [.flushSuccess true] .checking
  | .flusher => .storing [.queueSize 0, .flushSuccess true] .releasing

/-- What a leader stores when the batch is synced. -/
def whenSynced : LeaderAgent → LeaderPhase
  | .call _ => .storing [.flushSuccess true, .queueSize 0, .flushNeeded false] .checking
  | .flusher =>
    .storing [.queueSize 0, .flushSuccess true, .flushNeeded false]
      .releasing

/-- What a leader does when the write failed. -/
def whenFailed (batch : List QueuedOp) : LeaderAgent → LeaderPhase
  | .call _ => .requeueing batch
  | .flusher => .storing [.flushSuccess false, .flushNeeded true] (.requeueing batch)

end LeaderAgent

namespace GroupCommit

def maxFlushRetries : Nat := 3

def new : GroupCommit where
  queue := []
  queueSize := 0
  flushNeeded := false
  flushSuccess := false
  leader := none
  log := ⟨[], []⟩
  calls _ := none

/-- One atomic store. -/
def perform (state : GroupCommit) : FlagStore → GroupCommit
  | .queueSize size => { state with queueSize := size }
  | .flushSuccess value => { state with flushSuccess := value }
  | .flushNeeded value => { state with flushNeeded := value }

def lead (state : GroupCommit) (leader : Leader) (phase : LeaderPhase) : GroupCommit :=
  { state with leader := some { leader with phase := phase } }

def setPhase (state : GroupCommit) (id : Nat) (call : AppendCall)
    (phase : AppendPhase) : GroupCommit :=
  { state with
    calls := Function.update state.calls id
      (some { call with phase := phase }) }

/-- Put the operation into the queue. -/
def queueCommitForBatch (state : GroupCommit) (id : Nat) (op : WalOp) : GroupCommit :=
  let queue := state.queue ++ [⟨id, op⟩]
  { state with
    queue := queue
    queueSize := queue.length
    calls := Function.update state.calls id (some ⟨op, .signalling⟩) }

/-- A call that led goes on to look at the success flag. -/
def releaseLeadership (state : GroupCommit) (agent : LeaderAgent) : GroupCommit :=
  { state with
    leader := none
    calls :=
      match agent with
      | .flusher => state.calls
      | .call id => Function.update state.calls id
          ((state.calls id).map fun call => { call with phase := .released }) }

/-- The leader's next step.  A call runs `flush_batch_with_retry`; the flusher
drains and writes once.  The writer lock blocks a call, while the flusher only
tries to take it and meets `none` when another thread holds it. -/
def leaderStep (state : GroupCommit) (leader : Leader)
    (outcome : Option BatchOutcome) : GroupCommit :=
  match leader.phase with
  | .retrying => state.lead leader (if state.flushSuccess then .releasing else .clearing)
  | .clearing => { state with flushSuccess := false }.lead leader .draining
  | .draining =>
    { state with queue := [] }.lead leader
      (if state.queue = [] then leader.agent.whenEmpty
        else .writing state.queue)
  | .writing batch =>
    match outcome with
    | some outcome =>
      { state with log := state.log.write batch outcome }.lead leader
        (if outcome = BatchOutcome.synced then leader.agent.whenSynced
          else leader.agent.whenFailed batch)
    | none =>
      match leader.agent with
      | .call _ => state
      | .flusher => state.lead leader (leader.agent.whenFailed batch)
  | .requeueing batch =>
    -- the batch goes back to the head of the queue
    let queue := batch ++ state.queue
    match leader.agent with
    | .call _ =>
      { state with queue := queue }.lead leader
        (.storing [.queueSize queue.length, .flushSuccess false, .flushNeeded true] .checking)
    | .flusher =>
      { state with queue := queue, queueSize := queue.length }.lead leader
        .releasing
  | .storing [] next => state.lead leader next
  | .storing (store :: stores) next =>
    (state.perform store).lead leader
      (if stores = [] then next else .storing stores next)
  | .checking =>
    if state.flushSuccess then state.lead leader .releasing
    else if leader.attempt + 1 < maxFlushRetries then
      state.lead { leader with attempt := leader.attempt + 1 } .retrying
    else state.lead leader .releasing
  | .releasing => state.releaseLeadership leader.agent

/-- One step of a call that waits for the flush. -/
def waitForBatchFlushStrict (state : GroupCommit) (id : Nat) (call : AppendCall) : GroupCommit :=
  match call.phase with
  | .signalling => { state with flushNeeded := true }.setPhase id call .polling
  | .polling => state.setPhase id call (if state.queueSize = 0 then .polled else .claiming)
  | .polled =>
    state.setPhase id call
      (if state.flushSuccess then .returned true else .claiming)
  | .claiming =>
    match state.leader with
    | none =>
      { state with leader := some ⟨.call id, 0, .retrying⟩ }.setPhase id
        call .leading
    | some _ => state.setPhase id call .waiting
  | .released => state.setPhase id call (.returned state.flushSuccess)
  | .waiting =>
    if state.leader.isSome then state else state.setPhase id call .woken
  | .woken =>
    state.setPhase id call
      (if state.flushSuccess then .returned true else .polling)
  | .leading | .returned _ => state

/-- One step of one thread.  A thread that cannot move leaves the state as it
is. -/
def step (state : GroupCommit) : GroupCommitEvent → GroupCommit
  | .append id op =>
    match state.calls id with
    | none => state.queueCommitForBatch id op
    | some _ => state
  | .advance id outcome =>
    match state.calls id, state.leader with
    | none, _ => state
    | some call, none => state.waitForBatchFlushStrict id call
    | some call, some leader =>
      if leader.agent = .call id then state.leaderStep leader (some outcome)
      else state.waitForBatchFlushStrict id call
  | .flusher outcome =>
    match state.leader with
    | none => { state with leader := some ⟨.flusher, 0, .draining⟩ }
    | some leader =>
      if leader.agent = .flusher then state.leaderStep leader outcome
      else state

end GroupCommit

/-- Appending threads and the flusher, starting with an empty log. -/
def groupCommitMachine : Machine GroupCommit GroupCommitEvent Unit where
  initial := .new
  step state event := (state.step event, ())

@[simp]
lemma groupCommitMachine_next (state event) :
    groupCommitMachine.next state event = state.step event :=
  rfl

end RockDuck
