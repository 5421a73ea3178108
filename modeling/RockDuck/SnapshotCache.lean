import RockDuck.Database
import RockDuck.TransactionRegistry

/-!
# The cached snapshot

The database keeps the last snapshot that was taken and hands it out again
until a begin, a commit or a rollback invalidates it.
-/

namespace RockDuck

/-- The two calls that fill the cache. -/
inductive SnapshotKind where
  | full
  | activeOnly
  deriving DecidableEq

def SnapshotKind.take (manager : VisibilityManager) : SnapshotKind → TxnSnapshot
  | full => manager.snapshot .snapshot
  | activeOnly => manager.snapshotWithActiveOnly .snapshot

/-- A snapshot in the hands of a call or of the cache.  Its kind and the moment
at which the manager was read are kept for the statements; no step decides by
them. -/
structure HeldSnapshot where
  snapshot : TxnSnapshot
  kind : SnapshotKind
  moment : Nat

/-- A call of the database. -/
inductive DatabaseCall where
  | beginTxn
  | commitTxn (txnId : TxnId)
  | rollbackTxn (txnId : TxnId)
  | snapshot (kind : SnapshotKind)

/-- The result of a call. -/
inductive CallResult where
  | begun (result : Except RockDuckError TxnId)
  | committed (txnId : TxnId) (result : Except RockDuckError Unit)
  | rolledBack (txnId : TxnId) (result : Except RockDuckError Unit)
  | tookSnapshot (kind : SnapshotKind) (snapshot : TxnSnapshot)

/-- The critical section a thread enters next. -/
inductive ThreadState where
  | idle
  | loadCounter
  | takeTxnId
  | invalidateBegin (txnId : TxnId)
  | beginTxn (txnId : TxnId)
  | invalidateCommit (txnId : TxnId)
  | readBeginTs (txnId : TxnId)
  | logCommit (txnId : TxnId) (beginTs : Nat)
  | commitTxn (txnId : TxnId) (insertedAt : Nat)
  | putCommittedTxn (txnId : TxnId)
  | commitTxnRecord (txnId : TxnId)
  | flushCdc (txnId : TxnId)
  | invalidateRollback (txnId : TxnId)
  | rollbackTxn (txnId : TxnId)
  | logRollback (txnId : TxnId)
  | readCache (kind : SnapshotKind)
  | readManager (kind : SnapshotKind)
  | fillCache (held : HeldSnapshot)

def ThreadState.isIdle : ThreadState → Bool
  | idle => true
  | _ => false

lemma ThreadState.isIdle_iff {thread : ThreadState} : thread.isIdle = true ↔ thread = .idle := by
  cases thread <;> simp [isIdle]

/-- Where a call starts. -/
def DatabaseCall.entry : DatabaseCall → ThreadState
  | beginTxn => .loadCounter
  | commitTxn txnId => .invalidateCommit txnId
  | rollbackTxn txnId => .invalidateRollback txnId
  | snapshot kind => .readCache kind

/-- What a step meets. -/
structure StepEnvironment where
  now : Nat
  fault : Fault
  durable : DurableOutcome
  walFault : Option String
  manager : CommitEnvironment

def StepEnvironment.at (now : Nat) : StepEnvironment where
  now := now
  fault := none
  durable := .synced
  walFault := none
  manager := .at now

/-- What the threads share.  The moment counts the steps of the run. -/
structure SharedDatabase where
  db : Database
  cachedSnapshot : Option HeldSnapshot
  moment : Nat

namespace SharedDatabase

/-- One critical section: what it leaves behind, where the thread goes on, and
the result if the call returns. -/
def advance (shared : SharedDatabase) (environment : StepEnvironment) :
    ThreadState → SharedDatabase × ThreadState × Option CallResult
  | .idle => (shared, .idle, none)
  | .loadCounter =>
    if shared.db.txnCounter = 2 ^ 64 - 1 then
      (shared, .idle, some (.begun shared.db.nextTxnId.2))
    else (shared, .takeTxnId, none)
  | .takeTxnId =>
    -- `fetch_add` wraps, and the counter may have moved since it was loaded.
    ({ shared with
        db := { shared.db with
          txnCounter := (shared.db.txnCounter + 1) % 2 ^ 64 } },
      .invalidateBegin shared.db.txnCounter, none)
  | .invalidateBegin txnId => ({ shared with cachedSnapshot := none }, .beginTxn txnId, none)
  | .beginTxn txnId =>
    let ((mvcc, kv), result) := shared.db.mvcc.beginTxn shared.db.kv txnId environment.fault
    ({ shared with db := { shared.db with mvcc := mvcc, kv := kv } }, .idle,
      some (.begun (match result with
        | .error error =>
          .error (.internal ("begin_txn failed: " ++ error.display))
        | .ok () => .ok txnId)))
  | .invalidateCommit txnId => ({ shared with cachedSnapshot := none }, .readBeginTs txnId, none)
  | .readBeginTs txnId =>
    match shared.db.mvcc.getBeginTs txnId with
    | none =>
      (shared, .idle, some (.committed txnId
        (.error (.mvccConflict (Database.missingBeginMessage txnId)))))
    | some beginTs => (shared, .logCommit txnId beginTs, none)
  | .logCommit txnId beginTs =>
    let (wal, result) := shared.db.wal.appendDurable
      (Database.commitRecord txnId beginTs environment.now)
      environment.durable
    let shared := { shared with db := { shared.db with wal := wal } }
    match result with
    | .error error => (shared, .idle, some (.committed txnId (.error error)))
    | .ok () => (shared, .commitTxn txnId environment.now, none)
  | .commitTxn txnId insertedAt =>
    let ((mvcc, kv), result) := shared.db.mvcc.commitTxn shared.db.kv txnId
      insertedAt environment.manager
    let shared := { shared with db := { shared.db with mvcc := mvcc, kv := kv } }
    match result with
    | .error error => (shared, .idle, some (.committed txnId (.error error)))
    | .ok _ => (shared, .putCommittedTxn txnId, none)
  | .putCommittedTxn txnId =>
    let (kv, result) := shared.db.kv.putCommittedTxn txnId environment.fault
    let shared := { shared with db := { shared.db with kv := kv } }
    match result with
    | .error error => (shared, .idle, some (.committed txnId (.error error)))
    | .ok () => (shared, .commitTxnRecord txnId, none)
  | .commitTxnRecord txnId =>
    let (kv, result) := shared.db.kv.commitTxnRecord txnId txnId environment.fault
    let shared := { shared with db := { shared.db with kv := kv } }
    match result with
    | .error error => (shared, .idle, some (.committed txnId (.error error)))
    | .ok () => (shared, .flushCdc txnId, none)
  | .flushCdc txnId =>
    let (db, result) := shared.db.flushCdc txnId
    ({ shared with db := db }, .idle, some (.committed txnId result))
  | .invalidateRollback txnId => ({ shared with cachedSnapshot := none }, .rollbackTxn txnId, none)
  | .rollbackTxn txnId =>
    let ((mvcc, kv), result) := shared.db.mvcc.rollbackTxn shared.db.kv txnId environment.fault
    let shared := { shared with db := { shared.db with mvcc := mvcc, kv := kv } }
    match result with
    | .error error => (shared, .idle, some (.rolledBack txnId (.error error)))
    | .ok () => (shared, .logRollback txnId, none)
  | .logRollback txnId =>
    let (wal, result) := shared.db.wal.append ⟨.rollback, txnId, .rollback⟩ environment.walFault
    ({ shared with
        db := { shared.db with
          wal := wal
          pendingCdcEntries := shared.db.pendingCdcEntries.erase txnId } },
      .idle, some (.rolledBack txnId (match result with
        | .error error =>
          .error (.write ("WAL rollback log failed: " ++ error.display))
        | .ok () => .ok ())))
  | .readCache kind =>
    match shared.cachedSnapshot with
    | some cached => (shared, .idle, some (.tookSnapshot kind cached.snapshot))
    | none => (shared, .readManager kind, none)
  | .readManager kind =>
    (shared, .fillCache ⟨kind.take shared.db.mvcc, kind, shared.moment⟩, none)
  | .fillCache held =>
    ({ shared with cachedSnapshot := some held }, .idle,
      some (.tookSnapshot held.kind held.snapshot))

def tick (shared : SharedDatabase) : SharedDatabase :=
  { shared with moment := shared.moment + 1 }

end SharedDatabase

/-- A thread starts a call, or takes a step of it. -/
inductive ThreadAction where
  | start (call : DatabaseCall)
  | step (environment : StepEnvironment)

structure ThreadEvent where
  thread : Nat
  action : ThreadAction

/-- The database and its threads. -/
structure ConcurrentDatabase where
  shared : SharedDatabase
  threads : Nat → ThreadState

/-- Threads take turns, a step at a time. -/
def concurrentMachine (db : Database) :
    Machine ConcurrentDatabase ThreadEvent (Option CallResult) where
  initial := ⟨⟨db, none, 0⟩, fun _ => .idle⟩
  step state event :=
    match event.action with
    | .start call =>
      ({ shared := state.shared.tick
         threads :=
           if (state.threads event.thread).isIdle then
             Function.update state.threads event.thread call.entry
           else state.threads }, none)
    | .step environment =>
      let (shared, thread, result) := state.shared.advance environment (state.threads event.thread)
      ({ shared := shared.tick
         threads := Function.update state.threads event.thread thread },
        result)

def ThreadState.published : ThreadState → Option TxnId
  | putCommittedTxn txnId => some txnId
  | commitTxnRecord txnId => some txnId
  | flushCdc txnId => some txnId
  | _ => none

namespace SharedDatabase

variable (shared : SharedDatabase) (env : StepEnvironment) (thread : ThreadState)

def managerState (shared : SharedDatabase) : ManagerState :=
  (shared.db.mvcc, shared.db.kv)

lemma advance_moment : (shared.advance env thread).1.moment = shared.moment := by
  cases thread <;> simp only [advance] <;> (try split) <;> rfl

/-- A critical section changes the manager as one of its calls does, if at
all. -/
lemma advance_mvcc : (shared.advance env thread).1.db.mvcc = shared.db.mvcc ∨
      ∃ event, (shared.advance env thread).1.db.mvcc =
        ((managerMachine .empty).next shared.managerState event).1 := by
  cases thread with
  | beginTxn txnId => exact Or.inr ⟨.beginTxn txnId env.fault, rfl⟩
  | commitTxn txnId insertedAt =>
    refine Or.inr ⟨.commitTxn txnId insertedAt env.manager, ?_⟩
    simp only [advance]
    split <;> rfl
  | rollbackTxn txnId =>
    refine Or.inr ⟨.rollbackTxn txnId env.fault, ?_⟩
    simp only [advance]
    split <;> rfl
  | _ =>
    left
    simp only [advance]
    try split
    all_goals rfl

lemma advance_cachedSnapshot (cached : (shared.advance env thread).1.cachedSnapshot = some held) :
    shared.cachedSnapshot = some held ∨ thread = .fillCache held := by
  cases thread with
  | fillCache ne =>
    right
    rw [Option.some.inj cached]
  | invalidateBegin txnId | invalidateCommit txnId
  | invalidateRollback txnId => cases cached
  | _ =>
    left
    simp only [advance] at cached
    try split at cached
    all_goals exact cached

lemma advance_fillCache (filling : (shared.advance env thread).2.1 = .fillCache held) :
    ∃ kind, thread = .readManager kind ∧
      held = ⟨kind.take shared.db.mvcc, kind, shared.moment⟩ := by
  cases thread with
  | readManager kind =>
    refine ⟨kind, rfl, ?_⟩
    simpa [advance] using filling.symm
  | _ =>
    simp only [advance] at filling
    try split at filling
    all_goals cases filling

lemma commitStep_of_ok {state : ManagerState}
    (ok : (state.1.commitTxn state.2 txnId insertedAt commitEnvironment).2 = .ok snap) :
    CommitStep state (.commitTxn txnId insertedAt commitEnvironment) txnId := by
  obtain ⟨info, active, passed, -⟩ := VisibilityManager.commitTxn_of_ok ok
  exact ⟨insertedAt, commitEnvironment, info, rfl, active, passed⟩

lemma advance_published (published : (shared.advance env thread).2.1.published = some txnId) :
    thread.published = some txnId ∨ ∃ insertedAt, thread = .commitTxn txnId insertedAt ∧
        CommitStep shared.managerState (.commitTxn txnId insertedAt env.manager) txnId := by
  cases thread with
  | commitTxn target insertedAt =>
    cases out : (shared.db.mvcc.commitTxn shared.db.kv target insertedAt env.manager).2 with
    | error error => simp [advance, out, ThreadState.published] at published
    | ok snap =>
      have same : target = txnId := by
        simpa [advance, out, ThreadState.published] using published
      subst same
      have step : CommitStep shared.managerState
          (.commitTxn target insertedAt env.manager) target :=
        commitStep_of_ok out
      exact Or.inr ⟨insertedAt, rfl, step⟩
  | putCommittedTxn target | commitTxnRecord target =>
    left
    simp only [advance] at published
    split at published
    · cases published
    · exact published
  | _ =>
    simp only [advance] at published
    try split at published
    all_goals cases published

/-- A commit returns `Ok` from its last step only. -/
lemma advance_committed (committed : (shared.advance env thread).2.2 =
      some (.committed txnId (.ok ()))) : thread.published = some txnId := by
  cases thread with
  | flushCdc target =>
    have same : target = txnId := by
      simp only [advance, Option.some.injEq, CallResult.committed.injEq] at committed
      exact committed.1
    rw [← same]
    rfl
  | _ =>
    simp only [advance] at committed
    try split at committed
    all_goals cases committed

lemma advance_tookSnapshot
    (took : (shared.advance env thread).2.2 = some (.tookSnapshot kind snapshot)) :
    (∃ held, thread = .readCache kind ∧ shared.cachedSnapshot = some held ∧
        held.snapshot = snapshot) ∨ ∃ held, thread = .fillCache held ∧ held.kind = kind ∧
        held.snapshot = snapshot := by
  cases thread with
  | readCache asked =>
    cases cached : shared.cachedSnapshot with
    | none => simp [advance, cached] at took
    | some held =>
      have given : asked = kind ∧ held.snapshot = snapshot := by simpa [advance, cached] using took
      obtain ⟨rfl, same⟩ := given
      exact Or.inl ⟨held, rfl, rfl, same⟩
  | fillCache held =>
    have given : held.kind = kind ∧ held.snapshot = snapshot := by simpa [advance] using took
    exact Or.inr ⟨held, rfl, given⟩
  | _ =>
    simp only [advance] at took
    try split at took
    all_goals cases took

end SharedDatabase

section Runs

variable {db : Database} {events : List ThreadEvent} {state : ConcurrentDatabase}
    {event : ThreadEvent}

section

variable (db : Database) (state : ConcurrentDatabase) (event : ThreadEvent)

lemma threads_next (thread : Nat) :
    ((concurrentMachine db).next state event).threads thread = state.threads thread ∨
      (∃ call, event = ⟨thread, .start call⟩ ∧ state.threads thread = .idle ∧
        ((concurrentMachine db).next state event).threads thread = call.entry) ∨
      ∃ env, event = ⟨thread, .step env⟩ ∧
        ((concurrentMachine db).next state event).threads thread =
          (state.shared.advance env (state.threads thread)).2.1 := by
  obtain ⟨actor, action⟩ := event
  simp only [Machine.next, concurrentMachine]
  by_cases own : actor = thread
  · subst own
    cases action with
    | start call =>
      by_cases idle : (state.threads actor).isIdle = true
      · refine Or.inr (Or.inl ⟨call, rfl, ThreadState.isIdle_iff.mp idle, ?_⟩)
        simp [idle]
      · left
        simp [idle]
    | step env =>
      refine Or.inr (Or.inr ⟨env, rfl, ?_⟩)
      simp
  · left
    have other : thread ≠ actor := fun same => own same.symm
    cases action with
    | start call =>
      split_ifs
      · exact Function.update_of_ne other _ _
      · rfl
    | step env => simp [Function.update_of_ne other]

lemma shared_next : ((concurrentMachine db).next state event).shared = state.shared.tick ∨
      ∃ thread env, event = ⟨thread, .step env⟩ ∧ ((concurrentMachine db).next state event).shared =
          (state.shared.advance env (state.threads thread)).1.tick := by
  obtain ⟨actor, action⟩ := event
  cases action with
  | start call => exact Or.inl rfl
  | step env => exact Or.inr ⟨actor, env, rfl, rfl⟩

end

variable {index : Nat} {txnId : TxnId}

lemma moment_stateAt (db) (within : index ≤ events.length) :
    ((concurrentMachine db).stateAt events index).shared.moment = index := by
  induction index with
  | zero => rfl
  | succ index ih =>
    have found := List.getElem?_eq_getElem (Nat.lt_of_succ_le within)
    have before := ih (Nat.le_of_succ_le within)
    rw [Machine.stateAt_succ _ found]
    rcases shared_next db ((concurrentMachine db).stateAt events index)
        events[index] with same | ⟨thread, env, -, advanced⟩
    · rw [same, SharedDatabase.tick, before]
    · rw [advanced, SharedDatabase.tick, SharedDatabase.advance_moment, before]

/-- The manager at a moment. -/
def managerAt (db : Database) (events : List ThreadEvent) (moment : Nat) : VisibilityManager :=
  ((concurrentMachine db).stateAt events moment).shared.db.mvcc

/-- The transaction is behind the watermark and not active. -/
def Settled (manager : VisibilityManager) (txnId : TxnId) : Prop :=
  txnId ≤ manager.committedTxn ∧ txnId ∉ manager.activeTxns

lemma settled_next (settled : Settled state.shared.db.mvcc txnId) :
    Settled ((concurrentMachine db).next state event).shared.db.mvcc txnId := by
  rcases shared_next db state event with same | ⟨thread, env, -, advanced⟩
  · rw [same]
    exact settled
  · rw [advanced]
    rcases state.shared.advance_mvcc env (state.threads thread) with same | ⟨call, called⟩
    · exact same ▸ settled
    · have retired : Retired state.shared.managerState txnId := settled
      exact called ▸ retired.next .empty call

lemma settled_later (ordered : first ≤ second) (settled : Settled (managerAt db events first) txnId)
    : Settled (managerAt db events second) txnId :=
  (concurrentMachine db).stateAt_persists
    (fun state => Settled state.shared.db.mvcc txnId) ordered settled
    fun _ _ _ _ _ before => settled_next before

/-- The event publishes the commit. -/
def PublishesAt (db : Database) (events : List ThreadEvent) (txnId : TxnId) (index : Nat) : Prop :=
  ∃ thread environment insertedAt,
    events[index]? = some ⟨thread, .step environment⟩ ∧
      ((concurrentMachine db).stateAt events index).threads thread =
        .commitTxn txnId insertedAt ∧
      CommitStep
        ((concurrentMachine db).stateAt events index).shared.managerState
        (.commitTxn txnId insertedAt environment.manager) txnId

lemma PublishesAt.settled (publishes : PublishesAt db events txnId index) :
    Settled (managerAt db events (index + 1)) txnId := by
  obtain ⟨thread, env, insertedAt, found, committing, step⟩ := publishes
  have retired := step.retired .empty
  rw [managerAt, Machine.stateAt_succ _ found]
  generalize (concurrentMachine db).stateAt events index = state at *
  have advanced : ((concurrentMachine db).next state ⟨thread, .step env⟩).shared.db.mvcc =
      ((managerMachine .empty).next state.shared.managerState
        (.commitTxn txnId insertedAt env.manager)).1 := by
    simp only [Machine.next, concurrentMachine, committing, SharedDatabase.advance]
    split <;> rfl
  rw [advanced]
  exact retired

lemma settled_iff_published_before (publishes : PublishesAt db events txnId index) :
    Settled (managerAt db events moment) txnId ↔ index < moment := by
  constructor
  · intro settled
    by_contra early
    have atStep := settled_later (Nat.le_of_not_lt early) settled
    obtain ⟨thread, env, insertedAt, -, -, step⟩ := publishes
    exact atStep.2 (step.published .empty).1
  · intro later
    exact settled_later later publishes.settled

/-- The held snapshot was taken before the event. -/
structure TakenBefore (db : Database) (events : List ThreadEvent) (index : Nat)
    (held : HeldSnapshot) : Prop where
  earlier : held.moment < index
  snapshot : held.snapshot = held.kind.take (managerAt db events held.moment)

lemma held_takenBefore (db events) (index : Nat) (held)
    (holds : ((concurrentMachine db).stateAt events index).shared.cachedSnapshot = some held ∨
      ∃ thread, ((concurrentMachine db).stateAt events index).threads thread = .fillCache held) :
    TakenBefore db events index held := by
  induction index with
  | zero =>
    rcases holds with cached | ⟨thread, filling⟩
    · cases cached
    · cases filling
  | succ index ih =>
    -- Whoever held it before this event, held it since it was taken.
    have before : (((concurrentMachine db).stateAt events index).shared.cachedSnapshot = some held ∨
        ∃ thread, ((concurrentMachine db).stateAt events index).threads thread = .fillCache held) →
        TakenBefore db events (index + 1) held := by
      intro held
      obtain ⟨old, snap⟩ := ih held
      exact ⟨Nat.lt_succ_of_lt old, snap⟩
    cases found : events[index]? with
    | none =>
      rw [Machine.stateAt_succ_of_none _ found] at holds
      exact before holds
    | some event =>
      have now := moment_stateAt db (List.getElem?_eq_some_iff.mp found).1.le
      rw [Machine.stateAt_succ _ found] at holds
      rcases holds with cached | ⟨thread, filling⟩
      · rcases shared_next db ((concurrentMachine db).stateAt events index)
          event with same | ⟨actor, env, -, advanced⟩
        · rw [same] at cached
          exact before (Or.inl cached)
        · rw [advanced] at cached
          rcases SharedDatabase.advance_cachedSnapshot _ _ _ cached with stayed | filled
          · exact before (Or.inl stayed)
          · exact before (Or.inr ⟨actor, filled⟩)
      · rcases threads_next db ((concurrentMachine db).stateAt events index)
          event thread with same | ⟨call, -, -, entered⟩ |
            ⟨env, -, advanced⟩
        · exact before (Or.inr ⟨thread, same ▸ filling⟩)
        · rw [entered] at filling
          cases call <;> cases filling
        · rw [advanced] at filling
          obtain ⟨kind, -, rfl⟩ := SharedDatabase.advance_fillCache _ _ _ filling
          refine ⟨?_, ?_⟩
          · rw [now]
            exact Nat.lt_succ_self index
          · rw [now]
            rfl

/-- The event returns a commit that succeeded. -/
def CommitReturns (db : Database) (events : List ThreadEvent) (txnId : TxnId)
    (index : Nat) : Prop :=
  ∃ event, ((concurrentMachine db).trace events)[index]? =
    some (event, some (.committed txnId (.ok ())))

lemma step_of_result
    (returned : ((concurrentMachine db).trace events)[index]? = some (event, some result)) :
    events[index]? = some event ∧ ∃ env, event.action = .step env ∧
        (((concurrentMachine db).stateAt events index).shared.advance env
          (((concurrentMachine db).stateAt events index).threads
            event.thread)).2.2 = some result := by
  rw [Machine.trace_getElem?] at returned
  obtain ⟨found, atIndex, answered⟩ := Option.map_eq_some_iff.mp returned
  obtain ⟨rfl, answer⟩ := Prod.mk.inj answered
  refine ⟨atIndex, ?_⟩
  cases action : found.action with
  | start call => simp [Machine.answer, concurrentMachine, action] at answer
  | step env =>
    refine ⟨env, rfl, ?_⟩
    simpa [Machine.answer, concurrentMachine, action] using answer

lemma publishesAt_of_published
    (published : (((concurrentMachine db).stateAt events index).threads thread).published = some
      txnId) : ∃ step < index, PublishesAt db events txnId step := by
  induction index with
  | zero => cases published
  | succ index ih =>
    have before : (((concurrentMachine db).stateAt events index).threads
        thread).published = some txnId →
        ∃ step < index + 1, PublishesAt db events txnId step := by
      intro published
      obtain ⟨step, old, publishes⟩ := ih published
      exact ⟨step, Nat.lt_succ_of_lt old, publishes⟩
    cases found : events[index]? with
    | none =>
      rw [Machine.stateAt_succ_of_none _ found] at published
      exact before published
    | some event =>
      rw [Machine.stateAt_succ _ found] at published
      rcases threads_next db ((concurrentMachine db).stateAt events index)
        event thread with same | ⟨call, -, -, entered⟩ |
          ⟨env, rfl, advanced⟩
      · exact before (same ▸ published)
      · rw [entered] at published
        cases call <;> cases published
      · rw [advanced] at published
        rcases SharedDatabase.advance_published _ _ _ published with
          stayed | ⟨insertedAt, committing, step⟩
        · exact before stayed
        · exact ⟨index, Nat.lt_succ_self index, thread, env, insertedAt, found, committing, step⟩

lemma CommitReturns.published (returns : CommitReturns db events txnId index) :
    ∃ step < index, PublishesAt db events txnId step := by
  obtain ⟨event, returned⟩ := returns
  obtain ⟨-, env, -, res⟩ := step_of_result returned
  exact publishesAt_of_published (SharedDatabase.advance_committed _ _ _ res)

/-- A thread is in a call of `snapshot` between two events. -/
structure SnapshotCall (db : Database) (events : List ThreadEvent)
    (thread start stop : Nat) : Prop where
  started : events[start]? = some ⟨thread, .start (.snapshot .full)⟩
  idle : ((concurrentMachine db).stateAt events start).threads thread = .idle
  ordered : start < stop
  busy : ∀ index, start < index → index ≤ stop →
    ((concurrentMachine db).stateAt events index).threads thread ≠ .idle

def InSnapshot (start : Nat) (thread : ThreadState) : Prop :=
  thread = .readCache .full ∨ thread = .readManager .full ∨
    ∃ held, thread = .fillCache held ∧ held.kind = .full ∧ start < held.moment

lemma SnapshotCall.inSnapshot (call : SnapshotCall db events thread start stop)
    (after : start + 1 ≤ index) (within : index ≤ stop) : InSnapshot start
      (((concurrentMachine db).stateAt events index).threads thread) := by
  induction index, after using Nat.le_induction with
  | base =>
    left
    have idle := call.idle
    rw [Machine.stateAt_succ _ call.started]
    generalize (concurrentMachine db).stateAt events start = state at *
    simp [Machine.next, concurrentMachine, idle, ThreadState.isIdle, DatabaseCall.entry]
  | succ index after ih =>
    have before := ih (Nat.le_of_succ_le within)
    have notIdle := call.busy (index + 1) (by omega) within
    cases found : events[index]? with
    | none =>
      rw [Machine.stateAt_succ_of_none _ found]
      exact before
    | some event =>
      have now := moment_stateAt db (List.getElem?_eq_some_iff.mp found).1.le
      rw [Machine.stateAt_succ _ found] at notIdle ⊢
      generalize (concurrentMachine db).stateAt events index = state at *
      rcases threads_next db state event thread with
        same | ⟨other, -, idle, -⟩ | ⟨env, -, advanced⟩
      · rw [same]
        exact before
      · rcases before with asking | reading | ⟨held, filling, -⟩
        · rw [asking] at idle
          cases idle
        · rw [reading] at idle
          cases idle
        · rw [filling] at idle
          cases idle
      · rw [advanced] at notIdle ⊢
        rcases before with asking | reading | ⟨held, filling, -⟩
        · rw [asking] at notIdle ⊢
          cases cached : state.shared.cachedSnapshot with
          | some held => simp [SharedDatabase.advance, cached] at notIdle
          | none =>
            right
            left
            simp [SharedDatabase.advance, cached]
        · rw [reading]
          refine Or.inr (Or.inr ⟨_, rfl, rfl, ?_⟩)
          rw [now]
          exact after
        · rw [filling] at notIdle
          simp [SharedDatabase.advance] at notIdle

/-- A snapshot is no older than the commits that returned before its call. -/
def SnapshotsFresh (db : Database) (events : List ThreadEvent) : Prop :=
  ∀ txnId returned thread start stop environment snapshot,
    CommitReturns db events txnId returned → returned < start →
    SnapshotCall db events thread start stop →
    ((concurrentMachine db).trace events)[stop]? =
      some (⟨thread, .step environment⟩, some (.tookSnapshot .full snapshot)) →
    txnId ≤ snapshot.snapshotId ∧ txnId ∉ snapshot.activeTxns ∧
      ∃ moment, returned < moment ∧ moment ≤ stop ∧
        snapshot.commitTsMap =
          ((managerAt db events moment).snapshot .snapshot).commitTsMap

/-- The call gets the cached snapshot. -/
structure HitsCache (db : Database) (events : List ThreadEvent)
    (thread start stop : Nat) (held : HeldSnapshot) : Prop where
  call : SnapshotCall db events thread start stop
  step : ∃ environment, events[stop]? = some ⟨thread, .step environment⟩
  reads : ((concurrentMachine db).stateAt events stop).threads thread =
    .readCache .full
  cached : ((concurrentMachine db).stateAt events stop).shared.cachedSnapshot =
    some held

lemma take_settled_iff {kind : SnapshotKind} :
    txnId ≤ (kind.take mgr).snapshotId ∧ txnId ∉ (kind.take mgr).activeTxns ↔
      Settled mgr txnId := by
  have ids : (kind.take mgr).snapshotId = mgr.committedTxn := by cases kind <;> rfl
  have active : (kind.take mgr).activeTxns = mgr.activeIds := by cases kind <;> rfl
  rw [ids, active, VisibilityManager.mem_activeIds, Settled]

/-- Snapshots are fresh exactly when every call that starts after a commit
returned and finds the cache filled, finds a snapshot for which the manager was
read after that commit was published, and whose commit timestamps (none, if it
is one with the active transactions only) are those of the manager at a moment
since the return. -/
theorem snapshots_fresh_iff (db : Database) (events : List ThreadEvent) : SnapshotsFresh db events ↔
      ∀ txnId returned thread start stop held,
        CommitReturns db events txnId returned → returned < start →
        HitsCache db events thread start stop held →
        (∃ step < held.moment, PublishesAt db events txnId step) ∧
          ∃ moment, returned < moment ∧ moment ≤ stop ∧
            (held.kind.take (managerAt db events held.moment)).commitTsMap =
              ((managerAt db events moment).snapshot .snapshot).commitTsMap := by
  constructor
  · intro fresh txnId returned thread start stop held returns later hit
    obtain ⟨env, found⟩ := hit.step
    have taken := held_takenBefore db events stop held (Or.inl hit.cached)
    obtain ⟨step, -, publishes⟩ := returns.published
    have answered : ((concurrentMachine db).trace events)[stop]? =
        some (⟨thread, .step env⟩, some (.tookSnapshot .full held.snapshot)) := by
      have reads := hit.reads
      have cached := hit.cached
      rw [Machine.trace_getElem?, found]
      generalize (concurrentMachine db).stateAt events stop = state at *
      simp [Machine.answer, concurrentMachine, reads, SharedDatabase.advance, cached]
    obtain ⟨reached, inactive, sameTs⟩ := fresh txnId returned thread start stop
      env held.snapshot returns later hit.call answered
    rw [taken.snapshot] at reached inactive sameTs
    refine ⟨⟨step, ?_, publishes⟩, sameTs⟩
    exact (settled_iff_published_before publishes).mp (take_settled_iff.mp ⟨reached, inactive⟩)
  · intro hits txnId returned thread start stop env snapshot returns later call answered
    obtain ⟨found, stepEnvironment, -, took⟩ := step_of_result answered
    obtain ⟨step, earlier, publishes⟩ := returns.published
    rcases SharedDatabase.advance_tookSnapshot _ _ _ took with
      ⟨held, reads, cached, rfl⟩ | ⟨held, filling, full, rfl⟩
    · have taken := held_takenBefore db events stop held (Or.inl cached)
      obtain ⟨⟨own, before, publishes⟩, sameTs⟩ := hits txnId returned thread
        start stop held returns later ⟨call, ⟨env, found⟩, reads, cached⟩
      have settled := (settled_iff_published_before publishes).mpr before
      rw [taken.snapshot]
      obtain ⟨reached, inactive⟩ := take_settled_iff.mpr settled
      exact ⟨reached, inactive, sameTs⟩
    · -- The cache was empty, so the manager was read during the call.
      have taken := held_takenBefore db events stop held (Or.inr ⟨thread, filling⟩)
      have during : start < held.moment := by
        rcases call.inSnapshot call.ordered le_rfl with asking | reading | ⟨filled, same, -, during⟩
        · rw [asking] at filling
          cases filling
        · rw [reading] at filling
          cases filling
        · rw [filling] at same
          rw [ThreadState.fillCache.inj same]
          exact during
      have settled : Settled (managerAt db events held.moment) txnId :=
        (settled_iff_published_before publishes).mpr (by omega)
      rw [taken.snapshot]
      obtain ⟨reached, inactive⟩ := take_settled_iff.mpr settled
      refine ⟨reached, inactive, held.moment, by omega, taken.earlier.le, ?_⟩
      rw [full]
      rfl

end Runs

def lateFill : List ThreadEvent :=
  let start := fun thread call => ThreadEvent.mk thread (.start call)
  let steps := fun count thread => List.replicate count
    (ThreadEvent.mk thread (.step (.at 1700000000000)))
  [start 0 (.snapshot .full)] ++ steps 2 0 ++ [start 1 .beginTxn] ++
    steps 4 1 ++ [start 1 (.commitTxn 1)] ++ steps 7 1 ++ steps 1 0 ++
    [start 2 (.snapshot .full)] ++ steps 1 2

/-- The snapshot of thread 2 is from before transaction 1, whose commit had
returned. -/
theorem late_fill_is_stale : ¬ SnapshotsFresh (.new (.new true .syncEach) 8) lateFill := by
  intro fresh
  have call : SnapshotCall (.new (.new true .syncEach) 8) lateFill 2 17 18 := by
    refine ⟨rfl, rfl, by decide, fun index after within => ?_⟩
    obtain rfl : index = 18 := by omega
    have asking : ((concurrentMachine (.new (.new true .syncEach) 8)).stateAt
        lateFill 18).threads 2 = .readCache .full := rfl
    rw [asking]
    exact ThreadState.noConfusion
  have stale := fresh 1 15 2 17 18 (.at 1700000000000)
    (SnapshotKind.full.take .new) ⟨_, rfl⟩ (by decide) call rfl
  exact absurd stale.1 (by decide)

end RockDuck
