import RockDuck.MachineRuns
import RockDuck.TransactionLedger
import RockDuck.VisibilityManagerEffects

/-!
# Runs of the visibility manager

Any number of callers begin, commit and roll back transactions on one manager,
in any order.
-/

namespace RockDuck

open List

/-- A call into the manager, with what it meets outside of it. -/
inductive ManagerEvent where
  | beginTxn (txnId : TxnId) (fault : Fault)
  | recordRead (txnId : TxnId) (key : Key)
  | recordWrite (txnId : TxnId) (key : Key)
  | commitTxn (txnId : TxnId) (insertedAt : Nat)
      (environment : CommitEnvironment)
  | rollbackTxn (txnId : TxnId) (fault : Fault)

inductive ManagerAnswer where
  | recorded
  | finished (result : Except RockDuckError Unit)
  | committed (result : Except RockDuckError TxnSnapshot)

def ManagerAnswer.isCommitOk : ManagerAnswer → Bool
  | committed (.ok _) => true
  | _ => false

abbrev ManagerState := VisibilityManager × MvccBucket

namespace ManagerEvent

/-- The metadata store accepts the writes of this call. -/
def KvSucceeds : ManagerEvent → Prop
  | beginTxn _ fault => fault = none
  | recordRead _ _ => True
  | recordWrite _ _ => True
  | commitTxn _ _ environment => environment.removeFault = none
  | rollbackTxn _ fault => fault = none

/-- The readings this call takes of the millisecond clock, in order.  The
insertion time of a commit is read right before the call. -/
def clockReadings : ManagerEvent → List Nat
  | commitTxn _ insertedAt environment => [insertedAt, environment.commitTs, environment.pruneNow]
  | _ => []

/-- The clock never goes back during a run. -/
def ClockNondecreasing (events : List ManagerEvent) : Prop :=
  (events.flatMap clockReadings).Pairwise (· ≤ ·)

/-- What a call and its answer mean for the life of a transaction. -/
def ledgerAction : ManagerEvent × ManagerAnswer → LedgerAction TxnId Nat
  | (beginTxn txnId _, .finished (.ok ())) => .begin txnId
  | (commitTxn txnId _ environment, .committed (.ok _)) => .commit txnId environment.commitTs
  | (commitTxn txnId _ _, .committed (.error _)) => .abort txnId
  | (rollbackTxn txnId _, _) => .abort txnId
  | _ => .keep

end ManagerEvent

open ManagerEvent

/-- The manager as a machine. -/
def managerMachine (kv : MvccBucket) : Machine ManagerState ManagerEvent ManagerAnswer where
  initial := (.new, kv)
  step state event :=
    match event with
    | beginTxn txnId fault =>
      let (state, result) := state.1.beginTxn state.2 txnId fault
      (state, .finished result)
    | recordRead txnId key => ((state.1.recordRead txnId key, state.2), .recorded)
    | recordWrite txnId key => ((state.1.recordWrite txnId key, state.2), .recorded)
    | commitTxn txnId insertedAt environment =>
      let (state, result) := state.1.commitTxn state.2 txnId insertedAt environment
      (state, .committed result)
    | rollbackTxn txnId fault =>
      let (state, result) := state.1.rollbackTxn state.2 txnId fault
      (state, .finished result)

def managerAfter (kv : MvccBucket) (events : List ManagerEvent) : VisibilityManager :=
  ((managerMachine kv).stateAfter events).1

/-- The run commits the transaction at the time. -/
def CommittedAt (kv : MvccBucket) (events : List ManagerEvent)
    (txnId : TxnId) (commitTs : Nat) : Prop :=
  ∃ insertedAt environment snapshot,
    environment.commitTs = commitTs ∧
      (commitTxn txnId insertedAt environment, ManagerAnswer.committed (.ok snapshot)) ∈
        (managerMachine kv).trace events

def CommittedIn (kv : MvccBucket) (events : List ManagerEvent) (txnId : TxnId) : Prop :=
  ∃ commitTs, CommittedAt kv events txnId commitTs

variable {events : List ManagerEvent} {ledger : Ledger TxnId Nat} {kv : MvccBucket} {txnId : TxnId}
    {commitTs : Nat}

lemma committedAt_of_trace (env)
    (answered : (commitTxn txnId insertedAt env, answer) ∈ (managerMachine kv).trace events)
    (ok : answer.isCommitOk = true) : CommittedAt kv events txnId env.commitTs := by
  unfold ManagerAnswer.isCommitOk at ok
  split at ok
  · exact ⟨insertedAt, env, _, rfl, answered⟩
  · cases ok

/-- The ledger of a run. -/
def runLedger (kv : MvccBucket) (events : List ManagerEvent) : Ledger TxnId Nat :=
  (managerMachine kv).observe
    (fun ledger answered => ledger.record (ledgerAction answered))
    Ledger.empty events

/-- The manager agrees with the ledger. -/
structure Tracks (state : ManagerState) (ledger : Ledger TxnId Nat) :
    Prop where
  active_iff : ∀ txnId,
    txnId ∈ state.1.activeTxns ↔ ledger txnId = .active
  history : ∀ txnId commitTs insertedAt,
    state.1.committedHistory[txnId]? = some (commitTs, insertedAt) →
      ledger txnId = .committed commitTs
  committed_le : ∀ txnId commitTs,
    ledger txnId = .committed commitTs → txnId ≤ state.1.committedTxn

lemma tracks_new (kv) : Tracks (.new, kv) Ledger.empty where
  active_iff := by simp [VisibilityManager.new, VisibilityManager.newWithConfig, Ledger.empty]
  history := by simp [VisibilityManager.new, VisibilityManager.newWithConfig]
  committed_le := by simp [Ledger.empty]

lemma Tracks.keep {state after : ManagerState} (tracks : Tracks state ledger)
    (active : ∀ txnId, txnId ∈ after.1.activeTxns ↔ txnId ∈ state.1.activeTxns)
    (history : after.1.committedHistory = state.1.committedHistory)
    (committed : after.1.committedTxn = state.1.committedTxn) : Tracks after ledger where
  active_iff txnId := (active txnId).trans (tracks.active_iff txnId)
  history := by
    rw [history]
    exact tracks.history
  committed_le := by
    rw [committed]
    exact tracks.committed_le

section

variable {mgr : VisibilityManager} {kv after : MvccBucket}

section

variable (tracks : Tracks (mgr, kv) ledger)
include tracks

lemma Tracks.begin (unused : mgr.committedTxn < txnId) : Tracks ({ mgr with
          activeTxns := mgr.activeTxns.insert txnId (.new txnId) }, after)
      (ledger.record (.begin txnId)) := by
  have uncommitted (commitTs : Nat) : ledger txnId ≠ .committed commitTs := by
    intro committed
    exact absurd (tracks.committed_le txnId commitTs committed) (not_le.mpr unused)
  refine ⟨fun other => ?_, fun other commitTs insertedAt entry => ?_,
    fun other commitTs committed => ?_⟩
  · have active := tracks.active_iff other
    by_cases same : other = txnId
    · subst other
      cases phase : ledger txnId <;> simp_all [Ledger.record]
    · have cmp : compare txnId other ≠ .eq := by simp [Ne.symm same]
      simp [Ledger.record, same, Ne.symm same, active]
  · exact Ledger.record_committed (tracks.history other commitTs insertedAt entry) _
  · rcases Ledger.committed_of_record committed with before | ⟨-, impossible⟩
    · exact tracks.committed_le other commitTs before
    · cases impossible

lemma Tracks.abort (txnId) :
    Tracks (mgr.removeActive txnId, after) (ledger.record (.abort txnId)) := by
  refine ⟨fun other => ?_, fun other commitTs insertedAt entry => ?_,
    fun other commitTs committed => ?_⟩
  · have active := tracks.active_iff other
    by_cases same : other = txnId
    · subst other
      cases phase : ledger txnId <;> simp [Ledger.record, phase]
    · simpa [Ledger.record, same] using active
  · exact Ledger.record_committed (tracks.history other commitTs insertedAt entry) _
  · rcases Ledger.committed_of_record committed with before | ⟨-, impossible⟩
    · exact tracks.committed_le other commitTs before
    · cases impossible

lemma Tracks.commit (active : txnId ∈ mgr.activeTxns) (insertedAt : Nat) (env) :
    Tracks (mgr.publishCommit txnId insertedAt env, after)
      (ledger.record (.commit txnId env.commitTs)) := by
  have wasActive := (tracks.active_iff txnId).mp active
  have nowCommitted :
      ledger.record (.commit txnId env.commitTs) txnId =
        .committed env.commitTs := by
    simp [Ledger.record, wasActive]
  refine ⟨fun other => ?_, fun other commitTs insertedAt entry => ?_,
    fun other commitTs committed => ?_⟩
  · have otherActive := tracks.active_iff other
    by_cases same : other = txnId
    · subst other
      simp [nowCommitted]
    · simpa [Ledger.record, same] using otherActive
  · rcases VisibilityManager.publishCommit_committedHistory entry with ⟨rfl, fresh⟩ | ⟨-, kept⟩
    · cases fresh
      exact nowCommitted
    · exact Ledger.record_committed (tracks.history other _ _ kept) _
  · rw [VisibilityManager.publishCommit_committedTxn]
    rcases Ledger.committed_of_record committed with before | ⟨-, now⟩
    · exact le_max_of_le_left (tracks.committed_le other commitTs before)
    · cases now
      exact le_max_right _ _

end

end

lemma tracks_step (kv state ledger) (event : ManagerEvent) (ran : event.KvSucceeds)
    (tracks : Tracks state ledger) : Tracks ((managerMachine kv).next state event) (ledger.record
        (ledgerAction (event, (managerMachine kv).answer state event))) := by
  obtain ⟨mgr, bucket⟩ := state
  simp only [Machine.next, Machine.answer, managerMachine]
  cases event with
  | beginTxn txnId fault =>
    cases ran
    rcases mgr.beginTxn_cases bucket txnId none with ⟨error, refused⟩ | ⟨-, unused, started⟩
    · simpa [refused, ledgerAction] using tracks
    · simpa [started, ledgerAction, MvccBucket.addActiveTxn] using tracks.begin unused
  | recordRead txnId key =>
    refine tracks.keep (fun other => ?_) ?_ ?_
    all_goals simp [VisibilityManager.recordRead]
  | recordWrite txnId key =>
    refine tracks.keep (fun other => ?_) ?_ ?_
    all_goals simp [VisibilityManager.recordWrite]
  | commitTxn txnId insertedAt env =>
    have stored : env.removeFault = none := ran
    rcases mgr.commitTxn_cases bucket txnId insertedAt env with ⟨inactive, refused⟩ |
      ⟨info, active, ⟨conflict, error, -, -, rejected⟩ | ⟨-, accepted⟩⟩
    · have absent : txnId ∉ mgr.activeTxns := by simpa using inactive
      have idle : ledger txnId ≠ .active := mt (tracks.active_iff txnId).mpr absent
      simpa [refused, ledgerAction, Ledger.record_abort_of_not_active idle] using tracks
    · simpa [rejected, ledgerAction] using tracks.abort txnId
    · have mem : txnId ∈ mgr.activeTxns :=
        VisibilityManager.mem_activeTxns_of_getElem? active
      simpa [accepted, stored, ledgerAction] using tracks.commit mem insertedAt env
  | rollbackTxn txnId fault =>
    simpa [ledgerAction, VisibilityManager.rollbackTxn, VisibilityManager.abortTxn] using
      tracks.abort txnId

lemma tracks_run (kv events) (ran : ∀ event ∈ events, event.KvSucceeds) :
    Tracks ((managerMachine kv).stateAfter events) (runLedger kv events) :=
  (managerMachine kv).observe_inStep (tracks_new kv) (tracks_step kv) events
    ran

lemma runLedger_eq_after (kv events) : runLedger kv events =
      Ledger.after (((managerMachine kv).trace events).map ledgerAction) := by
  simp [runLedger, Machine.observe, Ledger.after, foldl_map]

lemma ledgerAction_eq_commit (action : ledgerAction answered = .commit txnId commitTs) :
    ∃ insertedAt env snap, env.commitTs = commitTs ∧
        answered = (commitTxn txnId insertedAt env, .committed (.ok snap)) := by
  unfold ledgerAction at action
  split at action <;> cases action
  exact ⟨_, _, _, rfl, rfl⟩

lemma committedAt_of_runLedger (committed : runLedger kv events txnId = .committed commitTs) :
    CommittedAt kv events txnId commitTs := by
  rw [runLedger_eq_after] at committed
  have member := Ledger.commit_mem_of_after committed
  rw [mem_map] at member
  obtain ⟨answered, inTrace, action⟩ := member
  obtain ⟨insertedAt, env, snap, reading, rfl⟩ := ledgerAction_eq_commit action
  exact ⟨insertedAt, env, snap, reading, inTrace⟩

lemma active_of_commit_ok
    (answered : (managerMachine kv).answer state (commitTxn txnId insertedAt env) =
      .committed (.ok snap)) : txnId ∈ state.1.activeTxns := by
  obtain ⟨info, active, -⟩ :=
    VisibilityManager.commitTxn_of_ok (ManagerAnswer.committed.inj answered)
  exact VisibilityManager.mem_activeTxns_of_getElem? active

lemma runLedger_of_committedAt (ran : ∀ event ∈ events, event.KvSucceeds)
    (committed : CommittedAt kv events txnId commitTs) :
    runLedger kv events txnId = .committed commitTs := by
  obtain ⟨insertedAt, env, snap, rfl, answered⟩ := committed
  induction events using List.reverseRecOn with
  | nil => simp at answered
  | append_singleton events event ih =>
    have old : ∀ event ∈ events, event.KvSucceeds :=
      fun event mem => ran event (by simp [mem])
    rw [runLedger_eq_after, Machine.trace_concat, map_append,
      map_singleton, Ledger.after_concat, ← runLedger_eq_after]
    rw [Machine.trace_concat, mem_append, mem_singleton] at answered
    rcases answered with before | now
    · exact Ledger.record_committed (ih old before) _
    · obtain ⟨rfl, answer⟩ := Prod.mk.inj now
      have active := active_of_commit_ok answer.symm
      have phase := ((tracks_run kv events old).active_iff txnId).mp active
      simp [← answer, ledgerAction, Ledger.record, phase]

lemma committedIn_of_counts (ran : ∀ event ∈ events, event.KvSucceeds)
    (counts : ((managerAfter kv events).snapshot isolation).Counts txnId) :
    CommittedIn kv events txnId := by
  obtain ⟨-, commitTs, insertedAt, entry, -⟩ := VisibilityManager.snapshot_counts.mp counts
  exact ⟨commitTs, committedAt_of_runLedger
    ((tracks_run kv events ran).history txnId commitTs insertedAt entry)⟩

/-- No dirty reads.  A row is visible only when its creator committed before
the snapshot, and hidden by a delete only when the deleter did.  In
particular the rows and deletes of transactions that are still active, or
that never committed for any other reason, have no effect. -/
theorem snapshot_reads_committed_only (kv : MvccBucket) (events : List ManagerEvent)
    (succeeds : ∀ event ∈ events, event.KvSucceeds) (isolation : IsolationLevel)
    (created deleted : TxnId) : let manager := managerAfter kv events
    let visible := VisibilityManager.isVisible (manager.snapshot isolation)
    ((visible created none = true ∨ visible created (some deleted) = true) →
        CommittedIn kv events created) ∧
      (visible created none = true → visible created (some deleted) = false →
          CommittedIn kv events deleted) ∧
      (created ∈ manager.activeTxns ∨ ¬ CommittedIn kv events created →
        ∀ delete, visible created delete = false) ∧
      (deleted ∈ manager.activeTxns ∨ ¬ CommittedIn kv events deleted →
        visible created (some deleted) = visible created none) := by
  intro manager visible
  have uncounted {txnId : TxnId}
      (ignored : txnId ∈ manager.activeTxns ∨ ¬ CommittedIn kv events txnId) :
      ¬ (manager.snapshot isolation).Counts txnId := by
    intro counts
    rcases ignored with active | uncommitted
    · exact (VisibilityManager.snapshot_counts.mp counts).1 active
    · exact uncommitted (committedIn_of_counts succeeds counts)
  refine ⟨?_, ?_, ?_, ?_⟩
  · rintro (shown | shown)
    all_goals
      exact committedIn_of_counts succeeds (VisibilityManager.counts_of_isVisible shown)
  · intro shown hidden
    by_contra uncommitted
    have same : visible created (some deleted) = visible created none :=
      VisibilityManager.isVisible_of_deleter_not_counts
        (uncounted (Or.inr uncommitted)) created
    simp [same, shown] at hidden
  · intro ignored delete
    rw [← Bool.not_eq_true]
    exact mt VisibilityManager.counts_of_isVisible (uncounted ignored)
  · intro ignored
    exact VisibilityManager.isVisible_of_deleter_not_counts (uncounted ignored) created

theorem snapshot_reads_committed_only_after_commit :
    CommittedIn .empty [beginTxn 5 none, commitTxn 5 3 (.at 3)] 5 :=
  (snapshot_reads_committed_only .empty [beginTxn 5 none, commitTxn 5 3 (.at 3)]
    (by simp [KvSucceeds, CommitEnvironment.at]) .snapshot 5 5).1 (Or.inl (by decide +kernel))

/-- Committed data is readable as long as the history retains the commit: a
row of a committed transaction is visible in every snapshot whose id has
reached the commit timestamp while the entry is kept, and invisible once the
entry is evicted. -/
theorem committed_visible_while_retained (kv : MvccBucket) (events : List ManagerEvent)
    (succeeds : ∀ event ∈ events, event.KvSucceeds) (txnId : TxnId) (commitTs : Nat)
    (committed : CommittedAt kv events txnId commitTs) (isolation : IsolationLevel) :
    let manager := managerAfter kv events
    let visible := VisibilityManager.isVisible (manager.snapshot isolation)
    (txnId ∈ manager.committedHistory → commitTs ≤ manager.committedTxn →
        visible txnId none = true) ∧
      (txnId ∉ manager.committedHistory → visible txnId none = false) := by
  intro manager visible
  have tracks := tracks_run kv events succeeds
  have phase := runLedger_of_committedAt succeeds committed
  constructor
  · intro retained covered
    obtain ⟨entry, found⟩ := mem_iff_exists_getElem?.mp retained
    have recorded := tracks.history txnId entry.1 entry.2 found
    have sameTs : entry.1 = commitTs := by simpa [phase] using recorded.symm
    have inactive : txnId ∉ manager.activeTxns := by
      intro active
      have := (tracks.active_iff txnId).mp active
      simp [phase] at this
    refine (VisibilityManager.isVisible_iff _ _ _).mpr
      ⟨tracks.committed_le txnId commitTs phase, ?_, by simp⟩
    exact VisibilityManager.snapshot_counts.mpr
      ⟨inactive, entry.1, entry.2, found, sameTs.trans_le covered⟩
  · intro evicted
    rw [← Bool.not_eq_true]
    intro shown
    obtain ⟨-, ts, insertedAt, found, -⟩ := VisibilityManager.snapshot_counts.mp
      (VisibilityManager.counts_of_isVisible shown)
    rw [Std.ExtTreeMap.getElem?_eq_none evicted] at found
    cases found

theorem committed_visible_while_retained_after_commit :
    VisibilityManager.isVisible
      ((managerAfter .empty [beginTxn 5 none, commitTxn 5 3 (.at 3)]).snapshot .snapshot)
      5 none = true :=
  (committed_visible_while_retained .empty [beginTxn 5 none, commitTxn 5 3 (.at 3)]
    (by simp [KvSucceeds, CommitEnvironment.at]) 5 3
    (committedAt_of_trace (.at 3) (mem_cons_of_mem _ mem_cons_self) (by decide +kernel))
    .snapshot).1 (by decide +kernel) (by decide +kernel)

/-- A committed row stops being visible when its history entry outlives the
retention time, although its timestamp is below the snapshot id. -/
theorem committed_row_evicted : ¬ ∀ (kv : MvccBucket) (events : List ManagerEvent) (txnId : TxnId)
        (isolation : IsolationLevel),
      ClockNondecreasing events → (∀ event ∈ events, event.KvSucceeds) →
        CommittedIn kv events txnId → VisibilityManager.isVisible
            ((managerAfter kv events).snapshot isolation) txnId none =
              true := by
  intro readable
  let events := [beginTxn 5 none, commitTxn 5 0 (.at 0),
    beginTxn 10000000 none, commitTxn 10000000 3600001 (.at 3600001)]
  have committed : CommittedIn .empty events 5 :=
    ⟨0, committedAt_of_trace (.at 0) (mem_cons_of_mem _ mem_cons_self) (by decide +kernel)⟩
  have visible := readable .empty events 5 .snapshot
    (by simp [events, ClockNondecreasing, clockReadings, CommitEnvironment.at])
    (by simp [events, KvSucceeds, CommitEnvironment.at]) committed
  revert visible
  decide +kernel

end RockDuck
