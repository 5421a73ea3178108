import RockDuck.VisibilityRuns

/-!
# The registry of transactions

The manager knows which transactions are active and which were committed.
-/

namespace RockDuck

open ManagerEvent VisibilityManager

variable {kv : MvccBucket} {state : ManagerState} {event : ManagerEvent} {txnId : TxnId}

/-- With the metadata store at hand, an active transaction is refused exactly
when another active one with known key sets wrote what it read, or read or wrote
what it wrote.  Then it is taken out of the active ones and nothing else
changes. -/
theorem commit_rejected_iff_conflict (manager : VisibilityManager) (kv : MvccBucket)
    (txnId insertedAt : Nat) (environment : CommitEnvironment) (txnMeta : TxnMeta)
    (active : manager.activeTxns[txnId]? = some txnMeta) (stored : environment.removeFault = none) :
    let after := manager.commitTxn kv txnId insertedAt environment
    ((∃ message, after.2 = .error (.mvccConflict message)) ↔
        ∃ other otherMeta key, other ≠ txnId ∧
          manager.activeTxns[other]? = some otherMeta ∧ otherMeta.isRecovered = false ∧
          (key ∈ otherMeta.writtenKeys ∧ key ∈ txnMeta.readKeys ∨
            (key ∈ otherMeta.readKeys ∨ key ∈ otherMeta.writtenKeys) ∧
              key ∈ txnMeta.writtenKeys)) ∧
      ∀ message, after.2 = .error (.mvccConflict message) →
        txnId ∉ after.1.1.activeTxns ∧
          after.1.1.committedHistory = manager.committedHistory ∧
          after.1.1.committedTxn = manager.committedTxn ∧
          ∀ other, other ≠ txnId →
            after.1.1.activeTxns[other]? = manager.activeTxns[other]? := by
  intro after
  rcases manager.commitTxn_cases kv txnId insertedAt environment with
    ⟨inactive, -⟩ | ⟨found, foundActive, outcome⟩
  · rw [active] at inactive
    cases inactive
  rw [active, Option.some.injEq] at foundActive
  subst found
  rcases outcome with ⟨conflict, error, detected, named, rejected⟩ | ⟨passed, accepted⟩
  · rw [stored, Option.getD_none] at named
    subst named
    simp only [after, rejected]
    refine ⟨⟨fun _ => ?_, fun _ => ⟨_, rfl⟩⟩, fun _ _ => ?_⟩
    · -- The check found a conflict, so not every pair is free of one.
      have conflicts : ¬ manager.detectConflict txnId txnMeta environment = none := by
        simp [detected]
      rw [detectConflict_eq_none] at conflicts
      push Not at conflicts
      obtain ⟨other, otherMeta, otherActive, differs, known, key, conflict⟩ := conflicts
      refine ⟨other, otherMeta, key, differs, otherActive, known, ?_⟩
      rw [TxnMeta.ConflictsOn] at conflict
      tauto
    · refine ⟨fun still => (mem_removeActive.mp still).1 rfl, rfl, rfl, fun other differs => ?_⟩
      rw [removeActive_activeTxns, if_neg differs]
  · simp only [after, accepted, stored, reduceCtorEq, exists_false, false_iff,
      false_implies, implies_true, and_true]
    rintro ⟨other, otherMeta, key, differs, otherActive, known, both⟩
    refine detectConflict_eq_none.mp passed other otherMeta otherActive differs known key ?_
    rw [TxnMeta.ConflictsOn]
    tauto

def readOfWritten : List ManagerEvent :=
  [beginTxn 1 none, beginTxn 2 none, recordWrite 1 [7], recordRead 2 [7]]

theorem commit_rejected_iff_conflict_readOfWritten :
    ∃ txnMeta, (managerAfter .empty readOfWritten).activeTxns[1]? = some txnMeta ∧
      ((∃ message, ((managerAfter .empty readOfWritten).commitTxn .empty 1 0
          (.at 0)).2 = .error (.mvccConflict message)) ↔ ∃ other otherMeta key, other ≠ 1 ∧
          (managerAfter .empty readOfWritten).activeTxns[other]? = some otherMeta ∧
          otherMeta.isRecovered = false ∧ (key ∈ otherMeta.writtenKeys ∧ key ∈ txnMeta.readKeys ∨
            (key ∈ otherMeta.readKeys ∨ key ∈ otherMeta.writtenKeys) ∧
              key ∈ txnMeta.writtenKeys)) := by
  have present : ((managerAfter .empty readOfWritten).activeTxns[1]?).isSome = true := by
    decide +kernel
  obtain ⟨txnMeta, active⟩ := Option.isSome_iff_exists.mp present
  exact ⟨txnMeta, active, (commit_rejected_iff_conflict _ .empty 1 0 (.at 0) txnMeta active rfl).1⟩

/-- The call gets past the conflict check of `commit_txn` and publishes the
commit.  The metadata store may still fail afterwards. -/
def CommitStep (state : ManagerState) (event : ManagerEvent) (txnId : TxnId) : Prop :=
  ∃ insertedAt environment txnMeta,
    event = commitTxn txnId insertedAt environment ∧
      state.1.activeTxns[txnId]? = some txnMeta ∧
      state.1.detectConflict txnId txnMeta environment = none

lemma CommitStep.published (step : CommitStep state event txnId) (kv) :
    txnId ∈ state.1.activeTxns ∧ ∃ insertedAt environment,
      ((managerMachine kv).next state event).1 =
        state.1.publishCommit txnId insertedAt environment := by
  obtain ⟨insertedAt, environment, info, rfl, active, passed⟩ := step
  refine ⟨mem_activeTxns_of_getElem? active, insertedAt, environment, ?_⟩
  rcases state.1.commitTxn_cases state.2 txnId insertedAt environment with
    ⟨inactive, -⟩ | ⟨found, foundActive, rejected | ⟨-, accepted⟩⟩
  · rw [active] at inactive
    cases inactive
  · obtain ⟨conflict, error, detected, -⟩ := rejected
    rw [active, Option.some.injEq] at foundActive
    subst found
    rw [passed] at detected
    cases detected
  · simp [Machine.next, managerMachine, accepted]

section

variable (kv : MvccBucket) (state : ManagerState) (event : ManagerEvent)

lemma registry_next : let after := ((managerMachine kv).next state event).1
    (after.committedTxn = state.1.committedTxn ∧ after.committedHistory = state.1.committedHistory ∧
        ∀ txnId ∈ after.activeTxns, txnId ∈ state.1.activeTxns) ∨
      (∃ txnId, state.1.committedTxn < txnId ∧ after.committedTxn = state.1.committedTxn ∧
        after.committedHistory = state.1.committedHistory ∧
        ∀ other ∈ after.activeTxns, other = txnId ∨ other ∈ state.1.activeTxns) ∨
      ∃ txnId, CommitStep state event txnId := by
  simp only [Machine.next, managerMachine]
  cases event with
  | beginTxn target fault =>
    dsimp only
    rcases state.1.beginTxn_cases state.2 target fault with ⟨error, refused⟩ | ⟨-, above, started⟩
    · rw [refused]
      exact Or.inl ⟨rfl, rfl, fun _ active => active⟩
    · rw [started]
      refine Or.inr (Or.inl ⟨target, above, rfl, rfl, fun other active => ?_⟩)
      rw [Std.ExtTreeMap.mem_insert] at active
      refine active.imp_left fun same => ?_
      exact (Std.LawfulEqCmp.eq_of_compare same).symm
  | recordRead target key =>
    left
    simp [VisibilityManager.recordRead]
  | recordWrite target key =>
    left
    simp [VisibilityManager.recordWrite]
  | commitTxn target insertedAt env =>
    dsimp only
    rcases state.1.commitTxn_cases state.2 target insertedAt env with
      ⟨-, refused⟩ | ⟨info, active, rejected | ⟨passed, -⟩⟩
    · rw [refused]
      exact Or.inl ⟨rfl, rfl, fun _ active => active⟩
    · obtain ⟨conflict, error, -, -, rejected⟩ := rejected
      rw [rejected]
      exact Or.inl ⟨rfl, rfl, fun _ active => (mem_removeActive.mp active).2⟩
    · exact Or.inr (Or.inr ⟨target, insertedAt, env, info, rfl, active, passed⟩)
  | rollbackTxn target fault =>
    exact Or.inl ⟨rfl, rfl, fun _ active => (mem_removeActive.mp active).2⟩

lemma committedTxn_le_next :
    state.1.committedTxn ≤ ((managerMachine kv).next state event).1.committedTxn := by
  rcases registry_next kv state event with ⟨same, -⟩ | ⟨begun, -, same, -⟩ | ⟨txnId, step⟩
  · exact same.ge
  · exact same.ge
  · obtain ⟨-, insertedAt, env, published⟩ := step.published kv
    rw [published, publishCommit_committedTxn]
    exact le_max_left _ _

end

/-- The transaction is behind the watermark and not active. -/
def Retired (state : ManagerState) (txnId : TxnId) : Prop :=
  txnId ≤ state.1.committedTxn ∧ txnId ∉ state.1.activeTxns

lemma Retired.next (retired : Retired state txnId) (kv event) :
    Retired ((managerMachine kv).next state event) txnId := by
  refine ⟨retired.1.trans (committedTxn_le_next kv state event), fun active => ?_⟩
  rcases registry_next kv state event with
    ⟨-, -, old⟩ | ⟨begun, above, -, -, old⟩ | ⟨committed, step⟩
  · exact retired.2 (old txnId active)
  · rcases old txnId active with rfl | before
    · exact absurd retired.1 (not_le.mpr above)
    · exact retired.2 before
  · obtain ⟨-, insertedAt, env, published⟩ := step.published kv
    rw [published, mem_publishCommit] at active
    exact retired.2 active.2

lemma CommitStep.retired (step : CommitStep state event txnId)
    (kv) : Retired ((managerMachine kv).next state event) txnId := by
  obtain ⟨-, insertedAt, env, published⟩ := step.published kv
  rw [Retired, published, publishCommit_committedTxn, mem_publishCommit]
  exact ⟨le_max_right _ _, fun active => active.1 rfl⟩

def HistoryRetired (state : ManagerState) : Prop :=
  ∀ txnId ∈ state.1.committedHistory, Retired state txnId

lemma HistoryRetired.next (all : HistoryRetired state) (kv event) :
    HistoryRetired ((managerMachine kv).next state event) := by
  intro txnId mem
  rcases registry_next kv state event with ⟨-, same, -⟩ | ⟨begun, -, -, same, -⟩ | ⟨committed, step⟩
  · exact (all txnId (same ▸ mem)).next kv event
  · exact (all txnId (same ▸ mem)).next kv event
  · obtain ⟨-, insertedAt, env, published⟩ := step.published kv
    obtain ⟨entry, found⟩ := mem_iff_exists_getElem?.mp mem
    rw [published] at found
    rcases publishCommit_committedHistory found with ⟨rfl, -⟩ | ⟨-, kept⟩
    · exact step.retired kv
    · have before : txnId ∈ state.1.committedHistory := mem_iff_exists_getElem?.mpr ⟨_, kept⟩
      exact (all txnId before).next kv event

lemma historyRetired_run (kv events) : HistoryRetired ((managerMachine kv).stateAfter events) := by
  refine (managerMachine kv).stateInvariant HistoryRetired ?_ ?_ events
  · intro txnId mem
    simp [managerMachine, VisibilityManager.new, VisibilityManager.newWithConfig] at mem
  · exact fun state event all => all.next kv event

variable {first second : Nat}

lemma committedTxn_mono (kv events) (ordered : first ≤ second) :
    ((managerMachine kv).stateAt events first).1.committedTxn ≤
      ((managerMachine kv).stateAt events second).1.committedTxn := by
  refine (managerMachine kv).stateAt_persists
    (fun state => ((managerMachine kv).stateAt events first).1.committedTxn ≤
      state.1.committedTxn) ordered le_rfl ?_
  intro idx event _ _ _ before
  exact before.trans (committedTxn_le_next kv _ event)

/-- The event commits the transaction. -/
def CommitStepAt (kv : MvccBucket) (events : List ManagerEvent) (txnId : TxnId)
    (index : Nat) : Prop :=
  ∃ event, events[index]? = some event ∧
    CommitStep ((managerMachine kv).stateAt events index) event txnId

lemma not_commitStepAt_later (step : CommitStepAt kv events txnId first) (later : first < second) :
    ¬ CommitStepAt kv events txnId second := by
  obtain ⟨event, atFirst, step⟩ := step
  rintro ⟨again, -, stepAgain⟩
  have retired : Retired ((managerMachine kv).stateAt events second) txnId := by
    refine (managerMachine kv).stateAt_persists (Retired · txnId) (Nat.succ_le_of_lt later) ?_ ?_
    · rw [Machine.stateAt_succ _ atFirst]
      exact step.retired kv
    · intro idx event _ _ _ before
      exact before.next kv event
  exact retired.2 (stepAgain.published kv).1

/-- The registry after any run: no id is active and in the history, the history
has no id above the committed one, the committed id never decreases, and the
commit step is reached once at most for each id. -/
theorem registry_invariant (kv : MvccBucket) (events : List ManagerEvent) :
    (∀ txnId, ¬ (txnId ∈ (managerAfter kv events).activeTxns ∧
        txnId ∈ (managerAfter kv events).committedHistory)) ∧
      (∀ txnId ∈ (managerAfter kv events).committedHistory,
        txnId ≤ (managerAfter kv events).committedTxn) ∧ (∀ first second, first ≤ second →
        ((managerMachine kv).stateAt events first).1.committedTxn ≤
          ((managerMachine kv).stateAt events second).1.committedTxn) ∧
      ∀ txnId first second, CommitStepAt kv events txnId first →
        CommitStepAt kv events txnId second → first = second := by
  have retired := historyRetired_run kv events
  refine ⟨fun txnId both => (retired txnId both.2).2 both.1,
    fun txnId listed => (retired txnId listed).1,
    fun first second => committedTxn_mono kv events,
    fun txnId first second atFirst atSecond => ?_⟩
  rcases lt_trichotomy first second with earlier | same | later
  · exact absurd atSecond (not_commitStepAt_later atFirst earlier)
  · exact same
  · exact absurd atFirst (not_commitStepAt_later atSecond later)

/-- At this position of the run the transaction is pruned from the history. -/
def EvictedAt (kv : MvccBucket) (events : List ManagerEvent) (txnId : TxnId) (index : Nat) : Prop :=
  txnId ∈ ((managerMachine kv).stateAt events index).1.committedHistory ∧
    txnId ∉ ((managerMachine kv).stateAt events (index + 1)).1.committedHistory

lemma isVisible_snapshot_iff {mgr : VisibilityManager} :
    VisibilityManager.isVisible (mgr.snapshot isolation) created none = true ↔
      created ≤ mgr.committedTxn ∧ created ∉ mgr.activeTxns ∧ ∃ ts insertedAt,
          mgr.committedHistory[created]? = some (ts, insertedAt) ∧ ts ≤ mgr.committedTxn := by
  rw [isVisible_iff, snapshot_counts]
  simp [VisibilityManager.snapshot, VisibilityManager.snapshotWithCommitTsMap,
    VisibilityManager.snapshotWithActiveOnly]

/-- One call keeps a row visible unless it evicts the entry of its creator. -/
lemma isVisible_next
    (visible : VisibilityManager.isVisible (state.1.snapshot isolation) created none = true)
    (kept : created ∈ ((managerMachine kv).next state event).1.committedHistory) :
    VisibilityManager.isVisible
      (((managerMachine kv).next state event).1.snapshot isolation') created none = true := by
  obtain ⟨below, inactive, ts, insertedAt, found, covered⟩ := isVisible_snapshot_iff.mp visible
  have retired : Retired state created := ⟨below, inactive⟩
  have grows := committedTxn_le_next kv state event
  obtain ⟨below', inactive'⟩ := retired.next kv event
  refine isVisible_snapshot_iff.mpr ⟨below', inactive', ts, insertedAt, ?_, covered.trans grows⟩
  rcases registry_next kv state event with ⟨-, same, -⟩ | ⟨begun, -, -, same, -⟩ | ⟨committed, step⟩
  · rw [same, found]
  · rw [same, found]
  · obtain ⟨active, newInsertedAt, env, published⟩ := step.published kv
    obtain ⟨entry, mem⟩ := mem_iff_exists_getElem?.mp kept
    rw [published] at mem ⊢
    rcases publishCommit_committedHistory mem with ⟨rfl, -⟩ | ⟨-, before⟩
    · exact absurd active inactive
    · rw [mem, ← before, found]

/-- What a snapshot shows, every later snapshot of the run shows, as long as the
entry of its creator is not evicted in between. -/
theorem visible_stays_visible (kv : MvccBucket) (events : List ManagerEvent)
    (first second : Nat) (ordered : first ≤ second)
    (isolation isolation' : IsolationLevel) (created : TxnId) (visible : VisibilityManager.isVisible
      (((managerMachine kv).stateAt events first).1.snapshot isolation) created none = true)
    (kept : ∀ index, first ≤ index → index < second → ¬ EvictedAt kv events created index) :
    VisibilityManager.isVisible
      (((managerMachine kv).stateAt events second).1.snapshot isolation') created none = true := by
  have atSecond : ∀ isolation, VisibilityManager.isVisible
      (((managerMachine kv).stateAt events second).1.snapshot isolation) created
        none = true := by
    refine (managerMachine kv).stateAt_persists
      (fun state => ∀ isolation, VisibilityManager.isVisible
        (state.1.snapshot isolation) created none = true) ordered ?_ ?_
    · intro other
      exact isVisible_snapshot_iff.mpr (isVisible_snapshot_iff.mp visible)
    · intro index event late early atIndex before other
      refine isVisible_next (before other) ?_
      by_contra evicted
      obtain ⟨-, -, ts, insertedAt, found, -⟩ := isVisible_snapshot_iff.mp (before other)
      refine kept index late early ⟨mem_iff_exists_getElem?.mpr ⟨_, found⟩, ?_⟩
      rw [Machine.stateAt_succ _ atIndex]
      exact evicted
  exact atSecond isolation'

theorem visible_stays_visible_after_commit :
    VisibilityManager.isVisible (((managerMachine .empty).stateAt
      [beginTxn 5 none, commitTxn 5 3 (.at 3), beginTxn 6 none] 3).1.snapshot
        .snapshot) 5 none = true :=
  visible_stays_visible .empty
    [beginTxn 5 none, commitTxn 5 3 (.at 3), beginTxn 6 none] 2 3 (by decide)
    .snapshot .snapshot 5 (by decide +kernel) fun index late early evicted => by
      obtain rfl : index = 2 := by omega
      exact evicted.2 (by decide +kernel)

end RockDuck
