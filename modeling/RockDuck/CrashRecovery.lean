import RockDuck.VisibilityManagerEffects
import RockDuck.WalReplay

/-!
# Opening a database after a crash

Opening replays the log and rebuilds the visibility manager from the latest
checkpoint or the metadata store, overlaid by what the log says.
-/

namespace RockDuck

open List

/-- What a checkpoint has of the transactions. -/
structure CheckpointMvccState where
  activeTxns : List (TxnId × Nat)
  committedHistory : List (TxnId × Nat)
  visibilityConfig : VisibilityConfig

/-- What opening meets outside the log: the outcomes of its calls to the
metadata store, what the store lists, the clock, and the order in which the
recovered history is visited. -/
structure OpenEnvironment where
  committedTxnRead : Fault
  committedTxnsRead : Fault
  activeTxnsRead : Fault
  committedTxnWrite : Fault
  listing : Listing
  now : Nat
  historyOrder : Traversal (TxnId × Nat)

def OpenEnvironment.at (now : Nat) : OpenEnvironment where
  committedTxnRead := none
  committedTxnsRead := none
  activeTxnsRead := none
  committedTxnWrite := none
  listing := .first
  now := now
  historyOrder := .asStored

/-- A read that falls back to a default when the store fails. -/
def Fault.readOr {Value : Type*} (fault : Fault) (value fallback : Value) : Value :=
  match fault with
  | none => value
  | some _ => fallback

/-- A database after it was opened. -/
structure OpenedDatabase where
  mvcc : VisibilityManager
  nextTxn : TxnId
  kv : MvccBucket

/-- Opening reports a failed replay by its kind. -/
def replayErrorAsOpenError (error : ReplayError) : RockDuckError :=
  match error.kind with
  | .corruption msg => .internal
      ("WAL evidence-stale during recovery: " ++ msg ++
        " (see wal/replay_failure)")
  | .fatal msg => .write ("WAL recovery fatal error: " ++ msg)
  | .recoverable msg => .write ("WAL recovery unexpected: " ++ msg)
  | .ambiguous msg => .write ("WAL recovery unexpected: " ++ msg)

/-- The history recovery starts from, before the log is laid over it. -/
def savedHistory (checkpoint : Option CheckpointMvccState) (kv : MvccBucket)
    (environment : OpenEnvironment) : Std.ExtTreeMap TxnId Nat :=
  match checkpoint with
  | some state => Std.ExtTreeMap.ofList state.committedHistory
  | none => environment.committedTxnsRead.readOr (kv.getCommittedTxns environment.listing) ∅

/-- The transactions that were active by the checkpoint, or by the KV store without one. -/
def savedActive (checkpoint : Option CheckpointMvccState) (kv : MvccBucket)
    (environment : OpenEnvironment) : List (TxnId × Nat) :=
  match checkpoint with
  | some state => state.activeTxns
  | none => environment.activeTxnsRead.readOr (kv.getActiveTxns environment.listing) []

/-- The committed transactions of the checkpoint or the KV store, and those of the log. -/
def recoveredHistory (checkpoint : Option CheckpointMvccState) (kv : MvccBucket)
    (environment : OpenEnvironment) (replayed : RecoveryResult) : Std.ExtTreeMap TxnId Nat :=
  (savedHistory checkpoint kv environment).insertMany replayed.commitTsMap.toList

/-- The active transactions after recovery: those saved, and those that the replay reports. -/
def recoveredActive (checkpoint : Option CheckpointMvccState) (kv : MvccBucket)
    (environment : OpenEnvironment) (replayed : RecoveryResult) : List (TxnId × Nat) :=
  ((savedActive checkpoint kv environment).filter fun entry =>
    !(replayed.activeTxns.any fun walEntry => walEntry.1 == entry.1)) ++
    replayed.activeTxns

/-- Build the manager after the log was replayed. -/
def openAfterReplay (checkpoint : Option CheckpointMvccState) (kv : MvccBucket)
    (environment : OpenEnvironment) (replayed : RecoveryResult) : OpenedDatabase :=
  let committedTxnKv := environment.committedTxnRead.readOr kv.getCommittedTxn 0
  let committedTxn := max committedTxnKv replayed.maxSeenCommittedTxn
  let kvAfter :=
    if replayed.maxSeenCommittedTxn > committedTxnKv then
      (kv.putCommittedTxn replayed.maxSeenCommittedTxn environment.committedTxnWrite).1
    else kv
  let history := recoveredHistory checkpoint kvAfter environment replayed
  let mvcc := VisibilityManager.new
    |>.setCommittedTxn committedTxn
    |>.setReplayWatermark replayed.replayWatermark
    |>.recoverCommittedHistoryWithConfig
      (environment.historyOrder.order history.toList)
      (checkpoint.map fun state => state.visibilityConfig)
      replayed.insertedAtMap environment.now
    |>.recoverActiveTxns
      (recoveredActive checkpoint kvAfter environment replayed)
  { mvcc := mvcc
    nextTxn := min (committedTxn + 1) (2 ^ 64 - 1)
    kv := kvAfter }

/-- Open a database: replay the log and build the manager. -/
def openWithConfig {World : Type*} (apply : World → WalOp → World × Except RockDuckError Unit)
    (world : World) (records : List WalOp) (readerError : Option String)
    (checkpoint : Option CheckpointMvccState) (kv : MvccBucket) (environment : OpenEnvironment) :
    World × Except RockDuckError OpenedDatabase :=
  match replayCommittedOps apply world records readerError with
  | (world, .error error) => (world, .error (replayErrorAsOpenError error))
  | (world, .ok replayed) => (world, .ok (openAfterReplay checkpoint kv environment replayed))

/-- The log has a commit record of the transaction. -/
def CommitRecorded (records : List WalOp) (txnId : TxnId) : Prop :=
  ∃ op ∈ records, op.opType = .commit ∧ op.txnId = txnId

namespace VisibilityManager

private lemma recoverHistory_from (entries : List (TxnId × Nat)) (walInsertedAt) (now : Nat)
    (mgr txnId) :
    txnId ∈ (entries.foldl (recoverHistoryEntry walInsertedAt now) mgr).committedHistory ↔
      txnId ∈ entries.map Prod.fst ∨ txnId ∈ mgr.committedHistory := by
  induction entries generalizing mgr with
  | nil => simp
  | cons entry entries ih =>
    rw [foldl_cons, ih]
    simp only [recoverHistoryEntry, map_cons, mem_cons]
    grind

lemma mem_recoverCommittedHistory {mgr : VisibilityManager} {hist cfg walInsertedAt now txnId}
    : txnId ∈ (mgr.recoverCommittedHistoryWithConfig hist cfg
        walInsertedAt now).committedHistory ↔ txnId ∈ hist.map Prod.fst := by
  unfold recoverCommittedHistoryWithConfig
  rw [recoverHistory_from]
  simp

private lemma recoverActive_from (entries : List (TxnId × Nat)) (mgr : VisibilityManager) :
    let recovered := entries.foldl recoverActiveEntry mgr
    recovered.committedHistory = mgr.committedHistory ∧
      recovered.committedTxn = mgr.committedTxn ∧
      ∀ txnId, txnId ∈ recovered.activeTxns ↔
        txnId ∈ entries.map Prod.fst ∨ txnId ∈ mgr.activeTxns := by
  induction entries generalizing mgr with
  | nil => simp
  | cons entry entries ih =>
    obtain ⟨hist, committed, active⟩ := ih (mgr.recoverActiveEntry entry)
    refine ⟨hist, committed, fun txnId => ?_⟩
    rw [foldl_cons, active]
    simp only [recoverActiveEntry, map_cons, mem_cons]
    grind

lemma mem_recoverActiveTxns {mgr : VisibilityManager} :
    txnId ∈ (mgr.recoverActiveTxns active).activeTxns ↔ txnId ∈ active.map Prod.fst := by
  unfold recoverActiveTxns
  rw [(recoverActive_from _ _).2.2]
  simp

@[simp]
lemma recoverActiveTxns_committedHistory (mgr : VisibilityManager)
    (active) : (mgr.recoverActiveTxns active).committedHistory = mgr.committedHistory :=
  (recoverActive_from active _).1

@[simp]
lemma recoverActiveTxns_committedTxn (mgr : VisibilityManager) (active) :
    (mgr.recoverActiveTxns active).committedTxn = mgr.committedTxn :=
  (recoverActive_from active _).2.1

end VisibilityManager

variable {replayed : RecoveryResult}

section

lemma mem_recoveredHistory_of_replayed (committed : txnId ∈ replayed.commitTsMap) :
    txnId ∈ recoveredHistory ckpt kv env replayed := by
  unfold recoveredHistory
  rw [Std.ExtTreeMap.mem_insertMany_list, Std.ExtTreeMap.map_fst_toList_eq_keys]
  right
  simpa using committed

lemma openAfterReplay_of_replayed :
    (txnId ∈ replayed.commitTsMap → txnId ∈ (openAfterReplay ckpt kv env
        replayed).mvcc.committedHistory) ∧ (txnId ∈ replayed.activeTxns.map Prod.fst →
      txnId ∈ (openAfterReplay ckpt kv env replayed).mvcc.activeTxns) := by
  constructor
  · intro committed
    simp only [openAfterReplay, VisibilityManager.recoverActiveTxns_committedHistory,
      VisibilityManager.mem_recoverCommittedHistory]
    rw [((env.historyOrder.perm _).map Prod.fst).mem_iff,
      Std.ExtTreeMap.map_fst_toList_eq_keys, Std.ExtTreeMap.mem_keys]
    exact mem_recoveredHistory_of_replayed committed
  · intro active
    simp only [openAfterReplay, VisibilityManager.mem_recoverActiveTxns,
      recoveredActive, map_append, mem_append]
    exact Or.inr active

end

lemma openWithConfig_eq (apply : World → WalOp → World × Except RockDuckError Unit) (world : World)
    (recs : List WalOp) (ckpt : Option CheckpointMvccState) (kv : MvccBucket)
    (env : OpenEnvironment) : openWithConfig apply world recs none ckpt kv env =
      ((ReplayState.replayRecords apply world recs).world, .ok (openAfterReplay ckpt kv env
          (ReplayState.replayRecords apply world recs).result)) := by
  rw [openWithConfig, replayCommittedOps_eq]

/-- The transaction is committed after recovery and not active. -/
def SurvivesRecovery (database : OpenedDatabase) (txnId : TxnId) : Prop :=
  txnId ∈ database.mvcc.committedHistory ∧
    txnId ∉ database.mvcc.activeTxns ∧
    txnId ∉ (database.mvcc.snapshot .snapshot).activeTxns

/-- Every committed transaction of the log is in the recovered commit
history, but all of them survive the recovery only when the log has no commit
record at all: each commit record also makes its transaction active. -/
theorem recovered_commits_survive_iff {World : Type*}
    (apply : World → WalOp → World × Except RockDuckError Unit) (world after : World)
    (records : List WalOp) (readerError : Option String) (checkpoint : Option CheckpointMvccState)
    (kv : MvccBucket) (environment : OpenEnvironment) (database : OpenedDatabase)
    (opened : openWithConfig apply world records readerError checkpoint kv
      environment = (after, .ok database)) : (∀ txnId, CommitRecorded records txnId →
        txnId ∈ database.mvcc.committedHistory) ∧ ((∀ txnId, CommitRecorded records txnId →
          SurvivesRecovery database txnId) ↔ ∀ op ∈ records, op.opType ≠ .commit) := by
  cases readerError with
  | some error => simp [openWithConfig, replayCommittedOps, replayCommittedOpsWith] at opened
  | none =>
    rw [openWithConfig_eq, Prod.mk.injEq, Except.ok.injEq] at opened
    obtain ⟨-, rfl⟩ := opened
    have reflects := ReplayState.reflects_run apply world records
    refine ⟨fun txnId recorded => ?_, fun survive op mem commit => ?_,
      fun uncommitted txnId recorded => ?_⟩
    · exact openAfterReplay_of_replayed.1 ((reflects.commitTsMap txnId).mpr recorded)
    · have recorded : CommitRecorded records op.txnId := ⟨op, mem, commit, rfl⟩
      refine (survive op.txnId recorded).2.1 ?_
      exact openAfterReplay_of_replayed.2 ((reflects.activeTxns op.txnId).mpr recorded)
    · obtain ⟨op, mem, commit, -⟩ := recorded
      exact absurd commit (uncommitted op mem)

private def committedLog : List WalOp := [⟨.begin, 5, .begin⟩, ⟨.commit, 5, .commit 5 (some 0)⟩]

theorem recovered_commits_survive_iff_committedLog : 5 ∈ (openAfterReplay none .empty (.at 0)
      (ReplayState.replayRecords (fun (world : Unit) _ => (world, .ok ()))
        () committedLog).result).mvcc.committedHistory :=
  (recovered_commits_survive_iff (fun world _ => (world, .ok ())) () ()
    committedLog none none .empty (.at 0) _
    (openWithConfig_eq _ _ _ _ _ _)).1 5
    ⟨⟨.commit, 5, .commit 5 (some 0)⟩, by simp [committedLog], rfl, rfl⟩

/-- The row of a transaction committed before the crash is invisible in the
first snapshot after it. -/
theorem committed_before_crash_active_after :
    ¬ ∀ (records : List WalOp) (txnId : TxnId) (database : OpenedDatabase),
      openWithConfig (fun (world : Unit) _ => (world, .ok ())) () records none
          none .empty (.at 0) = ((), .ok database) →
        CommitRecorded records txnId → SurvivesRecovery database txnId := by
  intro survives
  have survived := survives committedLog 5 _ (openWithConfig_eq _ _ _ _ _ _)
    ⟨⟨.commit, 5, .commit 5 (some 0)⟩, by simp [committedLog], rfl, rfl⟩
  refine survived.2.1 ?_
  decide +kernel

end RockDuck
