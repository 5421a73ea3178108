import RockDuck.Checkpointing

/-!
# Recovery with and without a checkpoint

A database that took a checkpoint is opened from the saved visibility state and
the rest of the log; without the checkpoint it is opened from the metadata
store and the whole log.
-/

namespace RockDuck

open List Std.ExtTreeMap VisibilityManager ReplayState

namespace VisibilityManager

private lemma recoverHistory_eq_insertMany (entries : List (TxnId × Nat))
    (walInsertedAt) (now : Nat) (mgr) :
    (entries.foldl (recoverHistoryEntry walInsertedAt now) mgr).committedHistory =
      mgr.committedHistory.insertMany (entries.map fun entry =>
        (entry.1, entry.2, walInsertedAt.getD entry.1 now)) := by
  induction entries generalizing mgr with
  | nil => simp [insertMany_list_eq_foldl]
  | cons entry entries ih =>
    rw [foldl_cons, ih]
    simp [insertMany_list_eq_foldl, recoverHistoryEntry]

variable (mgr : VisibilityManager) {entries : List (TxnId × Nat)}

lemma getElem?_recoverCommittedHistory (hist : Std.ExtTreeMap TxnId Nat)
    (perm : entries.Perm hist.toList) (cfg walInsertedAt) (now : Nat) (txnId) :
    (mgr.recoverCommittedHistoryWithConfig entries cfg walInsertedAt
        now).committedHistory[txnId]? =
      hist[txnId]?.map fun commitTs => (commitTs, walInsertedAt.getD txnId now) := by
  unfold recoverCommittedHistoryWithConfig
  have stamped : (entries.map fun entry : TxnId × Nat =>
      (entry.1, entry.2, walInsertedAt.getD entry.1 now)).Perm
      (hist.map fun txnId commitTs => (commitTs, walInsertedAt.getD txnId now)).toList := by
    rw [toList_map]
    exact perm.map _
  rw [recoverHistory_eq_insertMany, getElem?_insertMany_of_perm _ _ stamped,
    Std.ExtTreeMap.getElem?_map]
  simp

private lemma recoverHistory_committedTxn_le_iff (entries : List (TxnId × Nat)) (walInsertedAt)
    (now : Nat) (mgr bound) :
    (entries.foldl (recoverHistoryEntry walInsertedAt now) mgr).committedTxn ≤ bound ↔
      mgr.committedTxn ≤ bound ∧ ∀ entry ∈ entries, entry.1 ≤ bound := by
  induction entries generalizing mgr with
  | nil => simp
  | cons entry entries ih =>
    have raised : (recoverHistoryEntry walInsertedAt now mgr
        entry).committedTxn = max mgr.committedTxn entry.1 := by
      simp only [recoverHistoryEntry]
      grind
    rw [foldl_cons, ih, raised, max_le_iff, and_assoc, forall_mem_cons]

lemma recoverCommittedHistory_committedTxn_le_iff (hist : Std.ExtTreeMap TxnId Nat)
    (perm : entries.Perm hist.toList) (cfg walInsertedAt) (now : Nat) (bound) :
    (mgr.recoverCommittedHistoryWithConfig entries cfg walInsertedAt now).committedTxn ≤ bound ↔
      mgr.committedTxn ≤ bound ∧ ∀ txnId ∈ hist, txnId ≤ bound := by
  unfold recoverCommittedHistoryWithConfig
  rw [recoverHistory_committedTxn_le_iff]
  refine and_congr_right fun _ => ⟨fun le txnId mem => ?_, fun le entry mem => ?_⟩
  · obtain ⟨commitTs, found⟩ := mem_iff_exists_getElem?.mp mem
    exact le (txnId, commitTs) (perm.mem_iff.mpr
      (Std.ExtTreeMap.mem_toList_iff_getElem?_eq_some.mpr found))
  · have found := Std.ExtTreeMap.mem_toList_iff_getElem?_eq_some.mp (perm.mem_iff.mp mem)
    exact le entry.1 (mem_iff_exists_getElem?.mpr ⟨_, found⟩)

lemma getElem?_ofList_committedHistoryEntries (txnId) :
    (Std.ExtTreeMap.ofList mgr.committedHistoryEntries)[txnId]? = mgr.getCommitTs txnId := by
  rw [ofList_eq_insertMany_empty, committedHistoryEntries, getElem?_insertMany_of_perm _ _
    (List.Perm.refl _), Std.ExtTreeMap.getElem?_map]
  simp [getCommitTs]

lemma mem_activeTxnEntries {mgr : VisibilityManager} :
    txnId ∈ mgr.activeTxnEntries.map Prod.fst ↔ txnId ∈ mgr.activeTxns := by
  rw [activeTxnEntries, map_fst_toList_eq_keys]
  simp

end VisibilityManager

lemma isSome_lastCommitStamp_iff :
    (ReplayState.lastCommitStamp log txnId).isSome ↔ CommitRecorded log txnId := by
  unfold lastCommitStamp CommitRecorded
  rw [Option.isSome_map, getLast?_isSome, ne_eq, filter_eq_nil_iff]
  simp

lemma isSome_lastCommitStamp_of_lastInsertedAt
    (inserted : ReplayState.lastInsertedAt log txnId = some time) :
    (ReplayState.lastCommitStamp log txnId).isSome = true := by
  obtain ⟨op, mem, noted⟩ := List.mem_filterMap.mp (mem_of_getLast? inserted)
  split_ifs at noted with own
  exact isSome_lastCommitStamp_iff.mpr ⟨op, mem, own⟩

/-- The managers agree on the committed id, on the whole commit history, with
the times that drive its eviction, and on which transactions are active. -/
structure SameRecovery (left right : OpenedDatabase) : Prop where
  committedTxn : left.mvcc.committedTxn = right.mvcc.committedTxn
  history : left.mvcc.committedHistory = right.mvcc.committedHistory
  active : ∀ txnId, txnId ∈ left.mvcc.activeTxns ↔ txnId ∈ right.mvcc.activeTxns

section Opened

variable {World : Type*} (apply : World → WalOp → World × Except RockDuckError Unit) (world : World)
    (log : List WalOp) (checkpoint : Option CheckpointMvccState) (kv : MvccBucket)
    (environment : OpenEnvironment)

/-- The database after the log was replayed over a checkpoint. -/
def openedOver : OpenedDatabase :=
  openAfterReplay checkpoint kv environment
    (ReplayState.replayRecords apply world log).result

variable (txnId : TxnId) (replayed : RecoveryResult)

lemma saved_putCommittedTxn (fault) :
    savedHistory checkpoint (kv.putCommittedTxn txnId fault).1 environment =
        savedHistory checkpoint kv environment ∧
      savedActive checkpoint (kv.putCommittedTxn txnId fault).1 environment =
        savedActive checkpoint kv environment := by
  cases fault <;> exact ⟨rfl, rfl⟩

lemma recoveredHistory_getElem? (txnId : TxnId) :
    (recoveredHistory checkpoint kv environment replayed)[txnId]? = replayed.commitTsMap[txnId]?.or
        (savedHistory checkpoint kv environment)[txnId]? :=
  getElem?_insertMany_of_perm _ _ (List.Perm.refl _) txnId

lemma mem_recoveredActive (txnId) :
    txnId ∈ (recoveredActive checkpoint kv environment replayed).map Prod.fst ↔
      txnId ∈ (savedActive checkpoint kv environment).map Prod.fst ∨
        txnId ∈ replayed.activeTxns.map Prod.fst := by
  change txnId ∈ (((savedActive checkpoint kv environment).filter fun entry =>
    !(replayed.activeTxns.any fun walEntry => walEntry.1 == entry.1)) ++
      replayed.activeTxns).map Prod.fst ↔ _
  simp only [map_append, mem_append, List.mem_map, List.mem_filter,
    Bool.not_eq_true', any_eq_false, beq_iff_eq]
  -- An entry that is filtered out has the id of an entry of the log.
  grind

lemma history_openedOver :
    (openedOver apply world log checkpoint kv environment).mvcc.committedHistory[txnId]? =
      ((ReplayState.lastCommitStamp log txnId).or
        (savedHistory checkpoint kv environment)[txnId]?).map fun commitTs =>
          (commitTs, (ReplayState.lastInsertedAt log txnId).getD environment.now) := by
  simp only [openedOver, openAfterReplay, recoverActiveTxns_committedHistory]
  rw [getElem?_recoverCommittedHistory _ _ (environment.historyOrder.perm _),
    recoveredHistory_getElem?, Std.ExtTreeMap.getD_eq_getD_getElem?]
  congr 2
  · funext commitTs
    exact congrArg _ (congrArg (Option.getD · _)
      (getElem?_insertedAtMap_replayRecords apply world log txnId))
  · exact getElem?_commitTsMap_replayRecords apply world log txnId
  · split
    · rw [(saved_putCommittedTxn _ _ _ _ _).1]
    · rfl

lemma mem_activeTxns_openedOver :
    txnId ∈ (openedOver apply world log checkpoint kv environment).mvcc.activeTxns ↔
      txnId ∈ (savedActive checkpoint kv environment).map Prod.fst ∨ CommitRecorded log txnId := by
  simp only [openedOver, openAfterReplay, mem_recoverActiveTxns, mem_recoveredActive]
  apply or_congr
  · split
    · rw [(saved_putCommittedTxn _ _ _ _ _).2]
    · rfl
  · exact (reflects_run apply world log).activeTxns txnId

lemma committedTxn_openedOver_le_iff (bound) :
    (openedOver apply world log checkpoint kv environment).mvcc.committedTxn ≤ bound ↔
      environment.committedTxnRead.readOr kv.getCommittedTxn 0 ≤ bound ∧
        ∀ txnId ∈ (openedOver apply world log checkpoint kv environment).mvcc.committedHistory,
          txnId ≤ bound := by
  have reflects := reflects_run apply world log
  simp only [openedOver, openAfterReplay, recoverActiveTxns_committedTxn,
    recoverActiveTxns_committedHistory]
  rw [recoverCommittedHistory_committedTxn_le_iff _ _ (environment.historyOrder.perm _)]
  simp only [← isSome_getElem?_iff_mem, getElem?_recoverCommittedHistory _ _
    (environment.historyOrder.perm _), Option.isSome_map]
  refine and_congr_left fun le => ?_
  change max _ _ ≤ bound ↔ _
  rw [max_le_iff, and_iff_left_iff_imp]
  -- The ids of the log are in the history.
  intro _
  refine reflects.maxSeen.trans_le (maxCommitId_le_iff.mpr fun op mem commit => ?_)
  exact le op.txnId (isSome_getElem?_iff_mem.mpr (mem_recoveredHistory_of_replayed
    ((reflects.commitTsMap op.txnId).mpr ⟨op, mem, commit, rfl⟩)))

lemma sameRecovery_iff (world' : World) (log' : List WalOp)
    (checkpoint' : Option CheckpointMvccState) :
    let left := openedOver apply world log checkpoint kv environment
    let right := openedOver apply world' log' checkpoint' kv environment
    SameRecovery left right ↔ ∀ txnId : TxnId,
      left.mvcc.committedHistory[txnId]? = right.mvcc.committedHistory[txnId]? ∧
        (txnId ∈ left.mvcc.activeTxns ↔ txnId ∈ right.mvcc.activeTxns) := by
  intro left right
  constructor
  · intro same txnId
    exact ⟨by rw [same.history], same.active txnId⟩
  · intro agree
    have history := Std.ExtTreeMap.ext_getElem? fun txnId => (agree txnId).1
    refine ⟨eq_of_forall_ge_iff fun bound => ?_, history, fun txnId => (agree txnId).2⟩
    simp only [left, right] at history
    simp only [left, right, committedTxn_openedOver_le_iff, history]

end Opened

section Truncation

variable {World : Type*} (apply : World → WalOp → World × Except RockDuckError Unit)

/-- For every transaction without a commit record in the kept part of the
log, what the manager knows at the checkpoint is what the dropped part and
the store say; and where the kept part has no insertion time for a
transaction, a dropped one is the time of the recovery, which stands in for
it. -/
def Represents (manager : VisibilityManager) (dropped kept : List WalOp)
    (kv : MvccBucket) (environment : OpenEnvironment) : Prop :=
  ∀ txnId,
    (¬ CommitRecorded kept txnId →
      manager.getCommitTs txnId = (ReplayState.lastCommitStamp dropped txnId).or
          (savedHistory none kv environment)[txnId]? ∧
        (txnId ∈ manager.activeTxns ↔ CommitRecorded dropped txnId ∨
          txnId ∈ (savedActive none kv environment).map Prod.fst)) ∧
      (ReplayState.lastInsertedAt kept txnId = none →
        ∀ time ∈ ReplayState.lastInsertedAt dropped txnId, time = environment.now)

lemma stamps_drop_checkpointRecord (before after) (checkpointId dropped : Nat) (txnId) :
    let truncated := (before ++ [checkpointRecord checkpointId]).drop dropped ++ after
    ReplayState.lastCommitStamp truncated txnId =
        ReplayState.lastCommitStamp (before.drop dropped ++ after) txnId ∧
      ReplayState.lastInsertedAt truncated txnId =
        ReplayState.lastInsertedAt (before.drop dropped ++ after) txnId := by
  intro truncated
  have unstamped (count : Nat) :
      lastCommitStamp ([checkpointRecord checkpointId].drop count) txnId = none ∧
        lastInsertedAt ([checkpointRecord checkpointId].drop count) txnId = none := by
    cases count with
    | zero => simp [lastCommitStamp_singleton, lastInsertedAt_singleton, checkpointRecord]
    | succ count => simp [lastCommitStamp, lastInsertedAt]
  simp only [truncated, drop_append, lastCommitStamp_append, lastInsertedAt_append, unstamped,
    Option.none_or, and_self]

/-- The entry of one transaction in the two histories.  A transaction with an
insertion time has a commit record. -/
private lemma entry_eq_iff {kept dropped saved stored keptAt droppedAt : Option Nat} (now : Nat)
    (keptStamped : ∀ time, keptAt = some time → kept.isSome = true)
    (droppedStamped : ∀ time, droppedAt = some time → dropped.isSome = true) :
    ((kept.or saved).map fun commitTs => (commitTs, keptAt.getD now)) =
        (((kept.or dropped).or stored).map fun commitTs =>
          (commitTs, (keptAt.or droppedAt).getD now)) ↔
      (¬ kept.isSome = true → saved = dropped.or stored) ∧
        (keptAt = none → ∀ time ∈ droppedAt, time = now) := by
  cases kept with
  | some stamp =>
    cases keptAt <;> cases droppedAt <;> simp [eq_comm]
  | none =>
    have unkept : keptAt = none := by
      cases keptAt with
      | none => rfl
      | some time => simpa using keptStamped time rfl
    cases droppedAt with
    | none =>
      have injective : Function.Injective fun commitTs : Nat => (commitTs, now) :=
        fun _ _ same => congrArg Prod.fst same
      simp [unkept, (Option.map_injective injective).eq_iff]
    | some time =>
      obtain ⟨stamp, rfl⟩ := Option.isSome_iff_exists.mp (droppedStamped time rfl)
      cases saved <;> simp [unkept, eq_comm]

/-- A checkpoint that is due and succeeds is transparent exactly when the
manager it saves represents what is dropped. -/
theorem checkpoint_transparent_iff (world world' : World) (state : CheckpointedDatabase)
    (config : CheckpointConfig) (txnId : TxnId) (environment : MaybeCheckpointEnvironment)
    (due : config.shouldCheckpoint txnId state.lastCheckpointTxn environment.walSize = true)
    (succeeds : environment.Succeeds)
    (after : List WalOp) (kv : MvccBucket) (opening : OpenEnvironment) :
    let taken := (state.maybeCheckpoint config txnId environment).1
    let before := state.database.wal.file ++ state.database.wal.buffer
    let dropped := environment.checkpoint.dropped
    ∃ truncated full,
      (openCheckpointed apply world (taken.database.wal.file ++ after) none
          taken.checkpoints kv opening).2 = .ok truncated ∧
        (openCheckpointed apply world' (before ++ after) none .empty kv opening).2 = .ok full ∧
        (SameRecovery truncated full ↔
          Represents state.database.mvcc (before.take dropped) (before.drop dropped ++ after)
            kv opening) := by
  intro taken before dropped
  obtain ⟨loaded, logged⟩ := CheckpointedDatabase.maybeCheckpoint_of_succeeds due succeeds
  let saved : CheckpointMvccState :=
    { activeTxns := state.database.mvcc.activeTxnEntries
      committedHistory := state.database.mvcc.committedHistoryEntries
      visibilityConfig := state.database.mvcc.config }
  refine ⟨openedOver apply world (taken.database.wal.file ++ after) (some saved) kv opening,
    openedOver apply world' (before ++ after) none kv opening, ?_, ?_, ?_⟩
  · simp only [openCheckpointed, taken, loaded, openWithConfig_eq]
    rfl
  · simp only [openCheckpointed, CheckpointManager.loadLatest,
      CheckpointManager.empty, openWithConfig_eq]
    rfl
  have log : before ++ after = before.take dropped ++ (before.drop dropped ++ after) := by
    rw [← append_assoc, take_append_drop]
  have history (other : TxnId) : (savedHistory (some saved) kv opening)[other]? =
      state.database.mvcc.getCommitTs other :=
    state.database.mvcc.getElem?_ofList_committedHistoryEntries other
  have active (other : TxnId) : other ∈ (savedActive (some saved) kv opening).map Prod.fst ↔
      other ∈ state.database.mvcc.activeTxns :=
    mem_activeTxnEntries
  refine (sameRecovery_iff _ _ _ _ _ _ _ _ _).trans (forall_congr' fun other => ?_)
  obtain ⟨stamp, time⟩ := stamps_drop_checkpointRecord before after state.checkpoints.nextId
    dropped other
  simp only [history_openedOver, mem_activeTxns_openedOver, ← isSome_lastCommitStamp_iff, taken,
    logged, history, active]
  rw [stamp, time, log, lastCommitStamp_append (before.take dropped),
    lastInsertedAt_append (before.take dropped), entry_eq_iff opening.now
      (fun _ => isSome_lastCommitStamp_of_lastInsertedAt)
      (fun _ => isSome_lastCommitStamp_of_lastInsertedAt)]
  cases lastCommitStamp (before.drop dropped ++ after) other with
  | some stamp => simp
  | none =>
    simp only [Option.none_or, Option.isSome_none, Bool.false_eq_true, or_false,
      not_false_eq_true, forall_const, or_comm (a := (lastCommitStamp _ _).isSome = true)]
    tauto

end Truncation

private def everyTxn : CheckpointConfig := ⟨1, 0⟩

private def smooth (dropped : Nat) : MaybeCheckpointEnvironment where
  walSize := 0
  flushFault := none
  bloomFault := none
  deltaFault := none
  now := 0
  checkpoint := ⟨fun _ => none, true, some 1, dropped⟩

private lemma smooth_succeeds (dropped : Nat) : (smooth dropped).Succeeds :=
  ⟨rfl, rfl, rfl, fun _ => rfl, rfl, 1, rfl, by decide⟩

private def afterRun (events : List DatabaseEvent) : CheckpointedDatabase where
  database := (databaseMachine (.new (.new true .syncEach) 8)).stateAfter events
  checkpoints := .empty
  lastCheckpointTxn := 0

/-- The log is the rollback of the first transaction and the commit of the
second. -/
private def rollbackThenCommit : List DatabaseEvent :=
  [.beginTxn none, .rollbackTxn 1 none none, .beginTxn none, .commitTxn 2 (.at 0)]

/-- A checkpoint after a commit that drops the rollback before it. -/
theorem checkpoint_transparent_iff_rollback :
    let state := afterRun rollbackThenCommit
    let taken := (state.maybeCheckpoint everyTxn 2 (smooth 1)).1
    (state.database.wal.file.take 1).map WalOp.opType = [.rollback] ∧
      ∃ truncated full,
        (openCheckpointed (fun (world : Unit) _ => (world, .ok ())) ()
            (taken.database.wal.file ++ []) none taken.checkpoints
            state.database.kv (.at 0)).2 = .ok truncated ∧
          (openCheckpointed (fun (world : Unit) _ => (world, .ok ())) ()
            (state.database.wal.file ++ state.database.wal.buffer ++ []) none
            .empty state.database.kv (.at 0)).2 = .ok full ∧
          SameRecovery truncated full := by
  intro state taken
  refine ⟨by decide +kernel, ?_⟩
  obtain ⟨truncated, full, left, right, same⟩ :=
    checkpoint_transparent_iff (fun (world : Unit) _ => (world, .ok ())) () ()
      state everyTxn 2 (smooth 1) (by decide +kernel) (smooth_succeeds 1) []
      state.database.kv (.at 0)
  refine ⟨truncated, full, left, right, same.mpr fun txnId => ⟨fun unkept => ?_, ?_⟩⟩
  · have other : txnId ≠ 2 := by
      rintro rfl
      exact unkept (isSome_lastCommitStamp_iff.mp (by decide +kernel))
    have history : state.database.mvcc.committedHistory.keys = [2] := by decide +kernel
    have listed : (savedHistory none state.database.kv (.at 0)).keys = [2] := by decide +kernel
    have unknown : txnId ∉ state.database.mvcc.committedHistory := by
      rwa [← Std.ExtTreeMap.mem_keys, history, mem_singleton]
    have unlisted : txnId ∉ savedHistory none state.database.kv (.at 0) := by
      rwa [← Std.ExtTreeMap.mem_keys, listed, mem_singleton]
    have active : state.database.mvcc.activeTxns.keys = [] := by decide +kernel
    have inactive : txnId ∉ state.database.mvcc.activeTxns := by
      rw [← Std.ExtTreeMap.mem_keys, active]
      exact not_mem_nil
    have unstamped : lastCommitStamp ((state.database.wal.file ++ state.database.wal.buffer).take
        (smooth 1).checkpoint.dropped) txnId = none := rfl
    refine ⟨?_, iff_of_false inactive ?_⟩
    · rw [getCommitTs, Std.ExtTreeMap.getElem?_eq_none unknown, unstamped,
        Std.ExtTreeMap.getElem?_eq_none unlisted]
      rfl
    · rw [← isSome_lastCommitStamp_iff, unstamped,
        show savedActive none state.database.kv (.at 0) = [] by decide +kernel]
      simp
  · intro _ time noted
    cases noted

/-- A transaction committed before the checkpoint is active after a recovery
from the whole log only. -/
theorem committed_active_without_checkpoint :
    ¬ ∀ (events : List DatabaseEvent) (config : CheckpointConfig)
        (txnId : TxnId) (environment : MaybeCheckpointEnvironment)
        (truncated full : OpenedDatabase),
      let state := afterRun events
      let taken := (state.maybeCheckpoint config txnId environment).1
      config.shouldCheckpoint txnId 0 environment.walSize = true →
        environment.Succeeds →
        openCheckpointed (fun (world : Unit) _ => (world, .ok ())) ()
          taken.database.wal.file none taken.checkpoints state.database.kv
          (.at 0) = ((), .ok truncated) →
        openCheckpointed (fun (world : Unit) _ => (world, .ok ())) ()
          (state.database.wal.file ++ state.database.wal.buffer) none .empty
          state.database.kv (.at 0) = ((), .ok full) →
        SameRecovery truncated full := by
  intro transparent
  have same := transparent [.beginTxn none, .commitTxn 1 (.at 0)] everyTxn 1
    (smooth 1) _ _ (by decide +kernel) (smooth_succeeds 1) rfl rfl
  refine (by decide +kernel : ¬ _) ((same.active 1).mpr (by decide +kernel))

end RockDuck
