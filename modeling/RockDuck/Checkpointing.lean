import RockDuck.CrashRecovery
import RockDuck.DatabaseRuns

/-!
# Checkpoints

A checkpoint saves the visibility state in a numbered file, points `_LATEST` at
it, and only then logs a checkpoint record and drops the records in front of
it.
-/

namespace RockDuck

/-- What a checkpoint saves. -/
structure CheckpointState where
  checkpointId : Nat
  committedTxn : TxnId
  timestampMs : Nat
  replayWatermark : Nat
  mvcc : Option CheckpointMvccState

/-- The checkpoint directory with the next free number.  A file that is
missing or fails its checks has no entry. -/
structure CheckpointManager where
  nextId : Nat
  latest : Option Nat
  files : Std.ExtTreeMap Nat CheckpointState

/-- The calls of a checkpoint that may fail, in their order. -/
inductive CheckpointStep where
  | serialize
  | writeFile
  | syncFile
  | renameFile
  | writeLatest
  | syncLatest
  | renameLatest
  | syncDir
  | appendRecord
  | flushRecord
  | flushBeforeTruncate
  | truncatePrefix

/-- The error of a step that failed. -/
def CheckpointStep.error (reason : String) : CheckpointStep → RockDuckError
  | serialize => .internal s!"checkpoint serialize: {reason}"
  | writeFile => .write s!"write checkpoint file: {reason}"
  | syncFile | syncLatest | syncDir => .io ⟨.other, reason⟩
  | renameFile => .write s!"rename checkpoint: {reason}"
  | writeLatest => .write s!"write _LATEST: {reason}"
  | renameLatest => .write s!"rename _LATEST: {reason}"
  | appendRecord => .write s!"checkpoint WAL append: {reason}"
  | flushRecord => .write s!"checkpoint WAL flush: {reason}"
  | flushBeforeTruncate => .write s!"WAL flush before truncate: {reason}"
  | truncatePrefix => .write s!"WAL truncate_prefix: {reason}"

/-- What a checkpoint meets: the fate of its calls, whether the log directory
opens, the id of the last record, and how many records the truncation
drops. -/
structure CheckpointEnvironment where
  fault : CheckpointStep → Option String
  logOpens : Bool
  lastEntryId : Option Nat
  dropped : Nat

namespace CheckpointEnvironment

/-- The first of some steps that fails. -/
def firstFault (environment : CheckpointEnvironment)
    (steps : List CheckpointStep) : Option RockDuckError :=
  steps.findSome? fun step => (environment.fault step).map fun reason => step.error reason

/-- Nothing fails and the log gets truncated. -/
structure Succeeds (environment : CheckpointEnvironment) : Prop where
  fault : ∀ step, environment.fault step = none
  logOpens : environment.logOpens = true
  lastEntryId : ∃ id, environment.lastEntryId = some id ∧ 0 < id

lemma Succeeds.firstFault {env : CheckpointEnvironment}
    (ran : env.Succeeds) (steps) : env.firstFault steps = none := by
  simp [CheckpointEnvironment.firstFault, ran.fault]

end CheckpointEnvironment

def checkpointRecord (checkpointId : Nat) : WalOp :=
  ⟨.checkpoint, 0, .checkpoint checkpointId⟩

/-- Log the record of a checkpoint. -/
def WriteAheadLog.logCheckpoint (wal : WriteAheadLog) (checkpointId : Nat)
    (environment : CheckpointEnvironment) : WriteAheadLog × Except RockDuckError Unit :=
  match environment.firstFault [.appendRecord] with
  | some error => (wal, .error error)
  | none =>
    match environment.firstFault [.flushRecord] with
    | some error =>
      ({ wal with buffer := wal.buffer ++ [checkpointRecord checkpointId] }, .error error)
    | none =>
      let flushed := wal.checkpoint checkpointId 0
      if !environment.logOpens then (flushed, .ok ())
      else
        match environment.firstFault [.flushBeforeTruncate] with
        | some error => (flushed, .error error)
        | none =>
          match environment.lastEntryId with
          | none => (flushed, .error (.write
              "last_entry_id returned None after flush"))
          | some 0 => (flushed, .error (.write
              "last_entry_id returned 0 after flush - refusing to truncate WAL to zero"))
          | some (_ + 1) =>
            match environment.firstFault [.truncatePrefix] with
            | some error => (flushed, .error error)
            | none =>
              (wal.checkpoint checkpointId environment.dropped, .ok ())

namespace CheckpointManager

def empty : CheckpointManager where
  nextId := 0
  latest := none
  files := ∅

/-- Take a checkpoint: write it, log it, and drop the log before it. -/
def checkpoint (manager : CheckpointManager) (wal : WriteAheadLog)
    (state : CheckpointState) (environment : CheckpointEnvironment) :
    (CheckpointManager × WriteAheadLog) × Except RockDuckError Nat :=
  let id := manager.nextId
  let numbered := { manager with nextId := id + 1 }
  match environment.firstFault
      [.serialize, .writeFile, .syncFile, .renameFile] with
  | some error => ((numbered, wal), .error error)
  | none =>
    let saved := { numbered with files := numbered.files.insert id state }
    match environment.firstFault
        [.writeLatest, .syncLatest, .renameLatest] with
    | some error => ((saved, wal), .error error)
    | none =>
      let pointed := { saved with latest := some id }
      match environment.firstFault [.syncDir] with
      | some error => ((pointed, wal), .error error)
      | none =>
        let (wal, result) := wal.logCheckpoint id environment
        ((pointed, wal), result.map fun _ => id)

/-- The last checkpoint, if there is one that can be loaded. -/
def loadLatest (manager : CheckpointManager) :
    Except RockDuckError (Option (Nat × CheckpointState)) :=
  match manager.latest with
  | none => .ok none
  | some id =>
    match manager.files[id]? with
    | some state => .ok (some (id, state))
    | none =>
      if id = 0 then .ok none
      else
        match manager.files[id - 1]? with
        | some state => .ok (some (id - 1, state))
        | none => .error (.internal
            s!"fallback checkpoint ckpt_{id - 1} also missing/corrupt")

lemma checkpoint_of_succeeds (mgr : CheckpointManager) (wal : WriteAheadLog)
    (state : CheckpointState) {env : CheckpointEnvironment} (ran : env.Succeeds) :
    let taken := (mgr.checkpoint wal state env).1
    taken.1.loadLatest = .ok (some (mgr.nextId, state)) ∧
      taken.2 = wal.checkpoint mgr.nextId env.dropped := by
  obtain ⟨lastId, lastEntry, pos⟩ := ran.lastEntryId
  obtain ⟨before, rfl⟩ : ∃ before, lastId = before + 1 := ⟨lastId - 1, by omega⟩
  simp [checkpoint, WriteAheadLog.logCheckpoint, ran.firstFault,
    ran.logOpens, lastEntry, loadLatest]

end CheckpointManager

namespace VisibilityManager

def committedHistoryEntries (manager : VisibilityManager) : List (TxnId × Nat) :=
  (manager.committedHistory.map fun _ entry => entry.1).toList

/-- Sorted by transaction id. -/
def activeTxnEntries (manager : VisibilityManager) : List (TxnId × Nat) :=
  (manager.activeTxns.map fun _ txnMeta => txnMeta.beginTs).toList

end VisibilityManager

/-- When a checkpoint is due. -/
structure CheckpointConfig where
  txnCountThreshold : Nat
  walSizeThreshold : Nat

def CheckpointConfig.shouldCheckpoint (config : CheckpointConfig)
    (txnId last : TxnId) (walSize : Nat) : Bool :=
  decide (config.txnCountThreshold ≤ txnId - last) ||
    decide (0 < config.walSizeThreshold) &&
      decide (config.walSizeThreshold ≤ walSize)

structure MaybeCheckpointEnvironment where
  walSize : Nat
  flushFault : Option String
  bloomFault : Fault
  deltaFault : Fault
  now : Nat
  checkpoint : CheckpointEnvironment

/-- No step of the checkpoint fails. -/
structure MaybeCheckpointEnvironment.Succeeds
    (environment : MaybeCheckpointEnvironment) : Prop where
  flushFault : environment.flushFault = none
  bloomFault : environment.bloomFault = none
  deltaFault : environment.deltaFault = none
  checkpoint : environment.checkpoint.Succeeds

structure CheckpointedDatabase where
  database : Database
  checkpoints : CheckpointManager
  lastCheckpointTxn : TxnId

/-- What a database saves in a checkpoint. -/
def Database.checkpointState (database : Database) (txnId : TxnId)
    (now : Nat) : CheckpointState where
  checkpointId := txnId
  committedTxn := txnId
  timestampMs := now
  replayWatermark := database.mvcc.replayWatermark
  mvcc := some
    { activeTxns := database.mvcc.activeTxnEntries
      committedHistory := database.mvcc.committedHistoryEntries
      visibilityConfig := database.mvcc.config }

namespace CheckpointedDatabase

/-- Take a checkpoint when one is due. -/
def maybeCheckpoint (state : CheckpointedDatabase) (config : CheckpointConfig) (txnId : TxnId)
    (environment : MaybeCheckpointEnvironment) : CheckpointedDatabase × Except RockDuckError Unit :=
  if !config.shouldCheckpoint txnId state.lastCheckpointTxn
      environment.walSize then (state, .ok ())
  else
    match environment.flushFault with
    | some reason => (state, .error (.write s!"WAL flush: {reason}"))
    | none =>
      let wal := { state.database.wal with
        file := state.database.wal.file ++ state.database.wal.buffer
        buffer := [] }
      let flushed := { state with
        database := { state.database with wal := wal } }
      match environment.bloomFault with
      | some error => (flushed, .error error)
      | none =>
        match environment.deltaFault with
        | some error => (flushed, .error error)
        | none =>
          let ((checkpoints, wal), _) := state.checkpoints.checkpoint wal
            (state.database.checkpointState txnId environment.now)
            environment.checkpoint
          ({ database := { state.database with wal := wal }
             checkpoints := checkpoints
             lastCheckpointTxn := txnId }, .ok ())

lemma maybeCheckpoint_of_succeeds {state : CheckpointedDatabase} {cfg : CheckpointConfig} {txnId}
    {env : MaybeCheckpointEnvironment}
    (due : cfg.shouldCheckpoint txnId state.lastCheckpointTxn env.walSize = true)
    (ran : env.Succeeds) : let taken := (state.maybeCheckpoint cfg txnId env).1
    taken.checkpoints.loadLatest =
        .ok (some (state.checkpoints.nextId, state.database.checkpointState txnId env.now)) ∧
      taken.database.wal.file =
        (state.database.wal.file ++ state.database.wal.buffer ++
          [checkpointRecord state.checkpoints.nextId]).drop
          env.checkpoint.dropped := by
  intro taken
  obtain ⟨loaded, logged⟩ := state.checkpoints.checkpoint_of_succeeds
    { state.database.wal with
      file := state.database.wal.file ++ state.database.wal.buffer
      buffer := [] }
    (state.database.checkpointState txnId env.now) ran.checkpoint
  simp only [taken, maybeCheckpoint, due, ran.flushFault, ran.bloomFault, ran.deltaFault,
    Bool.not_true, Bool.false_eq_true, if_false]
  exact ⟨loaded, by rw [logged]; simp [WriteAheadLog.checkpoint, checkpointRecord]⟩

end CheckpointedDatabase

/-- Open a database with the checkpoint it has. -/
def openCheckpointed {World : Type*} (apply : World → WalOp → World × Except RockDuckError Unit)
    (world : World) (records : List WalOp) (readerError : Option String)
    (checkpoints : CheckpointManager) (kv : MvccBucket) (environment : OpenEnvironment) :
    World × Except RockDuckError OpenedDatabase :=
  match checkpoints.loadLatest with
  | .error error => (world, .error error)
  | .ok latest =>
    openWithConfig apply world records readerError
      (latest.bind fun loaded => loaded.2.mvcc) kv environment

end RockDuck
