import RockDuck.Database
import RockDuck.MachineRuns
import RockDuck.WalReplay

/-!
# Runs of the database

Callers begin, write, commit and roll back transactions in any order, while the
log is flushed in the background and truncated by checkpoints.
-/

namespace RockDuck

inductive DataOperation where
  | insert
  | delete
  | update

def DataOperation.opType : DataOperation → OpType
  | insert => .insert
  | delete => .delete
  | update => .update

/-- What happens to a database. -/
inductive DatabaseEvent where
  | beginTxn (fault : Fault)
  | recordRead (txnId : TxnId) (key : Key)
  | recordWrite (txnId : TxnId) (key : Key)
  | logOperation (operation : DataOperation) (txnId : TxnId)
      (payload : OpPayload) (outcome : DurableOutcome)
  | pushCdcEntry (entry : CdcLogEntry)
  | commitTxn (txnId : TxnId) (environment : DatabaseCommitEnvironment)
  | rollbackTxn (txnId : TxnId) (fault : Fault) (walFault : Option String)
  | flushBatch (outcome : DurableOutcome)
  | checkpoint (checkpointId dropped : Nat)

inductive DatabaseAnswer where
  | done
  | began (result : Except RockDuckError TxnId)
  | finished (result : Except RockDuckError Unit)

def DatabaseAnswer.error? : DatabaseAnswer → Option RockDuckError
  | finished (.error error) => some error
  | _ => none

def DatabaseEvent.isCheckpoint : DatabaseEvent → Bool
  | checkpoint _ _ => true
  | _ => false

open DatabaseEvent

/-- Runs of a database. -/
def databaseMachine (start : Database) : Machine Database DatabaseEvent DatabaseAnswer where
  initial := start
  step db event :=
    match event with
    | beginTxn fault =>
      let (db, result) := db.beginTxn fault
      (db, .began result)
    | recordRead txnId key => ({ db with mvcc := db.mvcc.recordRead txnId key }, .done)
    | recordWrite txnId key => ({ db with mvcc := db.mvcc.recordWrite txnId key }, .done)
    | logOperation operation txnId payload outcome =>
      let (db, result) := db.logOperation ⟨operation.opType, txnId, payload⟩ outcome
      (db, .finished result)
    | pushCdcEntry entry => (db.pushCdcEntry entry, .done)
    | commitTxn txnId environment =>
      let (db, result) := db.commitTxn txnId environment
      (db, .finished result)
    | rollbackTxn txnId fault walFault =>
      let (db, result) := db.rollbackTxn txnId fault walFault
      (db, .finished result)
    | flushBatch outcome => ({ db with wal := db.wal.flushBatch outcome }, .done)
    | checkpoint checkpointId dropped =>
      ({ db with wal := db.wal.checkpoint checkpointId dropped }, .done)

@[simp]
lemma databaseMachine_next_commitTxn (start db txnId env) :
    (databaseMachine start).next db (commitTxn txnId env) = (db.commitTxn txnId env).1 :=
  rfl

lemma trace_of_error? (start events) (idx : Nat)
    (atIndex : events[idx]? = some event) (failed : ((databaseMachine start).answer
      ((databaseMachine start).stateAt events idx) event).error? = some error) :
    ((databaseMachine start).trace events)[idx]? = some (event, .finished (.error error)) := by
  unfold DatabaseAnswer.error? at failed
  split at failed
  · rename_i found answer
    cases failed
    rw [Machine.trace_getElem?, atIndex, Option.map_some, answer]
  · cases failed

namespace Database

/-- The commit gets past the log and the conflict check. -/
def ReachesPublication (db : Database) (txnId : TxnId)
    (environment : DatabaseCommitEnvironment) : Prop :=
  ∃ txnMeta, db.mvcc.activeTxns[txnId]? = some txnMeta ∧
    (db.wal.appendDurable (commitRecord txnId txnMeta.beginTs environment.insertedAt)
      environment.walOutcome).2 = .ok () ∧
    db.mvcc.detectConflict txnId txnMeta environment.manager = none

/-- The commit does not fail after it was published. -/
def CommitsCleanly (db : Database) (txnId : TxnId)
    (environment : DatabaseCommitEnvironment) : Prop :=
  txnId ∉ db.mvcc.committedHistory ∧
    (db.ReachesPublication txnId environment → ¬ db.FailsLate txnId environment)

lemma commitTxn_error_unpublished {db : Database}
    (cleanly : db.ReachesPublication txnId env → ¬ db.FailsLate txnId env)
    (failed : (db.commitTxn txnId env).2 = .error error) : let after := (db.commitTxn txnId env).1
    after.mvcc.committedHistory = db.mvcc.committedHistory ∧
      after.mvcc.committedTxn = db.mvcc.committedTxn := by
  intro after
  rcases db.commitTxn_cases txnId env with
    ⟨-, same, -⟩ | ⟨info, active, -, ⟨msg, -, same, -⟩ | ⟨conflict, -, -, aborted, -⟩ |
      ⟨logged, passed, -, answer⟩⟩
  · rw [show after = db from same]
    exact ⟨rfl, rfl⟩
  · rw [show after.mvcc = db.mvcc from same]
    exact ⟨rfl, rfl⟩
  · rw [show after.mvcc = db.mvcc.removeActive txnId from aborted]
    exact ⟨rfl, rfl⟩
  · have ok := answer.mpr (cleanly ⟨info, active, logged, passed⟩)
    rw [failed] at ok
    cases ok

end Database

/-- In every run whose commits all meet `CommitsCleanly`, a commit that
returns an error leaves its transaction out of the commit history and the
committed id where it was. -/
theorem commit_error_leaves_uncommitted (start : Database) (events : List DatabaseEvent)
    (cleanly : ∀ (index : Nat) txnId environment,
      events[index]? = some (commitTxn txnId environment) →
        ((databaseMachine start).stateAt events index).CommitsCleanly txnId environment)
    (index : Nat) (txnId : TxnId) (environment : DatabaseCommitEnvironment)
    (error : RockDuckError)
    (answered : ((databaseMachine start).trace events)[index]? =
      some (commitTxn txnId environment, .finished (.error error))) :
    let before := (databaseMachine start).stateAt events index
    let after := (databaseMachine start).stateAt events (index + 1)
    txnId ∉ after.mvcc.committedHistory ∧
      after.mvcc.committedTxn = before.mvcc.committedTxn := by
  intro before after
  rw [Machine.trace_getElem?, Option.map_eq_some_iff] at answered
  obtain ⟨event, atIndex, pair⟩ := answered
  obtain ⟨rfl, answer⟩ := Prod.mk.inj pair
  have clean := cleanly index txnId environment atIndex
  have failed : (before.commitTxn txnId environment).2 = .error error :=
    DatabaseAnswer.finished.inj answer
  have reached : after = (before.commitTxn txnId environment).1 := by
    simp only [after, before, Machine.stateAt_succ _ atIndex, databaseMachine_next_commitTxn]
  obtain ⟨history, committed⟩ := Database.commitTxn_error_unpublished clean.2 failed
  rw [reached]
  exact ⟨history ▸ clean.1, committed⟩

private def syncedLog : WriteAheadLog := .new true .syncEach

private def changeEvent : CdcLogEntry :=
  ⟨.insert, "t", "seg", [1], [], [], 1, 0⟩

private def commitWithEvents : List DatabaseEvent :=
  [beginTxn none, pushCdcEntry changeEvent, pushCdcEntry changeEvent, commitTxn 1 (.at 0)]

/-- One transaction whose commit record cannot be written. -/
private def commitUnlogged : List DatabaseEvent :=
  [beginTxn none,
    commitTxn 1 { DatabaseCommitEnvironment.at 0 with
      walOutcome := .appendFailed "disk full" }]

theorem commit_error_leaves_uncommitted_commitUnlogged :
    1 ∉ ((databaseMachine (.new syncedLog 8)).stateAt commitUnlogged 2).mvcc.committedHistory := by
  have answered := trace_of_error? (.new syncedLog 8) commitUnlogged 1 rfl
    (show _ = some (.write "WAL append: disk full") by decide +kernel)
  refine (commit_error_leaves_uncommitted (.new syncedLog 8) commitUnlogged ?_ 1 1 _ _ answered).1
  intro index txnId env atIndex
  match index with
  | 0 => cases atIndex
  | 1 =>
    cases atIndex
    refine ⟨by decide +kernel, fun ⟨txnMeta, _, logged, _⟩ => ?_⟩
    cases logged
  | index + 2 => simp [commitUnlogged] at atIndex

/-- With an event buffer of size one the commit returns an error and is committed all
the same. -/
theorem commit_error_but_committed :
    ¬ ∀ (start : Database) (events : List DatabaseEvent) (index : Nat)
        (txnId : TxnId) (environment : DatabaseCommitEnvironment) (error : RockDuckError),
      ((databaseMachine start).trace events)[index]? =
          some (commitTxn txnId environment, .finished (.error error)) →
        txnId ∉ ((databaseMachine start).stateAt events (index + 1)).mvcc.committedHistory := by
  intro uncommitted
  have answered := trace_of_error? (.new syncedLog 1) commitWithEvents 3 rfl
    (show _ = some (.internal
      "CDC log buffer full during commit: CDC log buffer full; 1 entries dropped so far (consider increasing cdc.log_buffer_size)")
      by decide +kernel)
  refine uncommitted _ _ 3 1 _ _ answered ?_
  decide +kernel

lemma wal_keeps_step (start db : Database) (event : DatabaseEvent)
    (untruncated : event.isCheckpoint = false) :
    WriteAheadLog.Keeps db.wal ((databaseMachine start).next db event).wal := by
  cases event with
  | beginTxn fault =>
    rw [show ((databaseMachine start).next db (beginTxn fault)).wal = db.wal
      from db.beginTxn_wal fault]
    exact WriteAheadLog.Keeps.refl _
  | recordRead txnId key | recordWrite txnId key | pushCdcEntry entry =>
    exact WriteAheadLog.Keeps.refl _
  | logOperation operation txnId payload out => exact WriteAheadLog.appendDurable_keeps _ _ _
  | commitTxn txnId env => exact db.commitTxn_keeps_wal txnId env
  | rollbackTxn txnId fault walFault => exact db.rollbackTxn_keeps_wal txnId fault walFault
  | flushBatch out => exact WriteAheadLog.flushBatch_keeps _ _
  | checkpoint checkpointId dropped => cases untruncated

lemma mem_crashImage_of_held (later : origin ≤ flushed)
    (held : op ∈ ((databaseMachine start).stateAt events origin).wal.file ∨
      op ∈ ((databaseMachine start).stateAt events origin).wal.queue)
    (untruncated : ∀ (idx : Nat) event, origin ≤ idx →
      events[idx]? = some event → event.isCheckpoint = false)
    (emptied : ((databaseMachine start).stateAt events flushed).wal.queue = []) (written : Nat) :
    op ∈ ((databaseMachine start).stateAfter events).wal.crashImage written := by
  have heldAtFlush := (databaseMachine start).stateAt_persists
    (fun db => op ∈ db.wal.file ∨ op ∈ db.wal.queue) later held
    fun idx event after _ atIndex before => by
      have keeps := wal_keeps_step start ((databaseMachine start).stateAt events idx) event
        (untruncated idx event after atIndex)
      exact before.elim (fun inFile => Or.inl (keeps.file op inFile))
        (keeps.queue op)
  have inFile : op ∈ ((databaseMachine start).stateAt events flushed).wal.file := by
    simpa [emptied] using heldAtFlush
  have atEnd := (databaseMachine start).stateAt_persists
    (fun db => op ∈ db.wal.file) (le_max_left flushed events.length) inFile
    fun idx event after _ atIndex before =>
      (wal_keeps_step start _ event
        (untruncated idx event (later.trans after) atIndex)).file op before
  rw [Machine.stateAt_of_length_le _ _ (le_max_right _ _)] at atEnd
  exact List.mem_append_left _ atEnd

/-- A commit that is rejected for a conflict is recovered as committed.  Its
record was logged before the conflict check and nothing takes it back: once
the queue of the log has been flushed, and as long as no checkpoint has
truncated the log, recovery after a crash reports the transaction as
committed and applies the operations it logged before the record since it
was last closed. -/
theorem rejected_commit_recovered (start : Database) (events : List DatabaseEvent) (index : Nat)
    (txnId : TxnId) (environment : DatabaseCommitEnvironment) (conflict : SsiConflict)
    (rejected : ((databaseMachine start).trace events)[index]? = some (commitTxn txnId environment,
        .finished (.error (.mvccConflict (conflict.message txnId)))))
    (untruncated : ∀ (later : Nat) event, index < later →
      events[later]? = some event → event.isCheckpoint = false) (flushed : Nat)
    (afterwards : index < flushed)
    (emptied : ((databaseMachine start).stateAt events flushed).wal.queue = []) (written : Nat)
    {World : Type*} (apply : World → WalOp → World × Except RockDuckError Unit) (world : World) :
    let log := ((databaseMachine start).stateAfter events).wal.crashImage written
    ∃ result beginTs front rest,
      replayCommittedOps apply world log none =
          (applyBatches apply world (walView.committedBatches log), .ok result) ∧
        txnId ∈ result.commitTsMap ∧ txnId ≤ result.maxSeenCommittedTxn ∧
        log = front ++
          Database.commitRecord txnId beginTs environment.insertedAt ::
            rest ∧
        (txnId, walView.openOperations txnId front) ∈
          walView.committedBatches log := by
  intro log
  rw [Machine.trace_getElem?, Option.map_eq_some_iff] at rejected
  obtain ⟨event, atIndex, pair⟩ := rejected
  obtain ⟨rfl, answered⟩ := Prod.mk.inj pair
  have answer : (Database.commitTxn
      ((databaseMachine start).stateAt events index) txnId environment).2 =
        .error (.mvccConflict (conflict.message txnId)) :=
    DatabaseAnswer.finished.inj answered
  have reached : (databaseMachine start).stateAt events (index + 1) = _ :=
    Machine.stateAt_succ _ atIndex
  rw [databaseMachine_next_commitTxn] at reached
  obtain ⟨beginTs, held⟩ : ∃ beginTs,
      let record := Database.commitRecord txnId beginTs environment.insertedAt
      let wal := ((databaseMachine start).stateAt events (index + 1)).wal
      record ∈ wal.file ∨ record ∈ wal.queue := by
    rw [reached]
    rcases Database.commitTxn_cases _ txnId environment with
      ⟨-, -, refused⟩ | ⟨txnMeta, -, logged, ⟨message, -, -, failed⟩ | ⟨-, ok, -⟩ | ⟨ok, -⟩⟩
    · rw [answer, Except.error.injEq, RockDuckError.mvccConflict.injEq] at refused
      exact absurd refused.symm (Database.missingBeginMessage_ne txnId conflict)
    · rw [answer] at failed
      cases failed
    all_goals
      refine ⟨txnMeta.beginTs, ?_⟩
      rw [logged]
      exact WriteAheadLog.mem_of_appendDurable_ok rfl ok
  have inLog : Database.commitRecord txnId beginTs environment.insertedAt ∈
      log :=
    mem_crashImage_of_held afterwards held
      (fun later event after => untruncated later event after) emptied written
  obtain ⟨front, rest, split⟩ := List.append_of_mem inLog
  have reflects := ReplayState.reflects_run apply world log
  refine ⟨(ReplayState.replayRecords apply world log).result, beginTs, front,
    rest, ?_, ?_, ?_, split, ?_⟩
  · rw [replayCommittedOps_eq, reflects.world]
  · exact (reflects.commitTsMap txnId).mpr ⟨_, inLog, rfl, rfl⟩
  · exact (ReplayState.le_maxCommitId inLog rfl).trans_eq reflects.maxSeen.symm
  · rw [split]
    exact LogView.mem_committedBatches front rest rfl

private def insertRecord : WalOp :=
  ⟨.insert, 1, .insert "t" [1] [] [] [] "seg" 0 0⟩

private def rejectedCommit : List DatabaseEvent :=
  [beginTxn none, beginTxn none, recordWrite 1 [7], recordWrite 2 [7],
    logOperation .insert 1 insertRecord.payload .synced,
    commitTxn 1 (.at 0)]

private lemma rejectedCommit_answer :
    ((databaseMachine (.new syncedLog 8)).trace rejectedCommit)[5]? =
      some (commitTxn 1 (.at 0), .finished (.error (.mvccConflict
        (SsiConflict.message ⟨2, false, true⟩ 1)))) :=
  trace_of_error? _ _ 5 rfl (by decide +kernel)

theorem rejected_commit_recovered_rejectedCommit : ∃ world result,
      replayCommittedOps (fun (world : Unit) _ => (world, .ok ())) ()
          (((databaseMachine (.new syncedLog 8)).stateAfter
            rejectedCommit).wal.crashImage 0) none = (world, .ok result) ∧
        1 ∈ result.commitTsMap := by
  obtain ⟨result, beginTs, front, rest, replayed, committed, -⟩ :=
    rejected_commit_recovered (.new syncedLog 8) rejectedCommit 5 1 (.at 0)
      ⟨2, false, true⟩ rejectedCommit_answer
      (fun later event after atLater => by
        have beyond : rejectedCommit.length ≤ later := after
        rw [List.getElem?_eq_none beyond] at atLater
        cases atLater)
      6 (by decide) (by decide +kernel) 0
      (fun (world : Unit) _ => (world, .ok ())) ()
  exact ⟨_, result, replayed, committed⟩

/-- Recovery after the crash reports the rejected transaction as committed
and applies its insert. -/
theorem rejected_commit_reported_committed :
    ¬ ∀ (start : Database) (events : List DatabaseEvent) (index : Nat)
        (txnId : TxnId) (environment : DatabaseCommitEnvironment)
        (conflict : SsiConflict) (written : Nat) (calls : List WalOp) (result : RecoveryResult),
      ((databaseMachine start).trace events)[index]? = some (commitTxn txnId environment,
            .finished (.error (.mvccConflict (conflict.message txnId)))) →
      replayCommittedOps (traced fun (world : Unit) _ => (world, .ok ())) ((), [])
          (((databaseMachine start).stateAfter events).wal.crashImage written)
          none = (((), calls), .ok result) →
        txnId ∉ result.commitTsMap ∧ ∀ op ∈ calls, op.txnId ≠ txnId := by
  intro stays
  let log := ((databaseMachine (.new syncedLog 8)).stateAfter rejectedCommit).wal.crashImage 0
  let state := ReplayState.replayRecords
    (traced fun (world : Unit) (_ : WalOp) =>
      (world, (.ok () : Except RockDuckError Unit))) ((), []) log
  have replayed : replayCommittedOps
      (traced fun (world : Unit) _ => (world, .ok ())) ((), []) log none =
        (((), state.world.2), .ok state.result) := by
    rw [replayCommittedOps_eq]
  refine (stays _ rejectedCommit 5 1 _ _ 0 _ _ rejectedCommit_answer replayed).1 ?_
  decide +kernel

end RockDuck
