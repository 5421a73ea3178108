import RockDuck.VisibilityManagerEffects
import RockDuck.WriteAheadLog

/-!
# Transactions of the database

The database ties the visibility manager to the write-ahead log, the metadata
store and the buffer of change events.
-/

namespace RockDuck

inductive CdcOpType where
  | insert
  | update
  | delete
  deriving DecidableEq

/-- A change that waits for the commit of its transaction. -/
structure CdcLogEntry where
  op : CdcOpType
  table : String
  segId : String
  pk : Bytes
  before : List (String × Bytes)
  after : List (String × Bytes)
  txnId : TxnId
  ts : Nat

/-- The buffer of changes.  What does not fit is counted as dropped. -/
structure CdcLogBuffer where
  entries : List CdcLogEntry
  maxSize : Nat
  droppedCount : Nat

namespace CdcLogBuffer

def new (maxSize : Nat) : CdcLogBuffer where
  entries := []
  maxSize := maxSize
  droppedCount := 0

/-- Take a change, or drop it when the buffer is full. -/
def push (buffer : CdcLogBuffer) (entry : CdcLogEntry) : CdcLogBuffer × Except String Unit :=
  if buffer.maxSize ≤ buffer.entries.length then
    let dropped := buffer.droppedCount + 1
    ({ buffer with droppedCount := dropped },
      .error s!"CDC log buffer full; {dropped} entries dropped so far")
  else ({ buffer with entries := buffer.entries ++ [entry] }, .ok ())

/-- Add the entries of a committing transaction, up to the first that does
not fit. -/
def pushAll (buffer : CdcLogBuffer) : List CdcLogEntry → CdcLogBuffer × Except RockDuckError Unit
  | [] => (buffer, .ok ())
  | entry :: entries =>
    match buffer.push entry with
    | (buffer, .error error) =>
      (buffer, .error (.internal
        s!"CDC log buffer full during commit: {error} (consider increasing cdc.log_buffer_size)"))
    | (buffer, .ok ()) => buffer.pushAll entries

/-- The changes do not fit the buffer. -/
def Overflows (buffer : CdcLogBuffer) (entries : List CdcLogEntry) : Prop :=
  entries ≠ [] ∧ buffer.maxSize < buffer.entries.length + entries.length

lemma pushAll_ok_iff (buf : CdcLogBuffer) (entries) :
    (buf.pushAll entries).2 = .ok () ↔ ¬ buf.Overflows entries := by
  induction entries generalizing buf with
  | nil => simp [pushAll, Overflows]
  | cons entry entries ih =>
    by_cases full : buf.maxSize ≤ buf.entries.length
    · have overflows : buf.Overflows (entry :: entries) := ⟨by simp, by simp; omega⟩
      simp [pushAll, push, full, overflows]
    · have pushed : buf.push entry = ({ buf with entries := buf.entries ++ [entry] }, .ok ()) := by
        simp [push, full]
      rw [pushAll, pushed, ih]
      simp only [Overflows, List.length_append, List.length_cons,
        List.length_nil, ne_eq, reduceCtorEq, not_false_eq_true, true_and]
      cases entries with
      | nil | cons next rest => simp; omega

end CdcLogBuffer

/-- The state of a database, as far as transactions go. -/
structure Database where
  mvcc : VisibilityManager
  kv : MvccBucket
  wal : WriteAheadLog
  pendingCdcEntries : Std.ExtTreeMap TxnId (List CdcLogEntry)
  cdcLogBuffer : CdcLogBuffer
  txnCounter : TxnId

/-- What a commit of the database meets outside of it: the clock reading for
the insertion time, the outcome of the log append, what the manager meets,
and the fate of its two writes to the metadata store. -/
structure DatabaseCommitEnvironment where
  insertedAt : Nat
  walOutcome : DurableOutcome
  manager : CommitEnvironment
  putFault : Fault
  recordFault : Fault

def DatabaseCommitEnvironment.at (now : Nat) : DatabaseCommitEnvironment where
  insertedAt := now
  walOutcome := .synced
  manager := .at now
  putFault := none
  recordFault := none

namespace Database

def new (wal : WriteAheadLog) (cdcBufferSize : Nat) : Database where
  mvcc := .new
  kv := .empty
  wal := wal
  pendingCdcEntries := ∅
  cdcLogBuffer := .new cdcBufferSize
  txnCounter := 1

/-- The next transaction id.  The last one is not given out. -/
def nextTxnId (db : Database) : Database × Except RockDuckError TxnId :=
  if db.txnCounter = 2 ^ 64 - 1 then
    (db, .error (.internal
      "transaction ID counter overflow: u64::MAX reached, cannot allocate new transaction"))
  else ({ db with txnCounter := db.txnCounter + 1 }, .ok db.txnCounter)

/-- Begin a transaction under the next id. -/
def beginTxn (db : Database) (fault : Fault) : Database × Except RockDuckError TxnId :=
  match db.nextTxnId with
  | (db, .error error) => (db, .error error)
  | (db, .ok txnId) =>
    let ((mvcc, kv), result) := db.mvcc.beginTxn db.kv txnId fault
    let db := { db with mvcc := mvcc, kv := kv }
    match result with
    | .error error =>
      (db, .error (.internal ("begin_txn failed: " ++ error.display)))
    | .ok () => (db, .ok txnId)

/-- Hand the changes of a transaction to the buffer. -/
def flushCdc (db : Database) (txnId : TxnId) : Database × Except RockDuckError Unit :=
  let pending := db.pendingCdcEntries.getD txnId []
  let (buffer, result) := db.cdcLogBuffer.pushAll pending
  ({ db with
      pendingCdcEntries := db.pendingCdcEntries.erase txnId
      cdcLogBuffer := buffer }, result)

/-- Store the commit in the KV store. -/
def persistCommit (db : Database) (txnId : TxnId) (environment : DatabaseCommitEnvironment) :
    Database × Except RockDuckError Unit :=
  match db.kv.putCommittedTxn txnId environment.putFault with
  | (kv, .error error) => ({ db with kv := kv }, .error error)
  | (kv, .ok ()) =>
    match kv.commitTxnRecord txnId txnId environment.recordFault with
    | (kv, .error error) => ({ db with kv := kv }, .error error)
    | (kv, .ok ()) => { db with kv := kv }.flushCdc txnId

def commitRecord (txnId beginTs insertedAt : Nat) : WalOp :=
  ⟨.commit, txnId, .commit beginTs (some insertedAt)⟩

def missingBeginMessage (txnId : TxnId) : String :=
  s!"commit_txn: txn {txnId} missing begin_ts in active_txns"

/-- Commit: log it, check for conflicts, publish it, store it, hand over its changes. -/
def commitTxn (db : Database) (txnId : TxnId) (environment : DatabaseCommitEnvironment) :
    Database × Except RockDuckError Unit :=
  match db.mvcc.getBeginTs txnId with
  | none => (db, .error (.mvccConflict (missingBeginMessage txnId)))
  | some beginTs =>
    match db.wal.appendDurable
        (commitRecord txnId beginTs environment.insertedAt)
        environment.walOutcome with
    | (wal, .error error) => ({ db with wal := wal }, .error error)
    | (wal, .ok ()) =>
      match db.mvcc.commitTxn db.kv txnId environment.insertedAt
          environment.manager with
      | ((mvcc, kv), .error error) => ({ db with wal := wal, mvcc := mvcc, kv := kv }, .error error)
      | ((mvcc, kv), .ok _) =>
        { db with wal := wal, mvcc := mvcc, kv := kv }.persistCommit
          txnId environment

/-- Roll back: forget the transaction, and log that. -/
def rollbackTxn (db : Database) (txnId : TxnId) (fault : Fault)
    (walFault : Option String) : Database × Except RockDuckError Unit :=
  match db.mvcc.rollbackTxn db.kv txnId fault with
  | ((mvcc, kv), .error error) => ({ db with mvcc := mvcc, kv := kv }, .error error)
  | ((mvcc, kv), .ok ()) =>
    let (wal, result) := db.wal.append ⟨.rollback, txnId, .rollback⟩ walFault
    let db := { db with
      mvcc := mvcc
      kv := kv
      wal := wal
      pendingCdcEntries := db.pendingCdcEntries.erase txnId }
    match result with
    | .error error =>
      (db, .error (.write ("WAL rollback log failed: " ++ error.display)))
    | .ok () => (db, .ok ())

/-- Keep a change until its transaction commits. -/
def pushCdcEntry (db : Database) (entry : CdcLogEntry) : Database :=
  { db with
    pendingCdcEntries := db.pendingCdcEntries.insert entry.txnId
      (db.pendingCdcEntries.getD entry.txnId [] ++ [entry]) }

/-- Log an operation. -/
def logOperation (db : Database) (op : WalOp) (outcome : DurableOutcome) :
    Database × Except RockDuckError Unit :=
  let (wal, result) := db.wal.appendDurable op outcome
  ({ db with wal := wal }, result)

/-- One of the steps after the publication of a commit fails: the manager's
or one of the database's writes to the metadata store, or the change events
do not fit the buffer. -/
def FailsLate (db : Database) (txnId : TxnId) (environment : DatabaseCommitEnvironment) : Prop :=
  environment.manager.removeFault ≠ none ∨ environment.putFault ≠ none ∨
    environment.recordFault ≠ none ∨
    db.cdcLogBuffer.Overflows (db.pendingCdcEntries.getD txnId [])

private lemma head?_append_text (first rest : String) (ne : first.toList ≠ []) :
    (first ++ rest).toList.head? = first.toList.head? := by
  rw [String.toList_append, List.head?_append_of_ne_nil _ ne]

private lemma head?_conflictMessage (conflict : SsiConflict) (txnId) :
    (conflict.message txnId).toList.head? = some 'S' := by
  unfold SsiConflict.message
  simp only [String.append_assoc]
  rw [head?_append_text _ _ (by decide)]
  decide

private lemma head?_missingBeginMessage (txnId) :
    (missingBeginMessage txnId).toList.head? = some 'c' := by
  unfold missingBeginMessage
  simp only [String.append_assoc]
  rw [head?_append_text _ _ (by decide)]
  decide

lemma missingBeginMessage_ne (txnId) (conflict : SsiConflict) :
    missingBeginMessage txnId ≠ conflict.message txnId := by
  intro same
  have heads := congrArg (fun text => text.toList.head?) same
  rw [head?_conflictMessage, head?_missingBeginMessage] at heads
  cases heads

section

variable (db : Database) (txnId : TxnId) (environment : DatabaseCommitEnvironment)

lemma persistCommit_effect : (db.persistCommit txnId environment).1.mvcc = db.mvcc ∧
      (db.persistCommit txnId environment).1.wal = db.wal ∧
      ((db.persistCommit txnId environment).2 = .ok () ↔
        environment.putFault = none ∧ environment.recordFault = none ∧ ¬ db.cdcLogBuffer.Overflows
            (db.pendingCdcEntries.getD txnId [])) := by
  unfold persistCommit MvccBucket.putCommittedTxn MvccBucket.commitTxnRecord
  cases environment.putFault with
  | some error => simp
  | none =>
    cases environment.recordFault with
    | some error => simp
    | none =>
      simp only [Fault.perform_none]
      refine ⟨rfl, rfl, ?_⟩
      simp [flushCdc, CdcLogBuffer.pushAll_ok_iff]

/-- What a commit can do: refuse a transaction that is not active, fail to
log, be rejected for a conflict, or be published, with or without a later
failure. -/
lemma commitTxn_cases : let after := db.commitTxn txnId environment
    (db.mvcc.activeTxns[txnId]? = none ∧ after.1 = db ∧
        after.2 = .error (.mvccConflict (missingBeginMessage txnId))) ∨
      ∃ info, db.mvcc.activeTxns[txnId]? = some info ∧
        let logged := db.wal.appendDurable (commitRecord txnId info.beginTs environment.insertedAt)
          environment.walOutcome
        let detected := db.mvcc.detectConflict txnId info environment.manager
        after.1.wal = logged.1 ∧
          ((∃ msg, logged.2 = .error (.write msg) ∧
              after.1.mvcc = db.mvcc ∧ after.2 = .error (.write msg)) ∨
            (∃ conflict, logged.2 = .ok () ∧ detected = some conflict ∧ after.1.mvcc =
              db.mvcc.removeActive txnId ∧ after.2 = .error (environment.manager.removeFault.getD
              (.mvccConflict (conflict.message txnId)))) ∨
            (logged.2 = .ok () ∧ detected = none ∧ after.1.mvcc = db.mvcc.publishCommit txnId
                environment.insertedAt environment.manager ∧
              (after.2 = .ok () ↔ ¬ db.FailsLate txnId environment))) := by
  intro after
  cases active : db.mvcc.activeTxns[txnId]? with
  | none =>
    have refused : after = (db, .error (.mvccConflict (missingBeginMessage txnId))) := by
      simp only [after, commitTxn, VisibilityManager.getBeginTs, active, Option.map_none]
    exact Or.inl ⟨rfl, by rw [refused], by rw [refused]⟩
  | some info =>
    refine Or.inr ⟨info, rfl, ?_⟩
    intro logged detected
    have begun : db.mvcc.getBeginTs txnId = some info.beginTs := by
      simp [VisibilityManager.getBeginTs, active]
    rcases out : logged with ⟨wal, res⟩
    have appended : db.wal.appendDurable (commitRecord txnId info.beginTs environment.insertedAt)
        environment.walOutcome = (wal, res) := out
    cases res with
    | error error =>
      obtain ⟨msg, rfl⟩ := WriteAheadLog.appendDurable_error (congrArg Prod.snd appended)
      have failed : after = ({ db with wal := wal }, .error (.write msg)) := by
        simp only [after, commitTxn, begun, appended]
      exact ⟨by rw [failed], Or.inl ⟨msg, rfl, by rw [failed],
        by rw [failed]⟩⟩
    | ok done =>
      rcases db.mvcc.commitTxn_cases db.kv txnId environment.insertedAt environment.manager with
        ⟨inactive, -⟩ |
        ⟨sameMeta, found, ⟨conflict, error, found', rfl, rejected⟩ | ⟨passed, accepted⟩⟩
      · rw [active] at inactive
        cases inactive
      · rw [active, Option.some.injEq] at found
        subst sameMeta
        have stopped : after = ({ db with
            wal := wal
            mvcc := db.mvcc.removeActive txnId
            kv := (db.kv.removeActiveTxn txnId environment.manager.removeFault).1 },
            .error (environment.manager.removeFault.getD
              (.mvccConflict (conflict.message txnId)))) := by
          simp only [after, commitTxn, begun, appended, rejected]
        exact ⟨by rw [stopped], Or.inr (Or.inl ⟨conflict, rfl, found',
          by rw [stopped], by rw [stopped]⟩)⟩
      · rw [active, Option.some.injEq] at found
        subst sameMeta
        let published : Database := { db with
          wal := wal
          mvcc := db.mvcc.publishCommit txnId environment.insertedAt
            environment.manager
          kv := (db.kv.removeActiveTxn txnId environment.manager.removeFault).1 }
        cases fault : environment.manager.removeFault with
        | some error =>
          have failed : after = (published, .error error) := by
            simp only [after, published, commitTxn, begun, appended, accepted, fault]
          refine ⟨by rw [failed], Or.inr (Or.inr ⟨rfl, passed,
            by rw [failed], ?_⟩)⟩
          simp [failed, FailsLate, fault]
        | none =>
          have continued : after = published.persistCommit txnId environment := by
            simp only [after, published, commitTxn, begun, appended, accepted, fault]
          obtain ⟨mvcc, log, ran⟩ := published.persistCommit_effect txnId environment
          rw [continued]
          refine ⟨log, Or.inr (Or.inr ⟨rfl, passed, mvcc, ?_⟩)⟩
          rw [ran]
          simp [FailsLate, fault, published]

end

@[simp]
lemma beginTxn_wal (db : Database) (fault) : (db.beginTxn fault).1.wal = db.wal := by
  unfold beginTxn nextTxnId
  by_cases exhausted : db.txnCounter = 2 ^ 64 - 1
  · simp [exhausted]
  · simp only [exhausted, if_false]
    split <;> rfl

lemma rollbackTxn_keeps_wal (db : Database) (txnId fault walFault) :
    WriteAheadLog.Keeps db.wal (db.rollbackTxn txnId fault walFault).1.wal := by
  unfold rollbackTxn
  split
  · exact WriteAheadLog.Keeps.refl _
  · simp only
    split <;> exact WriteAheadLog.append_keeps _ _ _

lemma commitTxn_keeps_wal (db : Database) (txnId env) : WriteAheadLog.Keeps db.wal
      (db.commitTxn txnId env).1.wal := by
  rcases db.commitTxn_cases txnId env with ⟨-, same, -⟩ | ⟨info, -, logged, -⟩
  · rw [same]
    exact WriteAheadLog.Keeps.refl _
  · rw [logged]
    exact WriteAheadLog.appendDurable_keeps _ _ _

end Database

end RockDuck
