import RockDuck.MvccBucket
import RockDuck.UnspecifiedOrder

/-!
# The MVCC visibility manager

The visibility manager tracks the active transactions with the keys they read
and wrote, the largest committed id and a bounded history of commits.
-/

namespace RockDuck

abbrev Key := List UInt8

inductive TxnStatus where
  | active
  | committed
  | aborted
  deriving DecidableEq

/-- What is kept of an active transaction. -/
structure TxnMeta where
  beginTs : Nat
  commitTs : Option Nat
  status : TxnStatus
  readKeys : Std.ExtTreeSet Key
  writtenKeys : Std.ExtTreeSet Key
  isRecovered : Bool

namespace TxnMeta

def new (beginTs : Nat) : TxnMeta where
  beginTs := beginTs
  commitTs := none
  status := .active
  readKeys := ∅
  writtenKeys := ∅
  isRecovered := false

def recordRead (txnMeta : TxnMeta) (key : Key) : TxnMeta :=
  { txnMeta with readKeys := txnMeta.readKeys.insert key }

def recordWrite (txnMeta : TxnMeta) (key : Key) : TxnMeta :=
  { txnMeta with writtenKeys := txnMeta.writtenKeys.insert key }

def commit (txnMeta : TxnMeta) (commitTs : Nat) : TxnMeta :=
  { txnMeta with status := .committed, commitTs := some commitTs }

end TxnMeta

/-- The isolation levels. -/
inductive IsolationLevel where
  | readCommitted
  | repeatableRead
  | snapshot
  deriving DecidableEq

/-- A snapshot. -/
structure TxnSnapshot where
  snapshotId : TxnId
  activeTxns : Std.ExtTreeSet TxnId
  isolation : IsolationLevel
  commitTsMap : Std.ExtTreeMap TxnId Nat

/-- The visibility test of `TxnSnapshot`. -/
def TxnSnapshot.isRowVisible (snapshotId createdTxn : TxnId) (deletedTxn : Option TxnId)
    (activeTxns : Std.ExtTreeSet TxnId) (commitTsMap : Std.ExtTreeMap TxnId Nat) : Bool :=
  if createdTxn > snapshotId then false
  else if activeTxns.contains createdTxn then false
  else if !commitTsMap.contains createdTxn then false
  else if (commitTsMap[createdTxn]?).any (· > snapshotId) then false
  else
    match deletedTxn with
    | none => true
    | some del =>
      if activeTxns.contains del then true
      else
        match commitTsMap[del]? with
        | some delCommitTs => !decide (delCommitTs ≤ snapshotId)
        | none => true

structure VisibilityConfig where
  maxHistoryEntries : Nat
  historyTtlSecs : Nat

def VisibilityConfig.default : VisibilityConfig where
  maxHistoryEntries := 100000
  historyTtlSecs := 3600

/-- A history entry: the commit timestamp and the time of its insertion. -/
abbrev CommittedHistory := Std.ExtTreeMap TxnId (Nat × Nat)

/-- The state of the manager. -/
structure VisibilityManager where
  committedTxn : TxnId
  replayWatermark : Nat
  activeTxns : Std.ExtTreeMap TxnId TxnMeta
  committedHistory : CommittedHistory
  config : VisibilityConfig
  recoveredTxns : Std.ExtTreeSet TxnId

/-- A key that two transactions may not both commit, as the conflict check
reports it. -/
structure SsiConflict where
  conflictingTxn : TxnId
  readWriteConflict : Bool
  writeWriteConflict : Bool

/-- The text of a conflict. -/
def SsiConflict.message (conflict : SsiConflict) (txnId : TxnId) : String :=
  let other := conflict.conflictingTxn
  let rw := conflict.readWriteConflict
  let ww := conflict.writeWriteConflict
  s!"SSI conflict: txn {txnId} conflicts with active txn {other} (rw={rw}, ww={ww})"

/-- What a commit meets outside the manager: the two clock readings it takes,
the orders its hash tables are visited in and the fate of its write to the
metadata store. -/
structure CommitEnvironment where
  commitTs : Nat
  pruneNow : Nat
  activeOrder : Traversal (TxnId × TxnMeta)
  keyOrder : Traversal Key
  historyOrder : Traversal (TxnId × Nat × Nat)
  removeFault : Fault

def CommitEnvironment.at (now : Nat) : CommitEnvironment where
  commitTs := now
  pruneNow := now
  activeOrder := .asStored
  keyOrder := .asStored
  historyOrder := .asStored
  removeFault := none

abbrev KeyIndex := Std.ExtTreeMap Key (List TxnId)

namespace KeyIndex

/-- Note a transaction under a key. -/
def push (index : KeyIndex) (txnId : TxnId) (key : Key) : KeyIndex :=
  index.insert key (index.getD key [] ++ [txnId])

def pushAll (index : KeyIndex) (txnId : TxnId) (keys : List Key) : KeyIndex :=
  keys.foldl (fun index key => index.push txnId key) index

def first? (index : KeyIndex) (key : Key) : Option TxnId :=
  index[key]?.bind List.head?

end KeyIndex

namespace VisibilityManager

def newWithConfig (config : VisibilityConfig) : VisibilityManager where
  committedTxn := 0
  replayWatermark := 0
  activeTxns := ∅
  committedHistory := ∅
  config := config
  recoveredTxns := ∅

def new : VisibilityManager :=
  newWithConfig .default

def setCommittedTxn (manager : VisibilityManager) (txnId : TxnId) : VisibilityManager :=
  { manager with committedTxn := txnId }

def setReplayWatermark (manager : VisibilityManager) (watermark : Nat) : VisibilityManager :=
  { manager with replayWatermark := watermark }

/-- Begin a transaction. -/
def beginTxn (manager : VisibilityManager) (kv : MvccBucket) (txnId : TxnId) (fault : Fault) :
    (VisibilityManager × MvccBucket) × Except RockDuckError Unit :=
  if manager.activeTxns.contains txnId then
    ((manager, kv),
      .error (.mvccConflict s!"transaction {txnId} already active"))
  else if txnId ≤ manager.committedTxn then
    ((manager, kv),
      .error (.mvccConflict s!"transaction {txnId} already committed"))
  else
    let started := { manager with
      activeTxns := manager.activeTxns.insert txnId (.new txnId) }
    let (kv, result) := kv.addActiveTxn txnId txnId fault
    ((started, kv), result)

/-- Change what is known about an active transaction.  Nothing happens to a
transaction that is not active. -/
def updateActive (manager : VisibilityManager) (txnId : TxnId)
    (change : TxnMeta → TxnMeta) : VisibilityManager :=
  match manager.activeTxns[txnId]? with
  | some txnMeta =>
    { manager with
      activeTxns := manager.activeTxns.insert txnId (change txnMeta) }
  | none => manager

def recordRead (manager : VisibilityManager) (txnId : TxnId) (key : Key) : VisibilityManager :=
  manager.updateActive txnId fun txnMeta => txnMeta.recordRead key

def recordWrite (manager : VisibilityManager) (txnId : TxnId) (key : Key) : VisibilityManager :=
  manager.updateActive txnId fun txnMeta => txnMeta.recordWrite key

/-- The transactions to check against. -/
def checkedTxns (manager : VisibilityManager) (txnId : TxnId)
    (order : Traversal (TxnId × TxnMeta)) : List (TxnId × TxnMeta) :=
  (order.order manager.activeTxns.toList).filter fun other =>
    !(other.1 == txnId) && !other.2.isRecovered

/-- The index from keys to the transactions whose set `keysOf` has them. -/
def keyIndex (keysOf : TxnMeta → List Key) (others : List (TxnId × TxnMeta)) : KeyIndex :=
  others.foldl
    (fun index other => index.pushAll other.1 (keysOf other.2)) ∅

/-- The first conflict over the keys, reads before writes. -/
def firstConflict (readKeys writtenKeys : List Key)
    (keyWriters keyReaders : KeyIndex) : Option SsiConflict :=
  match readKeys.findSome? keyWriters.first? with
  | some writer => some ⟨writer, true, false⟩
  | none =>
    match writtenKeys.findSome? fun key => keyReaders.first? key <|> keyWriters.first? key with
    | some other => some ⟨other, false, true⟩
    | none => none

/-- Look for a conflict of the transaction. -/
def detectConflict (manager : VisibilityManager) (txnId : TxnId)
    (txnMeta : TxnMeta) (environment : CommitEnvironment) : Option SsiConflict :=
  let keys := fun (set : Std.ExtTreeSet Key) => environment.keyOrder.order set.toList
  let others := manager.checkedTxns txnId environment.activeOrder
  firstConflict (keys txnMeta.readKeys) (keys txnMeta.writtenKeys)
    (keyIndex (fun other => keys other.writtenKeys) others)
    (keyIndex (fun other => keys other.readKeys) others)

def removeActive (manager : VisibilityManager) (txnId : TxnId) : VisibilityManager :=
  { manager with
    activeTxns := manager.activeTxns.erase txnId
    recoveredTxns := manager.recoveredTxns.erase txnId }

/-- Forget the transaction. -/
def abortTxn (manager : VisibilityManager) (kv : MvccBucket) (txnId : TxnId) (fault : Fault) :
    (VisibilityManager × MvccBucket) × Except RockDuckError Unit :=
  let (kv, result) := kv.removeActiveTxn txnId fault
  ((manager.removeActive txnId, kv), result)

/-- Roll back a transaction. -/
def rollbackTxn (manager : VisibilityManager) (kv : MvccBucket) (txnId : TxnId) (fault : Fault) :
    (VisibilityManager × MvccBucket) × Except RockDuckError Unit :=
  manager.abortTxn kv txnId fault

/-- The count bound of `prune_history`: over the bound, only the newest four
fifths by insertion time stay. -/
def evictOldest (config : VisibilityConfig) (order : Traversal (TxnId × Nat × Nat))
    (history : CommittedHistory) : CommittedHistory :=
  if config.maxHistoryEntries < history.size then
    let items := (order.order history.toList).map fun entry => (entry.2.2, entry.1)
    let sorted := items.mergeSort fun first second => decide (first.1 ≤ second.1)
    let keepCount := config.maxHistoryEntries * 4 % 2 ^ 64 / 5
    let evictCount := sorted.length - keepCount
    (sorted.take evictCount).foldl
      (fun history item => history.erase item.2) history
  else history

/-- Keep what is recent and not below the watermark. -/
def retainRecent (config : VisibilityConfig) (replayWatermark now : Nat)
    (history : CommittedHistory) : CommittedHistory :=
  let ttlCutoff := now - config.historyTtlSecs * 1000 % 2 ^ 64
  let cutoff := max ttlCutoff replayWatermark
  history.filter fun _ entry => decide (cutoff ≤ entry.2)

/-- Prune by count, then by age. -/
def pruneHistory (manager : VisibilityManager)
    (environment : CommitEnvironment) : VisibilityManager :=
  { manager with
    committedHistory :=
      retainRecent manager.config manager.replayWatermark environment.pruneNow
        (evictOldest manager.config environment.historyOrder manager.committedHistory) }

def activeIds (manager : VisibilityManager) : Std.ExtTreeSet TxnId :=
  Std.ExtTreeSet.ofList manager.activeTxns.keys

/-- A snapshot without commit times. -/
def snapshotWithActiveOnly (manager : VisibilityManager)
    (isolation : IsolationLevel) : TxnSnapshot where
  snapshotId := manager.committedTxn
  activeTxns := manager.activeIds
  isolation := isolation
  commitTsMap := ∅

/-- The commits up to a bound. -/
def commitTsUpTo (manager : VisibilityManager) (bound : Nat) : Std.ExtTreeMap TxnId Nat :=
  (manager.committedHistory.filter fun _ entry =>
    decide (entry.1 ≤ bound)).map fun _ entry => entry.1

/-- A snapshot with commit times. -/
def snapshotWithCommitTsMap (manager : VisibilityManager)
    (isolation : IsolationLevel) : TxnSnapshot :=
  { manager.snapshotWithActiveOnly isolation with
    commitTsMap := manager.commitTsUpTo manager.committedTxn }

def snapshot (manager : VisibilityManager) (isolation : IsolationLevel) : TxnSnapshot :=
  manager.snapshotWithCommitTsMap isolation

/-- A snapshot as of a transaction. -/
def snapshotAt (manager : VisibilityManager) (txnId : TxnId)
    (isolation : IsolationLevel) : TxnSnapshot where
  snapshotId := txnId
  activeTxns := Std.ExtTreeSet.ofList
    (manager.activeTxns.filter fun _ txnMeta => decide (txnMeta.beginTs ≤ txnId)).keys
  isolation := isolation
  commitTsMap := manager.commitTsUpTo txnId

/-- The part of `commit_txn` after the conflict check, up to the write to the
metadata store. -/
def publishCommit (manager : VisibilityManager) (txnId insertedAt : Nat)
    (environment : CommitEnvironment) : VisibilityManager :=
  let raised := { manager with
    committedTxn := if txnId > manager.committedTxn then txnId else manager.committedTxn
    activeTxns := manager.activeTxns.modify txnId
      (fun txnMeta => txnMeta.commit environment.commitTs)
    committedHistory := manager.committedHistory.insert txnId
      (environment.commitTs, insertedAt) }
  (raised.pruneHistory environment).removeActive txnId

/-- Commit a transaction. -/
def commitTxn (manager : VisibilityManager) (kv : MvccBucket) (txnId : TxnId)
    (insertedAt : Nat) (environment : CommitEnvironment) :
    (VisibilityManager × MvccBucket) × Except RockDuckError TxnSnapshot :=
  match manager.activeTxns[txnId]? with
  | none =>
    ((manager, kv),
      .error (.mvccConflict s!"transaction {txnId} not active"))
  | some txnMeta =>
    match manager.detectConflict txnId txnMeta environment with
    | some conflict =>
      match manager.abortTxn kv txnId environment.removeFault with
      | (state, .error error) => (state, .error error)
      | (state, .ok ()) => (state, .error (.mvccConflict (conflict.message txnId)))
    | none =>
      let published := manager.publishCommit txnId insertedAt environment
      match kv.removeActiveTxn txnId environment.removeFault with
      | (kv, .error error) => ((published, kv), .error error)
      | (kv, .ok ()) => ((published, kv), .ok (published.snapshot .snapshot))

def getBeginTs (manager : VisibilityManager) (txnId : TxnId) : Option Nat :=
  manager.activeTxns[txnId]?.map fun txnMeta => txnMeta.beginTs

def getCommitTs (manager : VisibilityManager) (txnId : TxnId) : Option Nat :=
  manager.committedHistory[txnId]?.map fun entry => entry.1

/-- One entry of a recovered history.  It keeps the insertion time the log
has for it, or takes the present one. -/
def recoverHistoryEntry (walInsertedAt : Std.ExtTreeMap TxnId Nat) (now : Nat)
    (manager : VisibilityManager) (entry : TxnId × Nat) : VisibilityManager :=
  { manager with
    committedHistory := manager.committedHistory.insert entry.1
      (entry.2, walInsertedAt.getD entry.1 now)
    committedTxn :=
      if entry.1 > manager.committedTxn then entry.1
      else manager.committedTxn }

/-- Recovery replaces the commit history. -/
def recoverCommittedHistoryWithConfig (manager : VisibilityManager) (history : List (TxnId × Nat))
    (configOverride : Option VisibilityConfig) (walInsertedAt : Std.ExtTreeMap TxnId Nat)
    (now : Nat) : VisibilityManager :=
  history.foldl (recoverHistoryEntry walInsertedAt now)
    { manager with
      config := configOverride.getD manager.config
      committedHistory := ∅ }

def recoverActiveEntry (manager : VisibilityManager) (entry : TxnId × Nat) : VisibilityManager :=
  { manager with
    activeTxns := manager.activeTxns.insert entry.1
      { TxnMeta.new entry.2 with isRecovered := true }
    recoveredTxns := manager.recoveredTxns.insert entry.1 }

/-- Recovery replaces the active transactions. -/
def recoverActiveTxns (manager : VisibilityManager)
    (active : List (TxnId × Nat)) : VisibilityManager :=
  active.foldl recoverActiveEntry
    { manager with activeTxns := ∅, recoveredTxns := ∅ }

/-- The visibility test of the manager. -/
def isRowVisible (snapshotId createdTxn : TxnId) (deletedTxn : Option TxnId)
    (activeTxns : Std.ExtTreeSet TxnId) (commitTsMap : Std.ExtTreeMap TxnId Nat) : Bool :=
  if createdTxn > snapshotId then false
  else if activeTxns.contains createdTxn then false
  else
    match commitTsMap[createdTxn]? with
    | none => false
    | some commitTs =>
      if commitTs > snapshotId then false
      else
        match deletedTxn with
        | none => true
        | some del =>
          if activeTxns.contains del then true
          else
            match commitTsMap[del]? with
            | some delCommitTs => !decide (delCommitTs ≤ snapshotId)
            | none => true

def isVisible (snapshot : TxnSnapshot) (createdTxn : TxnId) (deletedTxn : Option TxnId) : Bool :=
  isRowVisible snapshot.snapshotId createdTxn deletedTxn snapshot.activeTxns
    snapshot.commitTsMap

end VisibilityManager

end RockDuck
