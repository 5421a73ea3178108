import RockDuck.DeltavisFile
import RockDuck.TableInsert

/-!
# Updating and deleting rows

A row is deleted by an entry in the delete log of its segment.
-/

namespace RockDuck

/-- The formats of inserts, and those of single values in row images, of the
checksum of delete logs, of logged batches and of logged key entries.  A
logged batch reads back as it was. -/
structure RowFormats (Value : Type*) extends InsertFormats Value where
  rowImage : String → Value → Except RockDuckError Bytes
  nullImage : String → Except RockDuckError Bytes
  crc32 : Nat → Bytes → Nat
  ipcStreamToBatch : Bytes → Except RockDuckError (RecordBatch Value)
  ipcStreamToBatch_batchToIpcStream : ∀ {batch : RecordBatch Value}
    {bytes : Bytes}, batchToIpcStream batch = .ok bytes →
      ipcStreamToBatch bytes = .ok batch
  decodePkEntries : Bytes → Except String (List (Bytes × Nat × Nat))

/-- What a call meets. -/
structure RowEnvironment (Value : Type*) extends InsertEnvironment Value where
  lookupFault : Fault
  beforeFault : Fault
  markFault : Fault
  unindexFault : Fault
  unlookupFault : Fault

def RowEnvironment.undisturbed {Value : Type*} (newSegId : String)
    (now : Nat) : RowEnvironment Value where
  toInsertEnvironment := .undisturbed newSegId now
  lookupFault := none
  beforeFault := none
  markFault := none
  unindexFault := none
  unlookupFault := none

structure DeleteCall (Value : Type*) where
  table : String
  pk : Bytes
  explicitTxn : Option TxnId
  environment : RowEnvironment Value

structure UpdateCall (Value : Type*) extends DeleteCall Value where
  columns : Std.ExtTreeMap String (List Value)

def deltavisPath : String :=
  "__vis.vortex.delta"

lemma colPath_ne_deltavisPath (col) : colPath col ≠ deltavisPath := by
  intro same
  have last := congrArg (fun path => path.toList.getLast?) same
  simp [colPath, deltavisPath] at last

def debugBytes (bytes : Bytes) : String :=
  "[" ++ ", ".intercalate (bytes.map fun byte => toString byte.toNat) ++ "]"

namespace TableStore

variable {Value : Type*}

def deltavis (store : TableStore) (segId : String) : Bytes :=
  (store.file segId deltavisPath).getD []

/-- Mark a row as deleted.  The log is written under a temporary name and then
renamed, in the directory of the segment, which has to be there. -/
def markDeleted (crc32 : Nat → Bytes → Nat) (fault : Fault) (segId : String) (store : TableStore)
    (rowOffset : Nat) (txnId : TxnId) : TableStore × Except RockDuckError Unit :=
  match fault with
  | some error => (store, .error error)
  | none =>
    if store.files.contains segId then
      (store.setFile segId deltavisPath
        (some (Deltavis.markDeletedAppend crc32 (store.deltavis segId) rowOffset txnId)), .ok ())
    else
      (store, .error (.write
        "open deltavis tmp: No such file or directory (os error 2)"))

variable {store after : TableStore} {result : Except RockDuckError Unit}

lemma markDeleted_changes {crc32}
    (marks : store.markDeleted crc32 fault segId row txnId = (after, result)) :
    SetsFile segId deltavisPath store after := by
  cases fault with
  | some error =>
    cases marks
    exact .inl rfl
  | none =>
    simp only [markDeleted] at marks
    split_ifs at marks
    · cases marks
      exact .inr ⟨_, rfl⟩
    · cases marks
      exact .inl rfl

/-- The values of a row before it changes. -/
def readRowBeforeImage (formats : RowFormats Value) (fault : Fault) (store : TableStore)
    (segId : String) (rowOffset : Nat) : Except RockDuckError (List (String × Bytes)) :=
  match fault, store.segments[segId]? with
  | some error, _ => .error error
  | none, none => .error (.segmentNotFound segId)
  | none, some segment =>
    (segment.columns.mapM fun column =>
      match store.file segId (colPath column) with
      | none => (formats.nullImage column).map fun bytes => [(column, bytes)]
      | some contents =>
        match formats.vortex.decode contents with
        | .error error => .error error
        | .ok rows =>
          match rows[rowOffset]? with
          | none => .ok []
          | some value =>
            (formats.rowImage column value).map fun bytes => [(column, bytes)]).map List.flatten

/-- Find a row and its values. -/
def lookupRow (formats : RowFormats Value) (environment : RowEnvironment Value) (store : TableStore)
    (pk : Bytes) : Except RockDuckError (PositionResult × List (String × Bytes)) :=
  match environment.lookupFault, store.getPkIndexByPk pk with
  | some error, _ => .error error
  | none, none => .error (.keyNotFound ("PK not found: " ++ debugBytes pk))
  | none, some position =>
    (readRowBeforeImage formats environment.beforeFault store position.segId
      position.rowOffset).map fun image => (position, image)

/-- Log a change of a row. -/
def logRowChange (store : TableStore) (pk : Bytes) (op : WalOp)
    (outcome : DurableOutcome) : TableStore × Except RockDuckError Unit :=
  if pk.length ≠ 8 then
    (store, .error (.write "pk must be exactly 8 bytes"))
  else
    match store.toDatabase.logOperation op outcome with
    | (db, result) => ({ store with toDatabase := db }, result)

lemma logRowChange_changes (logs : store.logRowChange pk op out = (after, result)) :
    ∃ db, after = { store with toDatabase := db } := by
  unfold logRowChange at logs
  split_ifs at logs
  · cases logs
    exact ⟨_, rfl⟩
  · cases logs
    exact ⟨_, rfl⟩

/-- The record of a delete. -/
def deleteOp (call : DeleteCall Value) (txnId : TxnId)
    (position : PositionResult) (beforeRow : List (String × Bytes)) : WalOp :=
  ⟨.delete, txnId, .delete call.table call.pk beforeRow position.segId
    position.granuleId position.rowOffset⟩

/-- Hand the delete to the change stream. -/
def captureDelete (store : TableStore) (call : DeleteCall Value)
    (txnId : TxnId) (position : PositionResult) (beforeRow : List (String × Bytes)) : TableStore :=
  { store with
    toDatabase := store.toDatabase.pushCdcEntry
      { op := .delete
        table := call.table
        segId := position.segId
        pk := call.pk
        before := beforeRow
        after := []
        txnId := txnId
        ts := call.environment.now } }

/-- A delete of a row that was found. -/
def deleteFound (formats : RowFormats Value) (call : DeleteCall Value)
    (store : TableStore) (txnId : TxnId) (position : PositionResult)
    (beforeRow : List (String × Bytes)) : TableStore × Except RockDuckError Unit :=
  let environment := call.environment
  andThen (store.updateTableStats call.table (-1) txnId
    environment.countFault environment.statsFault) fun store _ =>
  andThen (store.logRowChange call.pk
    (deleteOp call txnId position beforeRow) environment.walOutcome)
    fun store _ =>
  andThen (store.deletePkIndexDouble call.pk position.segId
    position.granuleId environment.unindexFault environment.unlookupFault)
    fun store _ =>
  (store.captureDelete call txnId position beforeRow).markDeleted
    formats.crc32 environment.markFault position.segId position.rowOffset txnId

/-- Delete a row. -/
def delete (formats : RowFormats Value) (store : TableStore)
    (call : DeleteCall Value) : TableStore × Except RockDuckError Unit :=
  andThen (store.insertTxnId call.explicitTxn) fun store txnId =>
    match store.lookupRow formats call.environment call.pk with
    | .error error => (store, .error error)
    | .ok (position, beforeRow) => deleteFound formats call store txnId position beforeRow

/-- The record of an update. -/
def updateOp (call : UpdateCall Value) (txnId : TxnId)
    (old new : PositionResult) (oldColumns : List (String × Bytes))
    (fullBatch : RecordBatch Value) (walBatch : Bytes) : WalOp :=
  ⟨.update, txnId, .update call.table call.pk (fullBatch.map Prod.fst)
    walBatch [] oldColumns old.segId old.granuleId old.rowOffset new.segId
    new.granuleId new.rowOffset⟩

/-- Log an update. -/
def logUpdate (formats : RowFormats Value) (store : TableStore) (call : UpdateCall Value)
    (txnId : TxnId) (old new : PositionResult) (oldColumns : List (String × Bytes))
    (fullBatch : RecordBatch Value) : TableStore × Except RockDuckError Unit :=
  match formats.batchToIpcStream fullBatch with
  | .error error => (store, .error error)
  | .ok walBatch =>
    store.logRowChange call.pk
      (updateOp call txnId old new oldColumns fullBatch walBatch)
      call.environment.walOutcome

lemma logUpdate_changes {fmt : RowFormats Value} {call : UpdateCall Value} {txnId : TxnId}
    {old new : PositionResult} {oldColumns : List (String × Bytes)} {fullBatch : RecordBatch Value}
    (logs : logUpdate fmt store call txnId old new oldColumns fullBatch = (after, result)) :
    ∃ db, after = { store with toDatabase := db } := by
  unfold logUpdate at logs
  split at logs
  · cases logs
    exact ⟨_, rfl⟩
  · exact logRowChange_changes logs

/-- Hand the update to the change stream. -/
def captureUpdate (formats : RowFormats Value) (store : TableStore) (call : UpdateCall Value)
    (txnId : TxnId) (position : PositionResult) (oldColumns : List (String × Bytes))
    (batch : RecordBatch Value) : TableStore :=
  { store with
    toDatabase := store.toDatabase.pushCdcEntry
      { op := .update
        table := call.table
        segId := position.segId
        pk := call.pk
        before := oldColumns
        after := batch.filterMap fun column =>
          (formats.arrowToBytes column.2).map fun bytes => (column.1, bytes)
        txnId := txnId
        ts := call.environment.now } }

/-- An update from its new place on. -/
def updatePlaced (formats : RowFormats Value) (call : UpdateCall Value) (store : TableStore)
    (txnId : TxnId) (old new : PositionResult) (oldColumns : List (String × Bytes))
    (batch : RecordBatch Value) : TableStore × Except RockDuckError TxnId :=
  let environment := call.environment
  let vis := visibilityColumns formats.toInsertFormats batch txnId notDeleted
  andThen (store.ensureSegmentColumns new.segId (batch.map Prod.fst)
    environment.metaReadFault environment.metaWriteFault) fun store _ =>
  andThen (writeColumns formats.toInsertFormats
    environment.toInsertEnvironment new.segId store batch) fun store _ =>
  andThen (appendVisBatch formats.vortex environment.visDisk
    environment.visRenameFault new.segId store vis) fun store _ =>
  andThen (logUpdate formats store call txnId old new oldColumns (batch ++ vis)) fun store _ =>
  andThen ((captureUpdate formats store call txnId new oldColumns
    batch).deletePkIndexDouble call.pk old.segId old.granuleId
    environment.unindexFault environment.unlookupFault) fun store _ =>
  andThen (store.putPkIndexDouble call.pk new environment.indexFault)
    fun store _ =>
  (store, .ok txnId)

/-- An update of a row that was found. -/
def updateFound (formats : RowFormats Value) (call : UpdateCall Value)
    (store : TableStore) (txnId : TxnId) (old : PositionResult)
    (oldColumns : List (String × Bytes)) : TableStore × Except RockDuckError TxnId :=
  let environment := call.environment
  andThen (store.markDeleted formats.crc32 environment.markFault old.segId
    old.rowOffset txnId) fun store _ =>
  andThen ({ store with
      segMetaCache := store.segMetaCache.evict
        environment.evicted }.allocatePosition call.table environment.newSegId
    environment.listFault environment.createFault environment.counterFault)
    fun store new =>
  match columnsToBatch call.columns environment.columnOrder with
  | .error error => (store, .error error)
  | .ok batch => updatePlaced formats call store txnId old new oldColumns batch

/-- Update a row. -/
def update (formats : RowFormats Value) (store : TableStore)
    (call : UpdateCall Value) : TableStore × Except RockDuckError TxnId :=
  andThen (store.insertTxnId call.explicitTxn) fun store txnId =>
    match store.lookupRow formats call.environment call.pk with
    | .error error => (store, .error error)
    | .ok (old, oldColumns) => updateFound formats call store txnId old oldColumns

end TableStore

end RockDuck
