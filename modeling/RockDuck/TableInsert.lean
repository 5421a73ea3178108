import RockDuck.SegmentStore
import RockDuck.ShadowColumns

/-!
# Inserting rows

An insert takes the next row offset of the active segment of its table, writes
the values to the column files of the segment, appends to the visibility file,
indexes the key and logs the row.
-/

namespace RockDuck

abbrev RecordBatch (Value : Type*) := List (String × List Value)

/-- The formats an insert writes: column files, the image of a transaction id
in a column, the batch in the log, and the values in change events. -/
structure InsertFormats (Value : Type*) where
  vortex : VortexCodec Value
  txnValue : Nat → Value
  batchToIpcStream : RecordBatch Value → Except RockDuckError Bytes
  arrowToBytes : List Value → Option Bytes

/-- What an insert meets. -/
structure InsertEnvironment (Value : Type*) where
  columnOrder : Traversal (String × List Value)
  evicted : List String
  newSegId : String
  listFault : Fault
  createFault : Fault
  counterFault : Fault
  metaReadFault : Fault
  metaWriteFault : Fault
  disk : String → DiskFaults
  visDisk : DiskFaults
  visRenameFault : Fault
  indexFault : Fault
  countFault : Fault
  statsFault : Fault
  walOutcome : DurableOutcome
  rollbackIndexFault : Fault
  rollbackCountFault : Fault
  now : Nat

/-- Nothing goes wrong, nothing was evicted and a new segment gets the given
name. -/
def InsertEnvironment.undisturbed {Value : Type*} (newSegId : String)
    (now : Nat) : InsertEnvironment Value where
  columnOrder := .asStored
  evicted := []
  newSegId := newSegId
  listFault := none
  createFault := none
  counterFault := none
  metaReadFault := none
  metaWriteFault := none
  disk _ := .none
  visDisk := .none
  visRenameFault := none
  indexFault := none
  countFault := none
  statsFault := none
  walOutcome := .synced
  rollbackIndexFault := none
  rollbackCountFault := none
  now := now

/-- A call of `insert`. -/
structure InsertCall (Value : Type*) where
  table : String
  pk : Bytes
  columns : Std.ExtTreeMap String (List Value)
  explicitTxn : Option TxnId
  environment : InsertEnvironment Value

namespace TableStore

variable {Value : Type*}

/-- Make a batch of the columns. -/
def columnsToBatch (columns : Std.ExtTreeMap String (List Value))
    (order : Traversal (String × List Value)) : Except RockDuckError (RecordBatch Value) :=
  match order.order columns.toList with
  | [] => .error (.invalidParameter "No columns provided")
  | first :: rest =>
    let expected := first.2.length
    if expected = 0 then
      .error (.invalidParameter "Empty columns not allowed")
    else
      match (first :: rest).find? fun column => decide (column.2.length ≠ expected) with
      | some column =>
        let name := column.1
        let rows := column.2.length
        .error (.invalidParameter
          s!"Column '{name}' has {rows} rows, expected {expected}")
      | none => .ok (first :: rest)

/-- The visibility columns of a batch. -/
def visibilityColumns (formats : InsertFormats Value)
    (batch : RecordBatch Value) (createdTxn deletedTxn : Nat) : RecordBatch Value :=
  let rows := (batch.head?.map fun column => column.2.length).getD 0
  [(createdTxnCol, List.replicate rows (formats.txnValue createdTxn)),
    (deletedTxnCol, List.replicate rows (formats.txnValue deletedTxn))]

/-- Write a column file anew. -/
def writeColumnDataFinal (codec : VortexCodec Value) (faults : DiskFaults) (segId column : String)
    (store : TableStore) (data : List (List Value)) : TableStore × Except RockDuckError Unit :=
  match data.head? with
  | none => (store, .error (.internal "No data to write"))
  | some rows =>
    if rows.isEmpty then (store, .ok ())
    else
      match VortexWriter.finish codec faults
          (.ofBatches [rows], store.file segId (colPath column)) with
      | ((_, file), result) =>
        (store.setFile segId (colPath column) file, result.map fun _ => ())

/-- Read the batches of the visibility file. -/
def loadVisBatches (codec : VortexCodec Value) (segId : String)
    (store : TableStore) : Except RockDuckError (List (List Value)) :=
  match store.file segId visPath with
  | none => .ok []
  | some bytes => (codec.decode bytes).map fun rows => [rows]

/-- Rewrite the visibility file with a batch added.  The file is written under
a temporary name and then renamed.  A writer keeps the first column of each
batch, so the file has the creating transactions only. -/
def appendVisBatch (codec : VortexCodec Value) (faults : DiskFaults)
    (renameFault : Fault) (segId : String) (store : TableStore)
    (visArrays : RecordBatch Value) : TableStore × Except RockDuckError Unit :=
  match loadVisBatches codec segId store with
  | .error error => (store, .error error)
  | .ok batches =>
    let created := (visArrays.head?.map Prod.snd).getD []
    match VortexWriter.finish codec faults
        (.ofBatches (batches ++ [created]), none), renameFault with
    | (_, .error error), _ => (store, .error error)
    | (_, .ok _), some error => (store, .error error)
    | ((_, file), .ok _), none => (store.setFile segId visPath file, .ok ())

/-- Take back the index entry and the count of an insert whose log record
failed, as far as the metadata store allows.  The reverse entry of the key
stays. -/
def rollbackWithPlan (store : TableStore) (table : String) (pk : Bytes)
    (position : PositionResult) (indexFault countFault : Fault) : TableStore :=
  let store := match indexFault with
    | some _ => store
    | none =>
      { store with
        pkIdx := store.pkIdx.erase
          (pkIndexKey position.segId position.granuleId pk) }
  (store.incrementRowCount table (-1) countFault).1

/-- Log the inserted row.  The length of the key is checked here, after the
files and the index were written. -/
def logInsert (formats : InsertFormats Value) (store : TableStore)
    (call : InsertCall Value) (txnId : TxnId) (position : PositionResult)
    (fullBatch : RecordBatch Value) : TableStore × Except RockDuckError Unit :=
  match formats.batchToIpcStream fullBatch with
  | .error error => (store, .error error)
  | .ok walBatch =>
    if call.pk.length ≠ 8 then
      (store, .error (.write "pk must be exactly 8 bytes"))
    else
      match store.toDatabase.logOperation
          ⟨.insert, txnId, .insert call.table call.pk
            (fullBatch.map Prod.fst) walBatch [] position.segId
            position.granuleId position.rowOffset⟩
          call.environment.walOutcome with
      | (db, .error error) =>
        ({ store with toDatabase := db }.rollbackWithPlan call.table
          call.pk position call.environment.rollbackIndexFault
          call.environment.rollbackCountFault, .error error)
      | (db, .ok ()) => ({ store with toDatabase := db }, .ok ())

/-- Hand the insert to the change stream. -/
def captureInsert (formats : InsertFormats Value) (store : TableStore) (call : InsertCall Value)
    (txnId : TxnId) (position : PositionResult) (batch : RecordBatch Value) : TableStore :=
  { store with
    toDatabase := store.toDatabase.pushCdcEntry
      { op := .insert
        table := call.table
        segId := position.segId
        pk := call.pk
        before := []
        after := batch.filterMap fun column =>
          (formats.arrowToBytes column.2).map fun bytes => (column.1, bytes)
        txnId := txnId
        ts := call.environment.now } }

/-- The given transaction, or a new one. -/
def insertTxnId (store : TableStore) (explicitTxn : Option TxnId) :
    TableStore × Except RockDuckError TxnId :=
  match explicitTxn with
  | some txnId => (store, .ok txnId)
  | none =>
    match store.toDatabase.nextTxnId with
    | (db, .error error) =>
      ({ store with toDatabase := db }, .error (.internal
        ("failed to allocate transaction ID: " ++ error.display)))
    | (db, .ok txnId) => ({ store with toDatabase := db }, .ok txnId)

/-- What an insert has settled before it writes: its transaction, its batch
and its position. -/
structure PlacedInsert (Value : Type*) where
  txnId : TxnId
  batch : RecordBatch Value
  position : PositionResult
  deriving DecidableEq

/-- The part of `insert` up to the allocation of its position. -/
def placeInsert (store : TableStore) (call : InsertCall Value) :
    TableStore × Except RockDuckError (PlacedInsert Value) :=
  let environment := call.environment
  andThen (store.insertTxnId call.explicitTxn) fun store txnId =>
    match columnsToBatch call.columns environment.columnOrder with
    | .error error => (store, .error error)
    | .ok batch =>
      let store :=
        { store with
          segMetaCache := store.segMetaCache.evict environment.evicted }
      andThen (store.allocatePosition call.table environment.newSegId
          environment.listFault environment.createFault
          environment.counterFault) fun store position =>
        (store, .ok ⟨txnId, batch, position⟩)

/-- Write the first row of each column. -/
def writeColumns (formats : InsertFormats Value)
    (environment : InsertEnvironment Value) (segId : String)
    (store : TableStore) (batch : RecordBatch Value) : TableStore × Except RockDuckError Unit :=
  forEach (fun store column =>
      writeColumnDataFinal formats.vortex (environment.disk column.1) segId
        column.1 store [column.2.take 1])
    store batch

/-- An insert from its place on. -/
def insertPlaced (formats : InsertFormats Value) (call : InsertCall Value)
    (store : TableStore) (placed : PlacedInsert Value) : TableStore × Except RockDuckError TxnId :=
  let environment := call.environment
  let segId := placed.position.segId
  let vis := visibilityColumns formats placed.batch placed.txnId notDeleted
  andThen (store.ensureSegmentColumns segId (placed.batch.map Prod.fst)
    environment.metaReadFault environment.metaWriteFault) fun store _ =>
  andThen (writeColumns formats environment segId store placed.batch)
    fun store _ =>
  andThen (appendVisBatch formats.vortex environment.visDisk
    environment.visRenameFault segId store vis) fun store _ =>
  andThen (store.putPkIndexDouble call.pk placed.position environment.indexFault) fun store _ =>
  andThen (store.updateTableStats call.table 1 placed.txnId
    environment.countFault environment.statsFault) fun store _ =>
  andThen (logInsert formats store call placed.txnId placed.position
    (placed.batch ++ vis)) fun store _ =>
    (captureInsert formats store call placed.txnId placed.position placed.batch, .ok placed.txnId)

/-- Insert a row. -/
def insert (formats : InsertFormats Value) (store : TableStore)
    (call : InsertCall Value) : TableStore × Except RockDuckError TxnId :=
  andThen (store.placeInsert call) (insertPlaced formats call)

section Changes

variable {store : TableStore} {faults : DiskFaults} {codec : VortexCodec Value}

lemma writeColumnDataFinal_changes
    (writes : writeColumnDataFinal codec faults segId col store data = (after, res)) :
    SetsFile segId (colPath col) store after := by
  unfold writeColumnDataFinal at writes
  split at writes
  · cases writes
    exact .inl rfl
  · split_ifs at writes
    · cases writes
      exact .inl rfl
    · cases writes
      exact .inr ⟨_, rfl⟩

lemma writeColumnDataFinal_eq (codec : VortexCodec Value)
    (faults : DiskFaults) (segId col : String) (store : TableStore) (ne : rows ≠ [])
    (few : rows.length < 100000) : writeColumnDataFinal codec faults segId col store [rows] =
      match codec.encode rows, faults.replace, faults.encodingMeta with
      | .error error, _, _ =>
        (store.setFile segId (colPath col) (store.file segId (colPath col)), .error error)
      | .ok _, some err, _ =>
        (store.setFile segId (colPath col) err.left, .error err.error)
      | .ok bytes, none, some error =>
        (store.setFile segId (colPath col) (some bytes), .error error)
      | .ok bytes, none, none => (store.setFile segId (colPath col) (some bytes), .ok ()) := by
  have finished : VortexWriter.finish codec faults
      (.ofBatches [rows], store.file segId (colPath col)) = _ :=
    VortexWriter.finish_ofBatches_eq_replaceFile codec faults _
      (by simpa using ne) (by simpa using few)
  have filled : rows.isEmpty = false := by simpa using ne
  simp only [writeColumnDataFinal, List.head?_cons, filled, Bool.false_eq_true, if_false, finished,
    VortexWriter.replaceFile, List.flatten_cons, List.flatten_nil, List.append_nil]
  cases codec.encode rows <;> cases faults.replace <;>
    cases faults.encodingMeta <;> rfl

lemma writeColumns_changes (writes : writeColumns fmt env segId store batch = (after, res)) :
    ∃ files, after = { store with files := files } := by
  rw [← show (writeColumns fmt env segId store batch).1 = after from congrArg Prod.fst writes]
  refine forEach_fst_keeps
    (fun state : TableStore => ∃ files, state = { store with files := files })
    ?_ ⟨store.files, rfl⟩
  rintro col - before ⟨files, rfl⟩
  obtain ⟨after, same⟩ := (writeColumnDataFinal_changes (Prod.eta _).symm).changes
  exact ⟨after, same⟩

lemma appendVisBatch_changes
    (appends : appendVisBatch codec faults renameFault segId store visArrays = (after, res)) :
    SetsFile segId visPath store after := by
  unfold appendVisBatch at appends
  split at appends
  · cases appends
    exact .inl rfl
  · dsimp only at appends
    split at appends
    · cases appends
      exact .inl rfl
    · cases appends
      exact .inl rfl
    · cases appends
      exact .inr ⟨_, rfl⟩

lemma logInsert_changes (logs : logInsert fmt store call txnId pos fullBatch = (after, res))
    : ∃ db pkIdx counts, after = { store with
        toDatabase := db
        pkIdx := pkIdx
        tableRowCounts := counts } := by
  unfold logInsert at logs
  split at logs
  · cases logs
    exact ⟨_, _, _, rfl⟩
  · split_ifs at logs
    · cases logs
      exact ⟨_, _, _, rfl⟩
    · split at logs
      · cases logs
        cases call.environment.rollbackIndexFault <;>
          cases call.environment.rollbackCountFault <;> exact ⟨_, _, _, rfl⟩
      · cases logs
        exact ⟨_, _, _, rfl⟩

lemma insertTxnId_changes (nums : store.insertTxnId explicitTxn = (after, txnId)) :
    ∃ ctr, after = { store with txnCounter := ctr } := by
  unfold insertTxnId Database.nextTxnId at nums
  cases explicitTxn with
  | some explicit =>
    cases nums
    exact ⟨store.txnCounter, rfl⟩
  | none =>
    dsimp only at nums
    split_ifs at nums
    · cases nums
      exact ⟨store.txnCounter, rfl⟩
    · cases nums
      exact ⟨store.txnCounter + 1, rfl⟩

end Changes

end TableStore

end RockDuck
