import RockDuck.TableUpdate

/-!
# Applying logged operations

When the log is replayed, the operations of committed transactions are applied
to the segment files and to the metadata store.
-/

namespace RockDuck

open List

/-- What replay acts on: the segments and the key index, and the segments that
a compaction redirected. -/
structure RecoveryWorld extends TableStore where
  segAliases : Std.ExtTreeMap String String

namespace TableStore

variable {Value : Type*}

def missingDirectory : DiskFaults :=
  let failure : DiskFailure :=
    ⟨.io ⟨.notFound, "No such file or directory (os error 2)"⟩, none⟩
  { append := some failure, replace := some failure, encodingMeta := none }

/-- Write a column.  Without a directory nothing can be left behind. -/
def replayColumn (codec : VortexCodec Value) (segId column : String)
    (store : TableStore) (rows : List Value) : TableStore × Except RockDuckError Unit :=
  if store.files.contains segId then
    writeColumnDataFinal codec .none segId column store [rows]
  else
    (store, (writeColumnDataFinal codec missingDirectory segId column store [rows]).2)

lemma replayColumn_of_absent (codec segId col) {store : TableStore} {rows : List Value}
    (absent : store.files.contains segId = false) (ne : rows ≠ [])
    (few : rows.length < 100000) : replayColumn codec segId col store rows = (store, .error
        (match codec.encode rows with
        | .error error => error
        | .ok _ =>
          .io ⟨.notFound, "No such file or directory (os error 2)"⟩)) := by
  rw [replayColumn, if_neg (by simp [absent]),
    writeColumnDataFinal_eq codec missingDirectory segId col store ne
      few]
  cases codec.encode rows <;> rfl

/-- Replay the columns of an insert. -/
def replayColumns (codec : VortexCodec Value) (segId : String) (store : TableStore)
    (columns : List String) (batch : RecordBatch Value) : TableStore × Except RockDuckError Unit :=
  forEach (fun store column =>
      match batch[column.2]? with
      | some values => replayColumn codec segId column.1 store values.2
      | none =>
        let width := batch.length
        let index := column.2
        (store, .error (.internal
          s!"index out of bounds: the len is {width} but the index is {index}")))
    store columns.zipIdx

lemma replayColumns_of_names (codec segId store) (batch : RecordBatch Value) :
    replayColumns codec segId store (batch.map Prod.fst) batch = forEach (fun store column =>
        replayColumn codec segId column.1 store column.2) store batch := by
  -- Place by place: `front` is the part of the batch that is written already.
  suffices each : ∀ (rest front : RecordBatch Value) (store : TableStore), front ++ rest = batch →
      forEach (fun store column =>
          match batch[column.2]? with
          | some vals => replayColumn codec segId column.1 store vals.2
          | none =>
            let width := batch.length
            let index := column.2
            (store, .error (.internal
              s!"index out of bounds: the len is {width} but the index is {index}")))
          store ((rest.map Prod.fst).zipIdx front.length) =
        forEach (fun store column =>
          replayColumn codec segId column.1 store column.2) store rest from
    each batch [] store rfl
  intro rest
  induction rest with
  | nil => intro front store _; rfl
  | cons column rest ih =>
    intro front store whole
    have here : batch[front.length]? = some column := by
      rw [← whole]
      simp
    rw [map_cons, zipIdx_cons, forEach, forEach, here]
    congr 1
    funext next _
    have moved := ih (front ++ [column]) next (by rw [← whole]; simp)
    rwa [length_append, length_singleton] at moved

/-- Replay the visibility columns. -/
def writeVisColumnReplay (codec : VortexCodec Value) (segId : String)
    (store : TableStore) (visArrays : RecordBatch Value) : TableStore × Except RockDuckError Unit :=
  match loadVisBatches codec segId store with
  | .error error => (store, .error error)
  | .ok _ =>
    let width := visArrays.length
    if width ≠ 2 then
      (store, .error (.internal
        s!"vis batch create: Invalid argument error: number of columns({width}) must match number of fields(2) in schema"))
    else if store.files.contains segId then
      appendVisBatch codec .none none segId store visArrays
    else
      (store, (appendVisBatch codec missingDirectory none segId store visArrays).2)

/-- Write a logged row and index its key.  The columns after the named ones
are taken to be the visibility columns, and the granule is not read from the
log. -/
def replayRow (formats : RowFormats Value) (store : TableStore) (pk : Bytes) (columns : List String)
    (walBatch : Bytes) (segId : String) (offset : Nat) : TableStore × Except RockDuckError Unit :=
  match formats.ipcStreamToBatch walBatch with
  | .error error => (store, .error error)
  | .ok batch =>
    let visArrays := batch.drop columns.length
    andThen (replayColumns formats.vortex segId store columns batch)
      fun store _ =>
    andThen
      (if visArrays.isEmpty then (store, .ok ())
      else writeVisColumnReplay formats.vortex segId store visArrays)
      fun store _ =>
    store.putPkIndexDouble pk ⟨segId, 0, offset % 2 ^ 32⟩ none

/-- A batch as inserts and updates log it: with the names of all its columns
and, since a visibility file takes no more, fewer rows than the writer holds
back. -/
def LoggedBatch (formats : RowFormats Value) (columns : List String)
    (walBatch : Bytes) (batch : RecordBatch Value) (rows : Nat) : Prop :=
  formats.ipcStreamToBatch walBatch = .ok batch ∧
    columns = batch.map Prod.fst ∧ 0 < rows ∧ rows < 100000 ∧
    ∀ column ∈ batch, column.2.length = rows

lemma replayRow_of_logged {fmt : RowFormats Value} {cols : List String} {wal : Bytes}
    {batch : RecordBatch Value} {rows : Nat}
    (logged : LoggedBatch fmt cols wal batch rows) (store pk segId) (off : Nat) :
    replayRow fmt store pk cols wal segId off = andThen (forEach (fun store col =>
          replayColumn fmt.vortex segId col.1 store col.2) store batch) fun store _ =>
      store.putPkIndexDouble pk ⟨segId, 0, off % 2 ^ 32⟩ none := by
  obtain ⟨decoded, rfl, _⟩ := logged
  simp only [replayRow, decoded, replayColumns_of_names, length_map,
    drop_length, isEmpty_nil, if_true]
  rfl

/-- Apply an operation of a transaction to the segments and the index. -/
def replayRowOp (formats : RowFormats Value) (store : TableStore)
    (txnId : TxnId) : OpPayload → TableStore × Except RockDuckError Unit
  | .insert _ pk columns walBatch _ segId _ offset =>
    replayRow formats store pk columns walBatch segId offset
  | .update _ pk columns walBatch _ _ oldSegId _ oldOffset newSegId _ offset =>
    andThen (store.markDeleted formats.crc32 none oldSegId
      (oldOffset % 2 ^ 32) txnId) fun store _ =>
    replayRow formats store pk columns walBatch newSegId offset
  | .delete _ pk _ segId granuleId offset =>
    andThen (store.markDeleted formats.crc32 none segId (offset % 2 ^ 32) txnId) fun store _ =>
    store.deletePkIndexDouble pk segId granuleId none none
  | _ => (store, .ok ())

/-- Move an index entry. -/
def moveEntry (oldSegId newSegId : String) (store : TableStore)
    (entry : Bytes × Nat × Nat) : TableStore × Except RockDuckError Unit :=
  let key := pkIndexKey oldSegId entry.2.1 entry.1
  if store.pkIdx.contains key then
    ({ store with
        pkLookup := store.pkLookup.insert entry.1 (newSegId, entry.2.1, entry.2.2, [])
        pkIdx := store.pkIdx.erase key },
      .ok ())
  else (store, .error absentKey)

/-- Move entries to a new segment in one batch, which is taken back as a whole when an
entry is missing. -/
def moveEntries (store : TableStore) (oldSegId newSegId : String)
    (entries : List (Bytes × Nat × Nat)) : TableStore × Except RockDuckError Unit :=
  match forEach (moveEntry oldSegId newSegId) store entries with
  | (moved, .ok ()) => (moved, .ok ())
  | (_, .error error) => (store, .error error)

end TableStore

namespace RecoveryWorld

variable {Value : Type*}

/-- Act on the segments and the index only. -/
def onStore {Error Result : Type*} (world : RecoveryWorld)
    (step : TableStore → TableStore × Except Error Result) : RecoveryWorld × Except Error Result :=
  ({ world with toTableStore := (step world.toTableStore).1 }, (step world.toTableStore).2)

/-- Replay a compaction. -/
def replayCompaction (formats : RowFormats Value) (world : RecoveryWorld)
    (oldSegId newSegId : String) (pkEntries : Bytes) : RecoveryWorld × Except RockDuckError Unit :=
  match formats.decodePkEntries pkEntries with
  | .error reason =>
    (world, .error (.codec s!"compaction pk_entries decode failed: {reason}"))
  | .ok entries =>
    andThen (world.onStore fun store => store.moveEntries oldSegId newSegId entries)
      fun world _ =>
    ({ world with segAliases := world.segAliases.insert oldSegId newSegId }, .ok ())

/-- Apply a record. -/
def replayOp (formats : RowFormats Value) (world : RecoveryWorld)
    (op : WalOp) : RecoveryWorld × Except RockDuckError Unit :=
  match op.payload with
  | .compaction oldSegId newSegId pkEntries commit =>
    if commit then
      replayCompaction formats world oldSegId newSegId pkEntries
    else (world, .ok ())
  | payload => world.onStore fun store => store.replayRowOp formats op.txnId payload

end RecoveryWorld

/-- Formats for rows of one byte in a column `x`. -/
def rowFormats : RowFormats UInt8 where
  vortex := .bytes
  txnValue txnId := UInt8.ofNat txnId
  arrowToBytes rows := some rows
  rowImage _ value := .ok [value]
  nullImage _ := .ok []
  crc32 _ _ := 0
  batchToIpcStream
    | [(first, [value]), (second, [created]), (third, [deleted])] =>
      if first = "x" ∧ second = createdTxnCol ∧ third = deletedTxnCol then
        .ok [value, created, deleted]
      else .error (.codec "IPC write error")
    | _ => .error (.codec "IPC write error")
  ipcStreamToBatch
    | [value, created, deleted] =>
      .ok [("x", [value]), (createdTxnCol, [created]),
        (deletedTxnCol, [deleted])]
    | _ => .error (.codec "Empty IPC stream")
  ipcStreamToBatch_batchToIpcStream := by
    intro batch bytes encoded
    split at encoded
    · split at encoded
      · next named =>
          cases encoded
          obtain ⟨rfl, rfl, rfl⟩ := named
          rfl
      · cases encoded
    · cases encoded
  decodePkEntries _ := .ok []

/-- A store with the directory of one segment and nothing in it. -/
def bareWorld : RecoveryWorld where
  toTableStore :=
    { TableStore.new (.new (.new true .syncEach) 8) with
      files := (∅ : Std.ExtTreeMap String
        (Std.ExtTreeMap String Bytes)).insert "seg_1" ∅ }
  segAliases := ∅

end RockDuck
