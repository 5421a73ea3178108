import RockDuck.FailedInsert
import RockDuck.PointGet
import RockDuck.WalApply

/-!
# Failed updates

An update marks the old row as deleted before it does anything for the new one.
-/

namespace RockDuck

namespace Deltavis

lemma length_entries (log) : (entries log).length = (recordBytes log).length / recordSize := by
  simp [entries, parseRecords]

lemma length_entries_markDeletedAppend (crc32 existing) (row txnId : Nat) :
    (entries (markDeletedAppend crc32 existing row txnId)).length =
      (entries existing).length + 1 := by
  have size : (record row txnId).length = recordSize := by simp [record, recordSize]
  have oneMore (recs : List UInt8) :
      (recs ++ record row txnId).length / recordSize =
        recs.length / recordSize + 1 := by
    rw [List.length_append, size]
    exact Nat.add_div_right _ (by decide)
  rw [length_entries, length_entries]
  by_cases recent : isV2 existing = true
  · rw [markDeletedAppend, if_pos recent, recordBytes_assemble, oneMore, recordBytes, if_pos recent]
  · have legacy : recordBytes existing = existing := if_neg recent
    rw [markDeletedAppend, if_neg recent, legacy]
    split
    · have uncut : existing.length / recordSize * recordSize ≤
          existing.length := Nat.div_mul_le_self _ _
      rw [recordBytes_assemble, oneMore, List.length_take_of_le uncut,
        Nat.mul_div_cancel _ (by decide)]
    · next empty =>
        obtain rfl := not_not.mp empty
        rw [recordBytes_assemble, size]
        rfl

end Deltavis

/-- How the files of a segment are read, and what reads find elsewhere. -/
structure StoreReader (Value : Type*) where
  readColumn : Bytes → Except RockDuckError (List (List Value))
  readVis : Bytes → Except RockDuckError (List VisBatch)
  visPathText : String → String
  readDeltavis : Bytes → Except RockDuckError (List (Nat × TxnId))
  deltas : String → TxnSnapshot → Except RockDuckError (List DeltaCell)
  extractRowBytes : Value → RowValue

/-- The new row of an update, as an insert would write it. -/
def UpdateCall.asInsert {Value : Type*} (call : UpdateCall Value) : InsertCall Value where
  table := call.table
  pk := call.pk
  columns := call.columns
  explicitTxn := call.explicitTxn
  environment := call.environment.toInsertEnvironment

structure LoggedUpdate (Value : Type*) where
  txnId : TxnId
  old : PositionResult
  new : PositionResult
  oldColumns : List (String × Bytes)
  batch : RecordBatch Value

namespace TableStore

variable {Value : Type*}

/-- The files of a segment, as reads see them. -/
def image (reader : StoreReader Value) (store : TableStore) (segId : String) :
    SegmentImage Value where
  columnBatches column := (store.file segId (colPath column)).map reader.readColumn
  vis := (store.file segId visPath).map reader.readVis
  visPathText := reader.visPathText segId
  deltavis := (store.file segId deltavisPath).map reader.readDeltavis

/-- What reads see of a store. -/
def readContext (reader : StoreReader Value) (store : TableStore) : ReadContext Value where
  pkIndex pk := .ok ((store.getPkIndexByPk pk).map fun position =>
    (position.segId, position.granuleId, position.rowOffset))
  segmentMeta segId := .ok store.segments[segId]?
  image := store.image reader
  deltas := reader.deltas
  extractRowBytes := reader.extractRowBytes

/-- The old row of an update is there as before: its key is found, its
segment's delete log has no new entry, and point gets and scans return what
they did. -/
structure RowKept (before after : TableStore) (pk : Bytes)
    (old : PositionResult) (Value : Type*) : Prop where
  found : after.getPkIndexByPk pk = some old
  unmarked : Deltavis.entries (after.deltavis old.segId) =
    Deltavis.entries (before.deltavis old.segId)
  got : ∀ (reader : StoreReader Value) (snapshot deltaSnapshot : TxnSnapshot),
    (after.readContext reader).get snapshot deltaSnapshot pk =
      (before.readContext reader).get snapshot deltaSnapshot pk
  scanned : ∀ (reader : StoreReader Value) (visFilter : VisFilter)
    (snapshot : TxnSnapshot) (columns : List String),
    (after.image reader old.segId).scan visFilter snapshot columns =
      (before.image reader old.segId).scan visFilter snapshot columns

/-- Write the new row at its place. -/
def writePlacedRow (formats : RowFormats Value) (call : UpdateCall Value) (store : TableStore)
    (txnId : TxnId) (old new : PositionResult) (oldColumns : List (String × Bytes))
    (batch : RecordBatch Value) : TableStore × Except RockDuckError (LoggedUpdate Value) :=
  andThen (writeFiles formats.toInsertFormats
    call.environment.toInsertEnvironment new.segId txnId store batch)
    fun store _ =>
  andThen (logUpdate formats store call txnId old new oldColumns
    (batch ++ visibilityColumns formats.toInsertFormats batch txnId notDeleted)) fun store _ =>
  (store, .ok ⟨txnId, old, new, oldColumns, batch⟩)

/-- Write the new row to the active segment. -/
def writeNewRow (formats : RowFormats Value) (call : UpdateCall Value)
    (store : TableStore) (txnId : TxnId) (old : PositionResult)
    (oldColumns : List (String × Bytes)) : TableStore × Except RockDuckError (LoggedUpdate Value) :=
  let environment := call.environment
  andThen ((store.evictCached environment.evicted).allocatePosition call.table
    environment.newSegId environment.listFault environment.createFault
    environment.counterFault) fun store new =>
  match columnsToBatch call.columns environment.columnOrder with
  | .error error => (store, .error error)
  | .ok batch => writePlacedRow formats call store txnId old new oldColumns batch

/-- An update up to its log record. -/
def updateToLog (formats : RowFormats Value) (store : TableStore) (call : UpdateCall Value) :
    TableStore × Except RockDuckError (LoggedUpdate Value) :=
  andThen (store.insertTxnId call.explicitTxn) fun store txnId =>
    match store.lookupRow formats call.environment call.pk with
    | .error error => (store, .error error)
    | .ok (old, oldColumns) =>
      andThen (store.markDeleted formats.crc32 call.environment.markFault
        old.segId old.rowOffset txnId) fun store _ =>
      writeNewRow formats call store txnId old oldColumns

/-- The part of `update` after its record is in the log. -/
def reindexUpdate (formats : RowFormats Value) (call : UpdateCall Value)
    (store : TableStore) (logged : LoggedUpdate Value) : TableStore × Except RockDuckError TxnId :=
  andThen ((captureUpdate formats store call logged.txnId logged.new
    logged.oldColumns logged.batch).deletePkIndexDouble call.pk
    logged.old.segId logged.old.granuleId call.environment.unindexFault
    call.environment.unlookupFault) fun store _ =>
  andThen (store.putPkIndexDouble call.pk logged.new call.environment.indexFault) fun store _ =>
  (store, .ok logged.txnId)

lemma update_eq (fmt : RowFormats Value) (store : TableStore) (call : UpdateCall Value) :
    store.update fmt call = andThen (store.updateToLog fmt call) (reindexUpdate fmt call) := by
  simp only [update, updateToLog, andThen_assoc]
  congr 1
  funext store txnId
  cases store.lookupRow fmt call.environment call.pk with
  | error error => rfl
  | ok found =>
    simp only [updateFound, writeNewRow, andThen_assoc]
    congr 1
    funext store _
    congr 1
    funext store new
    cases columnsToBatch call.columns call.environment.columnOrder with
    | error error => rfl
    | ok batch =>
      simp only [updatePlaced, writePlacedRow, writeFiles, andThen_assoc]
      rfl

/-- The new row can be written. -/
structure RowWritable (formats : RowFormats Value) (store : TableStore)
    (call : UpdateCall Value) (txnId : TxnId) (batch : RecordBatch Value)
    (segId : String) (segment : Option SegmentMeta) : Prop where
  accepted : columnsToBatch call.columns call.environment.columnOrder =
    .ok batch
  found : store.target call.table call.environment.toInsertEnvironment =
    some (segId, segment)
  counted : call.environment.counterFault = none
  passes : ∀ step ∈ [InsertStep.files, .record, .log],
    Passes formats.toInsertFormats store call.asInsert txnId batch segId
      segment step

/-- The old row can be marked as deleted. -/
structure MarksRow (formats : RowFormats Value) (store : TableStore)
    (call : UpdateCall Value) (txnId : TxnId) (old : PositionResult)
    (oldColumns : List (String × Bytes)) : Prop where
  numbered : store.nextTxn call.explicitTxn = some txnId
  found : store.lookupRow formats call.environment call.pk =
    .ok (old, oldColumns)
  marks : call.environment.markFault = none
  present : store.files.contains old.segId = true

section Effects

variable {formats : RowFormats Value} {store : TableStore} {call : UpdateCall Value} {txnId : TxnId}
    {old : PositionResult} {oldColumns : List (String × Bytes)}

lemma logUpdate_isOk_iff (new fullBatch) :
    (logUpdate formats store call txnId old new oldColumns fullBatch).2.isOk = true ↔
      ((formats.batchToIpcStream fullBatch).isOk = true ∧ call.pk.length = 8) ∧
      store.wal.Accepts call.environment.walOutcome := by
  unfold logUpdate
  split
  · next failed => simp [failed, Except.isOk, Except.toBool]
  · next wal encoded =>
      rw [logRowChange]
      split
      · next short => simp [short, Except.isOk, Except.toBool]
      · next eight =>
          have encodes : (formats.batchToIpcStream fullBatch).isOk = true := by
            rw [encoded]
            rfl
          rw [and_iff_right ⟨encodes, not_not.mp eight⟩]
          exact Database.logOperation_isOk_iff OpType.noConfusion

lemma writePlacedRow_isOk_iff (new) {batch}
    (accepted : columnsToBatch call.columns call.environment.columnOrder = .ok batch) :
    (writePlacedRow formats call store txnId old new oldColumns batch).2.isOk = true ↔
      ∀ step ∈ [InsertStep.files, .record, .log],
        Passes formats.toInsertFormats store call.asInsert txnId batch
          new.segId store.segments[new.segId]? step := by
  obtain ⟨mem, ne⟩ := columnsToBatch_filled accepted
  have writable := writeFiles_isOk_iff formats.toInsertFormats
    call.environment.toInsertEnvironment new.segId txnId store mem ne
    (columnsToBatch_nodup accepted)
  obtain ⟨segments, cache, files, changes, -⟩ := writeFiles_fst
    formats.toInsertFormats call.environment.toInsertEnvironment new.segId txnId
    store ne
  rw [writePlacedRow]
  rcases writes : writeFiles formats.toInsertFormats
    call.environment.toInsertEnvironment new.segId txnId store batch
    with ⟨written, error | done⟩
  all_goals rw [writes] at writable changes
  · exact iff_of_false Bool.false_ne_true fun passes =>
      absurd (writable.mpr (passes .files (by simp))) Bool.false_ne_true
  have sameWal : written.wal = store.wal := congrArg (fun after => after.wal) changes
  have logs := @logUpdate_isOk_iff _ formats written call txnId old oldColumns
    new (batch ++ visibilityColumns formats.toInsertFormats batch txnId notDeleted)
  rw [sameWal] at logs
  have files : Passes formats.toInsertFormats store call.asInsert txnId batch
      new.segId store.segments[new.segId]? .files := writable.mp rfl
  have goesOn : ∀ {res : LoggedUpdate Value} {attempt : TableStore × Except RockDuckError Unit},
      (andThen attempt fun store _ => (store, .ok res)).2.isOk =
        attempt.2.isOk := by
    rintro res ⟨after, error | done⟩ <;> rfl
  dsimp only [andThen] at goesOn ⊢
  rw [goesOn, logs]
  simp only [List.forall_mem_cons, files, true_and, List.not_mem_nil,
    false_implies, implies_true, and_true]
  rfl

lemma writeNewRow_isOk_iff : (writeNewRow formats call store txnId old oldColumns).2.isOk = true ↔
      ∃ batch segId segment, RowWritable formats store call txnId batch segId segment := by
  rw [writeNewRow]
  cases found : store.target call.table call.environment.toInsertEnvironment with
  | none =>
    obtain ⟨error, fails⟩ := allocatePosition_of_none found
    rw [fails]
    exact iff_of_false Bool.false_ne_true fun ⟨_, _, _, writable⟩ => by
      cases found.symm.trans writable.found
  | some target =>
    obtain ⟨segId, segment⟩ := target
    obtain ⟨segments, cache, described, positions⟩ := allocatePosition_of_some found
    rw [positions]
    cases count : call.environment.counterFault with
    | some error =>
      exact iff_of_false Bool.false_ne_true fun ⟨_, _, _, writable⟩ => by
        cases count.symm.trans writable.counted
    | none =>
      dsimp only [andThen]
      cases accepted : columnsToBatch call.columns call.environment.columnOrder with
      | error error =>
        exact iff_of_false Bool.false_ne_true fun ⟨_, _, _, writable⟩ => by
          cases accepted.symm.trans writable.accepted
      | ok batch =>
        have writes := @writePlacedRow_isOk_iff _ formats
          (store.afterAllocation segId segments cache) call txnId old
          oldColumns (store.nextPosition segId) batch accepted
        have lands : (store.nextPosition segId).segId = segId := rfl
        have segmentHere : (store.afterAllocation segId segments
          cache).segments[segId]? = segment := described
        rw [lands, segmentHere] at writes
        refine writes.trans ⟨fun passes => ?_, fun writable => ?_⟩
        · exact ⟨batch, segId, segment, accepted, found, count, passes⟩
        · obtain ⟨_, _, _, writable⟩ := writable
          cases accepted.symm.trans writable.accepted
          cases found.symm.trans writable.found
          exact writable.passes

lemma writeNewRow_deltavis (segId) :
    (writeNewRow formats call store txnId old oldColumns).1.deltavis segId =
      store.deltavis segId := by
  let kept := fun after : TableStore => after.deltavis segId = store.deltavis segId
  have keeps {after before : TableStore}
      (same : after.file segId deltavisPath = before.file segId deltavisPath)
      (held : kept before) : kept after := by
    simp only [kept, deltavis, same]
    exact held
  refine andThen_fst_keeps kept ?_ fun placed new same => ?_
  · obtain ⟨segments, cache, counts, changes⟩ := allocatePosition_changes (Prod.eta _).symm
    rw [changes]
    rfl
  · cases accepted : columnsToBatch call.columns call.environment.columnOrder with
    | error error => exact same
    | ok batch =>
      refine andThen_fst_keeps kept ?_ fun written _ same =>
        andThen_fst_keeps kept ?_ fun logged _ same => same
      · exact keeps (writeFiles_file_of_untouched _ _ (.inr colPath_ne_deltavisPath) _ _
          (columnsToBatch_filled accepted).2) same
      · obtain ⟨db, logs⟩ := logUpdate_changes (Prod.eta (logUpdate formats written call txnId old
          new oldColumns (batch ++ visibilityColumns formats.toInsertFormats batch txnId
          notDeleted))).symm
        rw [logs]
        exact same

lemma updateToLog_of_unmarked (unmarked : ∀ txnId old oldColumns,
      ¬ MarksRow formats store call txnId old oldColumns) :
    ∃ ctr error, store.updateToLog formats call =
      ({ store with txnCounter := ctr }, .error error) := by
  cases numbered : store.nextTxn call.explicitTxn with
  | none =>
    obtain ⟨error, fails⟩ := insertTxnId_of_none numbered
    exact ⟨store.txnCounter, error, by rw [updateToLog, fails, andThen]⟩
  | some txnId =>
    obtain ⟨ctr, allocates⟩ := insertTxnId_of_some numbered
    simp only [updateToLog, allocates, andThen]
    cases found : { store with txnCounter := ctr }.lookupRow formats call.environment call.pk with
    | error error => exact ⟨ctr, error, rfl⟩
    | ok row =>
      obtain ⟨old, oldColumns⟩ := row
      cases marks : call.environment.markFault with
      | some error => exact ⟨ctr, error, rfl⟩
      | none =>
        cases mem : store.files.contains old.segId with
        | true => exact absurd ⟨numbered, found, marks, mem⟩ (unmarked txnId old oldColumns)
        | false =>
          simp only [markDeleted, mem, Bool.false_eq_true, if_false]
          exact ⟨ctr, _, rfl⟩

lemma rowWritable_marked_iff {ctr : TxnId} {bytes : Bytes}
    {marked : String} {batch : RecordBatch Value} {segId : String} {segment : Option SegmentMeta} :
    RowWritable formats ({ store with txnCounter := ctr }.setFile marked
        deltavisPath (some bytes)) call txnId batch segId segment ↔
      RowWritable formats store call txnId batch segId segment := by
  have sameVis : ({ store with txnCounter := ctr }.setFile marked
      deltavisPath (some bytes)).file segId visPath =
      store.file segId visPath :=
    file_setFile_of_apart _ _ (.inr (colPath_ne_deltavisPath "__vis").symm)
  have samePasses (step : InsertStep) :
      Passes formats.toInsertFormats
          ({ store with txnCounter := ctr }.setFile marked deltavisPath
            (some bytes)) call.asInsert txnId batch segId segment step ↔
        Passes formats.toInsertFormats store call.asInsert txnId batch segId
          segment step := by
    cases step with
    | files =>
      simp only [Passes]
      rw [readColumn_vis_congr formats.vortex sameVis]
    | index | rowCount | stats | record | log => rfl
  constructor
  · rintro ⟨accepted, found, counted, passes⟩
    exact ⟨accepted, found, counted, fun step mem => (samePasses step).mp (passes step mem)⟩
  · rintro ⟨accepted, found, counted, passes⟩
    exact ⟨accepted, found, counted, fun step mem => (samePasses step).mpr (passes step mem)⟩

lemma updateToLog_of_marks (marks : MarksRow formats store call txnId old oldColumns) :
    ((store.updateToLog formats call).2.isOk = true ↔ ∃ batch segId seg,
        RowWritable formats store call txnId batch segId seg) ∧
    (store.updateToLog formats call).1.deltavis old.segId =
      Deltavis.markDeletedAppend formats.crc32 (store.deltavis old.segId) old.rowOffset txnId := by
  obtain ⟨numbered, found, marks, mem⟩ := marks
  obtain ⟨ctr, allocates⟩ := insertTxnId_of_some numbered
  have foundHere : { store with txnCounter := ctr }.lookupRow formats
      call.environment call.pk = .ok (old, oldColumns) := found
  let marked := { store with txnCounter := ctr }.setFile old.segId
    deltavisPath (some (Deltavis.markDeletedAppend formats.crc32
      (store.deltavis old.segId) old.rowOffset txnId))
  have goesOn : store.updateToLog formats call =
      writeNewRow formats call marked txnId old oldColumns := by
    simp only [updateToLog, allocates, andThen, foundHere, markDeleted, marks, mem, if_true]
    rfl
  rw [goesOn, writeNewRow_isOk_iff, writeNewRow_deltavis]
  refine ⟨?_, ?_⟩
  · simp only [marked, rowWritable_marked_iff]
  · rw [deltavis, file_setFile_self, Option.getD_some]

lemma getPkIndexByPk_of_lookupRow (found : store.lookupRow formats call.environment call.pk =
      .ok (old, oldColumns)) : store.getPkIndexByPk call.pk = some old := by
  unfold lookupRow at found
  split at found
  · cases found
  · cases found
  · next pos _ entry =>
      cases image : readRowBeforeImage formats call.environment.beforeFault
          store pos.segId pos.rowOffset with
      | error error => rw [image] at found; cases found
      | ok cols =>
        rw [image] at found
        cases found
        exact entry

/-- An update that fails before its record is logged keeps the old row, exactly
when it fails before it marks that row.  Once the row is marked, the new row
has to be written and logged. -/
theorem update_failed_keeps_row_iff (formats : RowFormats Value) (store : TableStore)
    (call : UpdateCall Value) : (∀ after error, store.update formats call = (after, .error error) →
      (store.updateToLog formats call).2.isOk = false →
      ∀ old, store.getPkIndexByPk call.pk = some old → RowKept store after call.pk old Value) ↔
    ∀ txnId old oldColumns, MarksRow formats store call txnId old oldColumns →
      ∃ batch segId segment, RowWritable formats store call txnId batch segId segment := by
  constructor
  · intro keeps txnId old oldColumns marks
    obtain ⟨logs, marked⟩ := updateToLog_of_marks marks
    by_contra unwritable
    rcases stops : store.updateToLog formats call with ⟨after, error | logged⟩
    all_goals rw [stops] at logs marked
    · have failed : store.update formats call = (after, .error error) := by
        rw [update_eq, stops, andThen]
      have kept := keeps after error failed (by rw [stops]; rfl) old
        (getPkIndexByPk_of_lookupRow marks.found)
      have grown := congrArg List.length kept.unmarked
      rw [marked, Deltavis.length_entries_markDeletedAppend] at grown
      omega
    · exact unwritable (logs.mp rfl)
  · intro writable after error failed unlogged old found
    by_cases marks : ∃ txnId old oldColumns, MarksRow formats store call txnId old oldColumns
    · obtain ⟨txnId, old, oldColumns, marks⟩ := marks
      have logs := (updateToLog_of_marks marks).1.mpr (writable txnId old oldColumns marks)
      rw [unlogged] at logs
      cases logs
    · obtain ⟨counter, reason, fails⟩ := updateToLog_of_unmarked
        fun txnId old oldColumns marked => marks ⟨txnId, old, oldColumns, marked⟩
      rw [update_eq, fails] at failed
      cases failed
      exact ⟨found, rfl, fun _ _ _ => rfl, fun _ _ _ _ => rfl⟩

end Effects

def byteReader : StoreReader UInt8 where
  readColumn bytes := .ok [bytes]
  readVis bytes := .ok [
    { numRows := bytes.length
      columns := [(createdTxnCol, .int64 (bytes.map UInt8.toNat))]
      aligned := by simp [VisColumn.length] }]
  visPathText segId := segId ++ "/" ++ visPath
  readDeltavis bytes := .ok (Deltavis.entries bytes)
  deltas _ _ := .ok []
  extractRowBytes value := .value [value]

def oneRowStore : TableStore :=
  (byteStore.insert rowFormats.toInsertFormats (byteInsert 1 7)).1

/-- An update without columns. -/
def updateNothing : UpdateCall UInt8 where
  table := "t"
  pk := List.replicate 8 1
  explicitTxn := none
  environment := .undisturbed "seg_1" 0
  columns := ∅

def firstSnapshot : TxnSnapshot where
  snapshotId := 1
  activeTxns := ∅
  isolation := .snapshot
  commitTsMap := (∅ : Std.ExtTreeMap TxnId Nat).insert 1 1

/-- The update is refused for its columns, and the row it should have changed
is gone. -/
theorem refused_update_loses_row : (oneRowStore.update rowFormats updateNothing).2 =
      .error (.invalidParameter "No columns provided") ∧
    ((oneRowStore.readContext byteReader).get firstSnapshot firstSnapshot
      (List.replicate 8 1)).map (fun row => row.bind fun data => data["x"]?) =
        .ok (some (.value [7])) ∧
    (((oneRowStore.update rowFormats updateNothing).1.readContext byteReader).get
      firstSnapshot firstSnapshot (List.replicate 8 1)).map (fun row => row.isSome) =
        .ok false ∧
    ¬ ∀ after error,
      oneRowStore.update rowFormats updateNothing = (after, .error error) →
      (oneRowStore.updateToLog rowFormats updateNothing).2.isOk = false →
      ∀ old, oneRowStore.getPkIndexByPk updateNothing.pk = some old →
        RowKept oneRowStore after updateNothing.pk old UInt8 := by
  have refused : (oneRowStore.update rowFormats updateNothing).2 =
      .error (.invalidParameter "No columns provided") := by decide +kernel
  refine ⟨refused, by decide +kernel, by decide +kernel, fun keeps => ?_⟩
  have kept := keeps _ _ (Prod.ext rfl refused) (by decide +kernel)
    ⟨"seg_1", 0, 0⟩ (by decide +kernel)
  have grown := congrArg List.length kept.unmarked
  revert grown
  decide +kernel

end TableStore

end RockDuck
