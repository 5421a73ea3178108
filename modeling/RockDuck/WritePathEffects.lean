import RockDuck.InsertRuns
import RockDuck.WalApply

/-!
# Effects of the write path

What a successful insert, update or delete logs, and what it does to the
visibility files.
-/

namespace RockDuck

open List

namespace WriteAheadLog

/-- All records, wherever they are. -/
def records (wal : WriteAheadLog) : List WalOp :=
  wal.file ++ wal.buffer ++ wal.queue

/-- Only strict group commit uses the queue. -/
def Ordered (wal : WriteAheadLog) : Prop :=
  wal.queue = [] ∨ wal.policy = .groupCommitStrict

/-- The record was appended. -/
structure Appended (before after : WriteAheadLog) (op : WalOp) : Prop where
  records : after.records =
    before.records ++ if before.enabled then [op] else []
  enabled : after.enabled = before.enabled
  ordered : after.Ordered

lemma Appended.of_appendDurable {wal after : WriteAheadLog} {op : WalOp} (ordered : wal.Ordered)
    (operation : op.opType ≠ .commit)
    (ran : wal.appendDurable op out = (after, .ok ())) : wal.Appended after op := by
  unfold appendDurable at ran
  by_cases enabled : wal.enabled = true
  · rw [if_neg (by simp [enabled])] at ran
    have direct (emptyQueue : wal.queue = [])
        (appends : wal.appendAndSync op out = (after, .ok ())) :
        wal.Appended after op := by
      cases out <;> cases appends <;>
        exact ⟨by simp [WriteAheadLog.records, enabled, emptyQueue], rfl, .inl emptyQueue⟩
    cases policy : wal.policy with
    | groupCommitStrict =>
      simp only [policy] at ran
      cases out with
      | appendFailed reason | flushFailed reason => simp [queueAndWait] at ran
      | synced =>
        cases ran
        exact ⟨by simp [WriteAheadLog.records, flushBatch, enabled], rfl, .inl rfl⟩
      | deferred =>
        cases ran
        exact ⟨by simp [WriteAheadLog.records, flushBatch, enabled], rfl, .inr policy⟩
    | syncEach | flushOnly =>
      simp only [policy] at ran
      exact direct (ordered.resolve_right (by simp [policy])) ran
  · rw [if_pos (by simp [enabled, operation])] at ran
    cases ran
    exact ⟨by simp [enabled], rfl, ordered⟩

end WriteAheadLog

namespace TableStore

variable {Value : Type*}

def visCount (codec : VortexCodec Value) (store : TableStore) (segId : String) : Option Nat :=
  match store.readColumn codec segId "__vis" with
  | .ok rows => some rows.length
  | .error _ => none

variable {first second : TableStore} {walBatch : Bytes} {fullBatch : RecordBatch Value} {codec : VortexCodec Value}
    {segId : String} {store after : TableStore} {txnId : TxnId}

lemma visCount_congr (same : first.file segId visPath = second.file segId visPath) :
    first.visCount codec segId = second.visCount codec segId := by
  rw [visCount, readColumn_vis_congr codec same, visCount]

lemma visCount_of_files (same : first.files = second.files) (segId) :
    first.visCount codec segId = second.visCount codec segId :=
  visCount_congr (by rw [file, same, file])

lemma visCount_setFile_vis (decodes : codec.decode bytes = .ok rows) :
    (store.setFile segId visPath (some bytes)).visCount codec segId = some rows.length := by
  have mem : (store.setFile segId visPath (some bytes)).ColumnHolds codec
      segId "__vis" rows := ⟨bytes, file_setFile_self _ _ _ _, decodes⟩
  rw [visCount, mem.readColumn]

/-- The column file is written, the rest is left. -/
def SetsColumn (codec : VortexCodec Value) (segId column : String)
    (count : Nat) (before after : TableStore) : Prop :=
  ∃ bytes rows, after = before.setFile segId (colPath column) (some bytes) ∧
    codec.decode bytes = .ok rows ∧ rows.length = count

section

lemma SetsColumn.visCount_of_ne {col other count before}
    (sets : SetsColumn codec segId col count before after)
    (ne : segId ≠ other ∨ col ≠ "__vis") :
    after.visCount codec other = before.visCount codec other := by
  obtain ⟨bytes, rows, rfl, _, _⟩ := sets
  exact visCount_congr (file_setFile_of_apart _ _ (ne.imp_right colPath_ne_visPath))

lemma SetsColumn.visCount {count before}
    (sets : SetsColumn codec segId "__vis" count before after) :
    after.visCount codec segId = some count := by
  obtain ⟨bytes, rows, rfl, decodes, rfl⟩ := sets
  exact visCount_setFile_vis decodes

variable {store after : TableStore}

/-- Columns of one length are written.  The visibility file changes only if a
column has its name. -/
lemma forEach_setsColumn {count : Nat}
    {step : TableStore → String × List Value → TableStore × Except RockDuckError Unit}
    {batch : RecordBatch Value}
    (sets : ∀ col ∈ batch, ∀ before next, step before col = (next, .ok ()) → SetsColumn codec
      segId col.1 count before next) (ran : forEach step store batch = (after, .ok ())) :
    after.wal = store.wal ∧ (∀ other, segId ≠ other →
        after.visCount codec other = store.visCount codec other) ∧
      ∀ held, store.visCount codec segId = some held → after.visCount codec segId =
          some (if "__vis" ∈ batch.map Prod.fst then count else held) := by
  induction batch generalizing store with
  | nil =>
    cases ran
    exact ⟨rfl, fun _ _ => rfl, fun _ holds => by simpa using holds⟩
  | cons col batch ih =>
    obtain ⟨next, _, first, rest⟩ := andThen_eq_ok.mp ran
    have written := sets col mem_cons_self store next first
    obtain ⟨sameWal, elsewhere, here⟩ :=
      ih (fun other mem => sets other (mem_cons_of_mem _ mem)) rest
    have firstWal : next.wal = store.wal := by
      obtain ⟨bytes, rows, rfl, _⟩ := written
      rfl
    refine ⟨sameWal.trans firstWal, fun other ne => ?_, fun held holds => ?_⟩
    · rw [elsewhere other ne, written.visCount_of_ne (.inl ne)]
    · by_cases named : col.1 = "__vis"
      · rw [named] at written
        rw [here count written.visCount]
        simp [named]
      · have same := (written.visCount_of_ne (.inr named)).trans holds
        have unnamed : "__vis" ≠ col.1 := Ne.symm named
        rw [here held same]
        simp only [map_cons, mem_cons, unnamed, false_or]

section

variable {rows : List Value} (nonempty : rows ≠ []) (few : rows.length < 100000)
include nonempty few

lemma setsColumn_writeColumnDataFinal
    (ran : writeColumnDataFinal codec faults segId col store [rows] = (after, .ok ())) :
    SetsColumn codec segId col rows.length store after := by
  obtain ⟨bytes, same, decodes⟩ := writeColumnDataFinal_ok nonempty few ran
  exact ⟨bytes, rows, same, decodes, rfl⟩

lemma setsColumn_replayColumn (ran : replayColumn codec segId col store rows = (after, .ok ())) :
    SetsColumn codec segId col rows.length store after := by
  cases mem : store.files.contains segId with
  | false =>
    rw [replayColumn_of_absent codec segId col mem nonempty few] at ran
    simp at ran
  | true =>
    rw [replayColumn, if_pos mem] at ran
    exact setsColumn_writeColumnDataFinal nonempty few ran

end

/-- Appending to the visibility file needs room for all its rows. -/
lemma appendVisBatch_visCount (ne : created ≠ [])
    (ran : appendVisBatch codec faults renameFault segId store ((name, created) :: rest) = (after,
      .ok ())) : after.wal = store.wal ∧ created.length < 100000 ∧ (∀ other, segId ≠ other →
      after.visCount codec other = store.visCount codec other) ∧
      ∀ held, store.visCount codec segId = some held →
        after.visCount codec segId = some (held + created.length) := by
  obtain ⟨rows, reads, few, holds⟩ := appendVisBatch_reads ne ran
  have sets := appendVisBatch_changes ran
  obtain ⟨files, same⟩ := sets.changes
  rw [length_append] at few
  refine ⟨by rw [same], by omega, fun other differ =>
    visCount_congr (sets.file (.inl differ)), fun held count => ?_⟩
  rw [visCount, reads] at count
  cases count
  rw [visCount, holds.readColumn]
  exact congrArg some length_append

end

lemma markDeleted_visCount {crc32}
    (ran : markDeleted crc32 fault segId store row txnId = (after, .ok ())) :
    after.wal = store.wal ∧ ∀ other, after.visCount codec other = store.visCount codec other := by
  obtain ⟨files, same⟩ := (markDeleted_changes ran).changes
  refine ⟨by rw [same], fun other => visCount_congr ?_⟩
  exact (markDeleted_changes ran).file
    (.inr (colPath_ne_deltavisPath "__vis").symm)

/-- What the logged rows do to the number of visibility rows. -/
def Grown (formats : RowFormats Value) (before after : TableStore)
    (columns : List String) (walBatch : Bytes) (segId : String) : Prop :=
  ∃ batch rows, LoggedBatch formats columns walBatch batch rows ∧
    (∀ other, segId ≠ other → after.visCount formats.vortex other =
        before.visCount formats.vortex other) ∧
    ∀ held, before.visCount formats.vortex segId = some held →
      after.visCount formats.vortex segId =
        some ((if "__vis" ∈ columns then 1 else held) + rows)

/-- What a logged operation did to the visibility files. -/
def VisEffect (formats : RowFormats Value) (before after : TableStore) (op : WalOp) : Prop :=
  match op.payload with
  | .insert _ _ columns walBatch _ segId _ _ => Grown formats before after columns walBatch segId
  | .update _ _ columns walBatch _ _ _ _ _ newSegId _ _ =>
    Grown formats before after columns walBatch newSegId
  | .delete _ _ _ _ _ _ =>
    ∀ segId, after.visCount formats.vortex segId =
      before.visCount formats.vortex segId
  | _ => False

variable {formats : RowFormats Value}

lemma writeRow_effect {env : InsertEnvironment Value} {cols : Std.ExtTreeMap String (List Value)}
    {batch : RecordBatch Value} {described written appended : TableStore}
    (made : columnsToBatch cols env.columnOrder = .ok batch)
    (describes : store.ensureSegmentColumns segId (batch.map Prod.fst) env.metaReadFault
      env.metaWriteFault = (described, .ok ()))
    (writes : writeColumns formats.toInsertFormats env segId described batch = (written, .ok ()))
    (appends : appendVisBatch formats.vortex env.visDisk env.visRenameFault segId written
      (visibilityColumns formats.toInsertFormats batch txnId notDeleted) = (appended, .ok ()))
    (encodes : formats.batchToIpcStream (batch ++ visibilityColumns formats.toInsertFormats batch
      txnId notDeleted) = .ok walBatch) : appended.wal = store.wal ∧ Grown formats store appended
        ((batch ++ visibilityColumns formats.toInsertFormats batch txnId
          notDeleted).map Prod.fst) walBatch segId := by
  obtain ⟨-, pos, uniform⟩ := columnsToBatch_ok made
  generalize same : (batch.head?.map fun first => first.2.length).getD 0 = rows
    at pos uniform
  have vis : visibilityColumns formats.toInsertFormats batch txnId notDeleted =
      [(createdTxnCol, List.replicate rows (formats.txnValue txnId)),
        (deletedTxnCol, List.replicate rows (formats.txnValue notDeleted))] := by
    rw [visibilityColumns, same]
  rw [vis] at appends encodes ⊢
  obtain ⟨segments, cache, rfl⟩ := ensureSegmentColumns_changes describes
  obtain ⟨walWritten, elsewhereWritten, hereWritten⟩ := forEach_setsColumn
    (fun col mem before next taken => by
      have first : col.2.take 1 ≠ [] ∧ (col.2.take 1).length = 1 := by
        rw [← length_pos_iff, length_take, uniform col mem]
        omega
      have sets := setsColumn_writeColumnDataFinal first.1 (by rw [first.2]; decide) taken
      rwa [first.2] at sets) writes
  obtain ⟨walAppended, few, elsewhereAppended, hereAppended⟩ :=
    appendVisBatch_visCount (by simpa using pos.ne') appends
  rw [length_replicate] at few hereAppended
  refine ⟨walAppended.trans walWritten, _, rows,
    ⟨formats.ipcStreamToBatch_batchToIpcStream encodes, rfl, pos, few,
      fun col mem => ?_⟩, fun other ne => ?_, fun held holds => ?_⟩
  · rcases mem_append.mp mem with data | added
    · exact uniform col data
    · simp only [mem_cons, not_mem_nil, or_false] at added
      rcases added with rfl | rfl <;> exact length_replicate
  · rw [elsewhereAppended other ne, elsewhereWritten other ne]
    rfl
  · have reserved : "__vis" ≠ createdTxnCol ∧ "__vis" ≠ deletedTxnCol := by
      decide
    rw [hereAppended _ (hereWritten held holds)]
    simp only [map_append, map_cons, map_nil, mem_append,
      mem_cons, not_mem_nil, reserved.1, reserved.2, or_false]

/-- A call that succeeded: what it logged, and what that did. -/
structure Performed (formats : RowFormats Value) (before after : TableStore)
    (op : WalOp) : Prop where
  appended : before.wal.Appended after.wal op
  effect : VisEffect formats before after op

lemma Grown.of_visCount {before last : TableStore}
    (grown : Grown formats first last cols walBatch segId)
    (opening : ∀ segId, first.visCount formats.vortex segId = before.visCount formats.vortex segId)
    (closing : ∀ segId, after.visCount formats.vortex segId = last.visCount formats.vortex segId) :
    Grown formats before after cols walBatch segId := by
  obtain ⟨batch, rows, logged, elsewhere, here⟩ := grown
  refine ⟨batch, rows, logged, fun other ne => ?_, fun held holds => ?_⟩
  · rw [closing, elsewhere other ne, opening]
  · rw [closing]
    exact here held ((opening segId).trans holds)

lemma logOperation_appends {db next : Database} (logs : db.logOperation op out = (next, res))
    : db.wal.appendDurable op out = (next.wal, res) := by
  cases logs
  rfl

lemma logRowChange_appends (ran : store.logRowChange pk op out = (after, .ok ())) :
    store.wal.appendDurable op out = (after.wal, .ok ()) ∧ after.files = store.files := by
  unfold logRowChange at ran
  split at ran
  · simp at ran
  · cases logs : store.toDatabase.logOperation op out with
    | mk db res =>
      rw [logs] at ran
      cases ran
      exact ⟨logOperation_appends logs, rfl⟩

lemma logInsert_appends {formats call pos}
    (ran : logInsert formats store call txnId pos fullBatch = (after, .ok ())) :
    ∃ walBatch, formats.batchToIpcStream fullBatch = .ok walBatch ∧
      store.wal.appendDurable ⟨.insert, txnId, .insert call.table call.pk
          (fullBatch.map Prod.fst) walBatch [] pos.segId
          pos.granuleId pos.rowOffset⟩ call.environment.walOutcome = (after.wal, .ok ()) ∧
      after.files = store.files := by
  unfold logInsert at ran
  split at ran
  · simp at ran
  · next walBatch encodes =>
      split at ran
      · simp at ran
      · split at ran
        · simp at ran
        · next logs =>
            cases ran
            exact ⟨walBatch, encodes, logOperation_appends logs, rfl⟩

section

variable {store after : TableStore}

lemma logUpdate_appends {call old new oldColumns}
    (ran : logUpdate formats store call txnId old new oldColumns fullBatch = (after, .ok ())) :
    ∃ walBatch, formats.batchToIpcStream fullBatch = .ok walBatch ∧ store.wal.appendDurable
          (updateOp call txnId old new oldColumns fullBatch walBatch)
          call.environment.walOutcome = (after.wal, .ok ()) ∧ after.files = store.files := by
  unfold logUpdate at ran
  split at ran
  · simp at ran
  · next walBatch encodes =>
      exact ⟨walBatch, encodes, logRowChange_appends ran⟩

lemma insert_performed {call} (ordered : store.wal.Ordered)
    (ran : store.insert formats.toInsertFormats call = (after, .ok txnId)) :
    ∃ op cols walBatch segId, Performed formats store after op ∧
      Grown formats store after cols walBatch segId := by
  obtain ⟨start, placed, places, ran⟩ := andThen_eq_ok.mp ran
  have made := placeInsert_batch places
  obtain ⟨ctr, segments, cache, rows, rfl⟩ := placeInsert_changes places
  obtain ⟨described, _, describes, ran⟩ := andThen_eq_ok.mp ran
  obtain ⟨written, _, writes, ran⟩ := andThen_eq_ok.mp ran
  obtain ⟨appended, _, appends, ran⟩ := andThen_eq_ok.mp ran
  obtain ⟨indexed, _, indexes, ran⟩ := andThen_eq_ok.mp ran
  obtain ⟨count, _, counts, ran⟩ := andThen_eq_ok.mp ran
  obtain ⟨logged, _, logs, ran⟩ := andThen_eq_ok.mp ran
  cases ran
  obtain ⟨walBatch, encodes, records, files⟩ := logInsert_appends logs
  obtain ⟨wal, grown⟩ := writeRow_effect made describes writes appends encodes
  obtain ⟨pkIdx, pkLookup, rfl⟩ := putPkIndexDouble_changes indexes
  obtain ⟨rowCounts, stats, rfl⟩ := updateTableStats_changes counts
  rw [wal] at records
  have whole := grown.of_visCount (fun _ => rfl) fun segId => visCount_of_files files segId
  exact ⟨_, _, _, _, ⟨.of_appendDurable ordered (by simp) records, whole⟩, whole⟩

lemma update_performed (ordered : store.wal.Ordered)
    (ran : store.update formats call = (after, .ok txnId)) :
    ∃ op, Performed formats store after op := by
  obtain ⟨numbered, num, nums, ran⟩ := andThen_eq_ok.mp ran
  split at ran
  · simp at ran
  · next old oldColumns _ =>
      obtain ⟨marked, _, marks, ran⟩ := andThen_eq_ok.mp ran
      obtain ⟨start, new, allocates, ran⟩ := andThen_eq_ok.mp ran
      split at ran
      · simp at ran
      · next batch made =>
          obtain ⟨described, _, describes, ran⟩ := andThen_eq_ok.mp ran
          obtain ⟨written, _, writes, ran⟩ := andThen_eq_ok.mp ran
          obtain ⟨appended, _, appends, ran⟩ := andThen_eq_ok.mp ran
          obtain ⟨logged, _, logs, ran⟩ := andThen_eq_ok.mp ran
          obtain ⟨removed, _, removes, ran⟩ := andThen_eq_ok.mp ran
          obtain ⟨indexed, _, indexes, ran⟩ := andThen_eq_ok.mp ran
          cases ran
          obtain ⟨ctr, rfl⟩ := insertTxnId_changes nums
          obtain ⟨segments, cache, counts, rfl⟩ := allocatePosition_changes allocates
          obtain ⟨walBatch, encodes, records, files⟩ := logUpdate_appends logs
          obtain ⟨wal, grown⟩ := writeRow_effect made describes writes appends encodes
          obtain ⟨_, _, rfl⟩ := deletePkIndexDouble_changes removes
          obtain ⟨_, _, rfl⟩ := putPkIndexDouble_changes indexes
          obtain ⟨markedWal, markedVis⟩ := markDeleted_visCount marks
          rw [wal.trans markedWal] at records
          exact ⟨_, .of_appendDurable ordered (by simp [updateOp]) records,
            grown.of_visCount markedVis (visCount_of_files files)⟩

lemma delete_performed (ordered : store.wal.Ordered)
    (ran : store.delete formats call = (after, .ok ())) :
    ∃ op, Performed formats store after op := by
  obtain ⟨numbered, num, nums, ran⟩ := andThen_eq_ok.mp ran
  split at ran
  · simp at ran
  · next pos beforeRow _ =>
      obtain ⟨count, _, counts, ran⟩ := andThen_eq_ok.mp ran
      obtain ⟨logged, _, logs, ran⟩ := andThen_eq_ok.mp ran
      obtain ⟨removed, _, removes, marks⟩ := andThen_eq_ok.mp ran
      obtain ⟨ctr, rfl⟩ := insertTxnId_changes nums
      obtain ⟨rowCounts, stats, rfl⟩ := updateTableStats_changes counts
      obtain ⟨_, _, rfl⟩ := deletePkIndexDouble_changes removes
      obtain ⟨markedWal, markedVis⟩ := markDeleted_visCount marks
      obtain ⟨records, files⟩ := logRowChange_appends logs
      rw [← show after.wal = logged.wal from markedWal] at records
      refine ⟨_, .of_appendDurable ordered (by simp [deleteOp]) records,
        fun segId => ?_⟩
      exact (markedVis segId).trans (visCount_of_files files segId)

end

end TableStore

/-- A call on rows. -/
inductive TableCall (Value : Type*) where
  | insert (call : InsertCall Value)
  | update (call : UpdateCall Value)
  | delete (call : DeleteCall Value)

namespace TableStore

variable {Value : Type*}

def perform (formats : RowFormats Value) (store : TableStore) :
    TableCall Value → TableStore × Except RockDuckError Unit
  | .insert call =>
    andThen (store.insert formats.toInsertFormats call) fun store _ => (store, .ok ())
  | .update call => andThen (store.update formats call) fun store _ => (store, .ok ())
  | .delete call => store.delete formats call

lemma exists_performed {fmt : RowFormats Value} {store after : TableStore} {call : TableCall Value}
    (ordered : store.wal.Ordered) (ran : store.perform fmt call = (after, .ok ())) :
    ∃ op, Performed fmt store after op := by
  cases call with
  | insert call =>
    obtain ⟨next, _, inserts, rest⟩ := andThen_eq_ok.mp ran
    cases rest
    obtain ⟨op, _, _, _, performed, _⟩ := insert_performed ordered inserts
    exact ⟨op, performed⟩
  | update call =>
    obtain ⟨next, _, updates, rest⟩ := andThen_eq_ok.mp ran
    cases rest
    exact update_performed ordered updates
  | delete call => exact delete_performed ordered ran

end TableStore

end RockDuck
