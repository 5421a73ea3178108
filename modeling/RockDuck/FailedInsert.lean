import RockDuck.InsertSteps

/-!
# Failed inserts

An insert that fails after it took a row offset keeps the offset.
-/

namespace RockDuck

/-- A log takes a record unless it is enabled and the append fails. -/
def WriteAheadLog.Accepts (wal : WriteAheadLog) (outcome : DurableOutcome) : Prop :=
  wal.enabled = false ∨ outcome = .synced ∨ outcome = .deferred

variable {outcome : DurableOutcome} {db : Database}

lemma Database.not_accepts_of_logOperation {op : WalOp} (ordinary : op.opType ≠ .commit)
    (refused : db.logOperation op outcome = (after, .error error)) : ¬ db.wal.Accepts outcome := by
  simp only [logOperation, WriteAheadLog.appendDurable, ordinary, ne_eq,
    not_false_eq_true, decide_true, Bool.and_true] at refused
  rintro (disabled | rfl | rfl)
  · simp [disabled] at refused
  all_goals
    cases enabled : db.wal.enabled <;> cases policy : db.wal.policy <;>
      simp [enabled, policy, WriteAheadLog.appendAndSync, WriteAheadLog.queueAndWait] at refused

lemma Database.logOperation_of_not_accepts (refuses : ¬ db.wal.Accepts outcome) :
    ∃ wal error, db.logOperation op outcome = ({ db with wal := wal }, .error error) := by
  simp only [WriteAheadLog.Accepts, not_or, Bool.not_eq_false] at refuses
  obtain ⟨enabled, unsynced, undeferred⟩ := refuses
  simp only [logOperation, WriteAheadLog.appendDurable, enabled, Bool.not_true,
    Bool.false_and, Bool.false_eq_true, if_false]
  cases outcome with
  | synced => exact absurd rfl unsynced
  | deferred => exact absurd rfl undeferred
  | appendFailed reason | flushFailed reason => cases db.wal.policy <;> exact ⟨_, _, rfl⟩

lemma Database.logOperation_isOk_iff {op : WalOp} (ordinary : op.opType ≠ .commit) :
    (db.logOperation op outcome).2.isOk = true ↔ db.wal.Accepts outcome := by
  by_cases accepts : db.wal.Accepts outcome
  · rcases logged : db.logOperation op outcome with ⟨after, error | done⟩
    · exact absurd accepts (not_accepts_of_logOperation ordinary logged)
    · exact iff_of_true rfl accepts
  · obtain ⟨wal, error, refused⟩ := @logOperation_of_not_accepts outcome db op accepts
    rw [refused]
    exact iff_of_false Bool.false_ne_true accepts

/-- What lookups and statistics show: the entry of a key, the row counters of
the segments, and the row counter and the statistics of a table. -/
@[ext]
structure KeyView where
  entry : Option PositionResult
  segRows : String → Int
  tableRows : Int
  stats : Option TableStats

/-- The steps of an insert that may fail after it took an offset. -/
inductive InsertStep where
  | files
  | index
  | rowCount
  | stats
  | record
  | log
  deriving DecidableEq

/-- The steps before a step. -/
def InsertStep.earlier : InsertStep → List InsertStep
  | .files => []
  | .index => [.files]
  | .rowCount => [.files, .index]
  | .stats => [.files, .index, .rowCount]
  | .record => [.files, .index, .rowCount, .stats]
  | .log => [.files, .index, .rowCount, .stats, .record]

attribute [local simp] InsertStep.earlier

namespace TableStore

variable {Value : Type*}

/-- What can be seen of a key. -/
def keyView (store : TableStore) (table : String) (pk : Bytes) : KeyView where
  entry := store.getPkIndexByPk pk
  segRows segId := store.segRowCounts.getD segId 0
  tableRows := store.tableRowCounts.getD table 0
  stats := store.tableStats[table]?

section Steps

variable (formats : InsertFormats Value) (store : TableStore) (call : InsertCall Value)
    (txnId : TxnId) (batch : RecordBatch Value) (segId : String) (segment : Option SegmentMeta)

/-- The step does not fail. -/
def Passes : InsertStep → Prop
  | .files =>
    FilesWritable formats call.environment segment
      (store.readColumn formats.vortex segId "__vis") txnId batch
  | .index => call.environment.indexFault = none
  | .rowCount => call.environment.countFault = none
  | .stats => call.environment.statsFault = none
  | .record =>
    (formats.batchToIpcStream (batch ++
      visibilityColumns formats batch txnId notDeleted)).isOk = true ∧
    call.pk.length = 8
  | .log => store.wal.Accepts call.environment.walOutcome

/-- The insert fails at the step. -/
structure FailsAt (step : InsertStep) : Prop where
  reached : ∀ earlier ∈ step.earlier,
    Passes formats store call txnId batch segId segment earlier
  stopped : ¬ Passes formats store call txnId batch segId segment step

def rowsLeftBy (rows : Int) (rollbackFault : Fault) : InsertStep → Int
  | .files | .index | .rowCount => rows
  | .stats | .record => atomicIncrement rows 1
  | .log =>
    match rollbackFault with
    | some _ => atomicIncrement rows 1
    | none => atomicIncrement (atomicIncrement rows 1) (-1)

/-- What an insert that fails at the step leaves of the key. -/
def leftBy (step : InsertStep) : KeyView where
  entry :=
    match step with
    | .files | .index => store.getPkIndexByPk call.pk
    | _ => some (store.nextPosition segId)
  segRows := Function.update (fun segId => store.segRowCounts.getD segId 0)
    segId (atomicIncrement (store.segRowCounts.getD segId 0) 1)
  tableRows := rowsLeftBy (store.tableRowCounts.getD call.table 0)
    call.environment.rollbackCountFault step
  stats :=
    match step with
    | .record | .log =>
      some
        { store.tableStats[call.table]?.getD .default with
          lastUpdatedTxn := txnId }
    | _ => store.tableStats[call.table]?

/-- All that the insert writes before it fails in a step was there already:
the key had the new position, the counter of the table is at its bound or is
taken back, and the transaction was the last one noted. -/
structure AlreadyThere (step : InsertStep) : Prop where
  entry : step ∉ [.files, .index] →
    store.getPkIndexByPk call.pk = some (store.nextPosition segId)
  counted : step ∈ [.stats, .record] ∨
      step = .log ∧ call.environment.rollbackCountFault ≠ none →
    store.tableRowCounts.getD call.table 0 = 2 ^ 63 - 1
  takenBack : step = .log → call.environment.rollbackCountFault = none →
    -(2 ^ 63) ≤ store.tableRowCounts.getD call.table 0 ∧
      store.tableRowCounts.getD call.table 0 < 2 ^ 63 - 1
  stats : step ∈ [.record, .log] → ∃ stats,
    store.tableStats[call.table]? = some stats ∧ stats.lastUpdatedTxn = txnId

lemma atomicIncrement_eq_self_iff (count : Int) :
    atomicIncrement count 1 = count ↔ count = 2 ^ 63 - 1 := by
  rw [atomicIncrement]
  omega

lemma atomicIncrement_takenBack_iff (count : Int) :
    atomicIncrement (atomicIncrement count 1) (-1) = count ↔
      -(2 ^ 63) ≤ count ∧ count < 2 ^ 63 - 1 := by
  rw [atomicIncrement, atomicIncrement]
  omega

lemma rowsLeftBy_eq_self_iff (rows : Int) (rollbackFault step) :
    rowsLeftBy rows rollbackFault step = rows ↔
      (step ∈ [.stats, .record] ∨ step = .log ∧ rollbackFault ≠ none → rows = 2 ^ 63 - 1) ∧
      (step = .log → rollbackFault = none → -(2 ^ 63) ≤ rows ∧ rows < 2 ^ 63 - 1) := by
  cases step with
  | files | index | rowCount => simp [rowsLeftBy]
  | stats | record => simp [rowsLeftBy, atomicIncrement_eq_self_iff]
  | log =>
    cases rollbackFault with
    | some error => simp [rowsLeftBy, atomicIncrement_eq_self_iff]
    | none => simp [rowsLeftBy, atomicIncrement_takenBack_iff]

lemma noted_eq_iff (stats : Option TableStats) (txnId : TxnId) :
    some { stats.getD .default with lastUpdatedTxn := txnId } = stats ↔
      ∃ known, stats = some known ∧ known.lastUpdatedTxn = txnId := by
  cases stats with
  | none => simp
  | some known =>
    simp only [Option.getD_some, Option.some.injEq, exists_eq_left']
    rw [TableStats.ext_iff, and_iff_right rfl, eq_comm]

/-- A failure goes unnoticed exactly when the segment's counter is at its
bound and all that was written was there already. -/
lemma leftBy_eq_iff (step) : store.leftBy call txnId segId step = store.keyView call.table call.pk ↔
      store.segRowCounts.getD segId 0 = 2 ^ 63 - 1 ∧ store.AlreadyThere call txnId segId step := by
  have entry : (store.leftBy call txnId segId step).entry =
      store.getPkIndexByPk call.pk ↔ (step ∉ [.files, .index] →
        store.getPkIndexByPk call.pk = some (store.nextPosition segId)) := by
    cases step <;> simp [leftBy, eq_comm]
  have stats : (store.leftBy call txnId segId step).stats =
      store.tableStats[call.table]? ↔ (step ∈ [.record, .log] → ∃ stats,
        store.tableStats[call.table]? = some stats ∧
          stats.lastUpdatedTxn = txnId) := by
    cases step <;> simp [leftBy, noted_eq_iff]
  have rows := rowsLeftBy_eq_self_iff (store.tableRowCounts.getD call.table 0)
    call.environment.rollbackCountFault step
  have segment : (store.leftBy call txnId segId step).segRows =
      (fun segId => store.segRowCounts.getD segId 0) ↔
        store.segRowCounts.getD segId 0 = 2 ^ 63 - 1 :=
    Function.update_eq_self_iff.trans (atomicIncrement_eq_self_iff _)
  rw [KeyView.ext_iff]
  constructor
  · rintro ⟨sameEntry, sameSegment, sameRows, sameStats⟩
    exact ⟨segment.mp sameSegment, entry.mp sameEntry, (rows.mp sameRows).1,
      (rows.mp sameRows).2, stats.mp sameStats⟩
  · rintro ⟨full, there⟩
    exact ⟨entry.mpr there.entry, segment.mpr full,
      rows.mpr ⟨there.counted, there.takenBack⟩, stats.mpr there.stats⟩

end Steps

section Effects

variable {formats : InsertFormats Value} {store : TableStore} {call : InsertCall Value}
    {txnId : TxnId} {batch : RecordBatch Value} {segId : String} {segment : Option SegmentMeta}

lemma keyView_afterAllocation (segments cache table pk) :
    (store.afterAllocation segId segments cache).keyView table pk = { store.keyView table pk with
        segRows := Function.update
          (fun segId => store.segRowCounts.getD segId 0) segId
          (atomicIncrement (store.segRowCounts.getD segId 0) 1) } := by
  refine KeyView.ext rfl (funext fun other => ?_) rfl rfl
  simp only [keyView, afterAllocation, Std.ExtTreeMap.getD_insert,
    Function.update_apply, compare_eq_iff_eq, @eq_comm _ other]

lemma insert_of_takesOffset (formats) (takes : store.TakesOffset call txnId batch segId segment) :
    ∃ written : TableStore, written.wal = store.wal ∧ written.keyView call.table call.pk =
        store.leftBy call txnId segId .files ∧
      (Passes formats store call txnId batch segId segment .files → store.insert formats call =
        indexInsert formats call written ⟨txnId, batch, store.nextPosition segId⟩) ∧
      (¬ Passes formats store call txnId batch segId segment .files →
        ∃ error, store.insert formats call = (written, .error error)) := by
  obtain ⟨ctr, segments, cache, rfl, places⟩ := placeInsert_of_takesOffset takes
  obtain ⟨mem, ne⟩ := columnsToBatch_filled takes.accepted
  let placed := { store with txnCounter := ctr }.afterAllocation segId segments cache
  have writable := writeFiles_isOk_iff formats call.environment segId txnId
    placed mem ne (columnsToBatch_nodup takes.accepted)
  obtain ⟨newSegments, newCache, files, changes, -⟩ :=
    writeFiles_fst formats call.environment segId txnId placed ne
  rw [insert, places, andThen, insertPlaced_eq]
  rcases writes : writeFiles formats call.environment segId txnId placed batch
    with ⟨written, error | done⟩
  all_goals
    rw [writes] at writable changes
    have view : written.keyView call.table call.pk = store.leftBy call txnId segId .files :=
      (congrArg (keyView · call.table call.pk) changes).trans
        (@keyView_afterAllocation store segId newSegments newCache _ _)
    refine ⟨written, congrArg (fun after => after.wal) changes, view,
      fun passes => ?_, fun stops => ?_⟩
  · exact absurd (writable.mpr passes) Bool.false_ne_true
  · exact ⟨error, congrArg (andThen · _) writes⟩
  · exact congrArg (andThen · _) writes
  · exact absurd (writable.mp rfl) stops

section

variable (store : TableStore) (table : String) (pk : Bytes) (position : PositionResult)

lemma putPkIndexDouble_view :
    ∃ indexed, store.putPkIndexDouble pk position none = (indexed, .ok ()) ∧
      indexed.wal = store.wal ∧ indexed.keyView table pk =
        { store.keyView table pk with entry := some position } := by
  refine ⟨_, rfl, rfl, ?_⟩
  simp [keyView, getPkIndexByPk]

lemma incrementRowCount_view (delta : Int) :
    ∃ count, store.incrementRowCount table delta none = (count, .ok ()) ∧
      count.wal = store.wal ∧ count.keyView table pk = { store.keyView table pk with
          tableRows := atomicIncrement (store.keyView table pk).tableRows delta } := by
  refine ⟨_, rfl, rfl, ?_⟩
  simp [keyView, getPkIndexByPk]

lemma updateTableStats_view (delta : Int) (txnId) :
    ∃ noted, store.updateTableStats table delta txnId none none = (noted, .ok ()) ∧
      noted.wal = store.wal ∧ noted.keyView table pk = { store.keyView table pk with
          tableRows := atomicIncrement (store.keyView table pk).tableRows delta
          stats := some
            { (store.keyView table pk).stats.getD .default with
              lastUpdatedTxn := txnId } } := by
  refine ⟨_, rfl, rfl, ?_⟩
  simp [keyView, getPkIndexByPk, Std.ExtTreeMap.getD_eq_getD_getElem?]

lemma rollbackWithPlan_view (indexFault countFault) :
    (store.rollbackWithPlan table pk position indexFault countFault).keyView table pk =
      { store.keyView table pk with
        tableRows :=
          match countFault with
          | some _ => (store.keyView table pk).tableRows
          | none => atomicIncrement (store.keyView table pk).tableRows (-1) } := by
  cases indexFault <;> cases countFault <;>
    simp [keyView, rollbackWithPlan, incrementRowCount, getPkIndexByPk]

end

lemma indexInsert_logs (formats : InsertFormats Value)
    (call : InsertCall Value) (store : TableStore) (placed : PlacedInsert Value)
    (indexes : call.environment.indexFault = none) (counts : call.environment.countFault = none)
    (notes : call.environment.statsFault = none) : ∃ indexed : TableStore, indexed.wal = store.wal ∧
      indexed.keyView call.table call.pk = { store.keyView call.table call.pk with
          entry := some placed.position
          tableRows := atomicIncrement
            (store.keyView call.table call.pk).tableRows 1
          stats := some
            { (store.keyView call.table call.pk).stats.getD .default with
              lastUpdatedTxn := placed.txnId } } ∧
      indexInsert formats call store placed =
        andThen (logInsert formats indexed call placed.txnId placed.position
          (placed.batch ++ visibilityColumns formats placed.batch placed.txnId
            notDeleted)) fun logged _ =>
          (captureInsert formats logged call placed.txnId placed.position
            placed.batch, .ok placed.txnId) := by
  obtain ⟨indexed, put, sameWal, view⟩ :=
    putPkIndexDouble_view store call.table call.pk placed.position
  obtain ⟨noted, stats, stillWal, statsView⟩ :=
    updateTableStats_view indexed call.table call.pk 1 placed.txnId
  refine ⟨noted, stillWal.trans sameWal, by rw [statsView, view], ?_⟩
  rw [indexInsert, indexes, counts, notes, put, andThen, stats, andThen]

lemma insert_of_failsAt (takes : store.TakesOffset call txnId batch segId segment)
    (fails : FailsAt formats store call txnId batch segId segment step) :
    ∃ after error, store.insert formats call = (after, .error error) ∧
      after.keyView call.table call.pk = store.leftBy call txnId segId step := by
  obtain ⟨reached, stopped⟩ := fails
  obtain ⟨written, wal, view, goesOn, stops⟩ := insert_of_takesOffset formats takes
  cases step with
  | files =>
    obtain ⟨error, failed⟩ := stops stopped
    exact ⟨written, error, failed, view⟩
  | index =>
    obtain ⟨error, fault⟩ := Option.ne_none_iff_exists'.mp stopped
    rw [goesOn (reached .files (by decide)), indexInsert, fault]
    exact ⟨written, error, rfl, view⟩
  | rowCount =>
    obtain ⟨error, fault⟩ := Option.ne_none_iff_exists'.mp stopped
    have indexes : call.environment.indexFault = none := reached .index (by decide)
    obtain ⟨indexed, put, -, indexedView⟩ := putPkIndexDouble_view written
      call.table call.pk (store.nextPosition segId)
    rw [goesOn (reached .files (by decide)), indexInsert, indexes, fault, put]
    exact ⟨indexed, error, rfl, by rw [indexedView, view]; rfl⟩
  | stats =>
    obtain ⟨error, fault⟩ := Option.ne_none_iff_exists'.mp stopped
    have indexes : call.environment.indexFault = none := reached .index (by decide)
    have counts : call.environment.countFault = none := reached .rowCount (by decide)
    obtain ⟨indexed, put, -, indexedView⟩ := putPkIndexDouble_view written
      call.table call.pk (store.nextPosition segId)
    obtain ⟨count, increments, -, countedView⟩ :=
      incrementRowCount_view indexed call.table call.pk 1
    rw [goesOn (reached .files (by decide)), indexInsert, indexes, counts,
      fault, put, andThen, updateTableStats, increments]
    exact ⟨count, error, rfl, by rw [countedView, indexedView, view]; rfl⟩
  | record =>
    obtain ⟨indexed, -, indexedView, logs⟩ := indexInsert_logs formats call
      written ⟨txnId, batch, store.nextPosition segId⟩
      (reached .index (by decide)) (reached .rowCount (by decide))
      (reached .stats (by decide))
    rw [goesOn (reached .files (by decide)), logs, logInsert]
    rw [view] at indexedView
    split
    · exact ⟨indexed, _, rfl, indexedView⟩
    · next walBatch encoded =>
        have short : call.pk.length ≠ 8 := fun eight => stopped ⟨by rw [encoded]; rfl, eight⟩
        rw [if_pos short]
        exact ⟨indexed, _, rfl, indexedView⟩
  | log =>
    obtain ⟨indexed, sameWal, indexedView, logs⟩ := indexInsert_logs formats
      call written ⟨txnId, batch, store.nextPosition segId⟩
      (reached .index (by decide)) (reached .rowCount (by decide))
      (reached .stats (by decide))
    obtain ⟨encodes, eight⟩ := reached .record (by decide)
    obtain ⟨walBatch, encoded⟩ := exists_of_isOk encodes
    rw [goesOn (reached .files (by decide)), logs, logInsert, encoded]
    dsimp only
    rw [if_neg (not_not.mpr eight)]
    have refuses : ¬ indexed.wal.Accepts call.environment.walOutcome := by rwa [sameWal, wal]
    obtain ⟨rest, error, refused⟩ := Database.logOperation_of_not_accepts refuses
    rw [refused]
    refine ⟨_, error, rfl, ?_⟩
    have unlogged : ∀ wal, { indexed with wal := wal }.keyView call.table
        call.pk = indexed.keyView call.table call.pk := fun _ => rfl
    rw [rollbackWithPlan_view, unlogged, indexedView, view]
    simp only [leftBy, rowsLeftBy]

lemma insert_of_passes (takes : store.TakesOffset call txnId batch segId segment)
    (passes : ∀ step, Passes formats store call txnId batch segId segment step) :
    ∃ after, store.insert formats call = (after, .ok txnId) := by
  obtain ⟨written, wal, -, goesOn, -⟩ := insert_of_takesOffset formats takes
  obtain ⟨indexed, sameWal, -, logs⟩ := indexInsert_logs formats call written
    ⟨txnId, batch, store.nextPosition segId⟩ (passes .index)
    (passes .rowCount) (passes .stats)
  obtain ⟨encodes, eight⟩ := passes .record
  obtain ⟨walBatch, encoded⟩ := exists_of_isOk encodes
  have accepts : indexed.wal.Accepts call.environment.walOutcome := by
    rw [sameWal, wal]
    exact passes .log
  rw [goesOn (passes .files), logs, logInsert, encoded]
  dsimp only
  rw [if_neg (not_not.mpr eight)]
  split
  · next refused =>
      exact absurd accepts (Database.not_accepts_of_logOperation OpType.noConfusion refused)
  · exact ⟨_, rfl⟩

lemma exists_failsAt (stops : ¬ ∀ step, Passes formats store call txnId batch segId segment
      step) : ∃ step, FailsAt formats store call txnId batch segId segment step := by
  by_contra nowhere
  have proceeds (step : InsertStep) (reached : ∀ old ∈ step.earlier,
      Passes formats store call txnId batch segId segment old) :
      Passes formats store call txnId batch segId segment step :=
    not_not.mp fun stopped => nowhere ⟨step, reached, stopped⟩
  have files := proceeds .files (by simp)
  have index := proceeds .index (by simp [files])
  have rowCount := proceeds .rowCount (by simp [files, index])
  have stats := proceeds .stats (by simp [files, index, rowCount])
  have record := proceeds .record (by simp [files, index, rowCount, stats])
  have log := proceeds .log (by simp [files, index, rowCount, stats, record])
  exact stops fun step => by cases step <;> assumption

/-- A failed insert leaves the lookups of its key, the row counters and the
statistics of its table as they were, exactly when it failed before it took an
offset, or the counter of the segment is at its bound and all it wrote was
there already. -/
theorem insert_failed_unnoticed_iff (formats : InsertFormats Value) (store : TableStore)
    (call : InsertCall Value) : (∀ after error, store.insert formats call = (after, .error error) →
      after.keyView call.table call.pk = store.keyView call.table call.pk) ↔
    ∀ txnId batch segId segment step, store.TakesOffset call txnId batch segId segment →
      FailsAt formats store call txnId batch segId segment step →
        store.segRowCounts.getD segId 0 = 2 ^ 63 - 1 ∧
          store.AlreadyThere call txnId segId step := by
  constructor
  · intro unnoticed txnId batch segId segment step takes fails
    obtain ⟨after, error, failed, view⟩ := insert_of_failsAt takes fails
    exact (leftBy_eq_iff store call txnId segId step).mp
      (view.symm.trans (unnoticed after error failed))
  · intro already after error failed
    by_cases takes : ∃ txnId batch segId segment, store.TakesOffset call txnId batch segId segment
    · obtain ⟨txnId, batch, segId, segment, takes⟩ := takes
      by_cases passes : ∀ step, Passes formats store call txnId batch segId segment step
      · obtain ⟨done, ran⟩ := insert_of_passes takes passes
        rw [failed] at ran
        cases ran
      · obtain ⟨step, fails⟩ := exists_failsAt passes
        obtain ⟨left, reason, alsoFailed, view⟩ := insert_of_failsAt takes fails
        cases failed.symm.trans alsoFailed
        exact view.trans ((leftBy_eq_iff store call txnId segId step).mpr
          (already txnId batch segId segment step takes fails))
    · obtain ⟨counter, segments, cache, reason, refused⟩ :=
        placeInsert_of_refused fun txnId batch segId segment taken =>
          takes ⟨txnId, batch, segId, segment, taken⟩
      rw [insert, refused] at failed
      cases failed
      rfl

def unloggedInsert (key value : UInt8) : InsertCall UInt8 :=
  { byteInsert key value with
    environment :=
      { InsertEnvironment.undisturbed "seg_1" 0 with
        walOutcome := .appendFailed "disk full" } }

/-- The key had a row.  The insert of another row under it fails, and from then
on the key is found at the offset of the row that failed. -/
theorem former_entry_not_restored : (storeAfterOne.insert byteFormats (unloggedInsert 1 9)).2 =
      .error (.write "WAL append: disk full") ∧
    storeAfterOne.getPkIndexByPk (List.replicate 8 1) =
      some ⟨"seg_1", 0, 0⟩ ∧
    (storeAfterOne.insert byteFormats (unloggedInsert 1 9)).1.getPkIndexByPk (List.replicate 8 1) =
      some ⟨"seg_1", 0, 1⟩ ∧
    storeAfterOne.segRowCounts.getD "seg_1" 0 = 1 ∧
    (storeAfterOne.insert byteFormats
      (unloggedInsert 1 9)).1.segRowCounts.getD "seg_1" 0 = 2 ∧
    ¬ ∀ after error, storeAfterOne.insert byteFormats (unloggedInsert 1 9) = (after, .error error) →
        after.keyView "t" (List.replicate 8 1) =
          storeAfterOne.keyView "t" (List.replicate 8 1) := by
  have failed : (storeAfterOne.insert byteFormats (unloggedInsert 1 9)).2 =
      .error (.write "WAL append: disk full") := by decide +kernel
  have before : storeAfterOne.getPkIndexByPk (List.replicate 8 1) =
      some ⟨"seg_1", 0, 0⟩ := by decide +kernel
  have left : (storeAfterOne.insert byteFormats
      (unloggedInsert 1 9)).1.getPkIndexByPk (List.replicate 8 1) =
      some ⟨"seg_1", 0, 1⟩ := by decide +kernel
  refine ⟨failed, before, left, by decide +kernel, by decide +kernel,
    fun unnoticed => ?_⟩
  have same := congrArg KeyView.entry (unnoticed _ _ (Prod.ext rfl failed))
  have offset := before.symm.trans (same.symm.trans left)
  revert offset
  decide

end Effects

end TableStore

end RockDuck
