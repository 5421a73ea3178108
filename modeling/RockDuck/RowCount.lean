import RockDuck.ScanIterator
import RockDuck.WritePathEffects

/-!
# Counting the rows of a table

The count of a table adds up the numbers of live rows that the descriptions of
its segments carry.
-/

namespace RockDuck

open List Std RoutedSegment

/-- A call of the write path, or the begin or commit of a transaction. -/
inductive StoreEvent (Value : Type*) where
  | beginTxn (fault : Fault)
  | call (call : TableCall Value)
  | commitTxn (txnId : TxnId) (environment : DatabaseCommitEnvironment)

namespace TableStore

variable {Value : Type*}

/-- The count that the metadata gives. -/
def count (store : TableStore) (table : String) (listFault : Fault) : Except RockDuckError Nat :=
  match listFault with
  | some error => .error error
  | none =>
    .ok ((store.segments.toList.filter fun entry =>
      decide (entry.2.tableId = table) &&
        decide (entry.2.status ≠ .garbage)).map fun entry => entry.2.aliveRowCount).sum

/-- What an event does to the store. -/
def handle (formats : RowFormats Value) (store : TableStore) : StoreEvent Value → TableStore
  | .beginTxn fault => { store with toDatabase := (store.toDatabase.beginTxn fault).1 }
  | .call call => (store.perform formats call).1
  | .commitTxn txnId environment =>
    { store with
      toDatabase := (store.toDatabase.commitTxn txnId environment).1 }

def storeAfter (formats : RowFormats Value) (db : Database)
    (events : List (StoreEvent Value)) : TableStore :=
  events.foldl (handle formats) (.new db)

/-- The descriptions as the write path keeps them: each under its own id,
active, without a live row counted, and one for a table at most. -/
structure Undercounted (segments : Std.ExtTreeMap String SegmentMeta) :
    Prop where
  own : ∀ {segId : String} {segment : SegmentMeta},
    segments[segId]? = some segment →
    segment.segId = segId
  active : ∀ {segId : String} {segment : SegmentMeta},
    segments[segId]? = some segment →
    segment.status = .active
  zero : ∀ {segId : String} {segment : SegmentMeta},
    segments[segId]? = some segment →
    segment.aliveRowCount = 0
  unique : ∀ {first second : String} {segment other : SegmentMeta},
    segments[first]? = some segment → segments[second]? = some other →
      segment.tableId = other.tableId → first = second

/-- A description may be rewritten, or one added for a table that has none. -/
lemma Undercounted.insert {segments} (undercounted : Undercounted segments) {seg : SegmentMeta}
    (active : seg.status = .active) (zero : seg.aliveRowCount = 0) (only : ∀ {segId other},
      segments[segId]? = some other → other.tableId = seg.tableId → segId = seg.segId) :
    Undercounted (segments.insert seg.segId seg) := by
  have found : ∀ {segId : String} {other : SegmentMeta},
      (segments.insert seg.segId seg)[segId]? = some other →
        segId = seg.segId ∧ other = seg ∨
          segId ≠ seg.segId ∧ segments[segId]? = some other := by
    intro segId other entry
    rw [ExtTreeMap.getElem?_insert] at entry
    split_ifs at entry with same
    · exact Or.inl ⟨(LawfulEqCmp.eq_of_compare same).symm, (Option.some.inj entry).symm⟩
    · refine Or.inr ⟨?_, entry⟩
      rintro rfl
      simp at same
  refine ⟨?_, ?_, ?_, ?_⟩
  · intro segId other entry
    rcases found entry with ⟨rfl, rfl⟩ | ⟨-, stored⟩
    · rfl
    · exact undercounted.own stored
  · intro segId other entry
    rcases found entry with ⟨-, rfl⟩ | ⟨-, stored⟩
    · exact active
    · exact undercounted.active stored
  · intro segId other entry
    rcases found entry with ⟨-, rfl⟩ | ⟨-, stored⟩
    · exact zero
    · exact undercounted.zero stored
  · intro first second one two atFirst atSecond same
    rcases found atFirst with ⟨rfl, rfl⟩ | ⟨notFirst, storedFirst⟩ <;>
      rcases found atSecond with ⟨rfl, rfl⟩ | ⟨notSecond, storedSecond⟩
    · rfl
    · exact (only storedSecond same.symm).symm
    · exact only storedFirst same
    · exact undercounted.unique storedFirst storedSecond same

variable {store : TableStore}

lemma undercounted_allocatePosition (undercounted : Undercounted store.segments)
    (table newSegId listFault createFault counterFault) :
    Undercounted (store.allocatePosition table newSegId listFault createFault
      counterFault).1.segments := by
  refine andThen_fst_keeps (fun state : TableStore => Undercounted state.segments) ?_ ?_
  · unfold getOrCreateActiveSegment findActiveSegmentForTable
    cases store.segMetaCache.activeSegment table with
    | some segId => exact undercounted
    | none =>
      cases listFault with
      | some error => exact undercounted
      | none =>
        cases mem : store.segments.toList.find? (fun entry =>
            decide (entry.2.tableId = table) &&
              decide (entry.2.status = .active)) with
        | some entry => exact undercounted
        | none =>
          cases createFault with
          | some error => exact undercounted
          | none =>
            -- Nothing active is found, so the table has no segment.
            refine undercounted.insert rfl rfl fun stored same => ?_
            have member := ExtTreeMap.mem_toList_iff_getElem?_eq_some.mpr stored
            have missed := find?_eq_none.mp mem _ member
            simp [same, SegmentMeta.new, undercounted.active stored] at missed
  · intro state segId kept
    cases counterFault <;> exact kept

lemma undercounted_ensureSegmentColumns (undercounted : Undercounted store.segments)
    (segId names readFault writeFault) :
    Undercounted (store.ensureSegmentColumns segId names readFault writeFault).1.segments := by
  unfold ensureSegmentColumns
  cases readFault with
  | some error => exact undercounted
  | none =>
    cases described : store.segments[segId]? with
    | none => exact undercounted
    | some seg =>
      simp only
      split_ifs
      · cases writeFault with
        | some error => exact undercounted
        | none =>
          have active := undercounted.active described
          have zero := undercounted.zero described
          refine undercounted.insert active zero fun stored same => ?_
          rw [undercounted.unique stored described same]
          exact (undercounted.own described).symm
      · exact undercounted

section Calls

variable {fmt : RowFormats Value} {store : TableStore}

/-- No live row is counted in the store. -/
def Undercounts (store : TableStore) : Prop :=
  Undercounted store.segments

lemma Undercounts.of_segments {after : TableStore} (undercounts : store.Undercounts)
    (same : after.segments = store.segments) : after.Undercounts := by
  rw [Undercounts, same]
  exact undercounts

/-- A step that leaves the descriptions alone, and what follows it. -/
lemma Undercounts.andThen {Given Result : Type*} {attempt : TableStore × Except RockDuckError Given}
    {rest : TableStore → Given → TableStore × Except RockDuckError Result}
    (undercounts : store.Undercounts) (same : ∀ {after res}, attempt = (after, res) →
      after.segments = store.segments)
    (keeps : ∀ state given, state.Undercounts → (rest state given).1.Undercounts) :
    (RockDuck.andThen attempt rest).1.Undercounts :=
  andThen_fst_keeps Undercounts (undercounts.of_segments (same rfl)) keeps

section

variable (undercounts : store.Undercounts)
include undercounts

/-- The row of a batch is written and described. -/
lemma undercounts_insert (call) : (store.insert fmt.toInsertFormats call).1.Undercounts := by
  refine andThen_fst_keeps Undercounts ?_ fun state placed kept => ?_
  · refine undercounts.andThen (fun taken => by
      obtain ⟨_, rfl⟩ := insertTxnId_changes taken
      rfl) ?_
    intro state txnId kept
    simp only
    cases columnsToBatch call.columns call.environment.columnOrder with
    | error error => exact kept
    | ok batch =>
      refine andThen_fst_keeps Undercounts
        (undercounted_allocatePosition ?_ _ _ _ _ _) fun _ _ kept => kept
      exact kept
  · refine andThen_fst_keeps Undercounts
      (undercounted_ensureSegmentColumns kept _ _ _ _) fun state _ kept => ?_
    refine kept.andThen (fun taken => by
      obtain ⟨_, rfl⟩ := writeColumns_changes taken
      rfl) fun state _ kept => ?_
    refine kept.andThen (fun taken => (appendVisBatch_changes taken).segments) fun state _ kept => ?_
    refine kept.andThen (fun taken => by
      obtain ⟨_, _, rfl⟩ := putPkIndexDouble_changes taken
      rfl) fun state _ kept => ?_
    refine kept.andThen (fun taken => by
      obtain ⟨_, _, rfl⟩ := updateTableStats_changes taken
      rfl) fun state _ kept => ?_
    exact kept.andThen (fun taken => by
      obtain ⟨_, _, _, rfl⟩ := logInsert_changes taken
      rfl) fun _ _ kept => kept

lemma undercounts_delete (call) : (store.delete fmt call).1.Undercounts := by
  refine undercounts.andThen (fun taken => by
    obtain ⟨_, rfl⟩ := insertTxnId_changes taken
    rfl) fun state txnId kept => ?_
  cases state.lookupRow fmt call.environment call.pk with
  | error error => exact kept
  | ok found =>
    refine kept.andThen (fun taken => by
      obtain ⟨_, _, rfl⟩ := updateTableStats_changes taken
      rfl) fun state _ kept => ?_
    refine kept.andThen (fun taken => by
      obtain ⟨_, rfl⟩ := logRowChange_changes taken
      rfl) fun state _ kept => ?_
    refine kept.andThen (fun taken => by
      obtain ⟨_, _, rfl⟩ := deletePkIndexDouble_changes taken
      rfl) fun state _ kept => ?_
    exact kept.of_segments (markDeleted_changes (Prod.eta _).symm).segments

lemma undercounts_update (call) : (store.update fmt call).1.Undercounts := by
  refine undercounts.andThen (fun taken => by
    obtain ⟨_, rfl⟩ := insertTxnId_changes taken
    rfl) fun state txnId kept => ?_
  cases state.lookupRow fmt call.environment call.pk with
  | error error => exact kept
  | ok found =>
    refine kept.andThen (fun taken => (markDeleted_changes taken).segments) fun state _ kept => ?_
    refine andThen_fst_keeps Undercounts
      (undercounted_allocatePosition ?_ _ _ _ _ _) fun state new kept => ?_
    · exact kept
    cases columnsToBatch call.columns call.environment.columnOrder with
    | error error => exact kept
    | ok batch =>
      refine andThen_fst_keeps Undercounts (undercounted_ensureSegmentColumns kept _ _ _ _)
        fun state _ kept => ?_
      refine kept.andThen (fun taken => by
        obtain ⟨_, rfl⟩ := writeColumns_changes taken
        rfl) fun state _ kept => ?_
      refine kept.andThen (fun taken => (appendVisBatch_changes taken).segments) fun state _ kept => ?_
      refine kept.andThen (fun taken => by
        obtain ⟨_, rfl⟩ := logUpdate_changes taken
        rfl) fun state _ kept => ?_
      refine kept.andThen (fun taken => by
        obtain ⟨_, _, rfl⟩ := deletePkIndexDouble_changes taken
        rfl) fun state _ kept => ?_
      exact kept.andThen (fun taken => by
        obtain ⟨_, _, rfl⟩ := putPkIndexDouble_changes taken
        rfl) fun _ _ kept => kept

lemma undercounts_handle (event) : (store.handle fmt event).Undercounts := by
  cases event with
  | beginTxn fault | commitTxn txnId env => exact undercounts
  | call call =>
    cases call with
    | insert call =>
      exact andThen_fst_keeps Undercounts (undercounts_insert undercounts call)
        fun _ _ kept => kept
    | update call =>
      exact andThen_fst_keeps Undercounts (undercounts_update undercounts call)
        fun _ _ kept => kept
    | delete call => exact undercounts_delete undercounts call

end

end Calls

/-- No sequence of inserts, updates, deletes and commits counts a live row. -/
lemma undercounts_storeAfter (fmt : RowFormats Value) (db : Database)
    (events : List (StoreEvent Value)) : (storeAfter fmt db events).Undercounts := by
  induction events using List.reverseRecOn with
  | nil =>
    have none : ∀ {segId : String} {segment : SegmentMeta},
        ¬ (TableStore.new db).segments[segId]? = some segment := by
      simp [TableStore.new]
    exact ⟨fun found => absurd found none, fun found => absurd found none,
      fun found => absurd found none, fun found => absurd found none⟩
  | append_singleton events event ih =>
    rw [storeAfter, foldl_append]
    exact undercounts_handle ih event

lemma Undercounts.count (undercounts : store.Undercounts) (table) :
    store.count table none = .ok 0 := by
  have zero : ∀ entry ∈ store.segments.toList, entry.2.aliveRowCount = 0 := by
    intro entry member
    exact undercounts.zero (ExtTreeMap.mem_toList_iff_getElem?_eq_some.mp member)
  simp only [TableStore.count, Except.ok.injEq]
  refine sum_eq_zero fun count member => ?_
  obtain ⟨entry, mem, rfl⟩ := mem_map.mp member
  exact zero entry (mem_filter.mp mem).1

end TableStore

def VisBatch.oneColumn (values : List Nat) : VisBatch where
  numRows := values.length
  columns := [("value", .int64 values)]
  aligned := by simp [VisColumn.length]

/-- What a scan reads the files of a store with, and what it finds besides
them. -/
structure StoreScanner (Value : Type*) where
  slot : Value → Slot
  txnNumber : Value → Nat
  visPathText : String → String
  readDeltavis : Bytes → Except RockDuckError (List (Nat × TxnId))
  declaredType : String → String → ColumnType
  storedType : String → String → ColumnType
  zoneMapFile : String → String → ZoneMapFile
  codecs : DeltaCodecs
  kernels : CellKernels
  parse : String → Except String ParsedExpr
  router : Option ScanRouter
  cooperativeRuntimeBudget : CooperativeRuntimeBudget

namespace TableStore

variable {Value : Type*} (scanner : StoreScanner Value) (codec : VortexCodec Value)
    (store : TableStore)

/-- The files of a segment as a scan reads them. -/
def segmentImage (segId : String) : SegmentImage Slot where
  columnBatches column := (store.file segId (colPath column)).map fun bytes =>
    (codec.decode bytes).map fun rows => [rows.map scanner.slot]
  vis := (store.file segId visPath).map fun bytes =>
    (codec.decode bytes).map fun rows => [.oneColumn (rows.map scanner.txnNumber)]
  visPathText := scanner.visPathText segId
  deltavis := (store.file segId deltavisPath).map scanner.readDeltavis

def tableSegment (entry : String × SegmentMeta) : TableSegment where
  segId := entry.1
  columns := entry.2.columns.map fun column => (column, scanner.declaredType entry.1 column)
  image := store.segmentImage scanner codec entry.1
  storedType := scanner.storedType entry.1
  zoneMapFile := scanner.zoneMapFile entry.1
  tableId := entry.2.tableId
  status := entry.2.status

def listing : SegmentListing where
  metas := store.segments.toList.map (store.tableSegment scanner codec)
  distinct := by
    rw [List.map_map]
    exact (Std.ExtTreeMap.map_fst_toList_eq_keys (t := store.segments)).symm ▸
      Std.ExtTreeMap.nodup_keys

/-- The store as a scan sees it. -/
def scanDatabase : ScanDatabase where
  mvcc := store.mvcc
  cachedSnapshot := none
  storedMetas := store.listing scanner codec
  listSegmentMetas := .ok (store.listing scanner codec)
  lists_stored := by simp
  tableStats := none
  deltaLayer := ⟨.empty, ⟨fun _ _ => .ok [], []⟩, ⟨fun _ _ => .ok [], []⟩, []⟩
  codecs := scanner.codecs
  kernels := scanner.kernels
  parse := scanner.parse
  router := scanner.router
  cooperativeRuntimeBudget := scanner.cooperativeRuntimeBudget

end TableStore

def rowTotal (batches : List ReadBatch) : Nat :=
  (batches.map fun batch => batch.rows.length).sum

/-- There are no column files, or all their rows are in the delete log. -/
def RoutedSegment.RowsLogged (segment : RoutedSegment) : Prop :=
  segment.hasVortexLayout = false ∨
    ∃ base visBatches deletedRows, segment.readVortexSegment = .ok base ∧
      segment.image.readVisibilityBatches = .ok visBatches ∧
      segment.image.readDeletedRows = .ok deletedRows ∧
      ∀ row < (base.map TableBatch.numRows).sum, row ∈ deletedRows

lemma decideRow_oneColumn_iff (single : ∀ batch ∈ vis, ∃ col, batch.columns = [col]) :
    decideRow visFilter snap vis deletedRows row = .ok false ↔ row ∈ deletedRows := by
  unfold decideRow
  by_cases logged : row ∈ deletedRows
  · simp [logged]
  · cases found : locate VisBatch.numRows vis row with
    | none => simp [logged]
    | some place =>
      obtain ⟨batch, idx⟩ := place
      obtain ⟨col, cols⟩ := single batch (locate_lt found).1
      simp [logged, isRowVisibleInVisBatch, cols]

lemma rowTotal_eq_zero_iff : rowTotal batches = 0 ↔ ∀ segId, rowsFrom segId batches = [] := by
  simp only [rowTotal, rowsFrom, sum_eq_zero_iff, mem_map, forall_exists_index, and_imp,
    forall_apply_eq_imp_iff₂, length_eq_zero_iff, flatMap_eq_nil_iff, mem_filter, decide_eq_true_eq]
  constructor
  · intro none segId batch mem _
    exact none batch mem
  · intro none batch mem
    exact none batch.segId batch mem rfl

namespace RoutedSegment

variable {seg : RoutedSegment} {filter : RowFilter}

lemma matchingRows_unfiltered (unfiltered : filter.parsedExpr = none)
    (template) : seg.matchingRows ctx filter template =
      (seg.executeSegment ctx template).map List.flatten := by
  unfold matchingRows matchingBatches readSegment
  cases seg.executeSegment ctx template with
  | error err => rfl
  | ok parts =>
    have kept (batches : List ReadBatch) :
        (batches.mapM fun batch => orFail (filter.apply batch)) =
          .ok batches := by
      rw [mapM_eq_ok_iff, forall₂_same]
      intro batch _
      simp [RowFilter.apply, unfiltered]
    simp only [Except.map, bind, Except.bind, kept]
    rw [flatMap_map, flatMap_id']

end RoutedSegment

lemma SegmentImage.readColumns_single {Value} {image : SegmentImage Value} (single : ∀ col batches,
      image.columnBatches col = some (.ok batches) → batches.length = 1) {names read}
    (reads : image.readColumns names = .ok read) : (∀ col ∈ read, col.2.length = 1) ∧
      ∀ name ∈ names, (image.columnBatches name).isSome = true → read ≠ [] := by
  induction names generalizing read with
  | nil =>
    cases reads
    simp
  | cons name names ih =>
    rw [readColumns] at reads
    cases found : image.columnBatches name with
    | none =>
      simp only [found] at reads
      obtain ⟨lengths, ne⟩ := ih reads
      refine ⟨lengths, fun other mem present => ?_⟩
      rcases mem_cons.mp mem with rfl | later
      · simp [found] at present
      · exact ne other later present
    | some attempt =>
      cases attempt with
      | error error => simp [found] at reads
      | ok batches =>
        have one := single name batches found
        have notEmpty : batches.isEmpty = false := by cases batches <;> simp at one ⊢
        simp only [found, notEmpty, Bool.false_eq_true, if_false] at reads
        cases rest : image.readColumns names with
        | error error => simp [rest, Except.map] at reads
        | ok others =>
          simp only [rest, Except.map, Except.ok.injEq] at reads
          subst reads
          refine ⟨fun col mem => ?_, by simp⟩
          rcases mem_cons.mp mem with rfl | later
          · exact one
          · exact (ih rest).1 col later

namespace RoutedSegment

variable {seg : RoutedSegment} {context : RouteContext}

lemma foldl_min_length {cols : List (String × List (List Slot))}
    (lengths : ∀ col ∈ cols, col.2.length = 1) :
    cols.foldl (fun count col => min count col.2.length) 1 = 1 := by
  induction cols with
  | nil => rfl
  | cons col cols ih =>
    rw [foldl_cons, lengths col mem_cons_self]
    exact ih fun other mem => lengths other (mem_cons_of_mem _ mem)

lemma readVortexSegment_ne_nil (single : ∀ col batches,
      seg.image.columnBatches col = some (.ok batches) → batches.length = 1)
    (layout : seg.hasVortexLayout = true) : seg.readVortexSegment ≠ .ok [] := by
  unfold readVortexSegment
  cases reads : seg.image.readColumns (seg.columns.map Prod.fst) with
  | error error => simp
  | ok read =>
    obtain ⟨lengths, ne⟩ := SegmentImage.readColumns_single single reads
    obtain ⟨col, mem, present⟩ := any_eq_true.mp layout
    have some := ne col.1 (mem_map_of_mem mem) present
    cases read with
    | nil => exact absurd rfl some
    | cons first rest =>
      have count : rest.foldl (fun count col =>
          min count col.2.length) first.2.length = 1 := by
        rw [lengths first mem_cons_self]
        exact foldl_min_length fun col mem => lengths col (mem_cons_of_mem _ mem)
      simp only [count]
      cases built : (List.range 1).mapM (seg.buildBatch (first :: rest)) with
      | error error => simp
      | ok batches =>
        have notEmpty : batches ≠ [] := by
          rintro rfl
          have := (mapM_eq_ok_iff.mp built).length_eq
          simp at this
        simp [notEmpty]

/-- When no delta is visible, a merged segment shows nothing exactly when every
row is logged as deleted. -/
lemma executeSegment_nothing_iff
    (kept : seg.shouldSkip context = some false)
    (undelayed : context.stack.query seg.segId context.snapshot = .ok [])
    (single : ∀ col batches,
      seg.image.columnBatches col = some (.ok batches) → batches.length = 1)
    (oneColumn : ∀ visBatches, seg.image.readVisibilityBatches = .ok visBatches →
      ∀ batch ∈ visBatches, ∃ col, batch.columns = [col]) :
    (seg.executeSegment context .cooperativeMerge).map List.flatten = .ok [] ↔
      seg.RowsLogged := by
  cases layout : seg.hasVortexLayout with
  | false =>
    have nothing : seg.executeCooperativeMergeSegment context = .ok [] := by
      rw [executeCooperativeMergeSegment, kept, readVortexSegment_eq_nil layout]
    simp [executeSegment, nothing, Except.map, RowsLogged, layout]
  | true =>
    rw [executeSegment, executeCooperativeMergeSegment_eq_vortexOnly undelayed
      (readVortexSegment_ne_nil single layout),
      executeVortexOnlySegment_eq_nothing_iff kept, RowsLogged, layout]
    simp only [Bool.true_eq_false, false_or]
    refine exists_congr fun base => exists_congr fun visBatches =>
      exists_congr fun deletedRows => and_congr_right fun _ =>
        and_congr_right fun vis => and_congr_right fun _ => ?_
    simp only [decideRow_oneColumn_iff (oneColumn visBatches vis)]

end RoutedSegment

namespace TableStore

variable {Value : Type*} {store : TableStore}

lemma mem_ofTable_listing {table segment} :
    segment ∈ (store.listing scanner codec).ofTable table ↔ ∃ entry ∈ store.segments.toList,
        entry.2.tableId = table ∧ entry.2.status ≠ .garbage ∧
          (store.tableSegment scanner codec entry).toRoutedSegment = segment := by
  simp only [SegmentListing.ofTable, listing, mem_map, mem_filter, decide_eq_true_eq]
  constructor
  · rintro ⟨_, ⟨⟨⟨entry, mem, rfl⟩, ofTable⟩, alive⟩, rfl⟩
    exact ⟨entry, mem, ofTable, alive, rfl⟩
  · rintro ⟨entry, mem, ofTable, alive, rfl⟩
    exact ⟨_, ⟨⟨⟨entry, mem, rfl⟩, ofTable⟩, alive⟩, rfl⟩

variable (entry : String × SegmentMeta)

lemma columnBatches_single (col batches)
    (read : (store.tableSegment scanner codec entry).image.columnBatches col = some (.ok
      batches)) : batches.length = 1 := by
  obtain ⟨bytes, -, decoded⟩ := Option.map_eq_some_iff.mp read
  cases rows : codec.decode bytes with
  | error error => simp [rows, Except.map] at decoded
  | ok vals =>
    simp only [rows, Except.map, Except.ok.injEq] at decoded
    rw [← decoded]
    rfl

lemma visBatches_oneColumn (vis)
    (read : (store.tableSegment scanner codec entry).image.readVisibilityBatches = .ok vis) :
    ∀ batch ∈ vis, ∃ col, batch.columns = [col] := by
  unfold SegmentImage.readVisibilityBatches tableSegment segmentImage at read
  dsimp only at read
  cases file : store.file entry.1 visPath with
  | none =>
    simp only [file, Option.map_none, Except.ok.injEq] at read
    simp [← read]
  | some bytes =>
    cases rows : codec.decode bytes with
    | error error => simp [file, rows, Except.map] at read
    | ok vals =>
      simp only [file, rows, Option.map_some, Except.map, Except.ok.injEq] at read
      simp [← read, VisBatch.oneColumn]

lemma Undercounts.length_ofTable_le (undercounts : store.Undercounts) (table) :
    ((store.listing scanner codec).ofTable table).length ≤ 1 := by
  have distinct := (store.listing scanner codec).nodup_ofTable table
  have same : ∀ seg ∈ (store.listing scanner codec).ofTable table,
      ∀ other ∈ (store.listing scanner codec).ofTable table,
        seg.segId = other.segId := by
    intro seg mem other amongOther
    obtain ⟨entry, listed, ofTable, -, rfl⟩ := mem_ofTable_listing.mp mem
    obtain ⟨entry', listed', ofTable', -, rfl⟩ := mem_ofTable_listing.mp amongOther
    exact undercounts.unique (ExtTreeMap.mem_toList_iff_getElem?_eq_some.mp listed)
      (ExtTreeMap.mem_toList_iff_getElem?_eq_some.mp listed')
      (ofTable.trans ofTable'.symm)
  cases shown : (store.listing scanner codec).ofTable table with
  | nil => simp
  | cons first rest =>
    cases rest with
    | nil => simp
    | cons second rest =>
      rw [shown] at distinct same
      have := same first (by simp) second (by simp)
      simp [this] at distinct

end TableStore

variable {plan : ReadExecutionPlan} {environment : ScanEnvironment}

lemma ScanDatabase.reaches_iff_mem {db : ScanDatabase} (short : plan.executionSegments.length ≤ 1)
    {seg} : db.Reaches environment plan seg ↔ seg ∈ plan.executionSegments := by
  refine ⟨Reaches.mem, fun mem => ?_⟩
  obtain ⟨idx, found⟩ := mem_iff_getElem?.mp mem
  refine ⟨idx, found, ?_⟩
  rintro ⟨budget, -, slice, passed, -⟩
  have inside := (List.getElem?_eq_some_iff.mp found).1
  have pos : 1 ≤ budget.maxSegments := le_max_right _ _
  have : 1 * 1 ≤ (slice + 1) * budget.maxSegments := Nat.mul_le_mul (by omega) pos
  omega

lemma ScanDatabase.exists_rowTotal_zero_iff {db : ScanDatabase} {table filter snap listing}
    (planned : db.prepareReadExecutionPlan environment table filter snap = .ok plan)
    (listed : db.listSegmentMetas = .ok listing) (shadow : db.ShadowReads plan) :
    (∃ batches, (db.executeReadPlan environment plan).2 = .ok batches ∧ rowTotal batches = 0) ↔
      ∀ seg, db.Reaches environment plan seg →
        seg.matchingRows plan.context plan.filter plan.template = .ok [] := by
  have within := sublist_executionSegments planned listed
  constructor
  · rintro ⟨batches, returns, none⟩ seg reached
    rw [(rowsFrom_result planned listed returns
      (within.subset reached.mem)).1 reached, rowTotal_eq_zero_iff.mp none]
  · intro nothing
    obtain ⟨batches, returns⟩ := exists_executeReadPlan_iff.mpr
      ⟨fun seg reached => ⟨[], nothing seg reached⟩, shadow⟩
    refine ⟨batches, returns, rowTotal_eq_zero_iff.mpr fun segId => ?_⟩
    by_cases inside : ∃ seg ∈ listing.ofTable table, seg.segId = segId
    · obtain ⟨seg, mem, rfl⟩ := inside
      obtain ⟨reads, misses⟩ := rowsFrom_result planned listed returns mem
      by_cases reached : db.Reaches environment plan seg
      · have read := reads reached
        rw [nothing seg reached] at read
        exact (Except.ok.inj read).symm
      · exact misses reached
    · exact rowsFrom_result_outside planned listed returns
        fun seg mem same => inside ⟨seg, mem, same⟩

namespace TableStore

variable {Value : Type*} (scanner : StoreScanner Value) (codec : VortexCodec Value)
    (store : TableStore)

/-- A scan without filter of a store without router merges all segments. -/
def mergingPlan (table : String) : ReadExecutionPlan where
  context := (store.scanDatabase scanner codec).routeContext
    (store.scanDatabase scanner codec).snapshot none
  filter := ⟨scanner.kernels, table, none⟩
  executionSegments := (store.listing scanner codec).ofTable table
  template := .cooperativeMerge
  routing := none

lemma prepareReadExecutionPlan_unrouted (unrouted : scanner.router = none)
    (environment table) :
    (store.scanDatabase scanner codec).prepareReadExecutionPlan environment table none
      (store.scanDatabase scanner codec).snapshot =
        .ok (store.mergingPlan scanner codec table) := by
  have router : (store.scanDatabase scanner codec).router = none := unrouted
  simp only [ScanDatabase.prepareReadExecutionPlan, ScanDatabase.route, router,
    ScanDatabase.observeMetadataEvidence]
  rfl

/-- With a router, a scan of the current snapshot panics on its evidence. -/
lemma scan_ne_ok_of_router (routed : scanner.router ≠ none)
    (environment table filter batches) :
    (store.scanDatabase scanner codec).scan environment table filter ≠ .ok batches := by
  intro scanned
  obtain ⟨plan, planned, -⟩ := bind_eq_ok.mp scanned
  have observed := ScanDatabase.observed_of_prepareReadExecutionPlan planned
  simp [ScanDatabase.observeMetadataEvidence, scanDatabase,
    Option.isSome_iff_ne_none, routed] at observed

end TableStore

def byteScanner : StoreScanner UInt8 where
  slot value := ⟨[value], true⟩
  txnNumber := UInt8.toNat
  visPathText segId := segId ++ "/vis.vortex"
  readDeltavis _ := .ok []
  declaredType _ _ := .uint8
  storedType _ _ := .uint8
  zoneMapFile _ _ := .missing
  codecs := ⟨fun _ => .error (.codec "IPC read error"), fun _ => ""⟩
  kernels := equalityKernels
  parse _ := .error "unexpected token"
  router := none
  cooperativeRuntimeBudget := ⟨0, 0⟩

def committedInsert : List (StoreEvent UInt8) :=
  [.beginTxn none,
    .call (.insert
      { table := "t"
        pk := [0, 0, 0, 0, 0, 0, 0, 1]
        columns := (∅ : Std.ExtTreeMap String (List UInt8)).insert "x" [7]
        explicitTxn := some 1
        environment := .undisturbed "seg_1" 0 }),
    .commitTxn 1 (.at 1700000000000)]

namespace TableStore

end TableStore

end RockDuck
