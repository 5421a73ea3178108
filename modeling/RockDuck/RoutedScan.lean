import RockDuck.DeltaMerge
import RockDuck.ZoneMapPredicates

/-!
# Routed scans

The router sends a scan to the delta layers only, to the column files only, or
to both.
-/

namespace RockDuck

open List

attribute [local simp] Except.map

/-- Where a query reads. -/
inductive RouteDecision where
  | deltaStoreOnly
  | vortexOnly
  | merge
  deriving DecidableEq

/-- The kinds of queries. -/
inductive QueryKind where
  | pointGet
  | rangeScan
  | fullScan
  | aggregate
  deriving DecidableEq

def QueryKind.fromFilter (hasFilter isAggregate : Bool) (selectivity : ℚ) : QueryKind :=
  if isAggregate then aggregate
  else if !hasFilter then fullScan
  else if selectivity < 1 / 100 then pointGet
  else rangeScan

structure RouterConfig where
  pointSelectivityThresh : ℚ := 1 / 100
  fullScanSelectivityThresh : ℚ := 1 / 10
  deltaOverloadThresh : Nat := 100
  aggregateSelectivityThresh : ℚ := 1 / 10

/-- What the router looks at. -/
structure RouterParams where
  kind : QueryKind
  deltaCount : Nat
  hasPendingWrites : Bool
  estimatedSelectivity : ℚ

def buildRouterParams (orders : HashOrders) (filter : Option ParsedExpr)
    (deltaSegments : Nat) : RouterParams :=
  let selectivity : ℚ :=
    match filter with
    | none => 1
    | some expr =>
      match toZoneMapPredicateGroup orders expr with
      | some group => if group.hasCrossColumnOr then 1 / 4 else 1 / 10
      | none => 1 / 10
  { kind := QueryKind.fromFilter filter.isSome false selectivity
    deltaCount := deltaSegments
    hasPendingWrites := decide (0 < deltaSegments)
    estimatedSelectivity := selectivity }

/-- The rules of the first tier. -/
def RuleRouter.decide (params : RouterParams) (config : RouterConfig) : Option RouteDecision :=
  if params.kind = .pointGet then some .deltaStoreOnly
  else if !params.hasPendingWrites && params.deltaCount == 0 then
    some .vortexOnly
  else if params.estimatedSelectivity < config.pointSelectivityThresh then
    some .deltaStoreOnly
  else if params.estimatedSelectivity > config.fullScanSelectivityThresh then
    some .vortexOnly
  else if params.kind = .aggregate ∧
      params.estimatedSelectivity > config.aggregateSelectivityThresh then
    some .vortexOnly
  else if params.deltaCount > config.deltaOverloadThresh then some .merge
  else none

/-- The rules come first, then the later tiers. -/
def QueryRouter.route (params : RouterParams) (config : RouterConfig)
    (laterTiers : RouteDecision) : RouteDecision :=
  (RuleRouter.decide params config).getD laterTiers

/-- What all segments of a scan share. -/
structure RouteContext where
  codecs : DeltaCodecs
  stack : DeltaLayerStack
  snapshot : TxnSnapshot
  visFilter : VisFilter
  zoneMapGroup : Option (ZoneMapPredicateGroup (Bytes × Bytes))

/-- A segment with its files. -/
structure RoutedSegment where
  segId : String
  columns : List (String × ColumnType)
  image : SegmentImage Slot
  storedType : String → ColumnType
  zoneMapFile : String → ZoneMapFile

namespace RoutedSegment

variable (segment : RoutedSegment) (context : RouteContext)

def hasVortexLayout : Bool :=
  segment.columns.any fun column => (segment.image.columnBatches column.1).isSome

def hasDeltas : Bool :=
  context.stack.getAllSegmentIds.contains segment.segId

/-- The zone maps rule the segment out. -/
def shouldSkip : Option Bool :=
  SegmentZoneMaps.shouldSkipSegmentForZoneMap
    ⟨segment.columns.map Prod.fst, segment.zoneMapFile⟩ context.zoneMapGroup

def declaredType (name : String) : ColumnType :=
  ((segment.columns.find? fun column => decide (column.1 = name)).map
    Prod.snd).getD (segment.storedType name)

def buildBatch (columns : List (String × List (List Slot))) (index : Nat) :
    Except RockDuckError TableBatch :=
  (TableBatch.tryNew (columns.map fun column =>
    (column.1, segment.declaredType column.1,
      ⟨segment.storedType column.1, column.2.getD index []⟩))).mapError
    fun error => .internal ("Build batch: " ++ error)

/-- Read the columns of a segment as batches. -/
def readVortexSegment : Except RockDuckError (List TableBatch) :=
  match segment.image.readColumns (segment.columns.map Prod.fst) with
  | .error error => .error error
  | .ok [] => .ok []
  | .ok (first :: rest) =>
    let minBatchCount := rest.foldl (fun count column => min count column.2.length) first.2.length
    let misaligned := (first :: rest).any fun column => column.2.length != minBatchCount
    match (List.range minBatchCount).mapM
        (segment.buildBatch (first :: rest)) with
    | .error error => .error error
    | .ok batches =>
      if misaligned && batches.isEmpty then
        .error (.internal
          "scan: all batches misaligned — no valid aligned batches found")
      else .ok batches

def zoneMapPanic : ReadFailure :=
  .panicked "copy_from_slice: source slice length does not match destination slice length"

/-- Read the deltas alone. -/
def executeDeltaOnlySegment : Except ReadFailure (List (List (DataRow (Option Bytes)))) :=
  match context.stack.query segment.segId context.snapshot with
  | .error error => .error (.error error)
  | .ok deltas =>
    if deltas.isEmpty then .ok []
    else
      match buildDeltaOnlyBatch context.codecs segment.columns deltas with
      | .error error => .error (.error error)
      | .ok batch =>
        filterBatchesByVisibilityImpl context.visFilter context.snapshot []
          [batch.rows] []

/-- Read the files alone. -/
def executeVortexOnlySegment : Except ReadFailure (List (List (DataRow (Option Bytes)))) :=
  match segment.shouldSkip context with
  | none => .error zoneMapPanic
  | some true => .ok []
  | some false =>
    match segment.readVortexSegment with
    | .error error => .error (.error error)
    | .ok base =>
      segment.image.scanRows context.visFilter context.snapshot
        (base.map TableBatch.rows)

def mergeBatches (codecs : DeltaCodecs) (base : List TableBatch)
    (deltas : List StoredDeltaCell) : Except ReadFailure (List TableBatch) :=
  if deltas.isEmpty then .ok base
  else base.mapM (applyDeltasToBatch codecs · deltas)

/-- Read the files and apply the deltas. -/
def executeCooperativeMergeSegment : Except ReadFailure (List (List (DataRow (Option Bytes)))) :=
  match segment.shouldSkip context with
  | none => .error zoneMapPanic
  | some true => .ok []
  | some false =>
    match segment.readVortexSegment with
    | .error error => .error (.error error)
    | .ok [] => .ok []
    | .ok (first :: rest) =>
      match segment.image.readVisibilityBatches with
      | .error error => .error (.error error)
      | .ok visBatches =>
        match segment.image.readDeletedRows with
        | .error error => .error (.error error)
        | .ok deletedRows =>
          match context.stack.query segment.segId context.snapshot with
          | .error error => .error (.error error)
          | .ok deltas =>
            match mergeBatches context.codecs (first :: rest) deltas with
            | .error failure => .error failure
            | .ok merged =>
              filterBatchesByVisibilityImpl context.visFilter
                context.snapshot visBatches
                (merged.map TableBatch.rows) deletedRows

/-- The rows by a decision. -/
def rowsFor : RouteDecision → Except ReadFailure (List (DataRow (Option Bytes)))
  | .deltaStoreOnly =>
    if segment.hasDeltas context && !segment.hasVortexLayout then
      (segment.executeDeltaOnlySegment context).map List.flatten
    else .ok []
  | .vortexOnly =>
    match segment.shouldSkip context with
    | none => .error zoneMapPanic
    | some skip =>
      if !skip && segment.hasVortexLayout then
        (segment.executeVortexOnlySegment context).map List.flatten
      else .ok []
  | .merge =>
    match segment.shouldSkip context with
    | none => .error zoneMapPanic
    | some skip =>
      if !skip || segment.hasDeltas context then
        (segment.executeCooperativeMergeSegment context).map List.flatten
      else .ok []

attribute [local simp] rowsFor

def returned (decision : RouteDecision) : Except ReadFailure (Set (DataRow (Option Bytes))) :=
  (segment.rowsFor context decision).map fun rows => {row | row ∈ rows}

/-- No stored row is shown, and what is pending can be merged in. -/
def HidesAll : Prop :=
  ∃ base visBatches deletedRows,
    segment.readVortexSegment = .ok base ∧
    segment.image.readVisibilityBatches = .ok visBatches ∧
    segment.image.readDeletedRows = .ok deletedRows ∧
    (∀ row < (base.map TableBatch.numRows).sum,
      decideRow context.visFilter context.snapshot visBatches deletedRows row =
        .ok false) ∧
    (base ≠ [] → ∃ deltas merged, context.stack.query segment.segId context.snapshot = .ok deltas ∧
      mergeBatches context.codecs base deltas = .ok merged)

/-- The zone map can be consulted.  With a column file the segment is skipped,
or hides all its rows; without one no delta of it is visible. -/
def NothingToReturn : Prop :=
  ∃ skip, segment.shouldSkip context = some skip ∧
    if segment.hasVortexLayout then skip = true ∨ segment.HidesAll context
    else segment.hasDeltas context = false ∨
      context.stack.query segment.segId context.snapshot = .ok []

variable {segment context}

lemma returned_eq_nothing_iff :
    segment.returned context decision = .ok ∅ ↔ segment.rowsFor context decision = .ok [] := by
  unfold returned
  cases segment.rowsFor context decision with
  | error err => simp
  | ok rows =>
    simp only [Except.map, Except.ok.injEq]
    exact (Set.eq_empty_iff_forall_notMem).trans eq_nil_iff_forall_not_mem.symm

lemma sum_numRows_mergeBatches_le (applied : mergeBatches codecs base deltas = .ok merged) :
    (merged.map TableBatch.numRows).sum ≤ (base.map TableBatch.numRows).sum := by
  unfold mergeBatches at applied
  split at applied
  · cases applied
    exact le_rfl
  · have each := mapM_eq_ok_iff.mp applied
    clear applied
    induction each with
    | nil => exact le_rfl
    | cons first _ ih =>
      have fewer := numRows_applyDeltasToBatch_le first
      simp only [map_cons, sum_cons]
      omega

lemma map_length_rows (batches : List TableBatch) :
    (batches.map TableBatch.rows).map List.length = batches.map TableBatch.numRows := by
  simp [Function.comp_def]

lemma readVortexSegment_eq_nil (noLayout : segment.hasVortexLayout = false) :
    segment.readVortexSegment = .ok [] := by
  have absent : ∀ col ∈ segment.columns.map Prod.fst, segment.image.columnBatches col = none := by
    simpa [hasVortexLayout] using noLayout
  have none : ∀ cols : List String,
      (∀ col ∈ cols, segment.image.columnBatches col = none) →
        segment.image.readColumns cols = .ok [] := by
    intro cols absent
    induction cols with
    | nil => rfl
    | cons col cols ih =>
      rw [SegmentImage.readColumns, absent col mem_cons_self]
      exact ih fun other mem => absent other (mem_cons_of_mem _ mem)
  rw [readVortexSegment, none _ absent]

lemma executeVortexOnlySegment_eq_nothing_iff (kept : segment.shouldSkip context = some false) :
    (segment.executeVortexOnlySegment context).map List.flatten = .ok [] ↔
      ∃ base vis deletedRows, segment.readVortexSegment = .ok base ∧
        segment.image.readVisibilityBatches = .ok vis ∧
        segment.image.readDeletedRows = .ok deletedRows ∧ ∀ row < (base.map TableBatch.numRows).sum,
          decideRow context.visFilter context.snapshot vis deletedRows row = .ok false := by
  unfold executeVortexOnlySegment SegmentImage.scanRows
  rw [kept]
  cases segment.readVortexSegment with
  | error error => simp
  | ok base =>
    cases segment.image.readVisibilityBatches with
    | error error => simp
    | ok vis =>
      cases segment.image.readDeletedRows with
      | error error => simp
      | ok deletedRows =>
        simp only [filterBatchesByVisibilityImpl_eq_nothing_iff, map_length_rows]
        simp

lemma executeCooperativeMergeSegment_eq_nothing_iff
    (kept : segment.shouldSkip context = some false) (read : segment.readVortexSegment = .ok base)
    (vis : segment.image.readVisibilityBatches = .ok visBatches)
    (deleted : segment.image.readDeletedRows = .ok deletedRows)
    (hidden : ∀ row < (base.map TableBatch.numRows).sum,
      decideRow context.visFilter context.snapshot visBatches deletedRows row = .ok false) :
    (segment.executeCooperativeMergeSegment context).map List.flatten = .ok [] ↔
      (base ≠ [] → ∃ deltas merged,
        context.stack.query segment.segId context.snapshot = .ok deltas ∧
        mergeBatches context.codecs base deltas = .ok merged) := by
  unfold executeCooperativeMergeSegment
  rw [kept, read, vis, deleted]
  cases base with
  | nil => simp
  | cons first rest =>
    cases context.stack.query segment.segId context.snapshot with
    | error error => simp
    | ok deltas =>
      cases applied : mergeBatches context.codecs (first :: rest) deltas with
      | error err => simp [applied]
      | ok merged =>
        have fewer := sum_numRows_mergeBatches_le applied
        simp only [filterBatchesByVisibilityImpl_eq_nothing_iff, applied, map_length_rows]
        constructor
        · intro _ _
          exact ⟨deltas, merged, rfl, applied⟩
        · intro _ row mem
          exact hidden row (by omega)

/-- When no delta is visible, merging reads the column files and no more. -/
lemma executeCooperativeMergeSegment_eq_vortexOnly
    (none : context.stack.query segment.segId context.snapshot = .ok [])
    (stored : segment.readVortexSegment ≠ .ok []) : segment.executeCooperativeMergeSegment context =
      segment.executeVortexOnlySegment context := by
  unfold executeCooperativeMergeSegment executeVortexOnlySegment SegmentImage.scanRows
  cases segment.shouldSkip context with
  | none => rfl
  | some skip =>
    cases skip with
    | true => rfl
    | false =>
      cases read : segment.readVortexSegment with
      | error error => rfl
      | ok base =>
        cases base with
        | nil => exact absurd read stored
        | cons first rest =>
          cases segment.image.readVisibilityBatches with
          | error error => rfl
          | ok vis =>
            cases segment.image.readDeletedRows with
            | error error => rfl
            | ok deletedRows => simp [none, mergeBatches]

lemma rowsFor_deltaStoreOnly_eq_nothing_iff (noLayout : segment.hasVortexLayout = false) :
    segment.rowsFor context .deltaStoreOnly = .ok [] ↔ segment.hasDeltas context = false ∨
        context.stack.query segment.segId context.snapshot = .ok [] := by
  unfold rowsFor executeDeltaOnlySegment
  cases segment.hasDeltas context with
  | false => simp
  | true =>
    cases context.stack.query segment.segId context.snapshot with
    | error error => simp [noLayout]
    | ok deltas =>
      cases deltas with
      | nil => simp [noLayout]
      | cons first rest =>
        cases built : buildDeltaOnlyBatch context.codecs segment.columns (first :: rest) with
        | error error => simp [noLayout, built]
        | ok batch =>
          have rows : batch.rows ≠ [] := by
            rw [ne_eq, ← length_eq_zero_iff, TableBatch.length_rows, numRows_buildDeltaOnlyBatch
              built, length_eq_zero_iff, deltaRows_eq_nil_iff]
            simp
          simp [noLayout, built, filterBatchesByVisibilityImpl, rows]

lemma returned_deltaStoreOnly_ne_panic :
    segment.returned context .deltaStoreOnly ≠ .error (.panicked msg) := by
  rw [returned, rowsFor]
  split
  · unfold executeDeltaOnlySegment
    cases context.stack.query segment.segId context.snapshot with
    | error error => simp
    | ok deltas =>
      by_cases none : deltas.isEmpty
      · simp [none]
      · cases built : buildDeltaOnlyBatch context.codecs segment.columns deltas with
        | error error => simp [none, built]
        | ok batch => simp [none, built, filterBatchesByVisibilityImpl]
  · simp

/-- Without a column file the routes that read column files find nothing. -/
lemma rowsFor_eq_nothing_of_noLayout (noLayout : segment.hasVortexLayout = false)
    (asked : segment.shouldSkip context = some skip) :
    segment.rowsFor context .vortexOnly = .ok [] ∧ segment.rowsFor context .merge = .ok [] := by
  constructor
  · simp [asked, noLayout]
  · cases skip <;>
      simp [asked, executeCooperativeMergeSegment, readVortexSegment_eq_nil noLayout]

lemma rowsFor_eq_nothing_iff_of_layout (layout : segment.hasVortexLayout = true)
    (asked : segment.shouldSkip context = some skip) :
    (segment.rowsFor context .vortexOnly = .ok [] ∧ segment.rowsFor context .merge = .ok []) ↔
      skip = true ∨ segment.HidesAll context := by
  cases skip with
  | true => simp [asked, executeCooperativeMergeSegment]
  | false =>
    have vortex : segment.rowsFor context .vortexOnly =
        (segment.executeVortexOnlySegment context).map List.flatten := by
      simp [asked, layout]
    have merge : segment.rowsFor context .merge =
        (segment.executeCooperativeMergeSegment context).map List.flatten := by
      simp [asked]
    rw [vortex, merge, executeVortexOnlySegment_eq_nothing_iff asked]
    constructor
    · rintro ⟨⟨base, visBatches, deletedRows, read, vis, deleted, hidden⟩, merged⟩
      exact Or.inr ⟨base, visBatches, deletedRows, read, vis, deleted, hidden,
        (executeCooperativeMergeSegment_eq_nothing_iff asked read vis deleted hidden).mp merged⟩
    · rintro (impossible | ⟨base, visBatches, deletedRows, read, vis, deleted, hidden, merges⟩)
      · cases impossible
      · exact ⟨⟨base, visBatches, deletedRows, read, vis, deleted, hidden⟩,
          (executeCooperativeMergeSegment_eq_nothing_iff asked read vis deleted hidden).mpr merges⟩

lemma exists_rowsFor_eq_nothing (asked : segment.shouldSkip context = some skip) :
    ∃ decision, segment.rowsFor context decision = .ok [] := by
  cases layout : segment.hasVortexLayout with
  | true => exact ⟨.deltaStoreOnly, by simp [layout]⟩
  | false => exact ⟨.vortexOnly, (rowsFor_eq_nothing_of_noLayout layout asked).1⟩

lemma returned_agree_iff_nothing (asked : segment.shouldSkip context = some skip) :
    (∀ left right, segment.returned context left = segment.returned context right) ↔
      ∀ decision, segment.rowsFor context decision = .ok [] := by
  constructor
  · intro agree decision
    obtain ⟨silent, nothing⟩ := exists_rowsFor_eq_nothing asked
    rw [← returned_eq_nothing_iff, agree decision silent, returned_eq_nothing_iff]
    exact nothing
  · intro nothing left right
    rw [returned, returned, nothing left, nothing right]

end RoutedSegment

open RoutedSegment

/-- All routes return the same rows of a segment exactly when none returns
any. -/
theorem returned_agree_iff (segment : RoutedSegment) (context : RouteContext) :
    (∀ left right, segment.returned context left = segment.returned context right) ↔
      segment.NothingToReturn context := by
  cases asked : segment.shouldSkip context with
  | none =>
    have panics : segment.returned context .vortexOnly = .error zoneMapPanic := by
      simp [returned, rowsFor, asked]
    constructor
    · intro agree
      exact absurd ((agree .deltaStoreOnly .vortexOnly).trans panics)
        returned_deltaStoreOnly_ne_panic
    · rintro ⟨skip, impossible, _⟩
      rw [asked] at impossible
      cases impossible
  | some skip =>
    rw [returned_agree_iff_nothing asked]
    have condition : segment.NothingToReturn context ↔
        if segment.hasVortexLayout then
          skip = true ∨ segment.HidesAll context
        else segment.hasDeltas context = false ∨
          context.stack.query segment.segId context.snapshot = .ok [] := by
      simp [RoutedSegment.NothingToReturn, asked]
    rw [condition]
    cases layout : segment.hasVortexLayout with
    | true =>
      rw [if_pos rfl, ← rowsFor_eq_nothing_iff_of_layout layout asked]
      constructor
      · intro nothing
        exact ⟨nothing .vortexOnly, nothing .merge⟩
      · rintro ⟨vortex, merge⟩ decision
        cases decision with
        | deltaStoreOnly => simp [rowsFor, layout]
        | vortexOnly => exact vortex
        | merge => exact merge
    | false =>
      rw [if_neg (by simp), ← rowsFor_deltaStoreOnly_eq_nothing_iff layout]
      obtain ⟨vortex, merge⟩ := rowsFor_eq_nothing_of_noLayout layout asked
      constructor
      · intro nothing
        exact nothing .deltaStoreOnly
      · intro delta decision
        cases decision with
        | deltaStoreOnly => exact delta
        | vortexOnly => exact vortex
        | merge => exact merge

def nullAndFive : RoutedSegment where
  segId := "s"
  columns := [("x", .int64)]
  image :=
    { columnBatches := fun _ => some (.ok [[⟨[0, 0, 0, 0, 0, 0, 0, 0], false⟩,
        ⟨[5, 0, 0, 0, 0, 0, 0, 0], true⟩]])
      vis := none
      visPathText := ""
      deltavis := none }
  storedType _ := .int64
  zoneMapFile _ := .missing

/-- A scan of everything while a committed update of the first row is
pending. -/
def pendingUpdate : RouteContext where
  codecs := ⟨fun _ => .error (.codec "IPC read error"), fun _ => ""⟩
  stack :=
    { l1 := (DeltaMemStore.empty.put ⟨"s", 0, "x", 1, some [0], some [], true, 0⟩
        none).1
      l2 := ⟨fun _ _ => .ok [], []⟩
      l3 := ⟨fun _ _ => .ok [], []⟩
      recentFlush := [] }
  snapshot :=
    { snapshotId := 1
      activeTxns := ∅
      isolation := .snapshot
      commitTsMap := (∅ : Std.ExtTreeMap TxnId Nat).insert 1 1 }
  visFilter := .txnSnapshot
  zoneMapGroup := none

/-- The rules choose the column files although an update is pending, and every
route returns something else. -/
theorem pendingUpdate_routes_differ :
    RuleRouter.decide (buildRouterParams (fun _ => (.asStored, .asStored)) none 1)
        {} = some .vortexOnly ∧ nullAndFive.rowsFor pendingUpdate .deltaStoreOnly = .ok [] ∧
      nullAndFive.rowsFor pendingUpdate .vortexOnly =
        .ok [[("x", none)], [("x", some [5, 0, 0, 0, 0, 0, 0, 0])]] ∧
      nullAndFive.rowsFor pendingUpdate .merge =
        .ok [[("x", some [0, 0, 0, 0, 0, 0, 0, 0])],
          [("x", some [5, 0, 0, 0, 0, 0, 0, 0])]] := by
  refine ⟨?_, ?_, ?_, ?_⟩
  · decide +kernel
  · rfl
  · rfl
  · rfl

end RockDuck
