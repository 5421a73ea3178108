import RockDuck.ListWork
import RockDuck.RoutedScan

/-!
# Scans of a table

A scan plans which segments it executes and with which template, reads them and
filters what was read.
-/

namespace RockDuck

open List

/-- How a plan reads its segments. -/
inductive ReadExecutionTemplate where
  | deltaOnly
  | vortexOnly
  | cooperativeMerge
  | historical
  deriving DecidableEq

def ReadExecutionTemplate.isCooperative : ReadExecutionTemplate → Bool
  | cooperativeMerge | historical => true
  | deltaOnly | vortexOnly => false

def RouteDecision.template : RouteDecision → ReadExecutionTemplate
  | deltaStoreOnly => .deltaOnly
  | vortexOnly => .vortexOnly
  | merge => .cooperativeMerge

/-- Kernels over the cells of a batch. -/
structure CellKernels extends
    ArrowKernels (ColumnType × List (Option Bytes)) UInt64 where
  numRows_cells : ∀ column, numRows column = column.2.length

/-- A record batch.  It is kept with the segment that it was read from, which
the record batch itself does not say. -/
structure ReadBatch where
  segId : String
  schema : List (String × ColumnType)
  rows : List (DataRow (Option Bytes))

namespace ReadBatch

def cell (name : String) (row : DataRow (Option Bytes)) : Option Bytes :=
  (row.find? fun entry => decide (entry.1 = name)).bind Prod.snd

/-- A batch as the filter sees it. -/
def toFilterBatch (kernels : CellKernels) (batch : ReadBatch) :
    FilterBatch kernels.toArrowKernels where
  numRows := batch.rows.length
  columns := batch.schema.map fun field => (field.1, field.2, batch.rows.map (cell field.1))
  aligned := by
    intro column among
    obtain ⟨field, -, rfl⟩ := List.mem_map.mp among
    simp [kernels.numRows_cells]

end ReadBatch

def rowsFrom (segId : String) (batches : List ReadBatch) : List (DataRow (Option Bytes)) :=
  (batches.filter fun batch => decide (batch.segId = segId)).flatMap ReadBatch.rows

/-- The filter kernel of Arrow, which treats null as false. -/
def filterRecordBatch {Row : Type*} (rows : List Row)
    (predicate : List (Option Bool)) : Except String (List Row) :=
  let predicateLen := predicate.length
  let rowsLen := rows.length
  if rowsLen < predicateLen then
    .error s!"Invalid argument error: Filter predicate of length {predicateLen} is larger than target array of length {rowsLen}"
  else .ok (keepMarked rows (predicate.map fun value => value == some true))

/-- The filter of a scan, with the table that its errors name. -/
structure RowFilter where
  kernels : CellKernels
  table : String
  parsedExpr : Option ParsedExpr

namespace RowFilter

variable (filter : RowFilter)

/-- Evaluate the filter and keep the rows. -/
def filterBatch (expr : ParsedExpr) (batch : ReadBatch) : Except RockDuckError ReadBatch :=
  let table := filter.table
  let batchRows := batch.rows.length
  match evaluate expr (batch.toFilterBatch filter.kernels) with
  | .error error =>
    let reason := error.display
    .error (.query
      s!"filter evaluation failed for table {table} batch_rows={batchRows}: {reason}")
  | .ok predicate =>
    match filterRecordBatch batch.rows predicate with
    | .error reason =>
      .error (.query
        s!"filter_record_batch failed for table {table} batch_rows={batchRows}: {reason}")
    | .ok rows => .ok { batch with rows := rows }

def apply (batch : ReadBatch) : Except RockDuckError ReadBatch :=
  match filter.parsedExpr with
  | none => .ok batch
  | some expr => filter.filterBatch expr batch

/-- Filter what was read. -/
def finalizeReadFilterStage (outputs : List (List ReadBatch)) :
    Except RockDuckError (List ReadBatch) :=
  outputs.flatten.mapM filter.apply

end RowFilter

def orFail {Value : Type*} (attempt : Except RockDuckError Value) : Except ReadFailure Value :=
  attempt.mapError .error

@[simp]
lemma orFail_eq_ok {Value : Type*} {attempt : Except RockDuckError Value}
    {value : Value} : orFail attempt = .ok value ↔ attempt = .ok value := by
  cases attempt <;> simp [orFail, Except.mapError]

namespace RoutedSegment

variable (segment : RoutedSegment) (context : RouteContext)

def schemaFor : ReadExecutionTemplate → List (String × ColumnType)
  | .deltaOnly => segment.columns
  | .vortexOnly | .cooperativeMerge | .historical =>
    match segment.image.readColumns (segment.columns.map Prod.fst) with
    | .error _ => []
    | .ok columns => columns.map fun column => (column.1, segment.declaredType column.1)

/-- Read a segment by a template. -/
def executeSegment : ReadExecutionTemplate →
    Except ReadFailure (List (List (DataRow (Option Bytes))))
  | .deltaOnly => segment.executeDeltaOnlySegment context
  | .vortexOnly => segment.executeVortexOnlySegment context
  | .cooperativeMerge | .historical => segment.executeCooperativeMergeSegment context

def readSegment (template : ReadExecutionTemplate) : Except ReadFailure (List ReadBatch) :=
  (segment.executeSegment context template).map fun batches =>
    batches.map fun rows => ⟨segment.segId, segment.schemaFor template, rows⟩

def matchingBatches (filter : RowFilter) (template : ReadExecutionTemplate) :
    Except ReadFailure (List ReadBatch) := do
  (← segment.readSegment context template).mapM fun batch => orFail (filter.apply batch)

/-- The rows of a segment that match. -/
def matchingRows (filter : RowFilter) (template : ReadExecutionTemplate) :
    Except ReadFailure (List (DataRow (Option Bytes))) :=
  (segment.matchingBatches context filter template).map
    (·.flatMap ReadBatch.rows)

/-- The decision reads the segment. -/
def chosenBy : RouteDecision → Except ReadFailure Bool
  | .deltaStoreOnly => .ok (segment.hasDeltas context && !segment.hasVortexLayout)
  | .vortexOnly =>
    match segment.shouldSkip context with
    | none => .error zoneMapPanic
    | some skip => .ok (!skip && segment.hasVortexLayout)
  | .merge =>
    match segment.shouldSkip context with
    | none => .error zoneMapPanic
    | some skip => .ok (!skip || segment.hasDeltas context)

end RoutedSegment

/-- The limits of a cooperative read. -/
structure CooperativeRuntimeBudget where
  maxSegmentsPerSlice : Nat
  maxSliceMs : Nat

namespace CooperativeRuntimeBudget

variable (budget : CooperativeRuntimeBudget)

def isBounded : Bool :=
  decide (0 < budget.maxSegmentsPerSlice) || decide (0 < budget.maxSliceMs)

def maxSegments : Nat :=
  max budget.maxSegmentsPerSlice 1

end CooperativeRuntimeBudget

/-- What a cooperative read notes of its slices. -/
structure CooperativeRuntimeStats where
  totalSlices : Nat := 0
  truncatedSegmentIds : List String := []
  elapsedBudgetExhausted : Bool := false
  maxSegmentsPerSliceHit : Bool := false

/-- What the router remembers of the last merging scan of a table. -/
structure CooperativeRuntimeSnapshot where
  budget : Option CooperativeRuntimeBudget
  truncatedSegments : List String
  elapsedBudgetExhausted : Bool
  maxSegmentsPerSliceHit : Bool

/-- The budget that the router gives. -/
def QueryRouter.cooperativeRuntimeBudget (lastRuntime : Option CooperativeRuntimeSnapshot)
    (routedSegments : Nat) : Option CooperativeRuntimeBudget := do
  let last ← lastRuntime
  let budget ← last.budget
  let observedSegments := last.truncatedSegments.length
  let routeSize := max routedSegments 1
  let cappedSegments :=
    if last.maxSegmentsPerSliceHit then
      min (max budget.maxSegmentsPerSlice 1) routeSize
    else min (max budget.maxSegmentsPerSlice (min routeSize 4)) routeSize
  let boundedMs :=
    if last.elapsedBudgetExhausted then max budget.maxSliceMs 1
    else min (max budget.maxSliceMs 1 * 2) 250
  let adaptiveSegments :=
    if observedSegments = 0 then cappedSegments
    else min cappedSegments (max observedSegments 1)
  return ⟨max adaptiveSegments 1, max boundedMs 1⟩

/-- The router of a scan. -/
structure ScanRouter where
  config : RouterConfig
  laterTiers : RouterParams → RouteDecision
  lastCooperativeRuntime : String → Option CooperativeRuntimeSnapshot
  samplesShadowTiming : Bool

/-- A segment with its table and status. -/
structure TableSegment extends RoutedSegment where
  tableId : String
  status : SegmentStatus

/-- The segments of the metadata store, which are kept under their ids. -/
structure SegmentListing where
  metas : List TableSegment
  distinct : (metas.map fun segment => segment.segId).Nodup

def SegmentListing.ofTable (listing : SegmentListing) (table : String) : List RoutedSegment :=
  ((listing.metas.filter fun segment => decide (segment.tableId = table)).filter
    fun segment => decide (segment.status ≠ .garbage)).map
      TableSegment.toRoutedSegment

/-- What a scan reads of the database.  The listing of the segment descriptions
comes from an iterator of the KV engine: it may fail or leave some of them out. -/
structure ScanDatabase where
  mvcc : VisibilityManager
  cachedSnapshot : Option TxnSnapshot
  storedMetas : SegmentListing
  listSegmentMetas : Except RockDuckError SegmentListing
  lists_stored : ∀ listing, listSegmentMetas = .ok listing →
    listing.metas.Sublist storedMetas.metas
  tableStats : Fault
  deltaLayer : DeltaLayerStack
  codecs : DeltaCodecs
  kernels : CellKernels
  parse : String → Except String ParsedExpr
  router : Option ScanRouter
  cooperativeRuntimeBudget : CooperativeRuntimeBudget

/-- What a scan meets while it runs: the orders of hash tables, and the
milliseconds that have passed at the end of every slice. -/
structure ScanEnvironment where
  orders : HashOrders
  routerOrders : HashOrders
  elapsed : Nat → Nat
  shadowElapsed : Nat → Nat

/-- A plan of a read. -/
structure ReadExecutionPlan where
  context : RouteContext
  filter : RowFilter
  executionSegments : List RoutedSegment
  template : ReadExecutionTemplate
  routing : Option RouteDecision

/-- Read slice by slice, until the time is used up. -/
def executeSlices (read : RoutedSegment → Except ReadFailure (List ReadBatch))
    (budget : CooperativeRuntimeBudget) (elapsed : Nat → Nat) (segments : List RoutedSegment) :
    Nat → CooperativeRuntimeStats → List (List RoutedSegment) →
      CooperativeRuntimeStats × Except ReadFailure (List (List ReadBatch))
  | _, stats, [] => (stats, .ok [])
  | sliceIdx, stats, chunk :: chunks =>
    let stats := { stats with totalSlices := stats.totalSlices + 1 }
    match chunk.mapM read with
    | .error failure => (stats, .error failure)
    | .ok rawOutputs =>
      let outputs := rawOutputs.filter fun batches => !batches.isEmpty
      let stats :=
        if chunk.length = budget.maxSegments ∧ 0 < sliceIdx then
          { stats with maxSegmentsPerSliceHit := true }
        else stats
      if 0 < budget.maxSliceMs ∧ budget.maxSliceMs ≤ elapsed sliceIdx ∧
          sliceIdx + 1 <
            (segments.length + budget.maxSegments - 1) / budget.maxSegments then
        -- The rest is only noted in the statistics; the read succeeds.
        ({ stats with
            elapsedBudgetExhausted := true
            truncatedSegmentIds :=
              (segments.drop ((sliceIdx + 1) * budget.maxSegments)).map
                RoutedSegment.segId },
          .ok outputs)
      else
        let rest := executeSlices read budget elapsed segments (sliceIdx + 1) stats chunks
        (rest.1, rest.2.map (outputs ++ ·))

namespace ReadExecutionPlan

variable (plan : ReadExecutionPlan)

def executeBoundedCooperativeSegmentReadStages
    (template : ReadExecutionTemplate) (budget : CooperativeRuntimeBudget) (elapsed : Nat → Nat) :
    CooperativeRuntimeStats × Except ReadFailure (List (List ReadBatch)) :=
  executeSlices (fun segment => segment.readSegment plan.context template) budget
    elapsed plan.executionSegments 0 {}
    (slices budget.maxSegments plan.executionSegments)

/-- Read the segments of a plan. -/
def executeSegmentReadStagesWithTemplate (template : ReadExecutionTemplate)
    (runtimeBudget : Option CooperativeRuntimeBudget) (elapsed : Nat → Nat) :
    CooperativeRuntimeStats × Except ReadFailure (List (List ReadBatch)) :=
  match runtimeBudget.filter fun _ => template.isCooperative with
  | some budget => plan.executeBoundedCooperativeSegmentReadStages template budget elapsed
  | none =>
    ({}, (plan.executionSegments.mapM fun segment : RoutedSegment =>
      segment.readSegment plan.context template).map fun rawOutputs =>
        rawOutputs.filter fun batches => !batches.isEmpty)

/-- Read once more by the shadow path. -/
def measureShadowPath (environment : ScanEnvironment) (shadowPath : RouteDecision)
    (runtimeBudget : Option CooperativeRuntimeBudget) : Except ReadFailure Unit :=
  if shadowPath.template = plan.template then .ok ()
  else do
    let outputs ← (plan.executeSegmentReadStagesWithTemplate shadowPath.template
      runtimeBudget environment.shadowElapsed).2
    let _ ← orFail (plan.filter.finalizeReadFilterStage outputs)

end ReadExecutionPlan

namespace ScanDatabase

variable (db : ScanDatabase) (environment : ScanEnvironment)

def snapshot : TxnSnapshot :=
  db.cachedSnapshot.getD (db.mvcc.snapshot .snapshot)

/-- The snapshot as of a transaction, or the current one. -/
def snapshotFor : Option TxnId → TxnSnapshot
  | none => db.snapshot
  | some txnId => db.mvcc.snapshotAt txnId .snapshot

def routeContext (snapshot : TxnSnapshot)
    (zoneMapGroup : Option (ZoneMapPredicateGroup (Bytes × Bytes))) : RouteContext where
  codecs := db.codecs
  stack := db.deltaLayer
  snapshot := snapshot
  visFilter := .visibilityManager
  zoneMapGroup := zoneMapGroup

/-- Parse the filter, if there is one. -/
def parseFilter : Option String → Except RockDuckError (Option ParsedExpr)
  | none => .ok none
  | some text =>
    match db.parse text with
    | .error reason => .error (.query reason)
    | .ok expr => .ok (some expr)

/-- The decision of the router. -/
def route (listing : SegmentListing) (table : String)
    (parsedExpr : Option ParsedExpr) : Option RouteDecision :=
  db.router.map fun router =>
    let tableSegmentIds := (listing.ofTable table).map RoutedSegment.segId
    let deltaSegmentIds := db.deltaLayer.getAllSegmentIds.filter fun segId =>
      decide (segId ∈ tableSegmentIds)
    let params := buildRouterParams environment.routerOrders parsedExpr deltaSegmentIds.length
    QueryRouter.route params router.config (router.laterTiers params)

def failOn (fault : Fault) : Except ReadFailure Unit :=
  match fault with
  | none => .ok ()
  | some error => .error (.error error)

/-- The segments that are executed.  Without a router these are all of the
table. -/
def routeTableSegments (listing : SegmentListing) (table : String) (context : RouteContext)
    (routing : Option RouteDecision) : Except ReadFailure (List RoutedSegment) :=
  match routing with
  | none => .ok (listing.ofTable table)
  | some decision => do
      failOn db.tableStats
      chooseM (fun segment => segment.chosenBy context decision)
        (listing.ofTable table)

/-- The router asserts that the evidence of a scan carries a contract, and only
that of a scan as of another snapshot does. -/
def observeMetadataEvidence (snapshot : TxnSnapshot) : Except ReadFailure Unit :=
  if db.router.isSome ∧ snapshot.snapshotId = db.snapshot.snapshotId then
    .error (.panicked
      "projection contract must carry classified sidecar evidence before enforcement")
  else .ok ()

/-- The plan of a scan: its filter, its route and the segments to execute. -/
def prepareReadExecutionPlan (table : String) (filter : Option String)
    (snapshot : TxnSnapshot) : Except ReadFailure ReadExecutionPlan := do
  let parsedExpr ← orFail (db.parseFilter filter)
  let context := db.routeContext snapshot
    (parsedExpr.bind (toZoneMapPredicateGroup environment.orders))
  let listing ← orFail db.listSegmentMetas
  let routing := db.route environment listing table parsedExpr
  let segments ← db.routeTableSegments listing table context routing
  -- The evidence of the route needs the statistics of the table.
  failOn db.tableStats
  db.observeMetadataEvidence snapshot
  return ⟨context, ⟨db.kernels, table, parsedExpr⟩, segments,
    (routing.map RouteDecision.template).getD .cooperativeMerge, routing⟩

/-- The budget of a plan. -/
def cooperativeRuntimeBudgetForPlan (plan : ReadExecutionPlan) : Option CooperativeRuntimeBudget :=
  if plan.template.isCooperative then
    let budget := (db.router.bind fun router =>
      QueryRouter.cooperativeRuntimeBudget
        (router.lastCooperativeRuntime plan.filter.table)
        plan.executionSegments.length).getD db.cooperativeRuntimeBudget
    if budget.isBounded then some budget else none
  else none

/-- The path to compare the plan with. -/
def shadowRouteDecision (plan : ReadExecutionPlan) : Option RouteDecision := do
  let router ← db.router
  let chosenPath ← plan.routing
  if router.samplesShadowTiming then
    match chosenPath with
    | .deltaStoreOnly => some .vortexOnly
    | .vortexOnly => some .deltaStoreOnly
    | .merge => some .vortexOnly
  else none

/-- Execute a plan. -/
def executeReadPlan (plan : ReadExecutionPlan) :
    CooperativeRuntimeStats × Except ReadFailure (List ReadBatch) :=
  let runtimeBudget := db.cooperativeRuntimeBudgetForPlan plan
  andThen (plan.executeSegmentReadStagesWithTemplate plan.template runtimeBudget
    environment.elapsed) fun stats outputs => (stats, do
      let batches ← orFail (plan.filter.finalizeReadFilterStage outputs)
      match db.shadowRouteDecision plan with
      | none => return batches
      | some shadowPath =>
        plan.measureShadowPath environment shadowPath runtimeBudget
        return batches)

/-- Plan and execute a scan. -/
def scanInternal (table : String) (filter : Option String)
    (snapshot : TxnSnapshot) : Except ReadFailure (List ReadBatch) := do
  let plan ← db.prepareReadExecutionPlan environment table filter snapshot
  (db.executeReadPlan environment plan).2

def scan (table : String) (filter : Option String) : Except ReadFailure (List ReadBatch) :=
  db.scanInternal environment table filter db.snapshot

def scanAsOf (table : String) (txnId : TxnId) (filter : Option String) :
    Except ReadFailure (List ReadBatch) :=
  db.scanInternal environment table filter (db.mvcc.snapshotAt txnId .snapshot)

/-- A scan as of a transaction, or a current one. -/
def scanFor (table : String) (asOfTxn : Option TxnId) (filter : Option String) :
    Except ReadFailure (List ReadBatch) :=
  match asOfTxn with
  | none => db.scan environment table filter
  | some txnId => db.scanAsOf environment table txnId filter

lemma scanFor_eq (table asOfTxn filter) :
    db.scanFor environment table asOfTxn filter =
      db.scanInternal environment table filter (db.snapshotFor asOfTxn) := by
  cases asOfTxn <;> rfl

end ScanDatabase

lemma RowFilter.segId_of_apply {filter : RowFilter}
    (applied : filter.apply batch = .ok left) : left.segId = batch.segId := by
  unfold apply filterBatch at applied
  split at applied
  · cases applied
    rfl
  · dsimp only at applied
    split at applied
    · cases applied
    · split at applied
      · cases applied
      · cases applied
        rfl

namespace RoutedSegment

variable {seg : RoutedSegment} {ctx : RouteContext} {filter : RowFilter}
    {template : ReadExecutionTemplate}

lemma segId_of_mem_readSegment (read : seg.readSegment ctx template = .ok batches)
    (mem : batch ∈ batches) : batch.segId = seg.segId := by
  unfold readSegment at read
  cases executed : seg.executeSegment ctx template with
  | error err => simp [executed, Except.map] at read
  | ok rows =>
    simp only [executed, Except.map, Except.ok.injEq] at read
    subst read
    obtain ⟨batchRows, -, rfl⟩ := mem_map.mp mem
    rfl

lemma exists_matchingRows_iff : (∃ rows, seg.matchingRows ctx filter template = .ok rows) ↔
      ∃ batches, seg.matchingBatches ctx filter template = .ok batches := by
  unfold matchingRows
  cases seg.matchingBatches ctx filter template <;> simp [Except.map]

end RoutedSegment

lemma rowsFrom_append (segId front back) :
    rowsFrom segId (front ++ back) = rowsFrom segId front ++ rowsFrom segId back := by
  simp [rowsFrom]

lemma rowsFrom_of_all (all : ∀ batch ∈ batches, batch.segId = segId) :
    rowsFrom segId batches = batches.flatMap ReadBatch.rows := by
  rw [rowsFrom, filter_eq_self.mpr]
  simpa using all

lemma rowsFrom_of_none
    (none : ∀ batch ∈ batches, batch.segId ≠ segId) : rowsFrom segId batches = [] := by
  rw [rowsFrom, filter_eq_nil_iff.mpr]
  · rfl
  · simpa using none

section Executed

variable {Error : Type*} {read : RoutedSegment → Except Error (List ReadBatch)}
    {executed : List RoutedSegment} {parts : List (List ReadBatch)}

/-- What is read from a segment bears its id. -/
def ReadsOwn (read : RoutedSegment → Except Error (List ReadBatch)) : Prop :=
  ∀ segment batches, read segment = .ok batches →
    ∀ batch ∈ batches, batch.segId = segment.segId

lemma rowsFrom_eq_nil_of_not_executed (own : ReadsOwn read) (made : executed.mapM read = .ok parts)
    (absent : ∀ seg ∈ executed, seg.segId ≠ segId) : rowsFrom segId parts.flatten = [] := by
  refine rowsFrom_of_none fun batch mem => ?_
  obtain ⟨part, listed, inPart⟩ := mem_flatten.mp mem
  obtain ⟨seg, executes, found⟩ := exists_mem_of_mapM_eq_ok made listed
  rw [own seg part found batch inPart]
  exact absent seg executes

lemma rowsFrom_of_executed (own : ReadsOwn read) (made : executed.mapM read = .ok parts)
    (nodup : (executed.map RoutedSegment.segId).Nodup)
    {seg} (mem : seg ∈ executed) : ∃ part, read seg = .ok part ∧
      rowsFrom seg.segId parts.flatten = part.flatMap ReadBatch.rows := by
  induction executed generalizing parts with
  | nil => simp at mem
  | cons first executed ih =>
    rw [mapM_cons, bind_eq_ok] at made
    obtain ⟨part, found, made⟩ := made
    obtain ⟨rest, others, same⟩ := bind_eq_ok.mp made
    cases same
    rw [map_cons, nodup_cons] at nodup
    rw [flatten_cons, rowsFrom_append]
    rcases mem_cons.mp mem with rfl | later
    · refine ⟨part, found, ?_⟩
      rw [rowsFrom_of_all (own _ _ found), rowsFrom_eq_nil_of_not_executed own others, append_nil]
      intro other listed same
      exact nodup.1 (same ▸ mem_map_of_mem listed)
    · rw [rowsFrom_of_none, nil_append]
      · exact ih others nodup.2 later
      · intro batch inPart same
        rw [own _ _ found batch inPart] at same
        exact nodup.1 (same ▸ mem_map_of_mem later)

lemma readsOwn_matchingBatches (ctx filter template) : ReadsOwn fun seg : RoutedSegment =>
      seg.matchingBatches ctx filter template := by
  intro seg batches matched batch mem
  obtain ⟨stored, made, filtered⟩ := bind_eq_ok.mp matched
  obtain ⟨origin, listed, applied⟩ := exists_mem_of_mapM_eq_ok filtered mem
  rw [RowFilter.segId_of_apply (orFail_eq_ok.mp applied)]
  exact RoutedSegment.segId_of_mem_readSegment made listed

end Executed

section Slices

variable {read : RoutedSegment → Except ReadFailure (List ReadBatch)}
    {budget : CooperativeRuntimeBudget} {elapsed : Nat → Nat} {segments : List RoutedSegment}

lemma executeSlices_snd (sliceIdx : Nat) (stats chunks) :
    (executeSlices read budget elapsed segments sliceIdx stats chunks).2 =
      (workInSlices read (fun slice => decide (0 < budget.maxSliceMs ∧
        budget.maxSliceMs ≤ elapsed slice ∧ slice + 1 <
          (segments.length + budget.maxSegments - 1) / budget.maxSegments))
        sliceIdx chunks).map fun rawOutputs =>
          rawOutputs.filter fun batches => !batches.isEmpty := by
  induction chunks generalizing sliceIdx stats with
  | nil => rfl
  | cons chunk chunks ih =>
    rw [executeSlices, workInSlices]
    cases chunk.mapM read with
    | error err => rfl
    | ok rawOutputs =>
      simp only [decide_eq_true_eq]
      split
      · rfl
      · simp only [ih]
        cases workInSlices read _ (sliceIdx + 1) chunks <;>
          simp [Except.map]

end Slices

/-- The time is used up before the segment at the index. -/
def RunsOutBefore (runtimeBudget : Option CooperativeRuntimeBudget)
    (elapsed : Nat → Nat) (index : Nat) : Prop :=
  ∃ budget, runtimeBudget = some budget ∧
    ∃ slice, (slice + 1) * budget.maxSegments ≤ index ∧
      0 < budget.maxSliceMs ∧ budget.maxSliceMs ≤ elapsed slice

lemma read_then_filter_iff (ctx) (filter : RowFilter) (template) (segments : List RoutedSegment)
    (result) : (∃ outputs, (segments.mapM fun seg : RoutedSegment =>
          seg.readSegment ctx template).map (fun rawOutputs =>
            rawOutputs.filter fun batches => !batches.isEmpty) = .ok outputs ∧
        filter.finalizeReadFilterStage outputs = .ok result) ↔ ∃ parts, segments.mapM (fun seg =>
          seg.matchingBatches ctx filter template) = .ok parts ∧ parts.flatten = result := by
  have staged : ∀ batches : List ReadBatch,
      batches.mapM filter.apply = .ok result ↔
        batches.mapM (fun batch => orFail (filter.apply batch)) = .ok result := by
    intro batches
    simp only [mapM_eq_ok_iff, orFail_eq_ok]
  rw [show (fun seg : RoutedSegment => seg.matchingBatches ctx filter
      template) = fun seg => do
        (← seg.readSegment ctx template).mapM fun batch =>
          orFail (filter.apply batch) from rfl, ← mapM_flatten_mapM_iff]
  simp only [RowFilter.finalizeReadFilterStage, staged]
  cases segments.mapM fun seg : RoutedSegment => seg.readSegment ctx template with
  | error err => simp [Except.map]
  | ok rawOutputs => simp [Except.map, flatten_filter_not_isEmpty]

namespace ReadExecutionPlan

variable (plan : ReadExecutionPlan)

lemma exists_reached (template runtimeBudget elapsed) : ∃ reached,
      (∀ res, (∃ outputs, (plan.executeSegmentReadStagesWithTemplate template
            runtimeBudget elapsed).2 = .ok outputs ∧
          plan.filter.finalizeReadFilterStage outputs = .ok res) ↔
        ∃ parts, (plan.executionSegments.take reached).mapM (fun seg =>
            seg.matchingBatches plan.context plan.filter template) =
              .ok parts ∧ parts.flatten = res) ∧
      ∀ index < plan.executionSegments.length, index < reached ↔
        ¬ RunsOutBefore (runtimeBudget.filter fun _ => template.isCooperative) elapsed index := by
  unfold executeSegmentReadStagesWithTemplate
  cases runtimeBudget.filter fun _ => template.isCooperative with
  | none =>
    refine ⟨plan.executionSegments.length, ?_, ?_⟩
    · intro res
      rw [take_length]
      exact read_then_filter_iff _ _ _ _ _
    · intro index mem
      simp [RunsOutBefore, mem]
  | some budget =>
    have pos : 0 < budget.maxSegments := lt_max_of_lt_right one_pos
    obtain ⟨reached, worked, cut⟩ := exists_workInSlices_eq
      (fun seg : RoutedSegment => seg.readSegment plan.context template)
      (fun slice => decide (0 < budget.maxSliceMs ∧ budget.maxSliceMs ≤ elapsed slice ∧ slice + 1 <
          (plan.executionSegments.length + budget.maxSegments - 1) /
            budget.maxSegments))
      pos plan.executionSegments
    refine ⟨reached, ?_, ?_⟩
    · intro res
      dsimp only
      rw [executeBoundedCooperativeSegmentReadStages, executeSlices_snd, worked]
      exact read_then_filter_iff _ _ _ _ _
    · intro index mem
      rw [cut index mem, RunsOutBefore, CutOff]
      refine not_congr ⟨?_, ?_⟩
      · rintro ⟨slice, passed, stopped⟩
        have stopped := of_decide_eq_true stopped
        exact ⟨budget, rfl, slice, passed, stopped.1, stopped.2.1⟩
      · rintro ⟨_, same, slice, passed, le, late⟩
        cases same
        refine ⟨slice, passed, decide_eq_true ⟨le, late, ?_⟩⟩
        refine Nat.lt_of_succ_le ((Nat.le_div_iff_mul_le pos).mpr ?_)
        rw [Nat.succ_mul]
        omega

end ReadExecutionPlan

lemma SegmentListing.ofTable_sublist {listing stored : SegmentListing}
    (sub : listing.metas.Sublist stored.metas) (table) :
    (listing.ofTable table).Sublist (stored.ofTable table) :=
  ((sub.filter _).filter _).map _

lemma SegmentListing.nodup_ofTable (listing : SegmentListing) (table) :
    ((listing.ofTable table).map RoutedSegment.segId).Nodup := by
  unfold SegmentListing.ofTable
  rw [map_map]
  exact ((filter_sublist.trans filter_sublist).map _).nodup listing.distinct

namespace ScanDatabase

variable {db : ScanDatabase} {environment : ScanEnvironment} {table : String}
    {filter : Option String} {snap : TxnSnapshot} {plan : ReadExecutionPlan}
    {listing : SegmentListing}

lemma observed_of_prepareReadExecutionPlan
    (planned : db.prepareReadExecutionPlan environment table filter snap = .ok plan) :
    db.observeMetadataEvidence snap = .ok () := by
  obtain ⟨_, -, planned⟩ := bind_eq_ok.mp planned
  obtain ⟨_, -, planned⟩ := bind_eq_ok.mp planned
  obtain ⟨_, -, planned⟩ := bind_eq_ok.mp planned
  obtain ⟨_, -, planned⟩ := bind_eq_ok.mp planned
  obtain ⟨_, observed, -⟩ := bind_eq_ok.mp planned
  exact observed

lemma exists_of_prepareReadExecutionPlan
    (planned : db.prepareReadExecutionPlan environment table filter snap = .ok plan) :
    ∃ parsedExpr listing, db.parseFilter filter = .ok parsedExpr ∧
      db.listSegmentMetas = .ok listing ∧ plan.context = db.routeContext snap
        (parsedExpr.bind (toZoneMapPredicateGroup environment.orders)) ∧
      plan.filter = ⟨db.kernels, table, parsedExpr⟩ ∧
      db.routeTableSegments listing table plan.context plan.routing = .ok plan.executionSegments ∧
      plan.template = (plan.routing.map RouteDecision.template).getD .cooperativeMerge := by
  obtain ⟨parsedExpr, parsed, planned⟩ := bind_eq_ok.mp planned
  obtain ⟨listing, mem, planned⟩ := bind_eq_ok.mp planned
  obtain ⟨segments, routed, planned⟩ := bind_eq_ok.mp planned
  obtain ⟨_, -, planned⟩ := bind_eq_ok.mp planned
  obtain ⟨_, -, planned⟩ := bind_eq_ok.mp planned
  cases planned
  exact ⟨parsedExpr, listing, orFail_eq_ok.mp parsed, orFail_eq_ok.mp mem, rfl, rfl, routed, rfl⟩

section Planned

variable (planned : db.prepareReadExecutionPlan environment table filter snap =
  .ok plan)
variable (listed : db.listSegmentMetas = .ok listing)

include planned listed

lemma executionSegments_cases : plan.template = .cooperativeMerge ∧
        plan.executionSegments = listing.ofTable table ∨
      ∃ decision, plan.template = decision.template ∧
        chooseM (fun seg => seg.chosenBy plan.context decision)
          (listing.ofTable table) = .ok plan.executionSegments := by
  obtain ⟨_, _, -, relisted, -, -, routed, template⟩ := exists_of_prepareReadExecutionPlan planned
  rw [listed] at relisted
  cases relisted
  cases routing : plan.routing with
  | none =>
    rw [routing] at routed template
    exact Or.inl ⟨template, (Except.ok.inj routed).symm⟩
  | some decision =>
    rw [routing] at routed template
    obtain ⟨-, -, chosen⟩ := bind_eq_ok.mp routed
    exact Or.inr ⟨decision, template, chosen⟩

lemma sublist_executionSegments : plan.executionSegments.Sublist (listing.ofTable table) := by
  rcases executionSegments_cases planned listed with ⟨-, all⟩ | ⟨_, -, chosen⟩
  · rw [all]
  · exact sublist_of_chooseM chosen

end Planned

lemma filter_cooperativeRuntimeBudgetForPlan : (db.cooperativeRuntimeBudgetForPlan plan).filter
        (fun _ => plan.template.isCooperative) = db.cooperativeRuntimeBudgetForPlan plan := by
  unfold cooperativeRuntimeBudgetForPlan
  split
  · rename_i cooperative
    rw [cooperative]
    dsimp only
    split <;> rfl
  · rfl

/-- The second scan of a sampled one can be made. -/
def ShadowReads (db : ScanDatabase) (plan : ReadExecutionPlan) : Prop :=
  ∀ shadowPath, db.shadowRouteDecision plan = some shadowPath →
    shadowPath.template ≠ plan.template →
      ∀ segment ∈ plan.executionSegments, ∃ rows,
        segment.matchingRows plan.context plan.filter shadowPath.template =
          .ok rows

variable {shadowPath : RouteDecision} {segment : RoutedSegment}

lemma isCooperative_of_shadowRouteDecision (shadow : db.shadowRouteDecision plan = some shadowPath)
    : shadowPath.template.isCooperative = false := by
  unfold shadowRouteDecision at shadow
  obtain ⟨router, -, shadow⟩ := Option.bind_eq_some_iff.mp shadow
  obtain ⟨chosenPath, -, shadow⟩ := Option.bind_eq_some_iff.mp shadow
  split at shadow
  · cases chosenPath <;> cases shadow <;> rfl
  · cases shadow

lemma measureShadowPath_eq_ok_iff (environment) (alone : shadowPath.template.isCooperative = false)
    (runtimeBudget) : plan.measureShadowPath environment shadowPath runtimeBudget = .ok () ↔
      (shadowPath.template ≠ plan.template → ∀ segment ∈ plan.executionSegments, ∃ rows,
          segment.matchingRows plan.context plan.filter shadowPath.template = .ok rows) := by
  unfold ReadExecutionPlan.measureShadowPath
  by_cases same : shadowPath.template = plan.template
  · simp [same]
  · obtain ⟨reached, staged, cut⟩ := plan.exists_reached shadowPath.template
      runtimeBudget environment.shadowElapsed
    have all : plan.executionSegments.take reached = plan.executionSegments := by
      rw [take_eq_self_iff]
      by_contra fewer
      have := (cut reached (by omega)).mpr (by simp [alone, RunsOutBefore])
      omega
    rw [if_neg same, bind_eq_ok]
    simp only [bind_eq_ok, orFail_eq_ok, ne_eq, same, not_false_eq_true, forall_true_left]
    simp only [RoutedSegment.exists_matchingRows_iff, ← exists_mapM_eq_ok_iff]
    constructor
    · rintro ⟨outputs, read, res, filtered, -⟩
      obtain ⟨parts, matched, -⟩ := (staged res).mp ⟨outputs, read, filtered⟩
      exact ⟨parts, all ▸ matched⟩
    · rintro ⟨parts, matched⟩
      obtain ⟨outputs, read, filtered⟩ :=
        (staged parts.flatten).mpr ⟨parts, all.symm ▸ matched, rfl⟩
      exact ⟨outputs, read, _, filtered, rfl⟩

lemma exists_executed (db : ScanDatabase) (environment plan) : ∃ reached,
      (∀ res, (db.executeReadPlan environment plan).2 = .ok res ↔
        (∃ parts, (plan.executionSegments.take reached).mapM (fun segment =>
            segment.matchingBatches plan.context plan.filter plan.template) =
              .ok parts ∧ parts.flatten = res) ∧ db.ShadowReads plan) ∧
      ∀ index < plan.executionSegments.length, index < reached ↔
        ¬ RunsOutBefore (db.cooperativeRuntimeBudgetForPlan plan) environment.elapsed index := by
  obtain ⟨reached, staged, cut⟩ := plan.exists_reached plan.template
    (db.cooperativeRuntimeBudgetForPlan plan) environment.elapsed
  rw [filter_cooperativeRuntimeBudgetForPlan] at cut
  refine ⟨reached, ?_, cut⟩
  intro res
  rw [← staged res, executeReadPlan]
  rcases plan.executeSegmentReadStagesWithTemplate plan.template
      (db.cooperativeRuntimeBudgetForPlan plan) environment.elapsed with
    ⟨stats, err | outputs⟩
  · simp [andThen]
  · simp only [andThen, bind_eq_ok, orFail_eq_ok, Except.ok.injEq, exists_eq_left']
    unfold ShadowReads
    cases shadow : db.shadowRouteDecision plan with
    | none => simp [pure, Except.pure]
    | some shadowPath =>
      simp only [Option.some.injEq, forall_eq', bind_eq_ok, ← measureShadowPath_eq_ok_iff
        environment (isCooperative_of_shadowRouteDecision shadow)
        (db.cooperativeRuntimeBudgetForPlan plan)]
      constructor
      · rintro ⟨batches, filtered, _, measured, same⟩
        cases same
        exact ⟨filtered, measured⟩
      · rintro ⟨filtered, measured⟩
        exact ⟨res, filtered, (), measured, rfl⟩

/-- The plan comes to the segment. -/
def Reaches (db : ScanDatabase) (environment : ScanEnvironment)
    (plan : ReadExecutionPlan) (segment : RoutedSegment) : Prop :=
  ∃ index, plan.executionSegments[index]? = some segment ∧
    ¬ RunsOutBefore (db.cooperativeRuntimeBudgetForPlan plan)
      environment.elapsed index

lemma Reaches.mem (reaches : db.Reaches environment plan segment) :
    segment ∈ plan.executionSegments := by
  obtain ⟨idx, found, -⟩ := reaches
  exact mem_of_getElem? found

lemma reaches_of_mem (alone : plan.template.isCooperative = false)
    (mem : segment ∈ plan.executionSegments) : db.Reaches environment plan segment := by
  obtain ⟨idx, found⟩ := mem_iff_getElem?.mp mem
  refine ⟨idx, found, ?_⟩
  simp [RunsOutBefore, cooperativeRuntimeBudgetForPlan, alone]

lemma executeReadPlan_eq_ok_iff (db : ScanDatabase)
    (environment) (plan : ReadExecutionPlan) : ∃ executed : List RoutedSegment,
      executed.Sublist plan.executionSegments ∧
      (∀ segment, segment ∈ executed ↔ db.Reaches environment plan segment) ∧
      ∀ res, (db.executeReadPlan environment plan).2 = .ok res ↔
        (∃ parts, executed.mapM (fun segment =>
            segment.matchingBatches plan.context plan.filter plan.template) =
              .ok parts ∧ parts.flatten = res) ∧ db.ShadowReads plan := by
  obtain ⟨reached, returns, cut⟩ := exists_executed db environment plan
  refine ⟨plan.executionSegments.take reached, take_sublist _ _, ?_, returns⟩
  intro segment
  rw [mem_iff_getElem?]
  refine exists_congr fun idx => ?_
  rw [getElem?_take]
  by_cases mem : idx < plan.executionSegments.length
  · rw [← cut idx mem]
    split <;> simp_all
  · simp [List.getElem?_eq_none (Nat.le_of_not_lt mem)]

/-- What a scan shows of a segment. -/
structure Shows (db : ScanDatabase) (environment : ScanEnvironment)
    (plan : ReadExecutionPlan) (segment : RoutedSegment)
    (rows : List (DataRow (Option Bytes))) : Prop where
  reached : db.Reaches environment plan segment →
    segment.matchingRows plan.context plan.filter plan.template = .ok rows
  missed : ¬ db.Reaches environment plan segment → rows = []

section Result

variable {res : List ReadBatch} {segment : RoutedSegment}
    (planned : db.prepareReadExecutionPlan environment table filter snap = .ok plan)
variable (listed : db.listSegmentMetas = .ok listing)

include planned listed

lemma template_cases (mem : segment ∈ listing.ofTable table) :
    plan.template = .cooperativeMerge ∨
      (plan.template = .vortexOnly ∧ ∃ skip, segment.shouldSkip plan.context = some skip ∧
        (db.Reaches environment plan segment ↔
          skip = false ∧ segment.hasVortexLayout = true)) ∨
      plan.template = .deltaOnly ∧ (db.Reaches environment plan segment ↔
        segment.chosenBy plan.context .deltaStoreOnly = .ok true) := by
  rcases executionSegments_cases planned listed with ⟨template, -⟩ | ⟨decision, template, chosen⟩
  · exact Or.inl template
  have member : segment ∈ plan.executionSegments ↔ _ := mem_chooseM_iff chosen
  have reaches : plan.template.isCooperative = false →
      (db.Reaches environment plan segment ↔
        segment.chosenBy plan.context decision = .ok true) := fun alone =>
    ⟨fun reaches => (member.mp reaches.mem).2,
      fun passes => reaches_of_mem alone (member.mpr ⟨mem, passes⟩)⟩
  rw [template] at reaches ⊢
  cases decision with
  | merge => exact Or.inl rfl
  | deltaStoreOnly => exact Or.inr (Or.inr ⟨rfl, reaches rfl⟩)
  | vortexOnly =>
    obtain ⟨passes, tested⟩ := exists_test_of_chooseM chosen mem
    rw [reaches rfl]
    unfold RoutedSegment.chosenBy at tested ⊢
    cases asked : segment.shouldSkip plan.context with
    | none => simp [asked] at tested
    | some skip => simp [RouteDecision.template]

variable (returns : (db.executeReadPlan environment plan).2 = .ok res)

include returns

lemma rowsFrom_result (mem : segment ∈ listing.ofTable table) :
    db.Shows environment plan segment (rowsFrom segment.segId res) := by
  obtain ⟨executed, sub, reached, returned⟩ := executeReadPlan_eq_ok_iff db environment plan
  obtain ⟨⟨parts, matched, rfl⟩, -⟩ := (returned res).mp returns
  have ofTable := sub.trans (sublist_executionSegments planned listed)
  have distinct := listing.nodup_ofTable table
  constructor
  · intro reaches
    obtain ⟨part, read, rows⟩ := rowsFrom_of_executed
      (readsOwn_matchingBatches _ _ _) matched ((ofTable.map _).nodup distinct)
      ((reached segment).mpr reaches)
    rw [RoutedSegment.matchingRows, read, rows]
    rfl
  · intro missed
    refine rowsFrom_eq_nil_of_not_executed (readsOwn_matchingBatches _ _ _) matched
      fun other listed same => ?_
    have same : other = segment := inj_on_of_nodup_map distinct (ofTable.subset listed) mem same
    exact missed ((reached segment).mp (same ▸ listed))

lemma rowsFrom_result_outside (outside : ∀ segment ∈ listing.ofTable table, segment.segId ≠ segId) :
    rowsFrom segId res = [] := by
  obtain ⟨executed, sub, -, returned⟩ := executeReadPlan_eq_ok_iff db environment plan
  obtain ⟨⟨parts, matched, rfl⟩, -⟩ := (returned res).mp returns
  have ofTable := sub.trans (sublist_executionSegments planned listed)
  exact rowsFrom_eq_nil_of_not_executed (readsOwn_matchingBatches _ _ _) matched
    fun segment mem => outside segment (ofTable.subset mem)

lemma rowsFrom_unlisted (stored : segment ∈ db.storedMetas.ofTable table)
    (unlisted : segment ∉ listing.ofTable table) : rowsFrom segment.segId res = [] := by
  refine rowsFrom_result_outside planned listed returns fun other among same => ?_
  have sub := SegmentListing.ofTable_sublist (db.lists_stored listing listed) table
  have same := inj_on_of_nodup_map (db.storedMetas.nodup_ofTable table)
    (sub.subset among) stored same
  exact unlisted (same ▸ among)

end Result

end ScanDatabase

end RockDuck
