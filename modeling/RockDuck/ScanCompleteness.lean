import RockDuck.TableScan

/-!
# Complete scans

A scan that returns should have the visible matching rows of every segment of
the table.
-/

namespace RockDuck

open RoutedSegment

namespace RoutedSegment

variable (segment : RoutedSegment) (context : RouteContext) (filter : RowFilter)

/-- The rows of a full read that match. -/
def wantedRows : Except ReadFailure (List (DataRow (Option Bytes))) :=
  segment.matchingRows { context with zoneMapGroup := none } filter
    .cooperativeMerge

/-- The rows contain what is wanted of the segment.  One that cannot be read has
to be ruled out by the zone map. -/
def AccountedFor (rows : List (DataRow (Option Bytes))) : Prop :=
  match segment.wantedRows context filter with
  | .ok wanted => wanted.Subperm rows
  | .error _ => segment.shouldSkip context = some true

variable {segment context filter}

lemma accountedFor_of_wanted (wanted : segment.wantedRows context filter = .ok rows) :
    segment.AccountedFor context filter rows := by
  rw [AccountedFor, wanted]

lemma accountedFor_of_nothing (wanted : segment.wantedRows context filter = .ok [])
    (rows) : segment.AccountedFor context filter rows := by
  rw [AccountedFor, wanted]
  exact List.nil_subperm

variable {template : ReadExecutionTemplate}

lemma matchingRows_of_readSegment_nil (nothing : segment.executeSegment context template = .ok []) :
    segment.matchingRows context filter template = .ok [] := by
  rw [matchingRows, matchingBatches, readSegment, nothing]
  rfl

lemma matchingRows_of_skipped (cooperative : template.isCooperative = true)
    (skipped : segment.shouldSkip context = some true) :
    segment.matchingRows context filter template = .ok [] := by
  apply matchingRows_of_readSegment_nil
  cases template <;> simp_all [ReadExecutionTemplate.isCooperative,
    executeSegment, executeCooperativeMergeSegment]

lemma executeCooperativeMergeSegment_of_kept (kept : segment.shouldSkip context = some false) :
    segment.executeCooperativeMergeSegment { context with zoneMapGroup := none } =
      segment.executeCooperativeMergeSegment context := by
  unfold executeCooperativeMergeSegment
  rw [kept]
  rfl

lemma wantedRows_of_kept (cooperative : template.isCooperative = true)
    (kept : segment.shouldSkip context = some false) :
    segment.wantedRows context filter = segment.matchingRows context filter template := by
  have same := executeCooperativeMergeSegment_of_kept kept
  cases template with
  | deltaOnly | vortexOnly => cases cooperative
  | cooperativeMerge | historical =>
    simp only [wantedRows, matchingRows, matchingBatches, readSegment,
      executeSegment, same, schemaFor]

lemma wantedRows_of_noLayout (noLayout : segment.hasVortexLayout = false) :
    segment.wantedRows context filter = .ok [] := by
  apply matchingRows_of_readSegment_nil
  rw [executeSegment, executeCooperativeMergeSegment, readVortexSegment_eq_nil noLayout]
  rfl

lemma wantedRows_of_no_deltas (kept : segment.shouldSkip context = some false)
    (none : context.stack.query segment.segId context.snapshot = .ok []) :
    segment.wantedRows context filter = .ok [] ∨ segment.wantedRows context filter =
        segment.matchingRows context filter .vortexOnly := by
  by_cases stored : segment.readVortexSegment = .ok []
  · left
    apply matchingRows_of_readSegment_nil
    rw [executeSegment, executeCooperativeMergeSegment_of_kept kept,
      executeCooperativeMergeSegment, kept, stored]
  · right
    rw [@wantedRows_of_kept segment context filter .cooperativeMerge rfl kept]
    simp only [matchingRows, matchingBatches, readSegment, executeSegment,
      executeCooperativeMergeSegment_eq_vortexOnly none stored, schemaFor]

end RoutedSegment

namespace ScanDatabase

variable (db : ScanDatabase) (environment : ScanEnvironment)

/-- The plan does not read the segment. -/
def LeavesOut (plan : ReadExecutionPlan) (segment : RoutedSegment) : Prop :=
  match plan.template with
  | .deltaOnly => segment.hasVortexLayout = true
  | .vortexOnly => segment.shouldSkip plan.context = some true
  | .cooperativeMerge | .historical =>
    segment.shouldSkip plan.context = some true ∨
      ¬ db.Reaches environment plan segment

/-- The plan reads the segment without its deltas. -/
def ReadsStale (plan : ReadExecutionPlan) (segment : RoutedSegment) : Prop :=
  plan.template = .vortexOnly ∧ segment.shouldSkip plan.context = some false ∧
    plan.context.stack.query segment.segId plan.context.snapshot ≠ .ok []

/-- What is left out has nothing to show, and the deltas that are not looked at
would add nothing to what is stored. -/
def MissesNothing (plan : ReadExecutionPlan) (segment : RoutedSegment) : Prop :=
  (db.LeavesOut environment plan segment → segment.AccountedFor plan.context plan.filter []) ∧
  (ReadsStale plan segment → ∀ stored,
    segment.matchingRows plan.context plan.filter .vortexOnly = .ok stored →
      segment.AccountedFor plan.context plan.filter stored)

variable {db environment} {plan : ReadExecutionPlan} {segment : RoutedSegment}

lemma accountedFor_iff_of_cooperative (template : plan.template = .cooperativeMerge)
    (shows : db.Shows environment plan segment rows) :
    segment.AccountedFor plan.context plan.filter rows ↔
      db.MissesNothing environment plan segment := by
  have fresh : ¬ ReadsStale plan segment := by simp [ReadsStale, template]
  have leaves : db.LeavesOut environment plan segment ↔
      (segment.shouldSkip plan.context = some true ∨ ¬ db.Reaches environment plan segment) := by
    simp [LeavesOut, template]
  simp only [MissesNothing, leaves, fresh, false_implies, and_true]
  by_cases reaches : db.Reaches environment plan segment
  · have read := shows.reached reaches
    rw [template] at read
    cases asked : segment.shouldSkip plan.context with
    | none =>
      simp [matchingRows, matchingBatches, readSegment, executeSegment,
        executeCooperativeMergeSegment, asked, Except.map, bind,
        Except.bind] at read
    | some skip =>
      cases skip with
      | true =>
        rw [matchingRows_of_skipped rfl asked] at read
        cases read
        simp
      | false =>
        refine iff_of_true ?_ (by simp [reaches])
        exact accountedFor_of_wanted ((wantedRows_of_kept rfl asked).trans read)
  · simp [shows.missed reaches, reaches]

lemma accountedFor_iff_of_vortexOnly (template : plan.template = .vortexOnly)
    (asked : segment.shouldSkip plan.context = some skip)
    (reaches : db.Reaches environment plan segment ↔ skip = false ∧ segment.hasVortexLayout = true)
    (shows : db.Shows environment plan segment rows) :
    segment.AccountedFor plan.context plan.filter rows ↔
      db.MissesNothing environment plan segment := by
  have leaves : db.LeavesOut environment plan segment ↔
      segment.shouldSkip plan.context = some true := by
    simp [LeavesOut, template]
  simp only [MissesNothing, leaves, ReadsStale, template, asked, true_and]
  cases skip with
  | true => simp [shows.missed (by simp [reaches])]
  | false =>
    cases layout : segment.hasVortexLayout with
    | false =>
      have nothing : ∀ rows, segment.AccountedFor plan.context plan.filter rows :=
        accountedFor_of_nothing
          (wantedRows_of_noLayout layout)
      exact iff_of_true (nothing rows) (by simp [nothing])
    | true =>
      have read := shows.reached (reaches.mpr ⟨rfl, layout⟩)
      rw [template] at read
      by_cases none : plan.context.stack.query segment.segId plan.context.snapshot = .ok []
      · refine iff_of_true ?_ (by simp [none])
        rcases @RoutedSegment.wantedRows_of_no_deltas segment plan.context
            plan.filter asked none with nothing | same
        · exact accountedFor_of_nothing nothing rows
        · exact accountedFor_of_wanted (same.trans read)
      · simp [none, read]

lemma accountedFor_iff_of_deltaOnly (template : plan.template = .deltaOnly)
    (reaches : db.Reaches environment plan segment ↔
      segment.chosenBy plan.context .deltaStoreOnly = .ok true)
    (shows : db.Shows environment plan segment rows) :
    segment.AccountedFor plan.context plan.filter rows ↔
      db.MissesNothing environment plan segment := by
  have fresh : ¬ ReadsStale plan segment := by simp [ReadsStale, template]
  have leaves : db.LeavesOut environment plan segment ↔ segment.hasVortexLayout = true := by
    simp [LeavesOut, template]
  simp only [MissesNothing, leaves, fresh, false_implies, and_true]
  cases layout : segment.hasVortexLayout with
  | false =>
    exact iff_of_true (accountedFor_of_nothing (wantedRows_of_noLayout layout) rows) (by simp)
  | true => simp [shows.missed (by simp [reaches, chosenBy, layout])]

end ScanDatabase

def equalityKernels : CellKernels where
  numRows column := column.2.length
  dataTypeDebug column := column.1.display
  compare op column scalar :=
    match op, column.1, scalar with
    | .eq, .int64, .int64 value =>
      .ok (column.2.map fun cell => cell.map fun bytes => bytes == leBytes 8 (i64Pattern value))
    | _, _, _ => .error "unsupported"
  isNull column := column.2.map fun cell => some cell.isNone
  isNotNull column := column.2.map fun cell => some cell.isSome
  compare_length := by
    intro op column scalar mask compared
    split at compared
    · cases compared
      simp
    · cases compared
  isNull_length := by simp
  isNotNull_length := by simp
  numRows_cells _ := rfl

def oneRowTableSegment (segId : String) (value : UInt8) : TableSegment where
  segId := segId
  columns := [("x", .int64)]
  image :=
    { columnBatches := fun _ => some (.ok [[⟨[value, 0, 0, 0, 0, 0, 0, 0], true⟩]])
      vis := none
      visPathText := ""
      deltavis := none }
  storedType _ := .int64
  zoneMapFile _ := .missing
  tableId := "t"
  status := .active

def sevenThenEight : SegmentListing where
  metas := [oneRowTableSegment "a" 7, oneRowTableSegment "b" 8]
  distinct := by decide

/-- Two segments, merged one by one and for a millisecond at most. -/
def hurriedDatabase : ScanDatabase where
  mvcc := .new
  cachedSnapshot := none
  storedMetas := sevenThenEight
  listSegmentMetas := .ok sevenThenEight
  lists_stored := by simp
  tableStats := none
  deltaLayer := ⟨.empty, ⟨fun _ _ => .ok [], []⟩, ⟨fun _ _ => .ok [], []⟩, []⟩
  codecs := ⟨fun _ => .error (.codec "IPC read error"), fun _ => ""⟩
  kernels := equalityKernels
  parse _ := .error "unexpected token"
  router := none
  cooperativeRuntimeBudget := ⟨1, 1⟩

/-- The first slice takes the whole millisecond. -/
def slowReads : ScanEnvironment where
  orders _ := (.asStored, .asStored)
  routerOrders _ := (.asStored, .asStored)
  elapsed _ := 1
  shadowElapsed _ := 0

def hurriedPlan : ReadExecutionPlan where
  context := hurriedDatabase.routeContext hurriedDatabase.snapshot none
  filter := ⟨equalityKernels, "t", none⟩
  executionSegments := sevenThenEight.ofTable "t"
  template := .cooperativeMerge
  routing := none

def hurriedResult : List ReadBatch :=
  [⟨"a", [("x", .int64)], [[("x", some [7, 0, 0, 0, 0, 0, 0, 0])]]⟩]

end RockDuck
