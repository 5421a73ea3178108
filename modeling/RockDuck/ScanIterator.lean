import RockDuck.ScanCompleteness
import RockDuck.ZoneMapOrders

/-!
# Iterating over a scan

A scan can also be iterated over, one record batch at a time.
-/

namespace RockDuck

open List RoutedSegment ScanDatabase

attribute [local simp] Except.map

/-- The items that repeated calls hand out before they come to an end, and stay
there. -/
inductive Yields {State Panic Item : Type*}
    (next : State → State × Except Panic (Option Item)) :
    State → List Item → Prop
  | ends {state after : State} (ended : next state = (after, .ok none))
      (stays : next after = (after, .ok none)) : Yields next state []
  | item {state after : State} {item : Item} {items : List Item}
      (handed : next state = (after, .ok (some item)))
      (rest : Yields next after items) : Yields next state (item :: items)

lemma map_ok_injective : Function.Injective (List.map (@Except.ok Error Item)) :=
  map_injective_iff.mpr fun _ _ same => Except.ok.inj same

/-- Where an iteration is. -/
inductive ScanState where
  | init
  | scanning (remaining : List RoutedSegment) (pending : List ReadBatch)
      (zoneMapGroup : Option (ZoneMapPredicateGroup (Bytes × Bytes)))
  | done

/-- An iterator over a table.  Of its segments it keeps those that it did not
read yet, and of the batches it read those that it did not hand out. -/
structure ScanIterator where
  table : String
  asOfTxn : Option TxnId
  filterStr : Option String
  state : ScanState
  snapshot : Option TxnSnapshot

namespace ScanIterator

def new (table : String) (asOfTxn : Option TxnId) (filter : Option String) : ScanIterator where
  table := table
  asOfTxn := asOfTxn
  filterStr := filter
  state := .init
  snapshot := none

def readOn (context : RouteContext) :
    List RoutedSegment → List RoutedSegment × Except String (List ReadBatch)
  | [] => ([], .ok [])
  | segment :: remaining =>
    match segment.readSegment context .cooperativeMerge with
    | .error (.panicked message) => (remaining, .error message)
    | .error (.error _) => readOn context remaining
    | .ok [] => readOn context remaining
    | .ok (batch :: batches) => (remaining, .ok (batch :: batches))

/-- Read on to the next segment with batches. -/
def advanceSegments (db : ScanDatabase) (iterator : ScanIterator) :
    ScanIterator × Except ReadFailure Unit :=
  match iterator.state with
  | .init | .done => (iterator, .ok ())
  | .scanning remaining _ zoneMapGroup =>
    match iterator.snapshot with
    | none => (iterator, .error (.panicked "snapshot not initialized"))
    | some snapshot =>
      match readOn (db.routeContext snapshot zoneMapGroup) remaining with
      | (remaining, .error message) =>
        ({ iterator with state := .scanning remaining [] zoneMapGroup }, .error (.panicked message))
      | (remaining, .ok pending) =>
        if remaining.isEmpty && pending.isEmpty then
          ({ iterator with state := .done }, .ok ())
        else
          ({ iterator with
              state := .scanning remaining pending zoneMapGroup }, .ok ())

/-- Prepare the scan on the first call. -/
def ensureInit (db : ScanDatabase) (orders : HashOrders)
    (iterator : ScanIterator) : ScanIterator × Except ReadFailure Unit :=
  match iterator.state with
  | .scanning _ _ _ | .done => (iterator, .ok ())
  | .init =>
    let iterator := { iterator with snapshot := some (db.snapshotFor iterator.asOfTxn) }
    -- When this fails the state is still the initial one.
    match db.listSegmentMetas with
    | .error error => (iterator, .error (.error error))
    | .ok listing =>
      match db.parseFilter iterator.filterStr with
      | .error error => (iterator, .error (.error error))
      | .ok parsedExpr =>
        advanceSegments db { iterator with
          state := .scanning (listing.ofTable iterator.table) []
            (parsedExpr.bind (toZoneMapPredicateGroup orders)) }

/-- Hand out a pending batch. -/
def handOut (iterator : ScanIterator) :
    ScanIterator × Except String (Option (Except RockDuckError ReadBatch)) :=
  match iterator.state with
  | .scanning remaining (batch :: pending) zoneMapGroup =>
    ({ iterator with state := .scanning remaining pending zoneMapGroup }, .ok (some (.ok batch)))
  | .scanning _ [] _ | .init | .done => (iterator, .ok none)

/-- The next batch. -/
def next (db : ScanDatabase) (orders : HashOrders) (iterator : ScanIterator) :
    ScanIterator × Except String (Option (Except RockDuckError ReadBatch)) :=
  match iterator.ensureInit db orders with
  | (iterator, .error (.error error)) => (iterator, .ok (some (.error error)))
  | (iterator, .error (.panicked message)) => (iterator, .error message)
  | (iterator, .ok ()) =>
    match iterator.state with
    | .scanning _ (_ :: _) _ | .init | .done => iterator.handOut
    | .scanning [] [] _ => ({ iterator with state := .done }, .ok none)
    | .scanning (_ :: _) [] _ =>
      match iterator.advanceSegments db with
      | (iterator, .error (.error error)) =>
        ({ iterator with state := .done }, .ok (some (.error error)))
      | (iterator, .error (.panicked message)) => (iterator, .error message)
      -- Now the iterator is done or has read a batch.
      | (iterator, .ok ()) => iterator.handOut

end ScanIterator

/-- What the iterator takes from a segment, unless it panics. -/
def RoutedSegment.iteratedBatches (segment : RoutedSegment)
    (context : RouteContext) : Except String (List ReadBatch) :=
  match segment.readSegment context .cooperativeMerge with
  | .error (.panicked message) => .error message
  | .error (.error _) => .ok []
  | .ok batches => .ok batches

def iterated (context : RouteContext) (segments : List RoutedSegment) :
    Except String (List ReadBatch) :=
  (segments.mapM fun segment : RoutedSegment => segment.iteratedBatches context).map List.flatten

lemma iterated_cons (ctx seg segments) : iterated ctx (seg :: segments) =
      (seg.iteratedBatches ctx).bind fun batches =>
        (iterated ctx segments).map (batches ++ ·) := by
  rw [iterated, mapM_cons, iterated]
  cases seg.iteratedBatches ctx with
  | error msg => rfl
  | ok batches =>
    cases segments.mapM fun seg : RoutedSegment => seg.iteratedBatches ctx <;> rfl

namespace ScanIterator

/-- Reading on finds the next batches of all that is still to come. -/
lemma readOn_spec (ctx segments) : (∃ rest msg, readOn ctx segments = (rest, .error msg) ∧
      iterated ctx segments = .error msg) ∨
    ∃ rest pending, readOn ctx segments = (rest, .ok pending) ∧
      iterated ctx segments = (iterated ctx rest).map (pending ++ ·) ∧
      (pending = [] → rest = []) := by
  induction segments with
  | nil => exact Or.inr ⟨[], [], rfl, rfl, fun _ => rfl⟩
  | cons seg segments ih =>
    rw [readOn, iterated_cons, iteratedBatches]
    have skip : ((Except.ok []).bind fun batches : List ReadBatch =>
        (iterated ctx segments).map (batches ++ ·)) =
          iterated ctx segments := by
      cases iterated ctx segments <;> rfl
    cases seg.readSegment ctx .cooperativeMerge with
    | error err =>
      cases err with
      | error error =>
        simp only [skip]
        exact ih
      | panicked msg => exact Or.inl ⟨segments, msg, rfl, rfl⟩
    | ok batches =>
      cases batches with
      | nil =>
        simp only [skip]
        exact ih
      | cons batch batches => exact Or.inr ⟨segments, batch :: batches, rfl, rfl, by simp⟩

variable {db : ScanDatabase} {orders : HashOrders} {iterator : ScanIterator}

/-- What a scanning iterator still has to hand out, unless it panics. -/
def Streams (db : ScanDatabase) (iterator : ScanIterator)
    (outcome : Except String (List ReadBatch)) : Prop :=
  ∃ remaining pending zoneMapGroup snapshot,
    iterator.state = .scanning remaining pending zoneMapGroup ∧
    iterator.snapshot = some snapshot ∧
    (iterated (db.routeContext snapshot zoneMapGroup) remaining).map
      (pending ++ ·) = outcome

/-- One call hands out the first batch, ends, or leads towards a panic. -/
lemma Streams.next (streams : Streams db iterator out) (orders) :
    (out = .ok [] ∧ ∃ after, iterator.next db orders = (after, .ok none) ∧
      after.state = .done) ∨ (∃ after batch rest, out = rest.map (batch :: ·) ∧
      iterator.next db orders = (after, .ok (some (.ok batch))) ∧ Streams db after rest) ∨
    ∃ after msg, out = .error msg ∧ iterator.next db orders = (after, .error msg) := by
  obtain ⟨remaining, pending, zoneMapGroup, snap, state, taken, rfl⟩ := streams
  have initialised : iterator.ensureInit db orders = (iterator, .ok ()) := by rw [ensureInit, state]
  rw [ScanIterator.next, initialised]
  cases pending with
  | cons batch pending =>
    refine Or.inr (Or.inl
      ⟨{ iterator with state := .scanning remaining pending zoneMapGroup }, batch,
        _, ?_, by simp only [state, handOut],
        remaining, pending, zoneMapGroup, snap, rfl, taken, rfl⟩)
    cases iterated (db.routeContext snap zoneMapGroup) remaining <;> rfl
  | nil =>
    cases remaining with
    | nil =>
      exact Or.inl ⟨rfl, { iterator with state := .done }, by simp only [state], rfl⟩
    | cons seg remaining =>
      simp only [state, advanceSegments, taken]
      rcases readOn_spec (db.routeContext snap zoneMapGroup) (seg :: remaining) with
        ⟨rest, msg, read, panics⟩ | ⟨rest, pending, read, comes, last⟩
      · rw [read, panics]
        exact Or.inr (Or.inr ⟨_, msg, rfl, rfl⟩)
      · rw [read, comes]
        cases pending with
        | nil =>
          rw [last rfl]
          exact Or.inl ⟨rfl, { iterator with state := .done }, by simp [handOut, taken], rfl⟩
        | cons batch pending =>
          refine Or.inr (Or.inl ⟨{ iterator with state := .scanning rest pending zoneMapGroup },
              batch, (iterated (db.routeContext snap zoneMapGroup)
                rest).map (pending ++ ·), ?_, by simp [handOut, taken],
              rest, pending, zoneMapGroup, snap, rfl, taken, rfl⟩)
          cases iterated (db.routeContext snap zoneMapGroup) rest <;> rfl

lemma next_of_done (done : iterator.state = .done) :
    iterator.next db orders = (iterator, .ok none) := by
  simp [ScanIterator.next, ensureInit, handOut, done]

lemma Streams.yields_iff (streams : Streams db iterator out) :
    Yields (ScanIterator.next db orders) iterator items ↔
      ∃ batches, out = .ok batches ∧ items = batches.map .ok := by
  constructor
  · intro yields
    induction yields generalizing out with
    | ends ended stays =>
      rcases streams.next orders with ⟨rfl, -⟩ | ⟨_, _, _, -, handed, -⟩ | ⟨_, _, -, panics⟩
      · exact ⟨[], rfl, rfl⟩
      · rw [ended] at handed
        cases handed
      · rw [ended] at panics
        cases panics
    | item handed rest ih =>
      rcases streams.next orders with
        ⟨-, _, ended, -⟩ | ⟨_, batch, later, rfl, handed', onward⟩ | ⟨_, _, -, panics⟩
      · rw [handed] at ended
        cases ended
      · rw [handed] at handed'
        cases handed'
        obtain ⟨batches, rfl, rfl⟩ := ih onward
        exact ⟨batch :: batches, rfl, rfl⟩
      · rw [handed] at panics
        cases panics
  · rintro ⟨batches, rfl, rfl⟩
    induction batches generalizing iterator with
    | nil =>
      rcases streams.next orders with
        ⟨-, after, ended, done⟩ | ⟨_, _, rest, same, -⟩ | ⟨_, _, impossible, -⟩
      · exact .ends ended (next_of_done done)
      · cases rest <;> cases same
      · cases impossible
    | cons batch batches ih =>
      rcases streams.next orders with ⟨impossible, -⟩ | ⟨after, _, rest, same, handed, onward⟩ |
        ⟨_, _, impossible, -⟩
      · cases impossible
      · cases rest with
        | error msg => cases same
        | ok later =>
          cases same
          exact .item handed (ih onward)
      · cases impossible

variable {table : String} {asOfTxn : Option TxnId} {filter : Option String}
    {listing : SegmentListing} {parsedExpr : Option ParsedExpr}

section

variable (listed : db.listSegmentMetas = .ok listing)
    (parsed : db.parseFilter filter = .ok parsedExpr)
include listed parsed

lemma next_new : (new table asOfTxn filter).next db orders = ScanIterator.next db orders
        { table := table, asOfTxn := asOfTxn, filterStr := filter,
          state := .scanning (listing.ofTable table) []
            (parsedExpr.bind (toZoneMapPredicateGroup orders)),
          snapshot := some (db.snapshotFor asOfTxn) } := by
  simp only [ScanIterator.next, ensureInit, new, listed, parsed]
  cases listing.ofTable table with
  | nil => rfl
  | cons seg segments =>
    simp only [advanceSegments]
    rcases readOn_spec (db.routeContext (db.snapshotFor asOfTxn)
        (parsedExpr.bind (toZoneMapPredicateGroup orders)))
        (seg :: segments) with
      ⟨rest, msg, read, -⟩ | ⟨rest, pending, read, -, last⟩
    · rw [read]
    · rw [read]
      cases pending with
      | nil =>
        rw [last rfl]
        rfl
      | cons batch pending => simp

lemma yields_new_iff : Yields (ScanIterator.next db orders) (new table asOfTxn filter) items ↔
      ∃ batches, iterated (db.routeContext (db.snapshotFor asOfTxn)
          (parsedExpr.bind (toZoneMapPredicateGroup orders)))
          (listing.ofTable table) = .ok batches ∧ items = batches.map .ok := by
  have streams : Streams db
      { table := table, asOfTxn := asOfTxn, filterStr := filter,
        state := .scanning (listing.ofTable table) []
          (parsedExpr.bind (toZoneMapPredicateGroup orders)),
        snapshot := some (db.snapshotFor asOfTxn) }
      (iterated (db.routeContext (db.snapshotFor asOfTxn)
        (parsedExpr.bind (toZoneMapPredicateGroup orders)))
        (listing.ofTable table)) := by
    refine ⟨_, _, _, _, rfl, rfl, ?_⟩
    cases iterated (db.routeContext (db.snapshotFor asOfTxn)
      (parsedExpr.bind (toZoneMapPredicateGroup orders)))
      (listing.ofTable table) <;> rfl
  rw [← streams.yields_iff]
  have same : (new table asOfTxn filter).next db orders = _ := next_new listed parsed
  constructor
  · intro yields
    cases yields with
    | ends ended stays => exact .ends (same ▸ ended) stays
    | item handed rest => exact .item (same ▸ handed) rest
  · intro yields
    cases yields with
    | ends ended stays => exact .ends (same.trans ended) stays
    | item handed rest => exact .item (same.trans handed) rest

end

lemma not_yields_of_init_failed
    (failed : db.listSegmentMetas = .error error ∨ (∃ listing, db.listSegmentMetas = .ok listing) ∧
        db.parseFilter iterator.filterStr = .error error) (initial : iterator.state = .init)
    (items) : ¬ Yields (ScanIterator.next db orders) iterator items := by
  intro yields
  induction yields with
  | @ends state after ended stays =>
    rcases failed with unlisted | ⟨⟨listing, mem⟩, unparsed⟩ <;>
      simp_all [ScanIterator.next, ensureInit]
  | @item state after item items handed rest ih =>
    have again : after = { state with snapshot := some (db.snapshotFor state.asOfTxn) } := by
      rcases failed with unlisted | ⟨⟨listing, mem⟩, unparsed⟩ <;>
        simp_all [ScanIterator.next, ensureInit]
    subst again
    exact ih failed initial

end ScanIterator

open ScanIterator

section KeepsAll

variable {Row : Type*}

lemma keepMarked_sublist (rows : List Row) (mask : List Bool) :
    (keepMarked rows mask).Sublist rows := by
  induction rows generalizing mask with
  | nil => simp [keepMarked]
  | cons row rows ih =>
    cases mask with
    | nil => simp [keepMarked]
    | cons flag mask =>
      cases flag with
      | true => exact (ih mask).cons_cons row
      | false => exact (ih mask).cons row

lemma keepMarked_eq_self_iff {rows : List Row} {mask : List Bool}
    (sameLength : mask.length = rows.length) :
    keepMarked rows mask = rows ↔ ∀ flag ∈ mask, flag = true := by
  rw [← (keepMarked_sublist rows mask).length_eq, length_keepMarked sameLength, ← sameLength,
    count_eq_length]
  simp [eq_comm]

lemma length_evaluate {Column Float64 : Type*} {kernels : ArrowKernels Column Float64}
    {expr : Expr Float64} {batch : FilterBatch kernels} {mask : List (Option Bool)}
    (evaluates : evaluate expr batch = .ok mask) : mask.length = batch.numRows := by
  induction expr generalizing mask with
  | comparison col op val => exact evaluateComparison_length evaluates
  | and left right leftIh rightIh | or left right leftIh rightIh =>
    obtain ⟨leftMask, leftOk, evaluates⟩ := bind_eq_ok.mp evaluates
    obtain ⟨rightMask, rightOk, same⟩ := bind_eq_ok.mp evaluates
    cases same
    simp [leftIh leftOk, rightIh rightOk]
  | not inner ih =>
    obtain ⟨innerMask, innerOk, same⟩ := bind_eq_ok.mp evaluates
    cases same
    simp [ih innerOk]

/-- The filter keeps all rows of the batch. -/
def RowFilter.KeepsAll (filter : RowFilter) (batch : ReadBatch) : Prop :=
  ∀ expr, filter.parsedExpr = some expr → ∀ predicate,
    evaluate expr (batch.toFilterBatch filter.kernels) = .ok predicate →
      ∀ value ∈ predicate, value = some true

lemma RowFilter.rows_of_apply {filter : RowFilter}
    (applied : filter.apply batch = .ok left) : left.rows.Sublist batch.rows ∧
      (left.rows = batch.rows ↔ filter.KeepsAll batch) := by
  unfold RowFilter.apply at applied
  cases given : filter.parsedExpr with
  | none =>
    rw [given] at applied
    cases applied
    exact ⟨List.Sublist.refl _, by simp [KeepsAll, given]⟩
  | some expr =>
    simp only [given, filterBatch] at applied
    cases evaluated : evaluate expr (batch.toFilterBatch filter.kernels) with
    | error error => simp [evaluated] at applied
    | ok predicate =>
      have length : predicate.length = batch.rows.length := length_evaluate evaluated
      simp only [evaluated, filterRecordBatch, length, lt_irrefl, if_false,
        Except.ok.injEq] at applied
      subst applied
      refine ⟨keepMarked_sublist _ _, ?_⟩
      rw [keepMarked_eq_self_iff (by simpa using length)]
      simp [KeepsAll, given, evaluated]

section Parts

variable {batches lefts : List ReadBatch}

section

variable
    (parts : List.Forall₂ (fun batch left : ReadBatch => left.rows.Sublist batch.rows) batches
      lefts)
include parts

lemma flatMap_rows_sublist :
    (lefts.flatMap ReadBatch.rows).Sublist (batches.flatMap ReadBatch.rows) := by
  induction parts with
  | nil => exact List.Sublist.refl _
  | cons first _ ih => exact first.append ih

lemma flatMap_rows_eq_iff : lefts.flatMap ReadBatch.rows = batches.flatMap ReadBatch.rows ↔
      List.Forall₂ (fun batch left : ReadBatch => left.rows = batch.rows) batches lefts := by
  induction parts with
  | nil => simp
  | cons first rest ih =>
    rw [forall₂_cons, flatMap_cons, flatMap_cons]
    constructor
    · intro same
      have lengths := congrArg List.length same
      rw [length_append, length_append] at lengths
      have here := first.length_le
      have later := (flatMap_rows_sublist rest).length_le
      obtain ⟨here, later⟩ := append_inj same (by omega)
      exact ⟨here, ih.mp later⟩
    · rintro ⟨here, later⟩
      rw [here, ih.mpr later]

end

end Parts

end KeepsAll

namespace RoutedSegment

variable (segment : RoutedSegment) (context : RouteContext) (filter : RowFilter)

/-- The rows that the iterator takes from the segment, unless it panics. -/
def iteratedRows : Except String (List (DataRow (Option Bytes))) :=
  (segment.iteratedBatches context).map (·.flatMap ReadBatch.rows)

def AllMatch (template : ReadExecutionTemplate) : Prop :=
  ∀ batches, segment.readSegment context template = .ok batches →
    ∀ batch ∈ batches, filter.KeepsAll batch

variable {segment context filter}

variable {batches : List ReadBatch} {rows : List (DataRow (Option Bytes))}

lemma eq_matchingRows_iff (read : segment.readSegment context template = .ok batches)
    (matching : segment.matchingRows context filter template = .ok rows) :
    batches.flatMap ReadBatch.rows = rows ↔ segment.AllMatch context filter template := by
  rw [matchingRows, matchingBatches, read] at matching
  simp only [bind, Except.bind] at matching
  cases filtered : batches.mapM fun batch => orFail (filter.apply batch) with
  | error err => simp [filtered] at matching
  | ok lefts =>
    simp only [filtered, Except.map, Except.ok.injEq] at matching
    subst matching
    have applied := (mapM_eq_ok_iff.mp filtered).imp fun batch left made =>
      RowFilter.rows_of_apply (orFail_eq_ok.mp made)
    rw [eq_comm, flatMap_rows_eq_iff (applied.imp fun _ _ both => both.1), AllMatch, read]
    simp only [Except.ok.injEq, forall_eq']
    constructor
    · intro same batch mem
      obtain ⟨left, -, kept, iff⟩ := exists_partner_of_forall₂ same applied mem
      exact iff.2.mp kept
    · intro all
      refine (forall₂_iff_get.mpr ⟨applied.length_eq, ?_⟩)
      intro idx inside inside'
      have both := (forall₂_iff_get.mp applied).2 idx inside inside'
      exact both.2.mpr (all _ (get_mem _ _))

/-- The contexts differ in the order of their zone map predicates only. -/
structure SameScan (context other : RouteContext) : Prop where
  rest : { context with zoneMapGroup := none } =
    { other with zoneMapGroup := none }
  groups : ∃ (parsedExpr : Option ParsedExpr) (orders orders' : HashOrders),
    context.zoneMapGroup = parsedExpr.bind (toZoneMapPredicateGroup orders) ∧
      other.zoneMapGroup = parsedExpr.bind (toZoneMapPredicateGroup orders')

lemma SameScan.skip_eq (same : SameScan context other)
    (asked : segment.shouldSkip context = some skip)
    (asked' : segment.shouldSkip other = some skip') : skip = skip' := by
  obtain ⟨parsedExpr, orders, orders', group, group'⟩ := same.groups
  unfold shouldSkip at asked asked'
  rw [group] at asked
  rw [group'] at asked'
  exact SegmentZoneMaps.shouldSkip_orders _ asked asked'

lemma exists_skip_of_iteratedRows (taken : segment.iteratedRows context = .ok rows) :
    ∃ skip, segment.shouldSkip context = some skip ∧ (skip = true → rows = []) := by
  unfold iteratedRows iteratedBatches readSegment executeSegment
    executeCooperativeMergeSegment at taken
  cases asked : segment.shouldSkip context with
  | none => simp [asked, zoneMapPanic] at taken
  | some skip =>
    refine ⟨skip, rfl, ?_⟩
    rintro rfl
    simpa [asked] using taken.symm

lemma iteratedRows_of_read (read : segment.readSegment context .cooperativeMerge = .ok batches) :
    segment.iteratedRows context = .ok (batches.flatMap ReadBatch.rows) := by
  rw [iteratedRows, iteratedBatches, read]
  rfl

/-- Where both keep the segment, the order of the hash tables does not show. -/
lemma SameScan.readSegment_eq (same : SameScan context other)
    (kept : segment.shouldSkip context = some false) (kept' : segment.shouldSkip other = some false)
    : segment.readSegment context .cooperativeMerge =
      segment.readSegment other .cooperativeMerge := by
  have executed : segment.executeCooperativeMergeSegment context =
      segment.executeCooperativeMergeSegment other := by
    rw [← executeCooperativeMergeSegment_of_kept kept, same.rest,
      executeCooperativeMergeSegment_of_kept kept']
  simp only [readSegment, executeSegment, executed]

lemma iteratedRows_of_noLayout (noLayout : segment.hasVortexLayout = false)
    (taken : segment.iteratedRows context = .ok rows) : rows = [] := by
  obtain ⟨skip, asked, skipped⟩ := exists_skip_of_iteratedRows taken
  cases skip with
  | true => exact skipped rfl
  | false =>
    have nothing : segment.readSegment context .cooperativeMerge = .ok [] := by
      rw [readSegment, executeSegment, executeCooperativeMergeSegment, asked,
        readVortexSegment_eq_nil noLayout]
      rfl
    rw [iteratedRows_of_read nothing] at taken
    cases taken
    rfl

section Shown

lemma exists_readSegment_of_matchingRows
    (matching : segment.matchingRows context filter template = .ok rows) :
    ∃ batches, segment.readSegment context template = .ok batches := by
  obtain ⟨batches, matched⟩ := exists_matchingRows_iff.mp ⟨rows, matching⟩
  obtain ⟨stored, read, -⟩ := bind_eq_ok.mp matched
  exact ⟨stored, read⟩

lemma exists_skip_of_readSegment
    (read : segment.readSegment context .cooperativeMerge = .ok batches) :
    ∃ skip, segment.shouldSkip context = some skip ∧ (skip = true → batches = []) := by
  unfold readSegment executeSegment executeCooperativeMergeSegment at read
  cases asked : segment.shouldSkip context with
  | none => simp [asked] at read
  | some skip =>
    refine ⟨skip, rfl, ?_⟩
    rintro rfl
    simpa [asked] using read.symm

lemma allMatch_of_nothing (nothing : segment.readSegment context template = .ok []) :
    segment.AllMatch context filter template := by
  simp [AllMatch, nothing]

lemma SameScan.shown_eq_iff_merged (same : SameScan context other)
    (taken : segment.iteratedRows other = .ok shown)
    (matching : segment.matchingRows context filter .cooperativeMerge = .ok rows) :
    shown = rows ↔ segment.AllMatch context filter .cooperativeMerge := by
  obtain ⟨batches, read⟩ := exists_readSegment_of_matchingRows matching
  obtain ⟨skip, asked, skipped⟩ := exists_skip_of_readSegment read
  obtain ⟨skip', asked', skipped'⟩ := exists_skip_of_iteratedRows taken
  have agree := same.skip_eq asked asked'
  subst agree
  cases skip with
  | true =>
    rw [skipped rfl] at read
    rw [matchingRows_of_skipped rfl asked] at matching
    cases matching
    exact iff_of_true (skipped' rfl) (allMatch_of_nothing read)
  | false =>
    rw [iteratedRows_of_read ((same.readSegment_eq asked asked').symm.trans read)] at taken
    cases taken
    exact eq_matchingRows_iff read matching

lemma SameScan.shown_eq_iff_stored (same : SameScan context other)
    (kept : segment.shouldSkip context = some false)
    (none : context.stack.query segment.segId context.snapshot = .ok [])
    (taken : segment.iteratedRows other = .ok shown)
    (matching : segment.matchingRows context filter .vortexOnly = .ok rows) :
    shown = rows ↔ segment.AllMatch context filter .vortexOnly := by
  obtain ⟨batches, read⟩ := exists_readSegment_of_matchingRows matching
  obtain ⟨skip', asked', -⟩ := exists_skip_of_iteratedRows taken
  have agree := same.skip_eq kept asked'
  subst agree
  rw [← eq_matchingRows_iff read matching]
  have merged := same.readSegment_eq kept asked'
  by_cases stored : segment.readVortexSegment = .ok []
  · have nothing : segment.readSegment context .cooperativeMerge = .ok [] := by
      rw [readSegment, executeSegment, executeCooperativeMergeSegment, kept, stored]
      rfl
    have scanned : batches = [] := by
      unfold readSegment executeSegment executeVortexOnlySegment SegmentImage.scanRows at read
      rw [kept, stored] at read
      cases vis : segment.image.readVisibilityBatches with
      | error error => simp [vis] at read
      | ok visBatches' =>
        cases deletedRows : segment.image.readDeletedRows with
        | error error => simp [vis, deletedRows] at read
        | ok deletedRows' =>
          simpa [vis, deletedRows, filterBatchesByVisibilityImpl, filterFrom] using read.symm
    rw [iteratedRows_of_read (merged.symm.trans nothing)] at taken
    cases taken
    rw [scanned]
  · have whole : segment.readSegment context .cooperativeMerge = .ok batches := by
      rw [← read]
      simp only [readSegment, executeSegment,
        executeCooperativeMergeSegment_eq_vortexOnly none stored, schemaFor]
    rw [iteratedRows_of_read (merged.symm.trans whole)] at taken
    cases taken
    rfl

end Shown

end RoutedSegment

namespace ScanDatabase

/-- All that the plan reads can be read. -/
def Readable (db : ScanDatabase) (environment : ScanEnvironment)
    (plan : ReadExecutionPlan) : Prop :=
  (∀ segment, db.Reaches environment plan segment → ∃ rows,
    segment.matchingRows plan.context plan.filter plan.template = .ok rows) ∧
  db.ShadowReads plan

def IteratesAs (db : ScanDatabase) (environment : ScanEnvironment)
    (plan : ReadExecutionPlan) (context : RouteContext) (segment : RoutedSegment) : Prop :=
  ∃ shown, segment.iteratedRows context = .ok shown ∧
    match plan.template with
    | .deltaOnly => shown = [] ∧
        (segment.chosenBy plan.context .deltaStoreOnly = .ok true →
          segment.matchingRows plan.context plan.filter .deltaOnly = .ok [])
    | .vortexOnly => segment.shouldSkip plan.context = some false →
        segment.hasVortexLayout = true →
          (plan.context.stack.query segment.segId plan.context.snapshot = .ok [] →
            segment.AllMatch plan.context plan.filter .vortexOnly) ∧
          (plan.context.stack.query segment.segId plan.context.snapshot ≠ .ok [] →
            segment.matchingRows plan.context plan.filter .vortexOnly = .ok shown)
    | .cooperativeMerge | .historical =>
      (db.Reaches environment plan segment →
        segment.AllMatch plan.context plan.filter .cooperativeMerge) ∧
      (¬ db.Reaches environment plan segment → shown = [])

variable {db : ScanDatabase} {environment : ScanEnvironment} {plan : ReadExecutionPlan}
    {context : RouteContext} {segment : RoutedSegment}

lemma iteratedRows_iff_of_cooperative (same : RoutedSegment.SameScan plan.context context)
    (template : plan.template = .cooperativeMerge)
    (shows : db.Shows environment plan segment rows) : segment.iteratedRows context = .ok rows ↔
      db.IteratesAs environment plan context segment := by
  have reached := shows.reached
  simp only [IteratesAs, template] at reached ⊢
  constructor
  · intro taken
    refine ⟨rows, taken, fun reaches => ?_, shows.missed⟩
    exact (same.shown_eq_iff_merged taken (reached reaches)).mp rfl
  · rintro ⟨shown, taken, whole, nothing⟩
    by_cases reaches : db.Reaches environment plan segment
    · rw [taken, (same.shown_eq_iff_merged taken (reached reaches)).mpr (whole reaches)]
    · rw [taken, nothing reaches, shows.missed reaches]

lemma iteratedRows_iff_of_vortexOnly (same : RoutedSegment.SameScan plan.context context)
    (template : plan.template = .vortexOnly) (asked : segment.shouldSkip plan.context = some skip)
    (reaches : db.Reaches environment plan segment ↔ skip = false ∧ segment.hasVortexLayout = true)
    (shows : db.Shows environment plan segment rows) : segment.iteratedRows context = .ok rows ↔
      db.IteratesAs environment plan context segment := by
  simp only [IteratesAs, template]
  by_cases left : skip = true ∨ segment.hasVortexLayout = false
  · have none : rows = [] := shows.missed (by rcases left with rfl | noLayout <;> simp_all)
    have nothing : ∀ shown, segment.iteratedRows context = .ok shown → shown = [] := by
      intro shown taken
      rcases left with rfl | noLayout
      · obtain ⟨skip', asked', skipped'⟩ := exists_skip_of_iteratedRows taken
        exact skipped' (same.skip_eq asked asked').symm
      · exact iteratedRows_of_noLayout noLayout taken
    constructor
    · intro taken
      exact ⟨rows, taken, by rcases left with rfl | noLayout <;> simp_all⟩
    · rintro ⟨shown, taken, -⟩
      rw [taken, nothing shown taken, none]
  · obtain ⟨rfl, layout⟩ : skip = false ∧ segment.hasVortexLayout = true := by simpa using left
    have read := shows.reached (reaches.mpr ⟨rfl, layout⟩)
    rw [template] at read
    simp only [asked, layout, forall_true_left]
    constructor
    · intro taken
      refine ⟨rows, taken, fun none => ?_, fun _ => read⟩
      exact (same.shown_eq_iff_stored asked none taken read).mp rfl
    · rintro ⟨shown, taken, whole, stale⟩
      by_cases none : plan.context.stack.query segment.segId plan.context.snapshot = .ok []
      · rw [taken, (same.shown_eq_iff_stored asked none taken read).mpr (whole none)]
      · have same := (stale none).symm.trans read
        cases same
        exact taken

lemma iteratedRows_iff_of_deltaOnly (template : plan.template = .deltaOnly)
    (reaches : db.Reaches environment plan segment ↔
      segment.chosenBy plan.context .deltaStoreOnly = .ok true)
    (shows : db.Shows environment plan segment rows) : segment.iteratedRows context = .ok rows ↔
      db.IteratesAs environment plan context segment := by
  have reached := shows.reached
  have missed := shows.missed
  simp only [IteratesAs, template, reaches] at reached missed ⊢
  by_cases passes : segment.chosenBy plan.context .deltaStoreOnly = .ok true
  · have read := reached passes
    have noLayout : segment.hasVortexLayout = false := by
      simp only [chosenBy, Except.ok.injEq, Bool.and_eq_true, Bool.not_eq_true'] at passes
      exact passes.2
    constructor
    · intro taken
      have none := iteratedRows_of_noLayout noLayout taken
      exact ⟨rows, taken, none, fun _ => by rw [read, none]⟩
    · rintro ⟨shown, taken, none, matching⟩
      have same := (matching passes).symm.trans read
      cases same
      rw [taken, none]
  · have none := missed passes
    constructor
    · intro taken
      exact ⟨rows, taken, none, fun passed => absurd passed passes⟩
    · rintro ⟨shown, taken, nothing, -⟩
      rw [taken, nothing, none]

variable {table : String} {filter : Option String} {snap : TxnSnapshot}
    {listing : SegmentListing} {result : List ReadBatch}

lemma iteratedRows_result_iff
    (planned : db.prepareReadExecutionPlan environment table filter snap = .ok plan)
    (listed : db.listSegmentMetas = .ok listing)
    (returns : (db.executeReadPlan environment plan).2 = .ok result)
    (same : RoutedSegment.SameScan plan.context context) (mem : segment ∈ listing.ofTable table) :
    segment.iteratedRows context = .ok (rowsFrom segment.segId result) ↔
      db.IteratesAs environment plan context segment := by
  have shows := rowsFrom_result planned listed returns mem
  rcases template_cases planned listed mem with
    template | ⟨template, skip, asked, reaches⟩ | ⟨template, reaches⟩
  · exact iteratedRows_iff_of_cooperative same template shows
  · exact iteratedRows_iff_of_vortexOnly same template asked reaches shows
  · exact iteratedRows_iff_of_deltaOnly template reaches shows

lemma exists_executeReadPlan_iff :
    (∃ result, (db.executeReadPlan environment plan).2 = .ok result) ↔
      db.Readable environment plan := by
  obtain ⟨executed, -, reached, returned⟩ := executeReadPlan_eq_ok_iff db environment plan
  simp only [returned, Readable, exists_and_right, exists_matchingRows_iff, ← reached]
  rw [← exists_mapM_eq_ok_iff]
  refine and_congr_left fun _ => ⟨?_, ?_⟩
  · rintro ⟨_, parts, matched, -⟩
    exact ⟨parts, matched⟩
  · rintro ⟨parts, matched⟩
    exact ⟨_, parts, matched, rfl⟩

lemma iterated_rows_iff (listing : SegmentListing) (table)
    {rowsIn : String → List (DataRow (Option Bytes))}
    (outside : ∀ segId, (∀ segment ∈ listing.ofTable table,
      segment.segId ≠ segId) → rowsIn segId = []) :
    (∃ batches, iterated context (listing.ofTable table) = .ok batches ∧
        ∀ segId, rowsFrom segId batches = rowsIn segId) ↔ ∀ segment ∈ listing.ofTable table,
        segment.iteratedRows context = .ok (rowsIn segment.segId) := by
  have own : ReadsOwn fun segment : RoutedSegment => segment.iteratedBatches context := by
    intro segment batches taken batch mem
    unfold iteratedBatches at taken
    cases read : segment.readSegment context .cooperativeMerge with
    | error err => cases err <;> simp_all
    | ok stored =>
      simp only [read, Except.ok.injEq] at taken
      subst taken
      exact segId_of_mem_readSegment read mem
  have distinct := listing.nodup_ofTable table
  unfold iterated
  constructor
  · rintro ⟨batches, taken, rows⟩ segment mem
    cases made : (listing.ofTable table).mapM fun segment => segment.iteratedBatches context with
    | error msg => simp [made] at taken
    | ok parts =>
      simp only [made, Except.map, Except.ok.injEq] at taken
      subst taken
      obtain ⟨part, found, same⟩ := rowsFrom_of_executed own made distinct mem
      rw [iteratedRows, found, ← rows segment.segId, same]
      rfl
  · intro each
    obtain ⟨parts, made⟩ : ∃ parts, (listing.ofTable table).mapM (fun segment =>
        segment.iteratedBatches context) = .ok parts := by
      rw [exists_mapM_eq_ok_iff]
      intro segment mem
      have taken := each segment mem
      unfold iteratedRows at taken
      cases found : segment.iteratedBatches context with
      | error msg => simp [found] at taken
      | ok batches => exact ⟨batches, rfl⟩
    refine ⟨parts.flatten, by rw [made]; rfl, fun segId => ?_⟩
    by_cases inside : ∃ segment ∈ listing.ofTable table, segment.segId = segId
    · obtain ⟨segment, mem, rfl⟩ := inside
      obtain ⟨part, found, same⟩ := rowsFrom_of_executed own made distinct mem
      have taken := each segment mem
      rw [iteratedRows, found] at taken
      rw [same]
      exact Except.ok.inj taken
    · have absent : ∀ segment ∈ listing.ofTable table, segment.segId ≠ segId :=
        fun segment mem same => inside ⟨segment, mem, same⟩
      rw [rowsFrom_eq_nil_of_not_executed own made absent, outside segId absent]

/-- The iterator hands out the rows of a scan that returns and then ends, it does
not end without an error where the scan fails, and it reports an error of its
initialisation once and then ends. -/
structure IteratorAgrees (db : ScanDatabase) (environment : ScanEnvironment)
    (orders : HashOrders) (table : String) (asOfTxn : Option TxnId)
    (filter : Option String) : Prop where
  returns : ∀ result, db.scanFor environment table asOfTxn filter = .ok result →
    ∃ batches, Yields (ScanIterator.next db orders)
        (ScanIterator.new table asOfTxn filter) (batches.map .ok) ∧
      ∀ segId, rowsFrom segId batches = rowsFrom segId result
  fails : ∀ failure, db.scanFor environment table asOfTxn filter = .error failure →
    ∀ batches : List ReadBatch, ¬ Yields (ScanIterator.next db orders)
      (ScanIterator.new table asOfTxn filter) (batches.map .ok)
  init : ∀ error, ((ScanIterator.new table asOfTxn filter).ensureInit db orders).2 =
      .error (.error error) →
    Yields (ScanIterator.next db orders) (ScanIterator.new table asOfTxn filter)
      [.error error]

variable {orders : HashOrders} {asOfTxn : Option TxnId} {parsedExpr : Option ParsedExpr}

lemma IteratorAgrees.exists_init
    (agrees : db.IteratorAgrees environment orders table asOfTxn filter) :
    ∃ listing parsedExpr, db.listSegmentMetas = .ok listing ∧
      db.parseFilter filter = .ok parsedExpr := by
  cases mem : db.listSegmentMetas with
  | error error =>
    have failed : ((new table asOfTxn filter).ensureInit db orders).2 = .error (.error error) := by
      simp [ensureInit, new, mem]
    exact absurd (agrees.init error failed) (not_yields_of_init_failed (Or.inl mem) rfl _)
  | ok listing =>
    cases parsed : db.parseFilter filter with
    | error error =>
      have failed : ((new table asOfTxn filter).ensureInit db
          orders).2 = .error (.error error) := by
        simp [ensureInit, new, mem, parsed]
      exact absurd (agrees.init error failed)
        (not_yields_of_init_failed (Or.inr ⟨⟨listing, mem⟩, parsed⟩) rfl _)
    | ok parsedExpr => exact ⟨listing, parsedExpr, rfl, rfl⟩

lemma ensureInit_ne_error (mem : db.listSegmentMetas = .ok listing)
    (parsed : db.parseFilter filter = .ok parsedExpr) (error) :
    ((new table asOfTxn filter).ensureInit db orders).2 ≠ .error (.error error) := by
  simp only [ensureInit, new, mem, parsed, advanceSegments]
  rcases readOn_spec (db.routeContext (db.snapshotFor asOfTxn)
      (parsedExpr.bind (toZoneMapPredicateGroup orders)))
      (listing.ofTable table) with
    ⟨rest, msg, read, -⟩ | ⟨rest, pending, read, -⟩
  · simp [read]
  · rw [read]
    dsimp only
    split <;> simp

lemma sameScan_of_plan (parsed : db.parseFilter filter = .ok parsedExpr)
    (planned : db.prepareReadExecutionPlan environment table filter snap = .ok plan) :
    RoutedSegment.SameScan plan.context (db.routeContext snap
      (parsedExpr.bind (toZoneMapPredicateGroup orders))) := by
  obtain ⟨parsedExpr', -, parsed', -, context, -⟩ := exists_of_prepareReadExecutionPlan planned
  rw [parsed] at parsed'
  cases parsed'
  rw [context]
  exact ⟨rfl, parsedExpr, environment.orders, orders, rfl, rfl⟩

lemma exists_yields_iff (listed : db.listSegmentMetas = .ok listing)
    (parsed : db.parseFilter filter = .ok parsedExpr)
    (planned : db.prepareReadExecutionPlan environment table filter
      (db.snapshotFor asOfTxn) = .ok plan)
    (returns : (db.executeReadPlan environment plan).2 = .ok result) :
    (∃ batches, Yields (next db orders) (new table asOfTxn filter)
        (batches.map .ok) ∧ ∀ segId, rowsFrom segId batches = rowsFrom segId result) ↔
    ∀ segment ∈ listing.ofTable table, db.IteratesAs environment plan
      (db.routeContext (db.snapshotFor asOfTxn)
        (parsedExpr.bind (toZoneMapPredicateGroup orders))) segment := by
  simp only [yields_new_iff listed parsed, map_ok_injective.eq_iff, exists_eq_right']
  rw [iterated_rows_iff listing table fun segId outside =>
    rowsFrom_result_outside planned listed returns outside]
  exact forall_congr' fun segment => forall_congr' fun mem =>
    iteratedRows_result_iff planned listed returns
      (sameScan_of_plan parsed planned) mem

lemma exists_scanFor_iff :
    (∃ result, db.scanFor environment table asOfTxn filter = .ok result) ↔
      ∃ plan, db.prepareReadExecutionPlan environment table filter
        (db.snapshotFor asOfTxn) = .ok plan ∧ db.Readable environment plan := by
  simp only [scanFor_eq, scanInternal, bind_eq_ok, ← exists_executeReadPlan_iff]
  exact exists_comm.trans (exists_congr fun plan => exists_and_left)

/-- An iterator ends without an error unless the reading of a segment panics. -/
lemma exists_yields_ok_iff (listed : db.listSegmentMetas = .ok listing)
    (parsed : db.parseFilter filter = .ok parsedExpr) :
    (∃ batches : List ReadBatch,
        Yields (next db orders) (new table asOfTxn filter) (batches.map .ok)) ↔
      ∀ segment ∈ listing.ofTable table, ∃ batches, segment.iteratedBatches
        (db.routeContext (db.snapshotFor asOfTxn)
          (parsedExpr.bind (toZoneMapPredicateGroup orders))) = .ok batches := by
  simp only [yields_new_iff listed parsed, map_ok_injective.eq_iff, exists_eq_right']
  rw [← exists_mapM_eq_ok_iff]
  simp only [iterated]
  constructor
  · rintro ⟨batches, made⟩
    cases read : (listing.ofTable table).mapM fun segment => segment.iteratedBatches
        (db.routeContext (db.snapshotFor asOfTxn)
          (parsedExpr.bind (toZoneMapPredicateGroup orders))) with
    | error message => simp [read] at made
    | ok parts => exact ⟨parts, rfl⟩
  · rintro ⟨parts, read⟩
    exact ⟨parts.flatten, by rw [read]; rfl⟩

end ScanDatabase

/-- The iterator agrees with the scan exactly when it can be initialised and, if
the scan can return, every segment is iterated over as the scan reads it, and, if
it cannot, the reading of some segment panics. -/
theorem iterator_agrees_iff (db : ScanDatabase) (environment : ScanEnvironment)
    (orders : HashOrders) (table : String) (asOfTxn : Option TxnId)
    (filter : Option String) :
    db.IteratorAgrees environment orders table asOfTxn filter ↔
      ∃ listing parsedExpr, db.listSegmentMetas = .ok listing ∧
        db.parseFilter filter = .ok parsedExpr ∧
        (∀ plan, db.prepareReadExecutionPlan environment table filter
            (db.snapshotFor asOfTxn) = .ok plan → db.Readable environment plan →
          ∀ segment ∈ listing.ofTable table, db.IteratesAs environment plan
            (db.routeContext (db.snapshotFor asOfTxn)
              (parsedExpr.bind (toZoneMapPredicateGroup orders))) segment) ∧
        ((∀ plan, db.prepareReadExecutionPlan environment table filter
            (db.snapshotFor asOfTxn) = .ok plan → ¬ db.Readable environment plan) →
          ∃ segment ∈ listing.ofTable table, ∃ message, segment.iteratedBatches
            (db.routeContext (db.snapshotFor asOfTxn)
              (parsedExpr.bind (toZoneMapPredicateGroup orders))) = .error message) := by
  have panics {listing parsedExpr} (listed : db.listSegmentMetas = .ok listing)
      (parsed : db.parseFilter filter = .ok parsedExpr) :
      (∀ batches : List ReadBatch, ¬ Yields (ScanIterator.next db orders)
        (ScanIterator.new table asOfTxn filter) (batches.map .ok)) ↔
      ∃ segment ∈ listing.ofTable table, ∃ message, segment.iteratedBatches
        (db.routeContext (db.snapshotFor asOfTxn)
          (parsedExpr.bind (toZoneMapPredicateGroup orders))) = .error message := by
    rw [← not_exists, exists_yields_ok_iff listed parsed]
    push Not
    refine exists_congr fun segment => and_congr_right fun _ => ?_
    cases segment.iteratedBatches _ <;> simp
  constructor
  · intro agrees
    obtain ⟨listing, parsedExpr, listed, parsed⟩ := agrees.exists_init
    refine ⟨listing, parsedExpr, listed, parsed, fun plan planned readable => ?_,
      fun unreadable => (panics listed parsed).mp ?_⟩
    · obtain ⟨result, returns⟩ := exists_executeReadPlan_iff.mpr readable
      refine (exists_yields_iff listed parsed planned returns).mp (agrees.returns result ?_)
      rw [scanFor_eq]
      exact bind_eq_ok.mpr ⟨plan, planned, returns⟩
    · cases scanned : db.scanFor environment table asOfTxn filter with
      | error failure => exact agrees.fails failure scanned
      | ok result =>
        obtain ⟨plan, planned, readable⟩ := exists_scanFor_iff.mp ⟨result, scanned⟩
        exact absurd readable (unreadable plan planned)
  · rintro ⟨listing, parsedExpr, listed, parsed, same, unreadable⟩
    refine ⟨fun result scanned => ?_, fun failure failed => ?_, fun error failed => ?_⟩
    · rw [scanFor_eq] at scanned
      obtain ⟨plan, planned, returns⟩ := bind_eq_ok.mp scanned
      exact (exists_yields_iff listed parsed planned returns).mpr
        (same plan planned (exists_executeReadPlan_iff.mp ⟨result, returns⟩))
    · refine (panics listed parsed).mpr (unreadable fun plan planned readable => ?_)
      obtain ⟨result, scanned⟩ := exists_scanFor_iff.mpr ⟨plan, planned, readable⟩
      rw [failed] at scanned
      cases scanned
    · exact absurd failed (ensureInit_ne_error listed parsed error)

def filteredDatabase : ScanDatabase :=
  { hurriedDatabase with parse := fun _ => .ok (.comparison "x" .eq (.int64 8)) }

def quickReads : ScanEnvironment :=
  { slowReads with elapsed := fun _ => 0 }

/-- The scan leaves out the row of the first segment, and the iterator does not.
A filter that does not parse is an error at every call. -/
theorem iterator_ignores_filter :
    (∃ result, filteredDatabase.scan quickReads "t" (some "x = 8") = .ok result ∧
      rowsFrom "a" result = [] ∧
      ∀ batches, Yields (ScanIterator.next filteredDatabase fun _ => (.asStored, .asStored))
          (ScanIterator.new "t" none (some "x = 8")) (batches.map .ok) →
        rowsFrom "a" batches = [[("x", some [7, 0, 0, 0, 0, 0, 0, 0])]]) ∧
    ¬ filteredDatabase.IteratorAgrees quickReads (fun _ => (.asStored, .asStored))
      "t" none (some "x = 8") ∧
    ¬ hurriedDatabase.IteratorAgrees slowReads (fun _ => (.asStored, .asStored))
      "t" none (some "x ==") := by
  have result : ∃ result, filteredDatabase.scan quickReads "t" (some "x = 8") =
      .ok result ∧ rowsFrom "a" result = [] := ⟨_, rfl, rfl⟩
  have handed : ∀ batches, Yields (next filteredDatabase fun _ =>
        (.asStored, .asStored))
      (new "t" none (some "x = 8")) (batches.map .ok) →
        rowsFrom "a" batches = [[("x", some [7, 0, 0, 0, 0, 0, 0, 0])]] := by
    intro batches yields
    have listed : filteredDatabase.listSegmentMetas = .ok sevenThenEight := rfl
    have parsed : filteredDatabase.parseFilter (some "x = 8") =
      .ok (some (.comparison "x" .eq (.int64 8))) := rfl
    obtain ⟨others, taken, same⟩ := (yields_new_iff listed parsed).mp yields
    cases map_ok_injective same
    cases taken
    rfl
  obtain ⟨result, scanned, empty⟩ := result
  refine ⟨⟨result, scanned, empty, handed⟩, fun agrees => ?_, fun agrees => ?_⟩
  · obtain ⟨batches, yields, same⟩ := agrees.returns result scanned
    have rows := handed batches yields
    rw [same "a", empty] at rows
    cases rows
  · obtain ⟨-, parsedExpr, -, parsed⟩ := agrees.exists_init
    cases parsed

end RockDuck
