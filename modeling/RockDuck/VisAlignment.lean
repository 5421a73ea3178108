import RockDuck.InsertSteps
import RockDuck.MachineRuns

/-!
# Alignment of visibility rows

An insert takes one row offset and writes one row to its column files, but it
appends a visibility row for every row it was given, and only after the steps
that may fail.
-/

namespace RockDuck

open List

/-- Where a row of a visibility file comes from: it is the record of the row
that an insert was given an offset for, the record of a further row of such an
insert, or a value of a data column. -/
inductive VisOrigin where
  | record (rowOffset : Nat)
  | surplus
  | column
  deriving DecidableEq

/-- A value of the visibility file, with its origin. -/
structure VisRow (Value : Type*) where
  origin : VisOrigin
  value : Value

namespace TableStore

variable {Value : Type*}

def recordRows (formats : InsertFormats Value) (rowOffset : Nat)
    (txnId : TxnId) (count : Nat) : List (VisRow Value) :=
  (List.range count).map fun row =>
    ⟨if row = 0 then .record rowOffset else .surplus, formats.txnValue txnId⟩

/-- The values that the append finds; a column `__vis` overwrites the others. -/
def rowsKept (formats : InsertFormats Value) (environment : InsertEnvironment Value)
    (batch : RecordBatch Value) (rows : List (VisRow Value)) : List (VisRow Value) :=
  match overwritesVis formats environment batch with
  | some values => values.map fun value => ⟨.column, value⟩
  | none => rows

/-- The rows of the visibility file after the columns of a row were written
and its records appended, as far as they can be. -/
def rowsAppended (formats : InsertFormats Value) (environment : InsertEnvironment Value)
    (segId : String) (placed : PlacedInsert Value) (store : TableStore) (rows : List (VisRow Value))
    : List (VisRow Value) :=
  let kept := rowsKept formats environment placed.batch rows
  match writeColumns formats environment segId store placed.batch with
  | (_, .error _) => kept
  | (store, .ok _) =>
    match appendVisBatch formats.vortex environment.visDisk
        environment.visRenameFault segId store
        (visibilityColumns formats placed.batch placed.txnId notDeleted) with
    | (_, .error _) => kept
    | (_, .ok _) =>
      kept ++ recordRows formats placed.position.rowOffset placed.txnId
        (batchRows placed.batch)

/-- The rows of the visibility file after the files of a row were written as
far as they can be. -/
def rowsWritten (formats : InsertFormats Value) (environment : InsertEnvironment Value)
    (segId : String) (placed : PlacedInsert Value) (store : TableStore) (rows : List (VisRow Value))
    : List (VisRow Value) :=
  match store.ensureSegmentColumns segId (placed.batch.map Prod.fst)
      environment.metaReadFault environment.metaWriteFault with
  | (_, .error _) => rows
  | (store, .ok _) => rowsAppended formats environment segId placed store rows

/-- The visibility file after an insert. -/
def visRowsAfter (formats : InsertFormats Value) (segId : String) (store : TableStore)
    (call : InsertCall Value) (rows : List (VisRow Value)) : List (VisRow Value) :=
  match store.placeInsert call with
  | (_, .error _) => rows
  | (store, .ok placed) =>
    if placed.position.segId = segId then
      rowsWritten formats call.environment segId placed store rows
    else rows

/-- Inserts, with the origins of the values. -/
def tracked (formats : InsertFormats Value) (segId : String) (start : TableStore) :
    Machine (TableStore × List (VisRow Value)) (InsertCall Value) (Except RockDuckError TxnId) where
  initial := (start, [])
  step state call :=
    (((state.1.insert formats call).1, visRowsAfter formats segId state.1 call state.2),
      (state.1.insert formats call).2)

/-- Every value is at its own row. -/
def AlignedRows (rows : List (VisRow Value)) : Prop :=
  ∀ (index : Nat) (row : VisRow Value), rows[index]? = some row →
    row.origin = .record index

/-- The insert leaves an aligned file aligned. -/
def KeepsAlignment (formats : InsertFormats Value) (segId : String)
    (store : TableStore) (call : InsertCall Value) : Prop :=
  ∀ txnId batch segment, store.TakesOffset call txnId batch segId segment →
    Describable call.environment segment →
    overwritesVis formats call.environment batch = none ∧
    ∀ rows, store.readColumn formats.vortex segId "__vis" = .ok rows →
      (∀ column ∈ batch, columnWritable formats call.environment column = true) →
      VisAppendable formats call.environment rows
        (List.replicate (batchRows batch) (formats.txnValue txnId)) →
      batchRows batch = 1 ∧ rows.length = store.nextOffset segId

variable {call : InsertCall Value} {rows : List (VisRow Value)}
    {state : TableStore × List (VisRow Value)}

lemma TakesOffset.unique {store : TableStore}
    {txnId otherTxn batch otherBatch segId otherSeg segment otherSegment}
    (takes : store.TakesOffset call txnId batch segId segment)
    (also : store.TakesOffset call otherTxn otherBatch otherSeg otherSegment) :
    otherTxn = txnId ∧ otherBatch = batch ∧ otherSeg = segId ∧ otherSegment = segment := by
  have numbered := also.numbered.symm.trans takes.numbered
  have accepted := also.accepted.symm.trans takes.accepted
  have found := also.found.symm.trans takes.found
  cases numbered
  cases accepted
  cases found
  exact ⟨rfl, rfl, rfl, rfl⟩

/-- The values are those of the file. -/
def Agrees (formats : InsertFormats Value) (segId : String)
    (state : TableStore × List (VisRow Value)) : Prop :=
  state.1.readColumn formats.vortex segId "__vis" =
    .ok (state.2.map VisRow.value)

lemma map_value_recordRows (fmt : InsertFormats Value) (row : Nat)
    (txnId : TxnId) (count : Nat) : (recordRows fmt row txnId count).map VisRow.value =
      List.replicate count (fmt.txnValue txnId) := by
  simp [recordRows, Function.comp_def]

/-- What an insert does to the visibility file of a segment. -/
inductive TrackedEffect (formats : InsertFormats Value) (segId : String)
    (store : TableStore) (call : InsertCall Value)
    (rows after : List (VisRow Value)) (file : Except RockDuckError (List Value)) :
    Prop
  | kept (same : after = rows)
      (fileKept : file = store.readColumn formats.vortex segId "__vis")
      (harmless : KeepsAlignment formats segId store call)
  | overwritten {txnId : TxnId} {batch : RecordBatch Value}
      {segment : Option SegmentMeta} {value : Value}
      {rest : List (VisRow Value)}
      (takes : store.TakesOffset call txnId batch segId segment)
      (describable : Describable call.environment segment)
      (overwrites : overwritesVis formats call.environment batch ≠ none)
      (replaced : after = ⟨.column, value⟩ :: rest)
  | appended {txnId : TxnId} {batch : RecordBatch Value}
      {segment : Option SegmentMeta} {stored : List Value}
      (takes : store.TakesOffset call txnId batch segId segment)
      (describable : Describable call.environment segment)
      (apart : overwritesVis formats call.environment batch = none)
      (reads : store.readColumn formats.vortex segId "__vis" = .ok stored)
      (writable : ∀ column ∈ batch, columnWritable formats call.environment column = true)
      (appendable : VisAppendable formats call.environment stored
        (List.replicate (batchRows batch) (formats.txnValue txnId)))
      (added : after = rows ++ recordRows formats (store.nextOffset segId) txnId (batchRows batch))
      (fileAdded : file = .ok (stored ++ List.replicate (batchRows batch) (formats.txnValue txnId)))

lemma overwritesVis_eq_cons {fmt : InsertFormats Value} {env : InsertEnvironment Value}
    {batch : RecordBatch Value} {vals : List Value} (ne : ∀ col ∈ batch, col.2 ≠ [])
    (overwrites : overwritesVis fmt env batch = some vals) : ∃ val, vals = [val] := by
  induction batch with
  | nil => cases overwrites
  | cons col batch ih =>
    rw [overwritesVis] at overwrites
    split_ifs at overwrites with vis encodes writable
    · cases overwrites
      obtain ⟨val, rest, rows⟩ := exists_cons_of_ne_nil (ne col mem_cons_self)
      exact ⟨val, by simp [rows]⟩
    · exact ih (fun other mem => ne other (mem_cons_of_mem _ mem))
        overwrites

variable {placed : PlacedInsert Value} {segment : Option SegmentMeta}

lemma trackedEffect_described {fmt : InsertFormats Value} {segId : String}
    {store described : TableStore}
    (takes : store.TakesOffset call placed.txnId placed.batch segId segment)
    (describable : Describable call.environment segment)
    (off : placed.position.rowOffset = store.nextOffset segId)
    (files : described.files = store.files) (rows) : TrackedEffect fmt segId store call rows
      (rowsAppended fmt call.environment segId placed described rows)
      ((andThen (writeColumns fmt call.environment segId described placed.batch) fun store _ =>
          appendVisBatch fmt.vortex call.environment.visDisk
            call.environment.visRenameFault segId store
            (visibilityColumns fmt placed.batch placed.txnId
              notDeleted)).1.readColumn fmt.vortex segId "__vis") := by
  obtain ⟨some, filled⟩ := columnsToBatch_filled takes.accepted
  rw [rowsAppended]
  cases overwrites : overwritesVis fmt call.environment placed.batch with
  | some vals =>
    obtain ⟨val, rfl⟩ := overwritesVis_eq_cons filled overwrites
    have kept : rowsKept fmt call.environment placed.batch rows = [⟨.column, val⟩] := by
      rw [rowsKept, overwrites]
      rfl
    have apart : overwritesVis fmt call.environment placed.batch ≠ none := by simp [overwrites]
    rw [kept]
    split
    · exact .overwritten takes describable apart rfl
    · split
      · exact .overwritten takes describable apart rfl
      · exact .overwritten takes describable apart rfl
  | none =>
    have kept : rowsKept fmt call.environment placed.batch rows = rows := by
      rw [rowsKept, overwrites]
    rw [kept]
    have written := writeColumns_isOk fmt call.environment segId described filled
    obtain ⟨columnFiles, writes, -, visKept⟩ := writeColumns_fst fmt
      call.environment segId described filled
    have sameRows := readColumn_vis_congr fmt.vortex
      ((visKept overwrites).trans (file_congr files segId visPath))
    rcases cols : writeColumns fmt call.environment segId described
      placed.batch with ⟨completed, error | done⟩
    all_goals
      rw [cols] at written writes
      obtain rfl : completed = _ := writes
    · refine .kept rfl sameRows ?_
      intro txnId batch other also _
      obtain ⟨rfl, rfl, -, rfl⟩ := takes.unique also
      refine ⟨overwrites, fun stored _ writable => ?_⟩
      exact absurd (written.trans (all_eq_true.mpr writable)) Bool.false_ne_true
    · have ne : List.replicate (batchRows placed.batch) (fmt.txnValue placed.txnId) ≠ [] := by
        simp [some.ne']
      dsimp only [andThen]
      rw [visibilityColumns_eq]
      by_cases appends : ∃ stored, store.readColumn fmt.vortex segId
          "__vis" = .ok stored ∧ VisAppendable fmt call.environment
            stored (List.replicate (batchRows placed.batch) (fmt.txnValue placed.txnId))
      · obtain ⟨stored, reads, appendable⟩ := appends
        obtain ⟨after, ran, adds⟩ := appendVisBatch_of_appendable
          fmt call.environment ne (sameRows.trans reads) appendable
        rw [ran]
        exact .appended takes describable overwrites reads
          (all_eq_true.mp written.symm) appendable (by rw [off]) adds
      · obtain ⟨error, fails⟩ := appendVisBatch_of_not_appendable fmt
          call.environment ne fun stored reads appendable =>
            appends ⟨stored, sameRows.symm.trans reads, appendable⟩
        rw [fails]
        refine .kept rfl sameRows ?_
        intro txnId batch other also _
        obtain ⟨rfl, rfl, -, rfl⟩ := takes.unique also
        exact ⟨overwrites, fun stored reads _ appendable =>
          absurd ⟨stored, reads, appendable⟩ appends⟩

lemma trackedEffect_placed {fmt segId} {store placedStore : TableStore}
    (takes : store.TakesOffset call placed.txnId placed.batch segId segment)
    (off : placed.position.rowOffset = store.nextOffset segId)
    (described : placedStore.segments[segId]? = segment) (files : placedStore.files = store.files)
    (rows) : TrackedEffect fmt segId store call rows
      (rowsWritten fmt call.environment segId placed placedStore rows)
      ((writeFiles fmt call.environment segId placed.txnId placedStore
        placed.batch).1.readColumn fmt.vortex segId "__vis") := by
  have describes := ensureSegmentColumns_isOk_iff call.environment placedStore
    segId (placed.batch.map Prod.fst)
  rw [described] at describes
  rw [rowsWritten, writeFiles]
  rcases ensured : placedStore.ensureSegmentColumns segId
    (placed.batch.map Prod.fst) call.environment.metaReadFault
    call.environment.metaWriteFault with ⟨completed, error | done⟩
  all_goals
    rw [ensured] at describes
    obtain ⟨segments, cache, rfl⟩ := ensureSegmentColumns_changes ensured
  · -- The description of the segment is not there or cannot be completed.
    refine .kept rfl (readColumn_vis_congr _ (file_congr files _ _)) ?_
    intro txnId batch other also describable
    obtain ⟨-, -, -, rfl⟩ := takes.unique also
    exact absurd (describes.mpr describable) Bool.false_ne_true
  · have kept : { placedStore with
        segments := segments
        segMetaCache := cache }.files = store.files := files
    exact trackedEffect_described takes (describes.mp rfl) off kept rows

lemma trackedEffect_insert (fmt : InsertFormats Value) (segId : String)
    (store : TableStore) (call : InsertCall Value) (rows : List (VisRow Value)) :
    TrackedEffect fmt segId store call rows (visRowsAfter fmt segId store call rows)
      ((store.insert fmt call).1.readColumn fmt.vortex segId
        "__vis") := by
  by_cases taken : ∃ txnId batch target segment, store.TakesOffset call txnId batch target segment
  · obtain ⟨txnId, batch, target, segment, takes⟩ := taken
    obtain ⟨ctr, segments, cache, described, places⟩ := placeInsert_of_takesOffset takes
    let placedStore := { store with txnCounter := ctr }.afterAllocation target segments cache
    have files := insertPlaced_fst_files fmt call placedStore
      ⟨txnId, batch, store.nextPosition target⟩
    rw [insert, visRowsAfter, places]
    dsimp only [andThen]
    have lands : (store.nextPosition target).segId = target := rfl
    rw [lands] at files ⊢
    have sameFile := file_congr files segId visPath
    by_cases here : target = segId
    · subst here
      rw [if_pos rfl, readColumn_vis_congr _ sameFile]
      exact @trackedEffect_placed _ call ⟨txnId, batch, store.nextPosition target⟩ segment fmt
        target store placedStore takes rfl described rfl rows
    · rw [if_neg here]
      refine .kept rfl (readColumn_vis_congr _ (sameFile.trans ?_)) ?_
      · exact writeFiles_file_of_untouched fmt _ (.inl (Ne.symm here)) _ _
          (columnsToBatch_filled takes.accepted).2
      · intro txnId' batch' other also
        exact absurd (takes.unique also).2.2.1.symm here
  · have refused : ∀ txnId batch target segment,
        ¬ store.TakesOffset call txnId batch target segment := by
      simpa using taken
    obtain ⟨ctr, segments, cache, error, fails⟩ := placeInsert_of_refused refused
    rw [insert, visRowsAfter, fails]
    refine .kept rfl rfl ?_
    intro txnId batch segment takes
    exact absurd takes (refused txnId batch segId segment)

lemma recordRows_one (fmt : InsertFormats Value) (row : Nat)
    (txnId : TxnId) : recordRows fmt row txnId 1 = [⟨.record row, fmt.txnValue txnId⟩] :=
  rfl

lemma alignedRows_append_recordRows {fmt} (aligned : AlignedRows rows) (rowOffset : Nat) (txnId)
    {count} (some : 0 < count) : AlignedRows (rows ++ recordRows fmt rowOffset txnId count) ↔
      count = 1 ∧ rows.length = rowOffset := by
  have origin (both : AlignedRows (rows ++ recordRows fmt rowOffset txnId count)) (place : Nat)
      (mem : place < count) :
      (if place = 0 then VisOrigin.record rowOffset else .surplus) =
        .record (rows.length + place) :=
    both (rows.length + place)
      ⟨if place = 0 then .record rowOffset else .surplus,
        fmt.txnValue txnId⟩ (by
      rw [getElem?_append_right (Nat.le_add_right _ _),
        Nat.add_sub_cancel_left, recordRows, List.getElem?_map,
        getElem?_range mem, Option.map_some])
  constructor
  · intro both
    have first := origin both 0 some
    rw [if_pos rfl, VisOrigin.record.injEq] at first
    refine ⟨?_, first.symm⟩
    by_contra several
    have second := origin both 1 (by omega)
    cases second
  · rintro ⟨rfl, rfl⟩ idx row found
    rw [recordRows_one] at found
    rcases Nat.lt_or_ge idx rows.length with before | last
    · rw [getElem?_append_left before] at found
      exact aligned idx row found
    · rw [getElem?_append_right last, getElem?_singleton] at found
      split at found
      · cases found
        exact congrArg VisOrigin.record (by omega)
      · cases found

variable {formats : InsertFormats Value} {segId : String}

lemma alignedRows_next_iff (agrees : Agrees formats segId state) (aligned : AlignedRows state.2)
    (call : InsertCall Value) : AlignedRows (visRowsAfter formats segId state.1 call state.2) ↔
      KeepsAlignment formats segId state.1 call := by
  cases trackedEffect_insert formats segId state.1 call state.2 with
  | kept same _ harmless =>
    rw [same]
    exact ⟨fun _ => harmless, fun _ => aligned⟩
  | overwritten takes describable overwrites replaced =>
    constructor
    · intro both
      rw [replaced] at both
      cases both 0 _ rfl
    · intro harmless
      exact absurd (harmless _ _ _ takes describable).1 overwrites
  | appended takes describable ne reads writable appendable added _ =>
    have length := congrArg (Except.map List.length) (reads.symm.trans agrees)
    simp only [Except.map, length_map, Except.ok.injEq] at length
    rw [added, alignedRows_append_recordRows aligned _ _
      (columnsToBatch_filled takes.accepted).1, ← length]
    constructor
    · rintro ⟨single, next⟩ txnId batch segment also _
      obtain ⟨rfl, rfl, -, rfl⟩ := takes.unique also
      refine ⟨ne, fun stored again _ _ => ⟨single, ?_⟩⟩
      cases reads.symm.trans again
      exact next
    · intro harmless
      exact (harmless _ _ _ takes describable).2 _ reads writable appendable

/-- As long as no column is written over it, the file reads as the rows that
are tracked. -/
lemma agrees_next (agrees : (∀ row ∈ state.2, row.origin ≠ .column) → Agrees formats segId state)
    (call : InsertCall Value)
    (ne : ∀ row ∈ visRowsAfter formats segId state.1 call state.2, row.origin ≠ .column) :
    Agrees formats segId ((state.1.insert formats call).1,
      visRowsAfter formats segId state.1 call state.2) := by
  unfold Agrees
  dsimp only
  cases trackedEffect_insert formats segId state.1 call state.2 with
  | kept same fileKept _ =>
    rw [same] at ne ⊢
    rw [fileKept]
    exact agrees ne
  | overwritten _ _ _ replaced =>
    rw [replaced] at ne
    exact absurd rfl (ne _ mem_cons_self)
  | appended _ _ _ reads _ _ added fileAdded =>
    rw [added] at ne ⊢
    have before := agrees fun row mem => ne row (mem_append_left _ mem)
    cases reads.symm.trans before
    rw [fileAdded, map_append, map_value_recordRows]

lemma AlignedRows.apart (aligned : AlignedRows rows) : ∀ row ∈ rows, row.origin ≠ .column := by
  intro row mem col
  obtain ⟨idx, inside, rfl⟩ := mem_iff_getElem.mp mem
  have record := aligned idx _ (getElem?_eq_getElem inside)
  rw [col] at record
  cases record

lemma agrees_stateAt {start : TableStore}
    (noFile : start.file segId visPath = none) (calls) (count : Nat)
    (ne : ∀ row ∈ ((tracked formats segId start).stateAt calls count).2, row.origin ≠ .column) :
    Agrees formats segId ((tracked formats segId start).stateAt calls count) := by
  revert ne
  refine (tracked formats segId start).stateAt_persists
    (fun state => (∀ row ∈ state.2, row.origin ≠ .column) →
      Agrees formats segId state) (Nat.zero_le count) ?_ ?_
  · intro _
    change start.readColumn formats.vortex segId "__vis" = .ok []
    rw [readColumn_vis, loadVisBatches, noFile]
    rfl
  · intro idx call _ _ _ before
    exact agrees_next before call

/-- The rows of a visibility file stay aligned with the row offsets exactly as
long as every insert that appends to it has one row and finds as many rows in
it as offsets were given out, and no column is written over it. -/
theorem visRows_aligned_iff {start : TableStore} (noFile : start.file segId visPath = none)
    (calls : List (InsertCall Value)) :
    (∀ count,
      (∀ row ∈ ((tracked formats segId start).stateAt calls count).2, row.origin ≠ .column) →
        ((tracked formats segId start).stateAt calls count).1.readColumn
            formats.vortex segId "__vis" =
          .ok (((tracked formats segId start).stateAt calls count).2.map VisRow.value)) ∧
    ((∀ count, AlignedRows ((tracked formats segId start).stateAt calls count).2) ↔
      ∀ index call, calls[index]? = some call →
        KeepsAlignment formats segId
          ((tracked formats segId start).stateAt calls index).1 call) := by
  let machine := tracked formats segId start
  have agrees := @agrees_stateAt _ formats _ _ noFile calls
  refine ⟨agrees, ?_, ?_⟩
  · intro aligned index call given
    have next := aligned (index + 1)
    rw [machine.stateAt_succ given] at next
    exact (alignedRows_next_iff (agrees index (aligned index).apart) (aligned index) call).mp next
  · intro harmless count
    refine machine.stateAt_persists (fun state => AlignedRows state.2)
      (Nat.zero_le count) ?_ ?_
    · intro index row found
      cases found
    · intro index call _ _ given before
      exact (alignedRows_next_iff (agrees index before.apart) before call).mpr
        (harmless index call given)

lemma alignedRows_iff_origins : AlignedRows rows ↔
      rows.map VisRow.origin = (List.range rows.length).map .record := by
  constructor
  · intro aligned
    refine ext_getElem (by simp) fun idx mem _ => ?_
    rw [length_map] at mem
    simpa using aligned idx _ (getElem?_eq_getElem mem)
  · intro same idx row found
    have origin := congrArg (fun origins => origins[idx]?) same
    obtain ⟨mem, rfl⟩ := List.getElem?_eq_some_iff.mp found
    simpa [mem] using origin

theorem visRows_aligned_iff_oneInsert : byteStore.file "seg_1" visPath = none ∧
      (∀ count, AlignedRows ((tracked byteFormats "seg_1" byteStore).stateAt
        [byteInsert 1 7] count).2) ∧
      KeepsAlignment byteFormats "seg_1" byteStore (byteInsert 1 7) := by
  have noFile : byteStore.file "seg_1" visPath = none := by decide +kernel
  have aligned (count) : AlignedRows ((tracked byteFormats "seg_1"
      byteStore).stateAt [byteInsert 1 7] count).2 := by
    rw [alignedRows_iff_origins]
    rcases count with _ | count
    · rfl
    · rw [Machine.stateAt_of_length_le _ _ (by simp)]
      decide +kernel
  exact ⟨noFile, aligned, ((visRows_aligned_iff noFile [byteInsert 1 7]).2.mp aligned) 0
      (byteInsert 1 7) rfl⟩

def twoRows : InsertCall UInt8 :=
  { byteInsert 1 7 with
    columns := (∅ : Std.ExtTreeMap String (List UInt8)).insert "x" [7, 8] }

/-- The row with offset 1 was inserted by transaction 2, but row 1 of the
visibility file is a record of transaction 1. -/
theorem second_row_misaligned : (∃ placed, ((byteStore.insert byteFormats twoRows).1.placeInsert
        (byteInsert 2 9)).2 = .ok placed ∧
      placed.txnId = 2 ∧ placed.position = ⟨"seg_1", 0, 1⟩) ∧
    ((tracked byteFormats "seg_1" byteStore).stateAfter
        [twoRows, byteInsert 2 9]).1.readColumn byteFormats.vortex "seg_1"
          "__vis" = .ok [1, 1, 2] ∧
    ¬ ∀ count, AlignedRows ((tracked byteFormats "seg_1" byteStore).stateAt
      [twoRows, byteInsert 2 9] count).2 := by
  refine ⟨⟨⟨2, [("x", [9])], ⟨"seg_1", 0, 1⟩⟩, by decide +kernel, rfl, rfl⟩,
    by decide +kernel, fun aligned => ?_⟩
  have last := alignedRows_iff_origins.mp (aligned 2)
  revert last
  decide +kernel

end TableStore

end RockDuck
