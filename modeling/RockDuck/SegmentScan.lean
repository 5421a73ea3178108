import RockDuck.BlockCursor
import RockDuck.SegmentStore
import RockDuck.ShadowColumns

/-!
# Scanning a segment

A scan reads the columns of a segment into batches of rows and drops the rows
the snapshot does not show.
-/

namespace RockDuck

open List

/-- How a read ends when it does not return. -/
inductive ReadFailure where
  | error (error : RockDuckError)
  | panicked (message : String)
  deriving DecidableEq

/-- The two implementations of the visibility rule. -/
inductive VisFilter where
  | visibilityManager
  | txnSnapshot

/-- The visibility test of a filter. -/
def VisFilter.isRowVisible (visFilter : VisFilter) (snapshot : TxnSnapshot)
    (createdTxn : TxnId) (deleted : Option TxnId) : Bool :=
  match visFilter with
  | visibilityManager =>
    VisibilityManager.isRowVisible snapshot.snapshotId createdTxn deleted
      snapshot.activeTxns snapshot.commitTsMap
  | txnSnapshot =>
    TxnSnapshot.isRowVisible snapshot.snapshotId createdTxn deleted
      snapshot.activeTxns snapshot.commitTsMap

/-- Both implementations are the rule of the manager. -/
lemma VisFilter.isRowVisible_eq (visFilter : VisFilter) (snap createdTxn deleted) :
    visFilter.isRowVisible snap createdTxn deleted =
      VisibilityManager.isVisible snap createdTxn deleted := by
  cases visFilter with
  | visibilityManager => rfl
  | txnSnapshot => exact (VisibilityManager.isRowVisible_eq_snapshot _ _ _ _ _).symm

/-- What the files of a segment read as: `none` is a file that does not
exist. -/
structure SegmentImage (Value : Type*) where
  columnBatches : String → Option (Except RockDuckError (List (List Value)))
  vis : Option (Except RockDuckError (List VisBatch))
  visPathText : String
  deltavis : Option (Except RockDuckError (List (Nat × TxnId)))

abbrev DataRow (Value : Type*) := List (String × Value)

section Filter

variable {Row : Type*} (visFilter : VisFilter) (snapshot : TxnSnapshot)

/-- Test a row by the first two columns of its batch. -/
def isRowVisibleInVisBatch (batch : VisBatch) (row : Nat) : Except ReadFailure Bool :=
  match batch.columns with
  | (_, .int64 created) :: (_, .int64 deleted) :: _ =>
    .ok (visFilter.isRowVisible snapshot (created.getD row 0) (deletedTxn (deleted.getD row 0)))
  | _ :: _ :: _ => .ok true
  | columns =>
    let count := columns.length
    .error (.panicked
      s!"index out of bounds: the len is {count} but the index is {count}")

/-- The mask bit of a row. -/
def rowMask (deletedRows : List Nat) (cursor : BlockCursor VisBatch)
    (row : Nat) : BlockCursor VisBatch × Except ReadFailure Bool :=
  if deletedRows.contains row then (cursor, .ok false)
  else
    let cursor := cursor.advance VisBatch.numRows row
    match cursor.remaining with
    | [] => (cursor, .ok true)
    | batch :: _ =>
      let localVisIdx := row - cursor.before
      if batch.numRows ≤ localVisIdx then (cursor, .ok true)
      else (cursor, isRowVisibleInVisBatch visFilter snapshot batch localVisIdx)

def batchMask (deletedRows : List Nat) : Nat → BlockCursor VisBatch → Nat →
      BlockCursor VisBatch × Except ReadFailure (List Bool)
  | 0, cursor, _ => (cursor, .ok [])
  | count + 1, cursor, row =>
    andThen (rowMask visFilter snapshot deletedRows cursor row)
      fun cursor visible =>
        andThen (batchMask deletedRows count cursor (row + 1))
          fun cursor mask => (cursor, .ok (visible :: mask))

/-- Keep the rows of a mask of the right length. -/
def applyVisibilityMask (batch : List Row) (mask : List Bool) : Except ReadFailure (List Row) :=
  let maskLen := mask.length
  let batchRows := batch.length
  if maskLen ≠ batchRows then
    .error (.error (.internal
      s!"visibility filter failed (batch {batchRows} rows): visibility mask length {maskLen} != batch rows {batchRows}"))
  else
    .ok ((batch.zip mask).filterMap fun entry => if entry.2 then some entry.1 else none)

/-- Filter the batches, with one cursor over all of them. -/
def filterFrom (deletedRows : List Nat) : BlockCursor VisBatch → Nat → List (List Row) →
      Except ReadFailure (List (List Row))
  | _, _, [] => .ok []
  | cursor, row, batch :: batches =>
    match batchMask visFilter snapshot deletedRows batch.length cursor row with
    | (_, .error failure) => .error failure
    | (cursor, .ok mask) =>
      match applyVisibilityMask batch mask with
      | .error failure => .error failure
      | .ok kept =>
        (filterFrom deletedRows cursor (row + batch.length) batches).map
          fun rest => kept :: rest

/-- Filter batches by visibility. -/
def filterBatchesByVisibilityImpl (visBatches : List VisBatch) (dataBatches : List (List Row))
    (deletedRows : List Nat) : Except ReadFailure (List (List Row)) :=
  if visBatches.isEmpty && deletedRows.isEmpty then .ok dataBatches
  else
    filterFrom visFilter snapshot deletedRows (.start visBatches) 0 dataBatches

/-- The decision on a row, without a cursor. -/
def decideRow (visBatches : List VisBatch) (deletedRows : List Nat)
    (row : Nat) : Except ReadFailure Bool :=
  if deletedRows.contains row then .ok false
  else
    match locate VisBatch.numRows visBatches row with
    | none => .ok true
    | some (batch, index) => isRowVisibleInVisBatch visFilter snapshot batch index

variable {cursor : BlockCursor VisBatch} {deletedRows : List Nat} {vis : List VisBatch}

lemma rowMask_spec (deletedRows) (follows : cursor.Follows VisBatch.numRows vis row) :
    (rowMask visFilter snapshot deletedRows cursor row).2 =
        decideRow visFilter snapshot vis deletedRows row ∧
      (rowMask visFilter snapshot deletedRows cursor row).1.Follows
        VisBatch.numRows vis (row + 1) := by
  by_cases logged : deletedRows.contains row = true
  · simp only [rowMask, decideRow, logged, if_true, true_and]
    exact follows.mono (Nat.le_succ row)
  · have advanced := follows.advance.mono (Nat.le_succ row)
    simp only [rowMask, decideRow, logged, follows.locate_eq]
    cases stands : (cursor.advance VisBatch.numRows row).remaining with
    | nil => exact ⟨by simp, by simpa [stands] using advanced⟩
    | cons batch rest =>
      have bound := BlockCursor.lt_of_advance_remaining stands
      have reached := follows.advance.1
      have mem : ¬ batch.numRows ≤ row - (cursor.advance VisBatch.numRows row).before := by omega
      simp only [Bool.false_eq_true, if_false, mem, head?_cons, Option.map_some]
      exact ⟨trivial, advanced⟩

variable {visFilter snapshot}

lemma batchMask_eq (count : Nat) {row} (follows : cursor.Follows VisBatch.numRows vis row) :
    ∃ after, batchMask visFilter snapshot deletedRows count cursor row =
        (after, (List.range' row count).mapM (decideRow visFilter snapshot vis deletedRows)) ∧
      ∀ {mask}, (List.range' row count).mapM
          (decideRow visFilter snapshot vis deletedRows) = .ok mask →
        after.Follows VisBatch.numRows vis (row + count) := by
  induction count generalizing cursor row with
  | zero => exact ⟨cursor, rfl, fun _ => follows⟩
  | succ count ih =>
    obtain ⟨decided, onward⟩ := rowMask_spec visFilter snapshot deletedRows follows
    have first : rowMask visFilter snapshot deletedRows cursor row =
        ((rowMask visFilter snapshot deletedRows cursor row).1,
          decideRow visFilter snapshot vis deletedRows row) :=
      Prod.ext rfl decided
    obtain ⟨after, masked, followsAfter⟩ := ih onward
    rw [batchMask, first, range'_succ, mapM_cons]
    cases decideRow visFilter snapshot vis deletedRows row with
    | error err => exact ⟨_, rfl, fun impossible => by cases impossible⟩
    | ok visible =>
      simp only [andThen, masked]
      cases rest : (List.range' (row + 1) count).mapM
          (decideRow visFilter snapshot vis deletedRows) with
      | error err => exact ⟨after, rfl, fun impossible => by cases impossible⟩
      | ok mask =>
        have onAfter := followsAfter rest
        rw [Nat.add_right_comm] at onAfter
        exact ⟨after, rfl, fun _ => onAfter⟩

def keepMarked (rows : List Row) (mask : List Bool) : List Row :=
  (rows.zip mask).filterMap fun entry => if entry.2 then some entry.1 else none

lemma keepMarked_append {front back : List Row} {frontMask backMask : List Bool}
    (sameLength : frontMask.length = front.length) :
    keepMarked (front ++ back) (frontMask ++ backMask) =
      keepMarked front frontMask ++ keepMarked back backMask := by
  rw [keepMarked, zip_append sameLength.symm, filterMap_append]
  rfl

section

variable {rows : List Row} {mask : List Bool} (sameLength : mask.length = rows.length)
include sameLength

lemma length_keepMarked : (keepMarked rows mask).length = mask.count true := by
  induction rows generalizing mask with
  | nil => simp [keepMarked, length_eq_zero_iff.mp sameLength]
  | cons row rows ih =>
    cases mask with
    | nil => cases sameLength
    | cons flag mask =>
      have rest := ih (Nat.succ.inj sameLength)
      rw [keepMarked] at rest
      cases flag <;> simp [keepMarked, rest]

lemma keepMarked_eq_nil_iff : keepMarked rows mask = [] ↔ ∀ flag ∈ mask, flag = false := by
  rw [← length_eq_zero_iff, length_keepMarked sameLength, count_eq_zero]
  simp

end

section

variable {vis : List VisBatch} (batches : List (List Row)) {row : Nat}
    (follows : cursor.Follows VisBatch.numRows vis row)
include follows

lemma filterFrom_flatten :
    (filterFrom visFilter snapshot deletedRows cursor row batches).map List.flatten =
      ((List.range' row (batches.map List.length).sum).mapM
        (decideRow visFilter snapshot vis deletedRows)).map (keepMarked batches.flatten) := by
  induction batches generalizing cursor row with
  | nil => rfl
  | cons batch batches ih =>
    obtain ⟨after, masked, onward⟩ := batchMask_eq batch.length follows
    rw [filterFrom, masked, map_cons, sum_cons, ← range'_append_1, mapM_append]
    cases decided : (List.range' row batch.length).mapM
        (decideRow visFilter snapshot vis deletedRows) with
    | error err => rfl
    | ok mask =>
      have sameLength : mask.length = batch.length := by
        simpa using (mapM_eq_ok_iff.mp decided).length_eq.symm
      have kept : applyVisibilityMask batch mask = .ok (keepMarked batch mask) := by
        simp [applyVisibilityMask, sameLength, keepMarked]
      have rest := ih (onward decided)
      cases filtered : filterFrom visFilter snapshot deletedRows after
          (row + batch.length) batches <;>
        cases others : (List.range' (row + batch.length) (batches.map List.length).sum).mapM
            (decideRow visFilter snapshot vis deletedRows) <;>
        simp_all [Except.map, bind, Except.bind, pure, Except.pure, keepMarked_append]

end

lemma keepMarked_map (shown : Nat → Bool) (start : Nat) (rows : List Row) :
    keepMarked rows ((List.range' start rows.length).map shown) =
      ((rows.zipIdx start).filter fun entry => shown entry.2).map Prod.fst := by
  induction rows generalizing start with
  | nil => rfl
  | cons first rows ih =>
    unfold keepMarked at ih
    simp only [keepMarked, length_cons, range'_succ, map_cons, zip_cons_cons, filterMap_cons,
      zipIdx_cons, filter_cons, ih]
    cases shown start <;> simp

lemma keepMarked_of_all (rows : List Row) :
    keepMarked rows (List.replicate rows.length true) = rows := by
  induction rows with
  | nil => rfl
  | cons row rows ih => simpa [keepMarked, replicate_succ] using ih

/-- The rows that are kept, and whether the filter gets through, depend on the rows alone and
not on their batches. -/
lemma filterBatchesByVisibilityImpl_flatten (visFilter : VisFilter) (snapshot : TxnSnapshot)
    (vis : List VisBatch) (batches : List (List Row)) (deletedRows : List Nat) :
    (filterBatchesByVisibilityImpl visFilter snapshot vis batches deletedRows).map List.flatten =
      ((List.range' 0 (batches.map List.length).sum).mapM
        (decideRow visFilter snapshot vis deletedRows)).map (keepMarked batches.flatten) := by
  unfold filterBatchesByVisibilityImpl
  split
  · rename_i unfiltered
    simp only [Bool.and_eq_true, List.isEmpty_iff] at unfiltered
    obtain ⟨rfl, rfl⟩ := unfiltered
    have shown : (List.range' 0 (batches.map List.length).sum).mapM (decideRow visFilter snapshot [] []) =
        .ok ((List.range' 0 (batches.map List.length).sum).map fun _ => true) := by
      rw [mapM_eq_ok_iff, forall₂_map_right_iff, forall₂_same]
      simp [decideRow, locate]
    rw [shown, Except.map, Except.map, map_const', length_range', ← length_flatten,
      keepMarked_of_all]
  · exact filterFrom_flatten batches (BlockCursor.follows_start _ _ _)

section

variable {batches : List (List Row)}

lemma decides_of_filterBatchesByVisibilityImpl
    (filtered : filterBatchesByVisibilityImpl visFilter snapshot vis batches deletedRows = .ok kept)
    (inside : row < batches.flatten.length) :
    ∃ shown, decideRow visFilter snapshot vis deletedRows row = .ok shown := by
  have flat := filterBatchesByVisibilityImpl_flatten visFilter snapshot vis batches deletedRows
  rw [filtered, ← length_flatten] at flat
  cases decided : (List.range' 0 batches.flatten.length).mapM
      (decideRow visFilter snapshot vis deletedRows) with
  | error err => simp only [decided, Except.map, reduceCtorEq] at flat
  | ok mask =>
    obtain ⟨shown, -, taken⟩ := exists_value_of_mapM_eq_ok decided
      (mem_range'_1.mpr ⟨Nat.zero_le row, by omega⟩)
    exact ⟨shown, taken⟩

lemma length_filterFrom
    (filtered : filterFrom visFilter snapshot deletedRows cursor row batches = .ok kept) :
    kept.length = batches.length := by
  induction batches generalizing cursor row kept with
  | nil =>
    cases filtered
    rfl
  | cons batch batches ih =>
    rw [filterFrom] at filtered
    split at filtered
    · cases filtered
    · split at filtered
      · cases filtered
      · obtain ⟨rest, later, rfl⟩ := map_eq_ok.mp filtered
        simp [ih later]

lemma length_filterBatchesByVisibilityImpl
    (filtered : filterBatchesByVisibilityImpl visFilter snapshot vis batches deletedRows = .ok kept) :
    kept.length = batches.length := by
  unfold filterBatchesByVisibilityImpl at filtered
  split at filtered
  · cases filtered
    rfl
  · exact length_filterFrom filtered

/-- When every row is decided, those that are shown are kept. -/
lemma filterBatchesByVisibilityImpl_of_decides {shown : Nat → Bool}
    (decides : ∀ row < batches.flatten.length,
      decideRow visFilter snapshot vis deletedRows row = .ok (shown row)) :
    ∃ kept, filterBatchesByVisibilityImpl visFilter snapshot vis batches deletedRows = .ok kept ∧
      kept.flatten = (batches.flatten.zipIdx.filter fun entry => shown entry.2).map Prod.fst := by
  have flat := filterBatchesByVisibilityImpl_flatten visFilter snapshot vis batches deletedRows
  have masked : (List.range' 0 batches.flatten.length).mapM
      (decideRow visFilter snapshot vis deletedRows) =
        .ok ((List.range' 0 batches.flatten.length).map shown) := by
    rw [mapM_eq_ok_iff, forall₂_map_right_iff, forall₂_same]
    exact fun row mem => decides row (by simpa using mem)
  rw [← length_flatten, masked, Except.map, keepMarked_map] at flat
  exact map_eq_ok.mp flat

end

lemma filterBatchesByVisibilityImpl_eq_nothing_iff {batches : List (List Row)} :
    (filterBatchesByVisibilityImpl visFilter snapshot vis batches
        deletedRows).map List.flatten = .ok [] ↔ ∀ row < (batches.map List.length).sum,
        decideRow visFilter snapshot vis deletedRows row = .ok false := by
  rw [filterBatchesByVisibilityImpl_flatten]
  constructor
  · intro nothing row inside
    cases decided : (List.range' 0 (batches.map List.length).sum).mapM
        (decideRow visFilter snapshot vis deletedRows) with
    | error err => simp [decided, Except.map] at nothing
    | ok mask =>
      have sameLength : mask.length = batches.flatten.length := by
        simpa [length_flatten] using (mapM_eq_ok_iff.mp decided).length_eq.symm
      have hidden : keepMarked batches.flatten mask = [] := by
        simpa [decided, Except.map] using nothing
      rw [keepMarked_eq_nil_iff sameLength] at hidden
      obtain ⟨flag, mem, shown⟩ := exists_value_of_mapM_eq_ok decided
        (mem_range'_1.mpr ⟨Nat.zero_le row, by omega⟩)
      rw [shown, hidden flag mem]
  · intro hidden
    have decided : (List.range' 0 (batches.map List.length).sum).mapM
        (decideRow visFilter snapshot vis deletedRows) =
          .ok ((List.range' 0 (batches.map List.length).sum).map fun _ => false) := by
      rw [mapM_eq_ok_iff, forall₂_map_right_iff, forall₂_same]
      exact fun row mem => hidden row (by simpa using mem)
    rw [decided, Except.map, (keepMarked_eq_nil_iff (by simp [length_flatten])).mpr]
    simp

end Filter

namespace SegmentImage

variable {Value : Type*} (image : SegmentImage Value)

/-- Read the columns that have a file with batches. -/
def readColumns : List String → Except RockDuckError (List (String × List (List Value)))
  | [] => .ok []
  | column :: columns =>
    match image.columnBatches column with
    | none => readColumns columns
    | some (.error error) => .error error
    | some (.ok batches) =>
      if batches.isEmpty then readColumns columns
      else (readColumns columns).map fun rest => (column, batches) :: rest

def buildBatch (columns : List (String × List Value)) :
    Except RockDuckError (List (DataRow Value)) :=
  let rows := (columns.head?.map fun column => column.2.length).getD 0
  if columns.all fun column => column.2.length == rows then
    .ok ((List.range rows).map fun row => columns.filterMap fun column =>
      column.2[row]?.map fun value => (column.1, value))
  else
    .error (.internal
      "Build batch: Invalid argument error: all columns in a record batch must have the same length")

/-- Read the columns and build batches of them. -/
def readVortexSegment (columns : List String) :
    Except RockDuckError (List (List (DataRow Value))) :=
  match image.readColumns columns with
  | .error error => .error error
  | .ok [] => .ok []
  | .ok (first :: rest) =>
    let minBatchCount := rest.foldl (fun count column => min count column.2.length) first.2.length
    let misaligned := (first :: rest).any fun column => column.2.length != minBatchCount
    let built := (List.range minBatchCount).mapM fun index =>
      buildBatch ((first :: rest).map fun column => (column.1, column.2.getD index []))
    match built with
    | .error error => .error error
    | .ok batches =>
      if misaligned && batches.isEmpty then
        .error (.internal
          "scan: all batches misaligned — no valid aligned batches found")
      else .ok batches

/-- Read the visibility file. -/
def readVisibilityBatches : Except RockDuckError (List VisBatch) :=
  match image.vis with
  | none => .ok []
  | some (.ok batches) => .ok batches
  | some (.error error) =>
    .error (.readPath ("failed to read visibility batches from " ++
      image.visPathText ++ ": " ++ error.display))

/-- The rows of the delete log, without the transactions that deleted
them. -/
def readDeletedRows : Except RockDuckError (List Nat) :=
  match image.deltavis with
  | none => .ok []
  | some (.error error) => .error error
  | some (.ok entries) => .ok (entries.map Prod.fst)

/-- Filter given rows by the files of the segment. -/
def scanRows {Row : Type*} (visFilter : VisFilter) (snapshot : TxnSnapshot)
    (rows : List (List Row)) : Except ReadFailure (List (List Row)) :=
  match image.readVisibilityBatches with
  | .error error => .error (.error error)
  | .ok visBatches =>
    match image.readDeletedRows with
    | .error error => .error (.error error)
    | .ok deletedRows =>
      filterBatchesByVisibilityImpl visFilter snapshot visBatches rows
        deletedRows

/-- Read and filter a segment. -/
def scan (visFilter : VisFilter) (snapshot : TxnSnapshot) (columns : List String) :
    Except ReadFailure (List (List (DataRow Value))) :=
  match image.readVortexSegment columns with
  | .error error => .error (.error error)
  | .ok rows => image.scanRows visFilter snapshot rows

end SegmentImage

end RockDuck
