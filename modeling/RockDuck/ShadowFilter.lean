import RockDuck.SegmentScan

/-!
# Filtering by the shadow columns

`filter_by_visibility` has the visibility rule written out once more, over the
last two columns of a batch.
-/

namespace RockDuck

open List

/-- A column of a batch: 64-bit integers, taken as `u64`, or something else. -/
inductive ShadowColumn (Cell : Type*) where
  | int64 (values : List Nat)
  | other (cells : List Cell)

namespace ShadowColumn

variable {Cell : Type*}

def length : ShadowColumn Cell → Nat
  | int64 values => values.length
  | other cells => cells.length

def keep (mask : List Bool) : ShadowColumn Cell → ShadowColumn Cell
  | int64 values => int64 (keepMarked values mask)
  | other cells => other (keepMarked cells mask)

end ShadowColumn

/-- A batch with its visibility columns. -/
structure ShadowBatch (Cell : Type*) where
  numRows : Nat
  columns : List (String × ShadowColumn Cell)
  aligned : ∀ column ∈ columns, column.2.length = numRows

/-- The set is filled from five transactions on. -/
def activeTxnsSet (snapshot : TxnSnapshot) : Std.ExtTreeSet TxnId :=
  if 5 ≤ snapshot.activeTxns.size then snapshot.activeTxns else ∅

lemma mem_of_mem_activeTxnsSet (mem : txnId ∈ activeTxnsSet snap) : txnId ∈ snap.activeTxns := by
  unfold activeTxnsSet at mem
  split at mem
  · exact mem
  · simp at mem

/-- The visibility test of the shadow filter. -/
def shadowVisible (snapshot : TxnSnapshot) (created : TxnId) (deleted : Option TxnId) : Bool :=
  let active := snapshot.activeTxns
  let set := activeTxnsSet snapshot
  let commitTsMap := snapshot.commitTsMap
  if decide (created > snapshot.snapshotId) || active.contains created ||
      set.contains created || !commitTsMap.contains created ||
      (commitTsMap[created]?).any (· > snapshot.snapshotId) then
    false
  else
    match deleted with
    | some del =>
      !(active.contains del || set.contains del || (commitTsMap.contains del &&
          (commitTsMap[del]?).all (· ≤ snapshot.snapshotId)))
    | none => true

def visibilityMask (rule : TxnId → Option TxnId → Bool) (created deleted : List Nat) : List Bool :=
  List.zipWith (fun createdTxn stored => rule createdTxn (deletedTxn stored))
    created deleted

/-- Filter a batch by its visibility columns. -/
def ShadowBatch.filterByVisibility {Cell : Type*} (batch : ShadowBatch Cell)
    (snapshot : TxnSnapshot) : Except ReadFailure (List (String × ShadowColumn Cell)) :=
  match batch.columns.reverse with
  | [] | [_] => .ok batch.columns
  | (_, .int64 deleted) :: (_, .int64 created) :: data =>
    let mask := visibilityMask (shadowVisible snapshot) created deleted
    if data.isEmpty then
      .error (.error (.codec
        "filter_by_visibility: output schema mismatch: Invalid argument error: must either specify a row count or at least one column"))
    else .ok (data.reverse.map fun column => (column.1, column.2.keep mask))
  | _ => .error (.panicked "primitive array")

namespace TxnSnapshot

def rowVisible (snapshot : TxnSnapshot) (created : TxnId) (deleted : Option TxnId) : Bool :=
  isRowVisible snapshot.snapshotId created deleted snapshot.activeTxns
    snapshot.commitTsMap

lemma rowVisible_iff {snap : TxnSnapshot} : snap.rowVisible created deleted = true ↔
      created ≤ snap.snapshotId ∧ snap.Counts created ∧
        ∀ del, deleted = some del → ¬ snap.Counts del := by
  rw [rowVisible, ← VisibilityManager.isRowVisible_eq_snapshot]
  exact VisibilityManager.isVisible_iff snap created deleted

end TxnSnapshot

lemma shadowVisible_iff :
    shadowVisible snap created deleted = true ↔ snap.rowVisible created deleted = true ∧
        ∀ del, deleted = some del → del ∉ snap.activeTxns := by
  have known (txnId : TxnId) : snap.commitTsMap.contains txnId =
      (snap.commitTsMap[txnId]?).isSome :=
    Std.ExtTreeMap.contains_eq_isSome_getElem?
  have again {txnId : TxnId} := @mem_of_mem_activeTxnsSet snap txnId
  rw [TxnSnapshot.rowVisible_iff]
  unfold shadowVisible TxnSnapshot.Counts
  cases entry : snap.commitTsMap[created]? with
  | none => simp [known, entry]
  | some commitTs =>
    cases deleted with
    | none =>
      simp [known, entry]
      grind
    | some del =>
      cases deletedEntry : snap.commitTsMap[del]? with
      | none | some delCommitTs =>
        simp [known, entry, deletedEntry]
        grind

section Masks

variable {Row : Type*}

lemma mask_eq_of_count_eq
    (less : List.Forall₂ (fun kept shown => kept = true → shown = true) mask wider)
    (same : mask.count true = wider.count true) : mask = wider := by
  have fewer {mask wider : List Bool}
      (less : List.Forall₂ (fun kept shown => kept = true → shown = true) mask
        wider) : mask.count true ≤ wider.count true := by
    induction less with
    | nil => exact le_rfl
    | @cons kept shown mask wider implies _ ih =>
      cases kept with
      | true => simpa [implies rfl] using ih
      | false =>
        have counted := count_le_count_cons (a := true) (b := shown) (l := wider)
        simpa using ih.trans counted
  induction less with
  | nil => rfl
  | @cons kept shown mask wider implies rest ih =>
    have bound := fewer rest
    cases kept with
    | true =>
      rw [implies rfl] at same ⊢
      rw [ih (by simpa using same)]
    | false =>
      cases shown with
      | false => rw [ih (by simpa using same)]
      | true =>
        simp only [count_cons, beq_self_eq_true, if_true] at same
        simp at same
        omega

end Masks

namespace ShadowBatch

variable {Cell : Type*}

lemma keep_injective {col : ShadowColumn Cell}
    (less : List.Forall₂ (fun kept shown => kept = true → shown = true) mask wider)
    (sameLength : wider.length = col.length)
    (same : col.keep mask = col.keep wider) : mask = wider := by
  refine mask_eq_of_count_eq less ?_
  have length := less.length_eq.trans sameLength
  cases col with
  | int64 vals =>
    have kept := congrArg List.length (ShadowColumn.int64.inj same)
    rwa [length_keepMarked length, length_keepMarked sameLength] at kept
  | other cells =>
    have kept := congrArg List.length (ShadowColumn.other.inj same)
    rwa [length_keepMarked length, length_keepMarked sameLength] at kept

lemma filterByVisibility_of_split {batch : ShadowBatch Cell} (split : batch.columns =
      data ++ [(createdName, .int64 created), (deletedName, .int64 deleted)])
    (snap) : batch.filterByVisibility snap =
      if data.isEmpty then
        .error (.error (.codec
          "filter_by_visibility: output schema mismatch: Invalid argument error: must either specify a row count or at least one column"))
      else .ok (data.map fun col => (col.1, col.2.keep
        (visibilityMask (shadowVisible snap) created deleted))) := by
  simp [filterByVisibility, split]

lemma shadowVisible_eq_rowVisible_iff :
    shadowVisible snap created deleted = snap.rowVisible created deleted ↔
      ∀ del, deleted = some del → del ∈ snap.activeTxns → snap.rowVisible created none = false := by
  have undeleted {del : TxnId} (active : del ∈ snap.activeTxns) :
      snap.rowVisible created (some del) = snap.rowVisible created none := by
    rw [Bool.eq_iff_iff, TxnSnapshot.rowVisible_iff, TxnSnapshot.rowVisible_iff]
    simp [TxnSnapshot.Counts, active]
  rw [Bool.eq_iff_iff, shadowVisible_iff, and_iff_left_iff_imp]
  constructor
  · rintro sound del rfl active
    by_contra shown
    rw [Bool.not_eq_false, ← undeleted active] at shown
    exact sound shown del rfl active
  · rintro hidden shown del rfl active
    rw [undeleted active, hidden del rfl active] at shown
    cases shown

lemma visibilityMask_le (snap created deleted) :
    List.Forall₂ (fun kept shown => kept = true → shown = true)
      (visibilityMask (shadowVisible snap) created deleted)
      (visibilityMask snap.rowVisible created deleted) := by
  induction created generalizing deleted with
  | nil => exact List.Forall₂.nil
  | cons createdTxn created ih =>
    cases deleted with
    | nil => exact List.Forall₂.nil
    | cons stored deleted =>
      exact List.Forall₂.cons (fun kept => (shadowVisible_iff.mp kept).1)
        (ih deleted)

lemma visibilityMask_eq_iff :
    visibilityMask rule created deleted = visibilityMask other created deleted ↔
      ∀ (row : Nat) (createdTxn stored : Nat), created[row]? = some createdTxn →
        deleted[row]? = some stored → rule createdTxn (deletedTxn stored) =
            other createdTxn (deletedTxn stored) := by
  constructor
  · intro same row createdTxn stored atCreated atDeleted
    have atRow := congrArg (·[row]?) same
    simpa [visibilityMask, getElem?_zipWith, atCreated, atDeleted] using atRow
  · intro agree
    refine List.ext_getElem? fun row => ?_
    rw [visibilityMask, visibilityMask, getElem?_zipWith, getElem?_zipWith]
    cases atCreated : created[row]? with
    | none => rfl
    | some createdTxn =>
      cases atDeleted : deleted[row]? with
      | none => rfl
      | some stored => exact congrArg some (agree row createdTxn stored atCreated atDeleted)

/-- The filter keeps the rows that the rule shows exactly when the batch has data
and no active transaction deleted a row that would be visible otherwise. -/
theorem filterByVisibility_matches_iff (batch : ShadowBatch Cell)
    (snapshot : TxnSnapshot) (data : List (String × ShadowColumn Cell))
    (createdName deletedName : String) (created deleted : List Nat) (split : batch.columns =
      data ++ [(createdName, .int64 created), (deletedName, .int64 deleted)]) :
    batch.filterByVisibility snapshot = .ok (data.map fun column => (column.1, column.2.keep
          (visibilityMask snapshot.rowVisible created deleted))) ↔
      data ≠ [] ∧ ∀ (row : Nat) (createdTxn stored : Nat),
        created[row]? = some createdTxn → deleted[row]? = some stored →
          ∀ del, deletedTxn stored = some del → del ∈ snapshot.activeTxns →
            snapshot.rowVisible createdTxn none = false := by
  simp only [← shadowVisible_eq_rowVisible_iff, ← visibilityMask_eq_iff,
    filterByVisibility_of_split split]
  cases data with
  | nil => simp
  | cons first data =>
    simp only [isEmpty_cons, Bool.false_eq_true, if_false, Except.ok.injEq,
      ne_eq, reduceCtorEq, not_false_eq_true, true_and]
    refine ⟨fun same => ?_, fun same => by rw [same]⟩
    have rows : created.length = batch.numRows ∧ deleted.length = batch.numRows ∧
        first.2.length = batch.numRows := by
      refine ⟨batch.aligned (createdName, .int64 created) ?_,
        batch.aligned (deletedName, .int64 deleted) ?_,
        batch.aligned first ?_⟩ <;> simp [split]
    refine keep_injective (visibilityMask_le snapshot created deleted) ?_
      (Prod.mk.inj (List.cons.inj same).1).2
    rw [visibilityMask, length_zipWith, rows.1, rows.2.1, rows.2.2, min_self]

def pendingDelete : ShadowBatch UInt8 where
  numRows := 1
  columns := [("x", .other [7]), (createdTxnCol, .int64 [1]),
    (deletedTxnCol, .int64 [2])]
  aligned := by simp [ShadowColumn.length]

def pendingSnapshot : TxnSnapshot where
  snapshotId := 5
  activeTxns := {2}
  isolation := .snapshot
  commitTsMap := (∅ : Std.ExtTreeMap TxnId Nat).insert 1 1

theorem filterByVisibility_matches_iff_pendingDelete :
    pendingDelete.filterByVisibility pendingSnapshot =
        .ok ([("x", ShadowColumn.other [7])].map fun column => (column.1,
          column.2.keep (visibilityMask pendingSnapshot.rowVisible [1] [2]))) ↔
      [("x", ShadowColumn.other [7])] ≠ ([] : List (String × ShadowColumn UInt8)) ∧
        ∀ (row : Nat) (createdTxn stored : Nat), ([1] : List Nat)[row]? = some createdTxn →
          ([2] : List Nat)[row]? = some stored → ∀ del, deletedTxn stored = some del →
              del ∈ pendingSnapshot.activeTxns →
                pendingSnapshot.rowVisible createdTxn none = false :=
  filterByVisibility_matches_iff pendingDelete pendingSnapshot
    [("x", .other [7])] createdTxnCol deletedTxnCol [1] [2] rfl

/-- The row is visible and the filter drops it. -/
theorem pending_delete_drops_row : pendingSnapshot.rowVisible 1 (deletedTxn 2) = true ∧
      pendingDelete.filterByVisibility pendingSnapshot =
        .ok [("x", .other [])] := by
  have shown : pendingSnapshot.rowVisible 1 (deletedTxn 2) = true := by decide +kernel
  have hidden : shadowVisible pendingSnapshot 1 (deletedTxn 2) = false := by decide +kernel
  refine ⟨shown, ?_⟩
  have split : pendingDelete.columns =
    [("x", .other [7])] ++ [(createdTxnCol, .int64 [1]), (deletedTxnCol, .int64 [2])] :=
      rfl
  rw [filterByVisibility_of_split split]
  simp [visibilityMask, hidden, ShadowColumn.keep, keepMarked]

end ShadowBatch

end RockDuck
