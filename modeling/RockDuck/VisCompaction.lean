import RockDuck.SegmentScan

/-!
# Compacting a delete log

The deletions of a log are written back to the visibility file of a segment, batch by batch.  The
writer of the file keeps the first column only.
-/

namespace RockDuck

open List

abbrev RowTxns := TxnId × Nat

/-- A batch of a visibility file.  A file that the program wrote has no column of deleters. -/
inductive TxnBatch where
  | both (rows : List RowTxns)
  | creators (created : List TxnId)

/-- A row without a deleter is not deleted. -/
def TxnBatch.rows : TxnBatch → List RowTxns
  | both rows => rows
  | creators created => created.map fun txn => (txn, notDeleted)

def fileRows (batches : List TxnBatch) : List RowTxns := batches.flatMap TxnBatch.rows

/-- Set the deleter of the marked rows. -/
def markRowsDeleted (batch : TxnBatch) (deletedRows : List Bool) (deletedTxn : TxnId) :
    Except ReadFailure TxnBatch :=
  if batch.rows.length = deletedRows.length then
    match batch with
    | .both rows => .ok (.both (zipWith
        (fun row deleted => if deleted then (row.1, deletedTxn) else row) rows deletedRows))
    -- the place of the creators is the number of columns less two
    | .creators _ => .error (.panicked "attempt to subtract with overflow")
  else .error (.panicked "batch rows must match deleted_rows length")

section

variable (logged : Nat → Option TxnId)

/-- The mask that is made for a deleted row has one place, whatever the batch is. -/
def compactRow (first : Nat) (batch : TxnBatch) (row : Nat) : Except ReadFailure TxnBatch :=
  match logged (first + row) with
  | some deletedTxn => markRowsDeleted batch [true] deletedTxn
  | none => .ok batch

/-- Compact the batches in turn. -/
def compactBatches : Nat → List TxnBatch → Except ReadFailure (List TxnBatch)
  | _, [] => .ok []
  | first, batch :: batches =>
    match (List.range batch.rows.length).foldlM (compactRow logged first) batch with
    | .error failure => .error failure
    | .ok compacted =>
      (compactBatches (first + batch.rows.length) batches).map (compacted :: ·)

end

/-- The transaction of the first entry for a row. -/
def loggedTxn (entries : List (Nat × TxnId)) (row : Nat) : Option TxnId :=
  (entries.find? fun entry => decide (entry.1 = row)).map Prod.snd

/-- The file after `rewrite_batches`.  The writer makes one batch of the first columns, no file
at all for batches without rows, and from 100000 rows on it fails after it has flushed them. -/
def rewriteBatches (batches : List TxnBatch) : Except ReadFailure (List TxnBatch) :=
  if batches.isEmpty then .ok batches
  else if (fileRows batches).isEmpty then
    .error (.error (.io ⟨.notFound, "No such file or directory (os error 2)"⟩))
  else if 100000 ≤ (fileRows batches).length then
    .error (.error (.internal "no batches to write"))
  else .ok [.creators ((fileRows batches).map Prod.fst)]

/-- The file after the log was compacted, and the number of entries. -/
def compactDeltavis (batches : List TxnBatch) (entries : List (Nat × TxnId)) :
    Except ReadFailure (List TxnBatch × Nat) :=
  if entries.isEmpty then .ok (batches, 0)
  else do
    let compacted ← compactBatches (loggedTxn entries) 0 batches
    let written ← rewriteBatches compacted
    .ok (written, entries.length)

lemma loggedTxn_eq_none_iff : loggedTxn entries row = none ↔ row ∉ entries.map Prod.fst := by
  simp only [loggedTxn, Option.map_eq_none_iff, find?_eq_none, decide_eq_true_eq, mem_map, not_exists,
    not_and]

lemma foldlM_compactRow_of_none {first : Nat} {batch : TxnBatch} {rows : List Nat}
    (none : ∀ row ∈ rows, logged (first + row) = none) :
    rows.foldlM (compactRow logged first) batch = .ok batch := by
  induction rows with
  | nil => rfl
  | cons row rows ih =>
    rw [foldlM_cons, compactRow, none row mem_cons_self]
    exact ih fun other mem => none other (mem_cons_of_mem _ mem)

lemma compactBatches_of_none {first : Nat} {batches : List TxnBatch}
    (none : ∀ row < (fileRows batches).length, logged (first + row) = none) :
    compactBatches logged first batches = .ok batches := by
  induction batches generalizing first with
  | nil => rfl
  | cons batch batches ih =>
    rw [fileRows, flatMap_cons, length_append] at none
    have own : ∀ row ∈ List.range batch.rows.length, logged (first + row) = Option.none :=
      fun row mem => none row (Nat.lt_add_right _ (mem_range.mp mem))
    have rest : ∀ row < (fileRows batches).length,
        logged (first + batch.rows.length + row) = Option.none := fun row inside => by
      rw [Nat.add_assoc]
      exact none _ (Nat.add_lt_add_left inside _)
    rw [compactBatches, foldlM_compactRow_of_none own, ih rest]
    rfl

lemma compactBatches_ne_nil {first : Nat} {batches compacted : List TxnBatch} (ne : batches ≠ [])
    (marked : compactBatches logged first batches = .ok compacted) : compacted ≠ [] := by
  cases batches with
  | nil => exact absurd rfl ne
  | cons batch batches =>
    rw [compactBatches] at marked
    split at marked
    · cases marked
    · obtain ⟨rest, -, rfl⟩ := map_eq_ok.mp marked
      exact cons_ne_nil _ _

/-- A rewrite leaves no deleter in a file that has batches. -/
lemma rewriteBatches_eq_ok {batches after : List TxnBatch} (ne : batches ≠ [])
    (written : rewriteBatches batches = .ok after) :
    (fileRows batches).length < 100000 ∧ fileRows batches ≠ [] ∧
      fileRows after = (fileRows batches).map fun row => (row.1, notDeleted) := by
  unfold rewriteBatches at written
  rw [if_neg (by simpa using ne)] at written
  split at written
  · cases written
  · next some =>
      split at written
      · cases written
      · next few =>
          cases written
          refine ⟨by omega, by simpa using some, ?_⟩
          simp [fileRows, TxnBatch.rows]

lemma exists_rewritten {batches after : List TxnBatch} {count : Nat} (ne : entries ≠ [])
    (ran : compactDeltavis batches entries = .ok (after, count)) :
    ∃ compacted, compactBatches (loggedTxn entries) 0 batches = .ok compacted ∧
      rewriteBatches compacted = .ok after := by
  rw [compactDeltavis, if_neg (by simpa using ne)] at ran
  cases marked : compactBatches (loggedTxn entries) 0 batches with
  | error failure => simp [marked, bind, Except.bind] at ran
  | ok compacted =>
    refine ⟨compacted, rfl, ?_⟩
    cases written : rewriteBatches compacted with
    | error failure => simp [marked, written, bind, Except.bind] at ran
    | ok made =>
      simp only [marked, written, bind, Except.bind] at ran
      cases ran
      rfl

/-- The rows after the compaction. -/
structure Compacted (entries : List (Nat × TxnId)) (before after : List RowTxns) : Prop where
  length_eq : after.length = before.length
  row : ∀ place old new, before[place]? = some old → after[place]? = some new →
    new.1 = old.1 ∧ (new.2 ≠ notDeleted ↔ old.2 ≠ notDeleted ∨ place ∈ entries.map Prod.fst) ∧
      (place ∉ entries.map Prod.fst → new.2 = old.2)

lemma Compacted.refl {rows : List RowTxns}
    (unlogged : ∀ row < rows.length, row ∉ entries.map Prod.fst) : Compacted entries rows rows where
  length_eq := rfl
  row place old new was is := by
    obtain rfl := Option.some.inj (was.symm.trans is)
    have absent := unlogged place (List.getElem?_eq_some_iff.mp was).1
    exact ⟨rfl, (or_iff_left absent).symm, fun _ => rfl⟩

/-- When a rewritten file has no deleter, none was in the file or in the log for one of its
rows. -/
lemma Compacted.nothing_deleted {before after : List RowTxns}
    (compacted : Compacted entries before after)
    (cleared : ∀ row ∈ after, row.2 = notDeleted) (place : Nat) (inside : place < before.length) :
    before[place].2 = notDeleted ∧ place ∉ entries.map Prod.fst := by
  have there : place < after.length := compacted.length_eq ▸ inside
  have kept := (compacted.row place before[place] after[place] (by simp) (by simp)).2.1
  rw [cleared _ (getElem_mem there)] at kept
  simpa using kept

/-- The compaction keeps the deletions exactly when it has nothing to write, or nothing is
deleted, neither in the file nor by the log, and the writer takes the rows. -/
theorem compactDeltavis_iff (batches : List TxnBatch) (entries : List (Nat × TxnId)) :
    (∃ after count, compactDeltavis batches entries = .ok (after, count) ∧
        Compacted entries (fileRows batches) (fileRows after)) ↔
      entries = [] ∨ batches = [] ∨
        0 < (fileRows batches).length ∧ (fileRows batches).length < 100000 ∧
          (∀ row ∈ fileRows batches, row.2 = notDeleted) ∧
          ∀ row < (fileRows batches).length, row ∉ entries.map Prod.fst := by
  by_cases noEntry : entries = []
  · subst noEntry
    exact iff_of_true ⟨batches, 0, rfl, .refl (by simp)⟩ (.inl rfl)
  by_cases noBatch : batches = []
  · subst noBatch
    refine iff_of_true ⟨[], entries.length, ?_, .refl (by simp [fileRows])⟩ (.inr (.inl rfl))
    simp [compactDeltavis, noEntry, compactBatches, rewriteBatches, bind, Except.bind]
  simp only [noEntry, noBatch, false_or]
  constructor
  · rintro ⟨after, count, ran, kept⟩
    obtain ⟨compacted, marked, written⟩ := exists_rewritten noEntry ran
    obtain ⟨few, ne, rows⟩ := rewriteBatches_eq_ok (compactBatches_ne_nil noBatch marked) written
    have same : (fileRows compacted).length = (fileRows batches).length := by
      rw [← kept.length_eq, rows, length_map]
    have cleared : ∀ row ∈ fileRows after, row.2 = notDeleted := by
      rw [rows]
      exact forall_mem_map.mpr fun _ _ => rfl
    have clear := kept.nothing_deleted cleared
    refine ⟨same ▸ length_pos_iff.mpr ne, same ▸ few, fun row mem => ?_,
      fun place inside => (clear place inside).2⟩
    obtain ⟨place, inside, rfl⟩ := getElem_of_mem mem
    exact (clear place inside).1
  · rintro ⟨some, few, alive, unlogged⟩
    have marked : compactBatches (loggedTxn entries) 0 batches = .ok batches :=
      compactBatches_of_none fun row inside => by
        rw [Nat.zero_add, loggedTxn_eq_none_iff]
        exact unlogged row inside
    have written : rewriteBatches batches =
        .ok [.creators ((fileRows batches).map Prod.fst)] := by
      rw [rewriteBatches, if_neg (by simpa using noBatch),
        if_neg (by simpa using length_pos_iff.mp some), if_neg (by omega)]
    refine ⟨[.creators ((fileRows batches).map Prod.fst)], entries.length, ?_, ?_⟩
    · rw [compactDeltavis, if_neg (by simpa using noEntry)]
      simp [marked, written, bind, Except.bind]
    · have same : fileRows [.creators ((fileRows batches).map Prod.fst)] = fileRows batches := by
        simp only [fileRows, flatMap_singleton, TxnBatch.rows, map_map]
        refine (map_congr_left fun row mem => ?_).trans (map_id _)
        exact Prod.ext rfl (alive row mem).symm
      rw [same]
      exact .refl unlogged

/-- The deletion of a row that is alone in its batch is lost with the second column.  In a file
without that column, as the writer leaves it, no row can be marked. -/
theorem compactDeltavis_loses_deletion :
    compactDeltavis [.both [(1, notDeleted)]] [(0, 2)] = .ok ([.creators [1]], 1) ∧
      ¬ Compacted [(0, 2)] (fileRows [.both [(1, notDeleted)]]) (fileRows [.creators [1]]) ∧
      compactDeltavis [.creators [1]] [(0, 2)] =
        .error (.panicked "attempt to subtract with overflow") := by
  refine ⟨rfl, fun compacted => ?_, rfl⟩
  have logged := (compacted.nothing_deleted (by simp [fileRows, TxnBatch.rows]) 0
    (by simp [fileRows, TxnBatch.rows])).2
  simp at logged

end RockDuck
