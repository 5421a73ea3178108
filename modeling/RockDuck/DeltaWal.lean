import RockDuck.ByteFields
import RockDuck.DeltaLayer
import RockDuck.FallibleSteps

/-!
# Delta cells in the write-ahead log

A cell is logged when it is put, or waits in a buffer that is logged before a
flush.  After a crash the first layer is rebuilt from the records.
-/

namespace RockDuck

open List

namespace StoredDeltaCell

variable (cell : StoredDeltaCell)

def isUpdate : Bool :=
  cell.before.isSome && cell.after.isSome

def insertPayload : OpPayload :=
  .insert "" (leBytes 8 cell.rowOffset) [cell.column] (cell.after.getD []) [] cell.segId 0
    cell.rowOffset

def updatePayload : OpPayload :=
  .update "" (leBytes 8 cell.rowOffset) [cell.column] (cell.after.getD []) []
    [(cell.column, cell.before.getD [])] cell.segId 0 cell.rowOffset cell.segId 0 cell.rowOffset

def deletePayload : OpPayload :=
  .delete "" (leBytes 8 cell.rowOffset) [(cell.column, cell.before.getD [])] cell.segId 0
    cell.rowOffset

/-- What is logged when a cell is put.  The type is that of an insert, and a cell
without values is not logged. -/
def syncRecord : Option WalOp :=
  if cell.isUpdate then some ⟨.insert, cell.txnId, cell.updatePayload⟩
  else if cell.isInsert then some ⟨.insert, cell.txnId, cell.insertPayload⟩
  else if cell.isDelete then some ⟨.insert, cell.txnId, cell.deletePayload⟩
  else none

/-- The record that a buffered cell is logged with. -/
def bufferedRecord : WalOp :=
  if cell.isUpdate then ⟨.update, cell.txnId, cell.updatePayload⟩
  else if cell.isInsert then ⟨.insert, cell.txnId, cell.insertPayload⟩
  else ⟨.delete, cell.txnId, cell.deletePayload⟩

def held : DeltaKey × Option Bytes × Option Bytes :=
  (deltaKey cell, cell.before, cell.after)

def oneInsert : StoredDeltaCell := ⟨"a", 0, "x", 1, none, some [7], true, 0⟩

end StoredDeltaCell

/-- The cell that recovery makes of a record.  It has no values. -/
def WalOp.recoveredCell (op : WalOp) : Option StoredDeltaCell :=
  match op.payload with
  | .insert _ _ columns _ _ segId _ offset =>
    some ⟨segId, offset, columns.headD "", op.txnId, none, none, true, 0⟩
  | .update _ _ columns _ _ _ _ _ _ segId _ offset =>
    some ⟨segId, offset, columns.headD "", op.txnId, none, none, true, 0⟩
  | .delete _ _ beforeRow segId _ offset =>
    some ⟨segId, offset, (beforeRow.head?.map Prod.fst).getD "", op.txnId, none, none, true, 0⟩
  | _ => none

namespace DeltaMemStore

/-- As `put`, without the log. -/
def replayInto (store : DeltaMemStore) (cell : StoredDeltaCell) : DeltaMemStore :=
  (store.put cell none).1

/-- Put the cells of some records into the store. -/
def recoverFromWal (store : DeltaMemStore) (ops : List WalOp) : DeltaMemStore :=
  ops.foldl (fun store op => (op.recoveredCell.map store.replayInto).getD store) store

def putAll (cells : List StoredDeltaCell) : DeltaMemStore :=
  cells.foldl (fun store cell => (store.put cell none).1) .empty

/-- The store that is rebuilt from the records of the cells that were put. -/
def recovered (cells : List StoredDeltaCell) : DeltaMemStore :=
  empty.recoverFromWal (cells.filterMap StoredDeltaCell.syncRecord)

lemma getElem?_hot_insert (hot : DeltaBuffer) (cell key) : (hot.insert (deltaKey cell) cell)[key]? =
      if deltaKey cell = key then some cell else hot[key]? := by
  simp only [Std.ExtTreeMap.getElem?_insert, Std.compare_eq_iff_eq]

lemma recoveredCell_of_syncRecord {cell : StoredDeltaCell}
    (logged : cell.syncRecord = some op) : op.recoveredCell =
      some ⟨cell.segId, cell.rowOffset, cell.column, cell.txnId, none, none, true, 0⟩ := by
  rw [StoredDeltaCell.syncRecord] at logged
  split_ifs at logged <;> cases logged <;> rfl

lemma recovered_hot (cells key) : (recovered cells).hot[key]?.map StoredDeltaCell.held =
      if ∃ cell ∈ cells, cell.syncRecord.isSome ∧ deltaKey cell = key then some (key, none, none)
      else none := by
  induction cells using List.reverseRecOn with
  | nil => rfl
  | append_singleton cells cell ih =>
    rw [recovered, filterMap_append, recoverFromWal, foldl_append]
    change ((foldl _ (recovered cells) _).hot[key]?).map _ = _
    cases logged : cell.syncRecord with
    | none => simpa [logged, or_and_right, exists_or] using ih
    | some op =>
      have step : ([cell].filterMap StoredDeltaCell.syncRecord) = [op] := by simp [logged]
      rw [step, foldl_cons, foldl_nil, recoveredCell_of_syncRecord logged, Option.map_some,
        Option.getD_some, replayInto, put]
      dsimp only
      rw [getElem?_hot_insert]
      change Option.map _ (if deltaKey cell = key then _ else _) = _
      by_cases same : deltaKey cell = key
      · rw [if_pos same, if_pos ⟨cell, by simp, by simp [logged], same⟩, ← same]
        rfl
      · rw [if_neg same, ih]
        simp [same, or_and_right, exists_or]

lemma putAll_hot (cells key) : if ∃ cell ∈ cells, deltaKey cell = key then
      ∃ cell, (putAll cells).hot[key]? = some cell ∧ deltaKey cell = key
    else (putAll cells).hot[key]? = none := by
  induction cells using List.reverseRecOn with
  | nil => simp [putAll, empty]
  | append_singleton cells cell ih =>
    have step : (putAll (cells ++ [cell])).hot = (putAll cells).hot.insert (deltaKey cell) cell := by
      simp [putAll, put]
    rw [step, getElem?_hot_insert]
    by_cases same : deltaKey cell = key
    · rw [if_pos ⟨cell, by simp, same⟩, if_pos same]
      exact ⟨cell, rfl, same⟩
    · simpa [same, or_and_right, exists_or] using ih

/-- A cell is rebuilt as it was only if it has no values and one with values was put for
its key before. -/
theorem recovered_faithful_iff (cells : List StoredDeltaCell) :
    (∀ key : DeltaKey, (recovered cells).hot[key]?.map StoredDeltaCell.held =
        (putAll cells).hot[key]?.map StoredDeltaCell.held) ↔
      ∀ cell, (putAll cells).hot[deltaKey cell]? = some cell →
        cell.before = none ∧ cell.after = none ∧
          ∃ logged ∈ cells, logged.syncRecord.isSome ∧ deltaKey logged = deltaKey cell := by
  simp only [recovered_hot]
  constructor
  · intro faithful cell put
    have same := faithful (deltaKey cell)
    rw [put] at same
    split at same
    · rename_i logged
      simp only [Option.map_some, StoredDeltaCell.held, Option.some.injEq, Prod.mk.injEq] at same
      exact ⟨same.2.1.symm, same.2.2.symm, logged⟩
    · cases same
  · intro blank key
    have placed := putAll_hot cells key
    split at placed
    · obtain ⟨cell, put, rfl⟩ := placed
      obtain ⟨before, after, logged⟩ := blank cell put
      rw [put, if_pos logged, Option.map_some, StoredDeltaCell.held, before, after]
    · rename_i absent
      rw [placed, if_neg fun logged => absent (logged.imp fun _ logged => ⟨logged.1, logged.2.2⟩)]
      rfl

theorem oneInsert_loses_value : ¬ ∀ key : DeltaKey,
    (recovered [.oneInsert]).hot[key]?.map StoredDeltaCell.held =
      (putAll [.oneInsert]).hot[key]?.map StoredDeltaCell.held := by
  intro faithful
  exact absurd (faithful (deltaKey .oneInsert)) (by decide +kernel)

end DeltaMemStore

/-- The cells that wait to be logged, and the log of the writer if there is one. -/
structure WalBuffer where
  cells : List StoredDeltaCell
  log : Option (List WalOp)

namespace WalBuffer

/-- Append the record of a cell. -/
def appendRecord (context : String) (faults : Nat → Option String) (log : List WalOp)
    (entry : StoredDeltaCell × Nat) : List WalOp × Except RockDuckError Unit :=
  let txnId := entry.1.txnId
  match faults entry.2 with
  | some reason => (log, .error (.write s!"{context} for txn {txnId}: {reason}"))
  | none => (log ++ [entry.1.bufferedRecord], .ok ())

/-- The buffer is emptied before the first record is appended. -/
def drain (buffer : WalBuffer) (context : String) (faults : Nat → Option String) :
    WalBuffer × Except RockDuckError Nat :=
  match buffer.log with
  | none => (⟨[], none⟩, .ok buffer.cells.length)
  | some log =>
    let (log, outcome) := forEach (appendRecord context faults) log buffer.cells.zipIdx
    (⟨[], some log⟩, outcome.map fun _ => buffer.cells.length)

/-- Log what is buffered before a flush. -/
def syncWalBeforeFlush (buffer : WalBuffer) (faults : Nat → Option String) :
    WalBuffer × Except RockDuckError Nat :=
  buffer.drain "WAL pre-flush" faults

/-- `overdue` says whether the last flush is longer ago than the batch time. -/
def flushWalBufferIfNeeded (buffer : WalBuffer) (batched : Bool) (maxPending : Nat) (overdue : Bool)
    (faults : Nat → Option String) : WalBuffer × Except RockDuckError Nat :=
  if !batched then (buffer, .ok 0)
  else if maxPending ≤ buffer.cells.length ∨ buffer.cells ≠ [] ∧ overdue then
    buffer.drain "WAL batch flush" faults
  else (buffer, .ok 0)

/-- The two ways to flush the buffer. -/
inductive Flush where
  | beforeFlush
  | ifNeeded (batched : Bool) (maxPending : Nat) (overdue : Bool)

def flush (buffer : WalBuffer) (faults : Nat → Option String) :
    Flush → WalBuffer × Except RockDuckError Nat
  | .beforeFlush => buffer.syncWalBeforeFlush faults
  | .ifNeeded batched maxPending overdue =>
    buffer.flushWalBufferIfNeeded batched maxPending overdue faults

/-- What was not appended waits in the buffer, in order. -/
def KeepsUnwritten (before after : WalBuffer) : Prop :=
  ∃ written, before.cells = written ++ after.cells ∧
    after.log = before.log.map (· ++ written.map StoredDeltaCell.bufferedRecord)

/-- The call gets to the records. -/
def Flush.Due (buffer : WalBuffer) : Flush → Prop
  | .beforeFlush => True
  | .ifNeeded batched maxPending overdue =>
    batched = true ∧ (maxPending ≤ buffer.cells.length ∨ buffer.cells ≠ [] ∧ overdue = true)

lemma forEach_appendRecord (ctx : String) (faults : Nat → Option String)
    (cells : List StoredDeltaCell) (first : Nat) (log) :
    (∀ idx < cells.length, faults (first + idx) = none) ∧
        (forEach (appendRecord ctx faults) log (cells.zipIdx first)).2 = .ok () ∨
      ¬ (∀ idx < cells.length, faults (first + idx) = none) ∧
        (∃ error, (forEach (appendRecord ctx faults) log (cells.zipIdx first)).2 = .error error) ∧
        (forEach (appendRecord ctx faults) log (cells.zipIdx first)).1.length <
          log.length + cells.length := by
  induction cells generalizing first log with
  | nil => exact .inl ⟨by simp, rfl⟩
  | cons cell cells ih =>
    rw [zipIdx_cons, forEach, appendRecord]
    cases fault : faults first with
    | some reason =>
      refine .inr ⟨fun none => ?_, ⟨_, rfl⟩, by simp [andThen]⟩
      simpa [fault] using none 0 (by simp)
    | none =>
      have shifted : (∀ idx < (cell :: cells).length, faults (first + idx) = none) ↔
          ∀ idx < cells.length, faults (first + 1 + idx) = none := by
        refine ⟨fun all idx lt => ?_, fun all idx lt => ?_⟩
        · rw [add_assoc, add_comm 1]
          exact all (idx + 1) (by simpa using lt)
        · cases idx with
          | zero => exact fault
          | succ idx =>
            rw [← add_assoc, add_right_comm]
            exact all idx (by simpa using lt)
      rw [shifted]
      rcases ih (first + 1) (log ++ [cell.bufferedRecord]) with ok | ⟨some, failed, short⟩
      · exact .inl ok
      · refine .inr ⟨some, failed, ?_⟩
        simp only [andThen, length_append, length_cons, length_nil] at short ⊢
        omega

lemma drain_keepsUnwritten_iff (buf : WalBuffer) (ctx faults) :
    (∀ error, (buf.drain ctx faults).2 = .error error →
        buf.KeepsUnwritten (buf.drain ctx faults).1) ↔
      (buf.log.isSome = true → ∀ idx < buf.cells.length, faults idx = none) := by
  obtain ⟨cells, writer⟩ := buf
  cases writer with
  | none => simp [drain]
  | some log =>
    have appended := forEach_appendRecord ctx faults cells 0 log
    simp only [drain, zero_add] at appended ⊢
    rcases appended with ⟨none, ok⟩ | ⟨some, ⟨error, failed⟩, short⟩
    · rw [ok]
      exact iff_of_true (by simp [Except.map]) fun _ => none
    · rw [failed]
      refine iff_of_false (fun kept => ?_) fun none => some (none rfl)
      obtain ⟨written, whole, logged⟩ := kept error rfl
      simp only [append_nil, Option.map_some, Option.some.injEq] at whole logged
      rw [logged, ← whole, length_append, length_map] at short
      exact lt_irrefl _ short

/-- A flush of the buffer keeps what was not appended only where no append can
fail: it is not due, there is no writer, or none of the appends of the buffered cells has
a fault. -/
theorem flush_keepsUnwritten_iff (buffer : WalBuffer) (flush : Flush)
    (faults : Nat → Option String) :
    (∀ error, (buffer.flush faults flush).2 = .error error →
        buffer.KeepsUnwritten (buffer.flush faults flush).1) ↔
      (flush.Due buffer → buffer.log.isSome = true →
        ∀ index < buffer.cells.length, faults index = none) := by
  cases flush with
  | beforeFlush =>
    simp only [Flush.Due, true_implies]
    exact drain_keepsUnwritten_iff buffer _ faults
  | ifNeeded batched maxPending overdue =>
    simp only [WalBuffer.flush, flushWalBufferIfNeeded, Flush.Due]
    cases batched with
    | false => simp
    | true =>
      simp only [Bool.not_true, Bool.false_eq_true, if_false, true_and]
      split_ifs with due
      · rw [drain_keepsUnwritten_iff]
        exact ⟨fun kept _ => kept, fun kept => kept due⟩
      · simp [due]

theorem beforeFlush_drops_cell : ¬ ∀ error,
    (WalBuffer.flush ⟨[.oneInsert], some []⟩ (fun _ => some "full") .beforeFlush).2 = .error error →
      KeepsUnwritten ⟨[.oneInsert], some []⟩
        (WalBuffer.flush ⟨[.oneInsert], some []⟩ (fun _ => some "full") .beforeFlush).1 := by
  intro kept
  obtain ⟨written, whole, logged⟩ := kept _ rfl
  have none : written = [] := by
    simpa [WalBuffer.flush, syncWalBeforeFlush, drain, forEach, appendRecord, andThen] using logged
  simp [none, WalBuffer.flush, syncWalBeforeFlush, drain] at whole

end WalBuffer

end RockDuck
