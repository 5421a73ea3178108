import Mathlib

/-!
# Logs shared by many transactions

The records of a log belong to transactions and interleave freely.
-/

namespace RockDuck

open List

/-- What a record does. -/
inductive LogRole where
  | begin
  | operation
  | commit
  | rollback
  | neutral
  deriving DecidableEq

/-- How to read records. -/
structure LogView (Record Id : Type*) where
  owner : Record → Id
  role : Record → LogRole

namespace LogView

variable {Record Id : Type*} [DecidableEq Id] (view : LogView Record Id)

def closes (id : Id) (record : Record) : Bool :=
  decide (view.owner record = id) &&
    (decide (view.role record = .commit) || decide (view.role record = .rollback))

def operates (id : Id) (record : Record) : Bool :=
  decide (view.owner record = id) && decide (view.role record = .operation)

def engages (id : Id) (record : Record) : Bool :=
  decide (view.owner record = id) &&
    (decide (view.role record = .begin) || decide (view.role record = .operation))

/-- The records since the transaction was last closed. -/
def openTail (id : Id) (log : List Record) : List Record :=
  log.rtakeWhile fun record => !view.closes id record

def openOperations (id : Id) (log : List Record) : List Record :=
  (view.openTail id log).filter (view.operates id)

/-- The transaction began or logged an operation since it was last closed. -/
def isOpen (id : Id) (log : List Record) : Bool :=
  (view.openTail id log).any (view.engages id)

/-- The open operations, of a transaction that is open. -/
def openPart (id : Id) (log : List Record) : Option (List Record) :=
  if view.isOpen id log then some (view.openOperations id log) else none

/-- The transaction that a record commits, with its operations. -/
def batchAt (log : List Record) (index : Nat) : Option (Id × List Record) :=
  match log[index]? with
  | some record =>
    if view.role record = .commit then
      some (view.owner record, view.openOperations (view.owner record) (log.take index))
    else none
  | none => none

/-- The committed transactions, in the order of their commits. -/
def committedBatches (log : List Record) : List (Id × List Record) :=
  (List.range log.length).filterMap (view.batchAt log)

variable {view}

variable {id : Id}

variable {record : Record} {log : List Record}

lemma operates_iff : view.operates id record = true ↔
      view.owner record = id ∧ view.role record = .operation := by
  simp [operates]

lemma closes_eq_false_iff : view.closes id record = false ↔
      (view.owner record = id → view.role record ≠ .commit ∧ view.role record ≠ .rollback) := by
  simp [closes]

section

variable {log : List Record} {record : Record}

lemma openTail_concat_of_closes (closing : view.closes id record = true) :
    view.openTail id (log ++ [record]) = [] := by
  simp [openTail, closing]

section

variable (keeps : view.closes id record = false)
include keeps

lemma openTail_concat : view.openTail id (log ++ [record]) = view.openTail id log ++ [record] := by
  simp [openTail, keeps]

lemma openOperations_concat :
    view.openOperations id (log ++ [record]) = view.openOperations id log ++
        if view.operates id record then [record] else [] := by
  rw [openOperations, openTail_concat keeps, filter_append]
  cases operates : view.operates id record <;>
    simp [openOperations, operates]

lemma isOpen_concat : view.isOpen id (log ++ [record]) =
      (view.isOpen id log || view.engages id record) := by
  rw [isOpen, openTail_concat keeps, any_append]
  simp [isOpen]

end

lemma isOpen_concat_of_closes (closing : view.closes id record = true) :
    view.isOpen id (log ++ [record]) = false := by
  simp [isOpen, openTail_concat_of_closes closing]

end

lemma openOperations_of_not_isOpen (closed : view.isOpen id log = false) :
    view.openOperations id log = [] := by
  rw [openOperations, filter_eq_nil_iff]
  intro record mem operates
  have idle := any_eq_false.mp closed record mem
  rw [LogView.operates, Bool.and_eq_true] at operates
  simp [engages, operates] at idle

@[simp]
lemma getD_openPart : (view.openPart id log).getD [] = view.openOperations id log := by
  unfold openPart
  split
  · rfl
  · rename_i closed
    simp [openOperations_of_not_isOpen (Bool.eq_false_of_not_eq_true closed)]

lemma openPart_concat_of_ne (foreign : view.owner record ≠ id) :
    view.openPart id (log ++ [record]) = view.openPart id log := by
  have keeps : view.closes id record = false := by simp [closes, foreign]
  simp [openPart, isOpen_concat keeps, openOperations_concat keeps, engages, operates, foreign]

lemma openPart_concat (log record) : view.openPart (view.owner record) (log ++ [record]) =
      match view.role record with
      | .begin => some (view.openOperations (view.owner record) log)
      | .operation => some (view.openOperations (view.owner record) log ++ [record])
      | .commit => none
      | .rollback => none
      | .neutral => view.openPart (view.owner record) log := by
  cases role : view.role record with
  | begin | operation | neutral =>
    have keeps : view.closes (view.owner record) record = false := by simp [closes, role]
    simp [openPart, isOpen_concat keeps, openOperations_concat keeps, engages, operates, role]
  | commit | rollback =>
    have closing : view.closes (view.owner record) record = true := by simp [closes, role]
    simp [openPart, isOpen_concat_of_closes closing]

lemma owner_mem_of_isOpen (opened : view.isOpen id log = true) : id ∈ log.map view.owner := by
  obtain ⟨record, mem, engaged⟩ := any_eq_true.mp opened
  have inLog : record ∈ log := (rtakeWhile_suffix _ _).subset mem
  rw [engages, Bool.and_eq_true, decide_eq_true_eq] at engaged
  exact mem_map.mpr ⟨record, inLog, engaged.1⟩

lemma position_of_mem_openTail (mem : record ∈ view.openTail id log) :
    ∃ idx : Nat, log[idx]? = some record ∧
      ∀ (later : Nat) other, idx ≤ later → log[later]? = some other →
        view.closes id other = false := by
  obtain ⟨front, split⟩ : view.openTail id log <:+ log := rtakeWhile_suffix _ _
  obtain ⟨off, found⟩ := getElem?_of_mem mem
  refine ⟨front.length + off, ?_, fun later other after atLater => ?_⟩
  · rw [← split, getElem?_append_right (by omega)]
    simpa using found
  · rw [← split, getElem?_append_right (by omega)] at atLater
    have inTail := mem_of_getElem? atLater
    simpa using mem_rtakeWhile_imp inTail

lemma position_of_mem_committedBatches (committed : batch ∈ view.committedBatches log)
    (mem : record ∈ batch.2) : ∃ (idx position : Nat) (commit : Record), idx < position ∧
      log[idx]? = some record ∧ view.operates batch.1 record = true ∧
      log[position]? = some commit ∧ view.owner commit = batch.1 ∧ view.role commit = .commit ∧
      ∀ (between : Nat) other, idx ≤ between → between < position →
        log[between]? = some other → view.closes batch.1 other = false := by
  obtain ⟨position, -, isBatch⟩ := mem_filterMap.mp committed
  unfold batchAt at isBatch
  split at isBatch
  · rename_i commit atPosition
    split at isBatch
    · rename_i isCommit
      cases isBatch
      obtain ⟨inTail, operates⟩ := mem_filter.mp mem
      obtain ⟨idx, atIndex, unclosed⟩ := position_of_mem_openTail inTail
      have before : idx < position := by
        by_contra beyond
        rw [getElem?_take_eq_none (by omega)] at atIndex
        cases atIndex
      refine ⟨idx, position, commit, before, ?_, operates, atPosition, rfl,
        isCommit, fun between other after prior atBetween => ?_⟩
      · rwa [getElem?_take_of_lt before] at atIndex
      · refine unclosed between other after ?_
        rwa [getElem?_take_of_lt prior]
    · cases isBatch
  · cases isBatch

lemma mem_committedBatches (front rest) (commit : view.role record = .commit) :
    (view.owner record, view.openOperations (view.owner record) front) ∈
      view.committedBatches (front ++ record :: rest) := by
  refine mem_filterMap.mpr ⟨front.length, by simp, ?_⟩
  simp [batchAt, commit]

lemma committedBatches_concat (log record) :
    view.committedBatches (log ++ [record]) = view.committedBatches log ++
        if view.role record = .commit then
          [(view.owner record, view.openOperations (view.owner record) log)]
        else [] := by
  have old : ∀ index ∈ List.range log.length,
      view.batchAt (log ++ [record]) index = view.batchAt log index := by
    intro index mem
    have within : index < log.length := mem_range.mp mem
    rw [batchAt, batchAt, getElem?_append_left within, take_append_of_le_length within.le]
  have last : view.batchAt (log ++ [record]) log.length =
      if view.role record = .commit then
        some (view.owner record, view.openOperations (view.owner record) log)
      else none := by
    simp [batchAt]
  rw [committedBatches, length_append, length_singleton, range_succ, filterMap_append,
    filterMap_congr old, filterMap_cons, last]
  split <;> simp_all [committedBatches]

end LogView

section Replay

variable {World Record Error Id : Type*} (apply : World → Record → World × Except Error Unit)

/-- Apply operations in order and stop at the first failure. -/
def applyUntilFailure : World → List Record → World × Option Error
  | world, [] => (world, none)
  | world, record :: records =>
    match apply world record with
    | (world, .ok ()) => applyUntilFailure world records
    | (world, .error error) => (world, some error)

/-- Apply the operations of some transactions. -/
def applyBatches (world : World) (batches : List (Id × List Record)) : World :=
  batches.foldl (fun world batch => (applyUntilFailure apply world batch.2).1)
    world

def traced (state : World × List Record) (record : Record) :
    (World × List Record) × Except Error Unit :=
  let (world, result) := apply state.1 record
  ((world, state.2 ++ [record]), result)

/-- The operations that are tried. -/
def attempted : World → List Record → List Record
  | _, [] => []
  | world, record :: records =>
    match apply world record with
    | (world, .ok ()) => record :: attempted world records
    | (_, .error _) => [record]

/-- The calls made for the batches of a log, in order. -/
def attemptedBatches : World → List (Id × List Record) → List Record
  | _, [] => []
  | world, batch :: batches =>
    attempted apply world batch.2 ++
      attemptedBatches (applyUntilFailure apply world batch.2).1 batches

variable {apply}

lemma mem_of_attempted (called : record ∈ attempted apply world records) : record ∈ records := by
  induction records generalizing world with
  | nil => simp [attempted] at called
  | cons first records ih =>
    rw [attempted] at called
    split at called
    · rcases mem_cons.mp called with rfl | later
      · exact mem_cons_self
      · exact mem_cons_of_mem _ (ih later)
    · rw [mem_singleton.mp called]
      exact mem_cons_self

lemma applyUntilFailure_traced (world calls recs) :
    applyUntilFailure (traced apply) (world, calls) recs =
      (((applyUntilFailure apply world recs).1, calls ++ attempted apply world recs),
        (applyUntilFailure apply world recs).2) := by
  induction recs generalizing world calls with
  | nil => simp [applyUntilFailure, attempted]
  | cons record recs ih =>
    rcases out : apply world record with ⟨after, res⟩
    have call : traced apply (world, calls) record = ((after, calls ++ [record]), res) := by
      simp [traced, out]
    cases res with
    | ok val => simp [applyUntilFailure, attempted, call, out, ih]
    | error error => simp [applyUntilFailure, attempted, call, out]

lemma applyBatches_traced (world : World) (calls : List Record)
    (batches : List (Id × List Record)) : applyBatches (traced apply) (world, calls) batches =
      (applyBatches apply world batches, calls ++ attemptedBatches apply world batches) := by
  induction batches generalizing world calls with
  | nil => simp [applyBatches, attemptedBatches]
  | cons batch batches ih =>
    have step := ih (applyUntilFailure apply world batch.2).1
      (calls ++ attempted apply world batch.2)
    simp only [applyBatches, foldl_cons, applyUntilFailure_traced, attemptedBatches] at step ⊢
    rw [step, append_assoc]

lemma mem_batch_of_attempted {world : World} {batches : List (Id × List Record)} {record : Record}
    (called : record ∈ attemptedBatches apply world batches) :
    ∃ batch ∈ batches, record ∈ batch.2 := by
  induction batches generalizing world with
  | nil => simp [attemptedBatches] at called
  | cons batch batches ih =>
    rw [attemptedBatches, mem_append] at called
    rcases called with here | later
    · exact ⟨batch, mem_cons_self, mem_of_attempted here⟩
    · obtain ⟨found, mem, inBatch⟩ := ih later
      exact ⟨found, mem_cons_of_mem _ mem, inBatch⟩

end Replay

end RockDuck
