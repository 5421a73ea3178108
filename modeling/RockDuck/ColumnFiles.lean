import RockDuck.FallibleSteps
import RockDuck.WalRecords

/-!
# Column files

A column of a segment is one Vortex file.
-/

namespace RockDuck

/-- The Vortex format of one column.  Writing may fail, and what was written
reads back as the rows that were written. -/
structure VortexCodec (Value : Type*) where
  encode : List Value → Except RockDuckError Bytes
  decode : Bytes → Except RockDuckError (List Value)
  decode_encode : ∀ {rows : List Value} {bytes : Bytes},
    encode rows = .ok bytes → decode bytes = .ok rows

/-- Bytes, stored as they are. -/
def VortexCodec.bytes : VortexCodec UInt8 where
  encode rows := .ok rows
  decode stored := .ok stored
  decode_encode := fun encoded => encoded ▸ rfl

/-- The writer of one column file.  A batch is the first column of the record
batch it was given. -/
structure VortexWriter (Value : Type*) where
  batches : List (List Value)
  totalRows : Nat
  flushThreshold : Nat
  totalRowsFlushed : Nat

/-- How a disk operation failed, and what is left of the file. -/
structure DiskFailure where
  error : RockDuckError
  left : Option Bytes

/-- What the disk does when the writer appends to the file, replaces it, and
writes the encoding metadata next to it. -/
structure DiskFaults where
  append : Option DiskFailure
  replace : Option DiskFailure
  encodingMeta : Fault

def DiskFaults.none : DiskFaults where
  append := Option.none
  replace := Option.none
  encodingMeta := Option.none

namespace VortexWriter

variable {Value : Type*}

def create : VortexWriter Value where
  batches := []
  totalRows := 0
  flushThreshold := 100000
  totalRowsFlushed := 0

/-- Take a batch into memory. -/
def write (writer : VortexWriter Value) (batch : List Value) : VortexWriter Value :=
  { writer with
    batches := writer.batches ++ [batch]
    totalRows := writer.totalRows + batch.length }

section

variable (codec : VortexCodec Value) (faults : DiskFaults)

/-- Append the batches in memory to the file. -/
def flushToDisk (state : VortexWriter Value × Option Bytes) :
    (VortexWriter Value × Option Bytes) × Except RockDuckError Nat :=
  let (writer, file) := state
  if writer.batches.isEmpty then (state, .ok 0)
  else
    match codec.encode writer.batches.flatten, faults.append,
        faults.encodingMeta with
    | .error error, _, _ => (state, .error error)
    | .ok _, some failure, _ => ((writer, failure.left), .error failure.error)
    | .ok bytes, none, some error => ((writer, some (file.getD [] ++ bytes)), .error error)
    | .ok bytes, none, none =>
      (({ writer with
          batches := []
          totalRows := 0
          totalRowsFlushed := writer.totalRowsFlushed + writer.totalRows },
        some (file.getD [] ++ bytes)), .ok writer.batches.length)

/-- Append the batches when there are enough rows. -/
def flushPending (state : VortexWriter Value × Option Bytes) :
    (VortexWriter Value × Option Bytes) × Except RockDuckError Nat :=
  if state.1.totalRows < state.1.flushThreshold then (state, .ok 0)
  else if state.1.batches.isEmpty then (state, .ok 0)
  else flushToDisk codec faults state

/-- Write the file anew. -/
def replaceFile (state : VortexWriter Value × Option Bytes) :
    (VortexWriter Value × Option Bytes) × Except RockDuckError Nat :=
  match codec.encode state.1.batches.flatten, faults.replace,
      faults.encodingMeta with
  | .error error, _, _ => (state, .error error)
  | .ok _, some failure, _ => ((state.1, failure.left), .error failure.error)
  | .ok bytes, none, some error => ((state.1, some bytes), .error error)
  | .ok bytes, none, none => ((state.1, some bytes), .ok state.1.totalRows)

/-- Write what is left.  After a flush nothing is, which is an error. -/
def finish (state : VortexWriter Value × Option Bytes) :
    (VortexWriter Value × Option Bytes) × Except RockDuckError Nat :=
  andThen (flushPending codec faults state) fun state _ =>
    if state.1.batches.isEmpty && state.1.totalRows == 0 then
      (state, .error (.internal "no batches to write"))
    else if state.1.totalRows = 0 then (state, .ok state.1.totalRowsFlushed)
    else replaceFile codec faults state

end

def ofBatches (batches : List (List Value)) : VortexWriter Value :=
  batches.foldl write create

lemma foldl_write (writer) (batches : List (List Value)) :
    batches.foldl write writer = { writer with
        batches := writer.batches ++ batches
        totalRows := writer.totalRows + batches.flatten.length } := by
  induction batches generalizing writer with
  | nil => simp
  | cons batch batches ih =>
    rw [List.foldl_cons, ih]
    simp [write, Nat.add_assoc]

lemma ofBatches_eq (batches : List (List Value)) :
    ofBatches batches = ⟨batches, batches.flatten.length, 100000, 0⟩ := by
  simp [ofBatches, foldl_write, create]

lemma finish_ofBatches_eq_replaceFile (codec : VortexCodec Value)
    (faults : DiskFaults) {batches : List (List Value)} (file : Option Bytes)
    (ne : batches.flatten ≠ []) (few : batches.flatten.length < 100000) :
    finish codec faults (ofBatches batches, file) = replaceFile codec faults
        (⟨batches, batches.flatten.length, 100000, 0⟩, file) := by
  have rows : batches.flatten.length ≠ 0 := by
    simpa only [ne_eq, List.length_eq_zero_iff] using ne
  have pending : flushPending codec faults
      ((⟨batches, batches.flatten.length, 100000, 0⟩ : VortexWriter Value), file) =
      ((⟨batches, batches.flatten.length, 100000, 0⟩, file), .ok 0) :=
    if_pos few
  rw [ofBatches_eq, finish, pending]
  simp only [andThen, beq_iff_eq, rows, Bool.and_eq_true, and_false, if_false]

section

variable {codec : VortexCodec Value} {batches : List (List Value)}

lemma length_lt_of_finish_ofBatches
    (ran : finish codec faults (ofBatches batches, file) = ((writer, after), .ok total)) :
    batches.flatten.length < 100000 := by
  by_contra many
  have ne : batches.isEmpty = false := by
    cases batches with
    | nil => simp at many
    | cons batch batches => rfl
  have pending : flushPending codec faults
      ((⟨batches, batches.flatten.length, 100000, 0⟩ : VortexWriter Value), file) =
      flushToDisk codec faults
        (⟨batches, batches.flatten.length, 100000, 0⟩, file) := by
    rw [flushPending, if_neg many, ne]
    rfl
  rw [ofBatches_eq, finish, pending, flushToDisk] at ran
  simp only [ne, Bool.false_eq_true, if_false] at ran
  split at ran <;> simp [andThen] at ran

lemma finish_ofBatches (ne : batches.flatten ≠ []) (few : batches.flatten.length < 100000)
    (ran : finish codec faults (ofBatches batches, file) = ((writer, after), .ok total)) :
    ∃ bytes, after = some bytes ∧ codec.decode bytes = .ok batches.flatten := by
  rw [finish_ofBatches_eq_replaceFile codec faults file ne few, replaceFile] at ran
  split at ran
  · simp at ran
  · simp at ran
  · simp at ran
  · rename_i bytes encoded _ _
    simp only [Prod.mk.injEq, Except.ok.injEq] at ran
    exact ⟨bytes, ran.1.2.symm, codec.decode_encode encoded⟩

end

end VortexWriter

end RockDuck
