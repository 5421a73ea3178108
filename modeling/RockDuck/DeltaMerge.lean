import RockDuck.DeltaLayer
import RockDuck.SegmentScan

/-!
# Merging deltas into a batch

A column is an array whose empty places still hold a value.
-/

namespace RockDuck

/-- The types that deltas are applied to. -/
inductive ColumnType where
  | int8 | int16 | int32 | int64
  | uint8 | uint16 | uint32 | uint64
  | float32 | float64
  | bool
  | utf8 | largeUtf8
  | binary | largeBinary
  | date32 | date64
  | timestampMicros | timestampMillis
  deriving DecidableEq

namespace ColumnType

def display : ColumnType → String
  | int8 => "Int8" | int16 => "Int16" | int32 => "Int32" | int64 => "Int64"
  | uint8 => "UInt8" | uint16 => "UInt16" | uint32 => "UInt32"
  | uint64 => "UInt64"
  | float32 => "Float32" | float64 => "Float64"
  | bool => "Boolean"
  | utf8 => "Utf8" | largeUtf8 => "LargeUtf8"
  | binary => "Binary" | largeBinary => "LargeBinary"
  | date32 => "Date32" | date64 => "Date64"
  | timestampMicros => "Timestamp(µs)" | timestampMillis => "Timestamp(ms)"

/-- The type is one that `blend_arrays` knows. -/
def isBlended : ColumnType → Bool
  | date32 | date64 | timestampMicros | timestampMillis => false
  | _ => true

end ColumnType

/-- A place of an array.  An empty one still holds a value. -/
structure Slot where
  value : Bytes
  valid : Bool
  deriving DecidableEq

/-- What a reader sees of a place. -/
def Slot.get (slot : Slot) : Option Bytes :=
  if slot.valid then some slot.value else none

/-- An array of a column. -/
structure ColumnArray where
  type : ColumnType
  slots : List Slot
  deriving DecidableEq

/-- A record batch. -/
structure TableBatch where
  numRows : Nat
  columns : List (String × ColumnArray)
  aligned : ∀ column ∈ columns, column.2.slots.length = numRows

namespace TableBatch

/-- The rows of a batch. -/
def rows (batch : TableBatch) : List (DataRow (Option Bytes)) :=
  (List.range batch.numRows).map fun row =>
    batch.columns.map fun column => (column.1, (column.2.slots[row]?).bind Slot.get)

@[simp]
lemma length_rows (batch : TableBatch) : batch.rows.length = batch.numRows := by
  simp [rows]

def firstLength (columns : List (String × ColumnType × ColumnArray)) : Nat :=
  (columns.head?.map fun column => column.2.2.slots.length).getD 0

/-- The message for a column that is not of its type. -/
def typeMismatch (columns : List (String × ColumnType × ColumnArray)) : Option String :=
  (columns.zipIdx.find? fun entry =>
    decide (entry.1.2.1 ≠ entry.1.2.2.type)).map fun entry =>
      let expected := entry.1.2.1.display
      let found := entry.1.2.2.type.display
      let index := entry.2
      s!"expected {expected} but found {found} at column index {index}"

/-- `RecordBatch::try_new`, with its checks. -/
def tryNew (columns : List (String × ColumnType × ColumnArray)) : Except String TableBatch :=
  if columns.isEmpty then
    .error "Invalid argument error: must either specify a row count or at least one column"
  else if aligned : ∀ column ∈ columns,
      column.2.2.slots.length = firstLength columns then
    match typeMismatch columns with
    | some mismatch =>
      .error ("Invalid argument error: column types must match schema types, " ++
        mismatch)
    | none =>
      .ok ⟨firstLength columns, columns.map fun column => (column.1, column.2.2), by
        intro column among
        obtain ⟨entry, listed, rfl⟩ := List.mem_map.mp among
        exact aligned entry listed⟩
  else
    .error "Invalid argument error: all columns in a record batch must have the same length"

lemma numRows_tryNew {cols batch} (built : tryNew cols = .ok batch) :
    ∃ first ∈ cols, batch.numRows = first.2.2.slots.length := by
  unfold tryNew at built
  split at built
  · cases built
  · rename_i some
    split at built
    · split at built
      · cases built
      · cases built
        cases cols with
        | nil => simp at some
        | cons first rest => exact ⟨first, by simp, rfl⟩
    · cases built

end TableBatch

/-- What decoding meets outside: the number of columns of a serialized batch,
and the text of a decoding error. -/
structure DeltaCodecs where
  bytesToBatch : Bytes → Except RockDuckError Nat
  utf8Error : Bytes → String

namespace DeltaCodecs

variable (codecs : DeltaCodecs)

def decodeIpcColumn (bytes : Bytes) : Except RockDuckError Unit :=
  if bytes.isEmpty then .ok ()
  else
    match codecs.bytesToBatch bytes with
    | .error error => .error error
    | .ok 0 => .error (.codec "Empty Arrow IPC payload")
    | .ok (_ + 1) => .ok ()

end DeltaCodecs

namespace ColumnArray

/-- `take`, which panics beyond the end. -/
def take (array : ColumnArray) (positions : List Nat) : Option (List Slot) :=
  positions.mapM fun position => array.slots[position]?

lemma take_singleton (array : ColumnArray) (pos : Nat) :
    array.take [pos] = (array.slots[pos]?).map fun slot => [slot] := by
  cases found : array.slots[pos]? <;> simp [take, found]

/-- Put values at positions of an array.  The arrays are rebuilt from their
values, which leaves no place empty; of the other types the places with an index
below the length in 32 bits are taken. -/
def blendArrays (base : ColumnArray) (patch : List Slot) (positions : List Nat) : ColumnArray :=
  if base.type.isBlended then
    { base with
      slots := base.slots.zipIdx.map fun entry =>
        let patched := (positions.idxOf? entry.2).bind fun index => patch[index]?
        ⟨(patched.getD entry.1).value, true⟩ }
  else { base with slots := base.slots.take (base.slots.length % 2 ^ 32) }

/-- The values that are put in are taken from the base.  The patch is decoded
and not used. -/
def applySparseTake (codecs : DeltaCodecs) (base : ColumnArray)
    (positions : List Nat) (patch : Bytes) : Option (Except RockDuckError ColumnArray) :=
  match codecs.decodeIpcColumn patch with
  | .error error => some (.error error)
  | .ok _ =>
    (base.take positions).map fun projected => .ok (base.blendArrays projected positions)

/-- A sparse patch keeps the positions only. -/
def applySparseFilter (base : ColumnArray) (positions : List Nat) :
    Option (Except RockDuckError ColumnArray) :=
  (base.take positions).map fun slots => .ok { base with slots := slots }

/-- Apply a patch: few positions filter the column, many are blended into it. -/
def applySparsePatchVectorized (codecs : DeltaCodecs) (base : ColumnArray)
    (positions : List Nat) (patch : Bytes) : Option (Except RockDuckError ColumnArray) :=
  let totalRows := base.slots.length % 2 ^ 32
  if totalRows = 0 then some (.ok ⟨.bool, []⟩)
  else if 100 * positions.length < totalRows then
    base.applySparseFilter positions
  else base.applySparseTake codecs positions patch

/-- Apply one cell. -/
def applyCell (codecs : DeltaCodecs) (current : ColumnArray)
    (cell : StoredDeltaCell) : Except ReadFailure ColumnArray :=
  match cell.after with
  | none => .ok current
  | some after =>
    match current.applySparsePatchVectorized codecs [cell.rowOffset % 2 ^ 32]
        after with
    | none => .error (.panicked "index out of bounds")
    | some (.error _) => .ok current
    | some (.ok merged) => .ok merged

/-- Apply the cells of a column, in the order of their transactions. -/
def applyCells (codecs : DeltaCodecs) (base : ColumnArray)
    (cells : List StoredDeltaCell) : Except ReadFailure ColumnArray :=
  (cells.insertionSort fun left right => left.txnId ≤ right.txnId).foldlM
    (applyCell codecs) base

variable {current merged : ColumnArray}

lemma length_applySparsePatchVectorized_le {base : ColumnArray}
    (patched : base.applySparsePatchVectorized codecs [pos] patch = some (.ok merged)) :
    merged.slots.length ≤ base.slots.length := by
  unfold applySparsePatchVectorized at patched
  by_cases empty : base.slots.length % 2 ^ 32 = 0
  · simp only [empty, if_true, Option.some.injEq, Except.ok.injEq] at patched
    simp [← patched]
  · simp only [empty, if_false] at patched
    split at patched
    · rw [applySparseFilter, take_singleton, Option.map_map] at patched
      obtain ⟨slot, taken, same⟩ := Option.map_eq_some_iff.mp patched
      cases same
      have rows : 0 < base.slots.length := by
        by_contra none
        simp [Nat.eq_zero_of_not_pos none] at empty
      simp only [List.length_singleton]
      omega
    · unfold applySparseTake at patched
      split at patched
      · cases patched
      · obtain ⟨slots, taken, same⟩ := Option.map_eq_some_iff.mp patched
        cases same
        unfold blendArrays
        split <;> simp

lemma length_applyCell_le (applied : current.applyCell codecs cell = .ok merged) :
    merged.slots.length ≤ current.slots.length := by
  unfold applyCell at applied
  split at applied
  · cases applied
    exact le_rfl
  · split at applied
    · cases applied
    · cases applied
      exact le_rfl
    · rename_i patched
      cases applied
      exact length_applySparsePatchVectorized_le patched

lemma length_foldlM_applyCell_le {cells : List StoredDeltaCell}
    (applied : cells.foldlM (applyCell codecs) current = .ok merged) :
    merged.slots.length ≤ current.slots.length := by
  induction cells generalizing current with
  | nil =>
    cases applied
    exact le_rfl
  | cons cell cells ih =>
    rw [List.foldlM_cons] at applied
    cases first : current.applyCell codecs cell with
    | error err => simp [first, bind, Except.bind] at applied
    | ok next =>
      simp only [first, bind, Except.bind] at applied
      exact (ih applied).trans (length_applyCell_le first)

end ColumnArray

/-- Apply the cells that are for a column. -/
def patchColumn (codecs : DeltaCodecs) (batch : TableBatch) (deltas : List StoredDeltaCell)
    (column : String × ColumnArray) : Except ReadFailure (String × ColumnType × ColumnArray) :=
  if (deltas.filter fun cell => decide (cell.column = column.1)).isEmpty then
    .ok (column.1, column.2.type, column.2)
  else
    match batch.columns.find? fun other => decide (other.1 = column.1) with
    | none => .ok (column.1, column.2.type, column.2)
    | some base =>
      (base.2.applyCells codecs (deltas.filter fun cell =>
        decide (cell.column = column.1))).map fun array => (column.1, column.2.type, array)

/-- Apply deltas to a batch. -/
def applyDeltasToBatch (codecs : DeltaCodecs) (batch : TableBatch)
    (deltas : List StoredDeltaCell) : Except ReadFailure TableBatch :=
  if deltas.isEmpty then .ok batch
  else
    match batch.columns.mapM (patchColumn codecs batch deltas) with
    | .error failure => .error failure
    | .ok columns =>
      match TableBatch.tryNew columns with
      | .error error =>
        .error (.error (.internal ("Failed to rebuild batch: " ++ error)))
      | .ok merged => .ok merged

variable {codecs : DeltaCodecs} {deltas : List StoredDeltaCell}

lemma length_patchColumn_le {batch : TableBatch} (mem : col ∈ batch.columns)
    (applied : patchColumn codecs batch deltas col = .ok patched) :
    patched.2.2.slots.length ≤ batch.numRows := by
  unfold patchColumn at applied
  by_cases none : (deltas.filter fun cell => decide (cell.column = col.1)).isEmpty
  · rw [if_pos none] at applied
    cases applied
    exact (batch.aligned col mem).le
  · rw [if_neg none] at applied
    split at applied
    · cases applied
      exact (batch.aligned col mem).le
    · rename_i base found
      cases merged : base.2.applyCells codecs (deltas.filter fun cell =>
          decide (cell.column = col.1)) with
      | error err => simp [merged, Except.map] at applied
      | ok array =>
        rw [merged] at applied
        cases applied
        exact (ColumnArray.length_foldlM_applyCell_le merged).trans
          (batch.aligned base (List.mem_of_find?_eq_some found)).le

lemma numRows_applyDeltasToBatch_le {batch merged}
    (applied : applyDeltasToBatch codecs batch deltas = .ok merged) :
    merged.numRows ≤ batch.numRows := by
  unfold applyDeltasToBatch at applied
  split at applied
  · cases applied
    exact le_rfl
  · split at applied
    · cases applied
    · rename_i cols patched
      split at applied
      · cases applied
      · rename_i built
        cases applied
        obtain ⟨first, mem, same⟩ := TableBatch.numRows_tryNew built
        obtain ⟨col, listed, one⟩ := exists_mem_of_mapM_eq_ok patched mem
        rw [same]
        exact length_patchColumn_le listed one

/-- How the cells of a column are read when they are all there is of it. -/
inductive DeltaFormat where
  | fixed (type : ColumnType) (name : String) (width : Nat)
  | text (type : ColumnType) (name : String)
  | bytes (type : ColumnType)

/-- Dates and timestamps are read as the integers they are stored as. -/
def ColumnType.deltaFormat : ColumnType → DeltaFormat
  | int8 => .fixed .int8 "i8" 1
  | uint8 => .fixed .uint8 "u8" 1
  | bool => .fixed .bool "bool" 1
  | int16 => .fixed .int16 "i16" 2
  | uint16 => .fixed .uint16 "u16" 2
  | int32 | date32 => .fixed .int32 "i32" 4
  | uint32 => .fixed .uint32 "u32" 4
  | float32 => .fixed .float32 "f32" 4
  | int64 | date64 | timestampMicros | timestampMillis => .fixed .int64 "i64" 8
  | uint64 => .fixed .uint64 "u64" 8
  | float64 => .fixed .float64 "f64" 8
  | utf8 => .text .utf8 "utf8"
  | largeUtf8 => .text .largeUtf8 "largeutf8"
  | binary => .bytes .binary
  | largeBinary => .bytes .largeBinary

namespace DeltaFormat

def type : DeltaFormat → ColumnType
  | fixed type _ _ | text type _ | bytes type => type

/-- The bytes of a value, if they are of the format's size. -/
def decode (codecs : DeltaCodecs) : DeltaFormat → Bytes → Except RockDuckError Bytes
  | fixed type name width, value =>
    let length := value.length
    if length ≠ width then
      .error (.internal
        s!"delta decode {name} expected {width} bytes, got {length}")
    else if type = .bool then .ok [if value.headD 0 ≠ 0 then 1 else 0]
    else .ok value
  | text _ name, value =>
    if ByteArray.validateUTF8 ⟨value.toArray⟩ then .ok value
    else
      .error (.internal
        ("delta decode " ++ name ++ ": " ++ codecs.utf8Error value))
  | bytes _, value => .ok value

def null : DeltaFormat → Slot
  | fixed _ _ width => ⟨List.replicate width 0, false⟩
  | text _ _ | bytes _ => ⟨[], false⟩

def slot (codecs : DeltaCodecs) (format : DeltaFormat) : Option Bytes → Except RockDuckError Slot
  | none => .ok format.null
  | some value => (format.decode codecs value).map (⟨·, true⟩)

end DeltaFormat

/-- An array made of the values of deltas. -/
def buildArrayFromDeltaValues (codecs : DeltaCodecs) (type : ColumnType)
    (values : List (Option Bytes)) : Except RockDuckError ColumnArray :=
  (values.mapM (type.deltaFormat.slot codecs)).map fun slots => ⟨type.deltaFormat.type, slots⟩

/-- The rows that some deltas change. -/
def deltaRows (deltas : List StoredDeltaCell) : List Nat :=
  (deltas.map StoredDeltaCell.rowOffset).dedup.insertionSort (· ≤ ·)

/-- The value of the last delta of a cell. -/
def deltaValue (deltas : List StoredDeltaCell) (column : String) (row : Nat) : Option Bytes :=
  ((deltas.filter fun cell =>
    decide (cell.rowOffset = row ∧ cell.column = column)).getLast?).bind StoredDeltaCell.after

def deltaColumn (codecs : DeltaCodecs) (deltas : List StoredDeltaCell)
    (column : String × ColumnType) : Except RockDuckError (String × ColumnType × ColumnArray) :=
  (buildArrayFromDeltaValues codecs column.2
    ((deltaRows deltas).map (deltaValue deltas column.1))).map fun array =>
      (column.1, column.2, array)

/-- A batch of the rows that are changed, with nothing where they are not. -/
def buildDeltaOnlyBatch (codecs : DeltaCodecs) (columns : List (String × ColumnType))
    (deltas : List StoredDeltaCell) : Except RockDuckError TableBatch :=
  match columns.mapM (deltaColumn codecs deltas) with
  | .error error => .error error
  | .ok arrays =>
    (TableBatch.tryNew arrays).mapError fun error =>
      .internal ("Build delta-only batch: " ++ error)

lemma length_deltaColumn (made : deltaColumn codecs deltas col = .ok built) :
    built.2.2.slots.length = (deltaRows deltas).length := by
  unfold deltaColumn buildArrayFromDeltaValues at made
  cases decoded : ((deltaRows deltas).map (deltaValue deltas col.1)).mapM
      (col.2.deltaFormat.slot codecs) with
  | error error => simp [decoded, Except.map] at made
  | ok slots =>
    rw [decoded] at made
    cases made
    simpa using (mapM_eq_ok_iff.mp decoded).length_eq.symm

lemma numRows_buildDeltaOnlyBatch {cols batch}
    (built : buildDeltaOnlyBatch codecs cols deltas = .ok batch) :
    batch.numRows = (deltaRows deltas).length := by
  unfold buildDeltaOnlyBatch at built
  split at built
  · cases built
  · rename_i arrays made
    cases batched : TableBatch.tryNew arrays with
    | error error => simp [batched, Except.mapError] at built
    | ok rebuilt =>
      rw [batched] at built
      cases built
      obtain ⟨first, mem, same⟩ := TableBatch.numRows_tryNew batched
      obtain ⟨col, _, one⟩ := exists_mem_of_mapM_eq_ok made mem
      rw [same, length_deltaColumn one]

lemma deltaRows_eq_nil_iff : deltaRows deltas = [] ↔ deltas = [] := by
  rw [← List.length_eq_zero_iff, deltaRows, List.length_insertionSort, List.length_eq_zero_iff]
  simp

end RockDuck
