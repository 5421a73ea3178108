import RockDuck.ByteFields
import RockDuck.DeltaLayer
import RockDuck.SegmentScan

/-!
# The format of delta patches

The cells of a column are kept on disk as a patch: the rows as a bitmap and
their values as an array, or the values of all rows.
-/

namespace RockDuck

open List

/-- A patch of a column. -/
inductive DeltaPatchFormat where
  | sparse (positions values : Bytes)
  | dense (values : Bytes) (totalRows : Nat) (txnId : TxnId)
  deriving DecidableEq

/-- The six letters in front of a patch. -/
def patchMagic : Bytes := [82, 68, 69, 76, 84, 65]

namespace DeltaPatchFormat

def isSparse : DeltaPatchFormat → Bool
  | sparse _ _ => true
  | dense _ _ _ => false

/-- A patch as bytes. -/
def toBytes : DeltaPatchFormat → Bytes
  | sparse positions values =>
    patchMagic ++ 0 :: 0 :: (leBytes 4 positions.length ++ positions ++
      leBytes 4 values.length ++ values)
  | dense values totalRows txnId =>
    patchMagic ++ 0 :: 1 :: (leBytes 8 txnId ++ leBytes 8 totalRows ++
      leBytes 4 values.length ++ values)

def fromSparse (bytes : Bytes) : Option DeltaPatchFormat :=
  let posLen := readLe 4 bytes
  let valLen := readLe 4 (bytes.drop (4 + posLen))
  if bytes.length < 8 then none
  else if bytes.length < 4 + posLen + 4 then none
  else if bytes.length < 4 + posLen + 4 + valLen then none
  else some (sparse ((bytes.drop 4).take posLen) ((bytes.drop (4 + posLen + 4)).take valLen))

def fromDense (bytes : Bytes) : Option DeltaPatchFormat :=
  let valLen := readLe 4 (bytes.drop 16)
  if bytes.length < 20 then none
  else if bytes.length < 20 + valLen then none
  else some (dense ((bytes.drop 20).take valLen) (readLe 8 (bytes.drop 8)) (readLe 8 bytes))

/-- Read a patch, with or without the letters in front.  The letters and
nothing behind them are a panic. -/
def fromBytes (bytes : Bytes) : Except ReadFailure (Option DeltaPatchFormat) :=
  if bytes.isEmpty then .ok none
  else
    match if 7 ≤ bytes.length ∧ bytes.take 6 = patchMagic then bytes.drop 7
        else bytes with
    | [] =>
      .error (.panicked "index out of bounds: the len is 7 but the index is 7")
    | flag :: rest =>
      if flag = 0 then .ok (fromSparse rest)
      else if flag = 1 then .ok (fromDense rest)
      else .ok none

section

variable {values : Bytes} {totalRows : Nat} {txnId : TxnId} (short : values.length < 256 ^ 4)
    (fewRows : totalRows < 256 ^ 8) (early : txnId < 256 ^ 8)
include short fewRows early

lemma fromDense_payload :
    fromDense (leBytes 8 txnId ++ leBytes 8 totalRows ++ leBytes 4 values.length ++ values) =
      some (dense values totalRows txnId) := by
  simp only [append_assoc]
  have rows : (leBytes 8 txnId ++ (leBytes 8 totalRows ++
      (leBytes 4 values.length ++ values))).drop 8 =
      leBytes 8 totalRows ++ (leBytes 4 values.length ++ values) :=
    drop_left' (length_leBytes 8 txnId)
  have size : (leBytes 8 txnId ++ (leBytes 8 totalRows ++
      (leBytes 4 values.length ++ values))).drop 16 =
      leBytes 4 values.length ++ values := by
    rw [← drop_drop (j := 8) (i := 8), rows]
    exact drop_left' (length_leBytes 8 totalRows)
  have held : (leBytes 8 txnId ++ (leBytes 8 totalRows ++
      (leBytes 4 values.length ++ values))).drop 20 = values := by
    rw [← drop_drop (j := 16) (i := 4), size]
    exact drop_left' (length_leBytes 4 values.length)
  rw [fromDense, rows, size, held, readLe_leBytes_append, readLe_leBytes_append,
    readLe_leBytes_append, Nat.mod_eq_of_lt short, Nat.mod_eq_of_lt fewRows,
    Nat.mod_eq_of_lt early, take_length, if_neg, if_neg]
  · simp only [length_append, length_leBytes]
    omega
  · simp only [length_append, length_leBytes]
    omega

lemma fromBytes_toBytes_dense : fromBytes (dense values totalRows txnId).toBytes =
      .ok (some (dense values totalRows txnId)) := by
  rw [← fromDense_payload short fewRows early]
  simp [toBytes, fromBytes, patchMagic]

end

end DeltaPatchFormat

/-- The first column of a decoded batch.  Of a column that is not binary only
the length is used. -/
inductive PatchArray where
  | binary (values : List (Option Bytes))
  | other (length : Nat)

namespace PatchArray

def length : PatchArray → Nat
  | binary values => values.length
  | other length => length

def value? : PatchArray → Nat → Option Bytes
  | binary values, row => values[row]?.join
  | other _, _ => none

end PatchArray

/-- The codecs of bitmaps and arrays. -/
structure PatchCodecs where
  serializeBitmap : List Nat → Bytes
  deserializeBitmap : Bytes → List Nat
  encodeArrowArray : List Bytes → Bytes
  bytesToBatch : Bytes → Except RockDuckError (Option PatchArray)

namespace PatchCodecs

variable (codecs : PatchCodecs)

def decodeArrowArray (bytes : Bytes) : Except RockDuckError PatchArray :=
  if bytes.isEmpty then .ok (.other 0)
  else
    match codecs.bytesToBatch bytes with
    | .error error => .error error
    | .ok none => .error (.codec "Empty Arrow IPC payload")
    | .ok (some array) => .ok array

def patchCell (segId column : String) (row : Nat) (txnId : TxnId)
    (after : Option Bytes) : StoredDeltaCell :=
  ⟨segId, row, column, txnId, none, after, true, 0⟩

/-- The cells of a dense patch. -/
def denseCells (segId column : String) (values : Bytes) (totalRows : Nat)
    (txnId : TxnId) : Except ReadFailure (List StoredDeltaCell) :=
  match codecs.decodeArrowArray values with
  | .error error => .error (.error error)
  | .ok array =>
    .ok ((List.range (max totalRows array.length)).map fun row =>
      patchCell segId column row txnId (array.value? row))

def sparseCells (rows : List Nat) (values : List (Option Bytes)) :
    Except ReadFailure (List StoredDeltaCell) :=
  rows.zipIdx.mapM fun entry =>
    match values[entry.2]? with
    | some after => .ok (patchCell "" "" entry.1 0 after)
    | none =>
      let index := entry.2
      let length := values.length
      .error (.panicked
        s!"Trying to access an element at index {index} from a BinaryArray of length {length}")

/-- The cells of a patch of the second layer.  They have no segment and no
column. -/
def patchToDeltas : DeltaPatchFormat → Except ReadFailure (List StoredDeltaCell)
  | .sparse positions values =>
    match codecs.decodeArrowArray values with
    | .error error => .error (.error error)
    | .ok (.other _) =>
      .error (.error (.delta "sparse patch values are not BinaryArray"))
    | .ok (.binary held) => sparseCells (codecs.deserializeBitmap positions) held
  | .dense values totalRows txnId =>
    codecs.denseCells "" "" values totalRows txnId

/-- The cells of a patch. -/
def patchFormatToDeltas (segId column : String) : DeltaPatchFormat →
    Except ReadFailure (List StoredDeltaCell)
  | .sparse positions _ =>
    .ok ((codecs.deserializeBitmap positions).map fun row => patchCell segId column row 0 none)
  | .dense values totalRows txnId => codecs.denseCells segId column values totalRows txnId

end PatchCodecs

structure PatchZoneMap where
  minTxn : TxnId
  maxTxn : TxnId
  affectedRows : Nat

/-- A patch with its number and statistics. -/
structure DeltaPatch where
  patchId : Nat
  txnRange : TxnId × TxnId
  format : DeltaPatchFormat
  zoneMap : PatchZoneMap

/-- The sparse format is for few rows, or a hundredth of a small segment. -/
def shouldUseSparse (totalRows affected : Nat) : Bool :=
  if totalRows = 0 ∨ affected = 0 then false
  else if 1000000 < totalRows then false
  else if 1000000 ≤ affected then false
  else decide (100 * affected < totalRows) || decide (affected < 1000)

/-- The newest value of each row. -/
def latestOfRows (cells : List StoredDeltaCell) : List (Nat × Bytes) :=
  (latestVersions StoredDeltaCell.rowOffset StoredDeltaCell.txnId cells).map
    fun cell => (cell.rowOffset, cell.after.getD [])

/-- Build a patch from cells. -/
def buildPatchFromCells (codecs : PatchCodecs)
    (cells : List StoredDeltaCell) : Except RockDuckError DeltaPatch :=
  match cells.insertionSort fun left right => left.txnId ≤ right.txnId with
  | [] => .error (.internal "Cannot build patch from empty cells")
  | first :: rest =>
    let entries := latestOfRows (first :: rest)
    let firstTxn := first.txnId
    let lastTxn := ((first :: rest).getLast (by simp)).txnId
    let positions := entries.map Prod.fst
    let totalRows := positions.foldl max 0 + 1
    let values := codecs.encodeArrowArray (entries.map Prod.snd)
    let format :=
      if shouldUseSparse totalRows positions.length then
        .sparse (codecs.serializeBitmap (positions.map (· % 2 ^ 32))) values
      else .dense values totalRows lastTxn
    .ok ⟨lastTxn, (firstTxn, lastTxn), format, ⟨firstTxn, lastTxn, positions.length⟩⟩

end RockDuck
