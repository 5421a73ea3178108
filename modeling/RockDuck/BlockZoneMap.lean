import RockDuck.ByteFields
import RockDuck.RangePruning
import RockDuck.WalRecords

/-!
# Zone maps of blocks

The rows of a column are cut into blocks, and the index of a column keeps the
least and the greatest value of every block as bytes.
-/

namespace RockDuck

/-- The bytes as numbers, which are compared in order. -/
def byteOrder (bytes : Bytes) : List Nat :=
  bytes.map UInt8.toNat

/-- The order of byte strings. -/
def byteLt (left right : Bytes) : Bool :=
  decide (byteOrder left < byteOrder right)

/-- A fixed-width integer type; its values are kept as bit patterns. -/
structure IntegerType where
  signed : Bool
  width : Nat
  deriving DecidableEq

namespace IntegerType

def int32 : IntegerType := ⟨true, 4⟩

def int64 : IntegerType := ⟨true, 8⟩

/-- The number that some bits stand for. -/
def value (type : IntegerType) (pattern : Nat) : Int :=
  let residue := pattern % 256 ^ type.width
  if type.signed && decide (256 ^ type.width ≤ 2 * residue) then
    residue - 256 ^ type.width
  else residue

def lt (type : IntegerType) (left right : Nat) : Bool :=
  decide (type.value left < type.value right)

@[simp]
lemma value_mod (type : IntegerType) (pattern : Nat) :
    type.value (pattern % 256 ^ type.width) = type.value pattern := by
  simp [value]

end IntegerType

/-- A binary floating-point format, with the magnitude of infinity; its values
are kept as bit patterns of sign and magnitude. -/
structure FloatFormat where
  width : Nat
  infinity : Nat
  deriving DecidableEq

namespace FloatFormat

def float32 : FloatFormat := ⟨4, 0x7F800000⟩

def float64 : FloatFormat := ⟨8, 0x7FF0000000000000⟩

def negative (format : FloatFormat) (pattern : Nat) : Bool :=
  decide (256 ^ format.width ≤ 2 * (pattern % 256 ^ format.width))

def magnitude (format : FloatFormat) (pattern : Nat) : Nat :=
  pattern % 256 ^ format.width % (256 ^ format.width / 2)

/-- The bits stand for no number. -/
def isNaN (format : FloatFormat) (pattern : Nat) : Bool :=
  decide (format.infinity < format.magnitude pattern)

/-- The place of a number among the numbers, the two zeros being alike. -/
def value (format : FloatFormat) (pattern : Nat) : Int :=
  if format.negative pattern then -(format.magnitude pattern : Int)
  else format.magnitude pattern

/-- The place of a bit pattern in the total order of the standard. -/
def totalValue (format : FloatFormat) (pattern : Nat) : Int :=
  if format.negative pattern then -(format.magnitude pattern : Int) - 1
  else format.magnitude pattern

def lt (format : FloatFormat) (left right : Nat) : Bool :=
  !format.isNaN left && !format.isNaN right &&
    decide (format.value left < format.value right)

lemma lt_eq_of_numbers {format : FloatFormat}
    (leftNumber : format.isNaN left = false) (rightNumber : format.isNaN right = false) :
    format.lt left right = decide (format.value left < format.value right) := by
  simp [lt, leftNumber, rightNumber]

variable (format : FloatFormat)

lemma magnitude_mod (pattern : Nat) :
    format.magnitude (pattern % 256 ^ format.width) = format.magnitude pattern := by
  rw [magnitude, Nat.mod_mod, magnitude]

lemma negative_mod (pattern : Nat) :
    format.negative (pattern % 256 ^ format.width) = format.negative pattern := by
  rw [negative, Nat.mod_mod, negative]

@[simp]
lemma lt_mod (left right : Nat) :
    format.lt (left % 256 ^ format.width) (right % 256 ^ format.width) = format.lt left right := by
  unfold lt isNaN value
  rw [magnitude_mod, magnitude_mod, negative_mod, negative_mod]

lemma of_totalValue_eq {format : FloatFormat}
    (same : format.totalValue left = format.totalValue right) :
    format.value left = format.value right ∧ format.isNaN left = format.isNaN right := by
  have magnitude : format.magnitude left = format.magnitude right := by
    unfold totalValue at same
    split at same <;> split at same <;> omega
  have negative : format.negative left = format.negative right := by
    unfold totalValue at same
    split at same <;> split at same <;> simp_all <;> omega
  simp [value, isNaN, magnitude, negative]

end FloatFormat

/-- The data types, by the way in which their bytes are compared.  Dates, times
and short decimals are compared as integers, binaries, intervals and long
decimals as bytes. -/
inductive DataType where
  | integer (type : IntegerType)
  | float16
  | float (format : FloatFormat)
  | bytes
  | boolean
  | fixedSizeBinary (size : Nat)
  | unordered
  deriving DecidableEq

/-- The comparison of two values by their bytes.  It panics where they are too short for the type.
-/
def bytesLt (left right : Bytes) : DataType → Option Bool
  | .integer type => do
      let left ← readBytes type.width left
      let right ← readBytes type.width right
      return type.lt left right
  | .float16 => some false
  | .float format => do
      let left ← readBytes format.width left
      let right ← readBytes format.width right
      return format.lt left right
  | .bytes => some (byteLt left right)
  | .boolean =>
    match left, right with
    | [], [] => some false
    | [], _ :: _ => some true
    | _ :: _, [] => some false
    | left :: _, right :: _ => some (decide (left.toNat < right.toNat))
  | .fixedSizeBinary size =>
    let shared := min size (min left.length right.length)
    some (byteLt (left.take shared) (right.take shared))
  | .unordered => some false

/-- The bytes are compared by their places. -/
def ComparesBy {Place : Type*} [LinearOrder Place] (dtype : DataType)
    (place : Bytes → Option Place) : Prop :=
  ∀ left right, bytesLt left right dtype =
    (place left).bind fun leftPlace => (place right).map fun rightPlace =>
      decide (leftPlace < rightPlace)

namespace ComparesBy

variable {Place : Type*} [LinearOrder Place] {dtype : DataType} {place : Bytes → Option Place}

lemma integer (type) : ComparesBy (.integer type) fun bytes =>
      (readBytes type.width bytes).map type.value := by
  intro left right
  simp only [bytesLt]
  cases readBytes type.width left <;> cases readBytes type.width right <;>
    simp [IntegerType.lt]

lemma text : ComparesBy .bytes fun bytes => some (byteOrder bytes) := by
  intro left right
  simp [bytesLt, byteLt]

lemma eq_false_iff (compares : ComparesBy dtype place) :
    bytesLt left right dtype = some false ↔ ∃ leftPlace rightPlace, place left = some leftPlace ∧
        place right = some rightPlace ∧ rightPlace ≤ leftPlace := by
  rw [compares]
  cases place left <;> cases place right <;> simp

lemma ne_none (compares : ComparesBy dtype place) (leftPlaced : place left ≠ none)
    (rightPlaced : place right ≠ none) : bytesLt left right dtype ≠ none := by
  rw [compares]
  cases first : place left <;> cases second : place right <;> simp_all

end ComparesBy

/-- An array of a column.  A dictionary holds keys into an array of values.  Of the other types
only the nulls are looked at. -/
inductive ArrowArray where
  | integer (type : IntegerType) (values : List (Option Nat))
  | float (format : FloatFormat) (values : List (Option Nat))
  | utf8 (large : Bool) (values : List (Option Bytes))
  | boolean (values : List (Option Bool))
  | date (type : IntegerType) (values : List (Option Nat))
  | dictionary (int32Keys : Bool) (keys : List (Option Nat))
      (values : ArrowArray)
  | other (type : DataType) (valid : List Bool)

namespace ArrowArray

def dataType : ArrowArray → DataType
  | integer type _ => .integer type
  | float format _ => .float format
  | utf8 _ _ => .bytes
  | boolean _ => .boolean
  | date type _ => .integer type
  | dictionary _ _ _ => .unordered
  | other type _ => type

def length : ArrowArray → Nat
  | integer _ values | float _ values | date _ values => values.length
  | utf8 _ values => values.length
  | boolean values => values.length
  | dictionary _ keys _ => keys.length
  | other _ valid => valid.length

/-- The part of an array that `Array::slice` gives. -/
def slice (array : ArrowArray) (offset len : Nat) : ArrowArray :=
  match array with
  | integer type values => integer type ((values.drop offset).take len)
  | float format values => float format ((values.drop offset).take len)
  | utf8 large values => utf8 large ((values.drop offset).take len)
  | boolean values => boolean ((values.drop offset).take len)
  | date type values => date type ((values.drop offset).take len)
  | dictionary int32Keys keys values => dictionary int32Keys ((keys.drop offset).take len) values
  | other type valid => other type ((valid.drop offset).take len)

/-- The bytes of a value. -/
def valueBytes (row : Nat) : ArrowArray → Option Bytes
  | integer type values | date type values => (values[row]?).join.map (leBytes type.width)
  | float format values => (values[row]?).join.map (leBytes format.width)
  | utf8 _ values => (values[row]?).join
  | boolean values => (values[row]?).join.map fun value => [if value then 1 else 0]
  | dictionary _ keys values => (keys[row]?).join.bind fun key => values.valueBytes key
  | other _ _ => none

lemma slice_of_length_le (array : ArrowArray) (short : array.length - off ≤ len) :
    array.slice off len = array.slice off (array.length - off) := by
  cases array with
  | _ =>
    simp only [length, slice] at short ⊢
    rw [List.take_of_length_le (by simp [short]), List.take_of_length_le (by simp)]

end ArrowArray

/-- The bounds of a column in a block, and its nulls. -/
structure BlockColumnStats where
  minBytes : Option Bytes
  maxBytes : Option Bytes
  nullCount : UInt32
  deriving DecidableEq

namespace BlockColumnStats

def empty : BlockColumnStats := ⟨none, none, 0⟩

/-- Statistics of two parts of a block.  The bytes of the bounds are compared
whatever the type of the column. -/
def mergeWith (stats other : BlockColumnStats) : BlockColumnStats where
  minBytes := other.minBytes.elim stats.minBytes fun otherMin =>
    if stats.minBytes.elim true fun current => byteLt otherMin current then
      some otherMin else stats.minBytes
  maxBytes := other.maxBytes.elim stats.maxBytes fun otherMax =>
    if stats.maxBytes.elim true fun current => byteLt current otherMax then
      some otherMax else stats.maxBytes
  nullCount := stats.nullCount + other.nullCount

@[simp]
lemma mergeWith_empty (stats) : empty.mergeWith stats = stats := by
  cases stats with
  | mk minBytes maxBytes nullCount => cases minBytes <;> cases maxBytes <;> simp [empty, mergeWith]

/-- The bounds of some values, in an order and with an encoding of theirs, next
to a number of nulls. -/
def ofValues {Value : Type*} (lt : Value → Value → Bool)
    (encode : Value → Bytes) (values : List Value) (nullCount : UInt32) : BlockColumnStats where
  minBytes := (runningMin lt values).map encode
  maxBytes := (runningMax lt values).map encode
  nullCount := nullCount

/-- Statistics without bounds. -/
def unbounded (nullCount : UInt32) : BlockColumnStats := ⟨none, none, nullCount⟩

end BlockColumnStats

def countNulls {Value : Type*} (values : List (Option Value)) : UInt32 :=
  .ofNat (values.countP Option.isNone)

def FloatFormat.numbers (format : FloatFormat) (values : List (Option Nat)) : List Nat :=
  values.reduceOption.filter fun pattern => !format.isNaN pattern

/-- The statistics of an array, by its type.  An integer array without values counts no nulls. -/
def ArrowArray.blockStats : ArrowArray → BlockColumnStats
  | .integer type values =>
    .ofValues type.lt (leBytes type.width) values.reduceOption
      (if values.reduceOption.isEmpty then 0 else countNulls values)
  | .float format values =>
    .ofValues format.lt (leBytes format.width) (format.numbers values)
      (countNulls values)
  | .utf8 _ values => .ofValues byteLt id values.reduceOption (countNulls values)
  | .boolean values =>
    ⟨if some false ∈ values then some [0] else none,
      if some true ∈ values then some [1] else none, countNulls values⟩
  | .dictionary true (some first :: keys) _ =>
    .ofValues IntegerType.int32.lt (leBytes 4) (first :: keys.reduceOption)
      (countNulls keys)
  | .dictionary _ keys _ => .unbounded (countNulls keys)
  | .date _ values => .unbounded (countNulls values)
  | .other _ valid => .unbounded (.ofNat (valid.count false))

def computeBlockStats (array : ArrowArray) (offset len : Nat) : BlockColumnStats :=
  (array.slice offset len).blockStats

/-- The statistics of a block and its rows. -/
structure BlockStats extends BlockColumnStats where
  rowStart : UInt32
  rowEnd : UInt32

/-- The blocks of a column, in granules. -/
structure GranuleZoneMapIndex where
  columnType : DataType
  granules : List (List BlockStats)

/-- Whether a block may have values in a range. -/
def blockOverlaps (predMin predMax : Bytes) (dtype : DataType)
    (block : BlockColumnStats) : Option Bool := do
  let below ← block.maxBytes.elim (some false) (bytesLt · predMin dtype)
  if below then return false
  let above ← block.minBytes.elim (some false) (bytesLt predMax · dtype)
  return !above

def GranuleZoneMapIndex.mayOverlap (index : GranuleZoneMapIndex)
    (predMin predMax : Bytes) : Option Bool :=
  scanUntil (scanUntil fun block =>
    blockOverlaps predMin predMax index.columnType block.toBlockColumnStats)
    index.granules

/-- The builder of the blocks, with the rows and bytes that wait for the next one. -/
structure BlockZoneMapBuilder where
  columnType : DataType
  blocksFlushedRows : UInt32
  pendingRows : Nat
  pendingBytes : Nat
  currentBlockStats : BlockColumnStats
  currentGranule : List BlockStats
  completedGranules : List (List BlockStats)
  blocksInGranule : Nat

namespace BlockZoneMapBuilder

/-- The rows of a block. -/
def blockSize : Nat := 8192

/-- The blocks of a granule. -/
def granuleSize : Nat := 8

def maxBytesPerBlock : Nat := 10 * 1024 * 1024

def new (columnType : DataType) : BlockZoneMapBuilder where
  columnType := columnType
  blocksFlushedRows := 0
  pendingRows := 0
  pendingBytes := 0
  currentBlockStats := .empty
  currentGranule := []
  completedGranules := []
  blocksInGranule := 0

def withArray (array : ArrowArray) : BlockZoneMapBuilder :=
  new array.dataType

/-- The block of the rows that wait. -/
def currentBlock (builder : BlockZoneMapBuilder) : BlockStats where
  toBlockColumnStats := builder.currentBlockStats
  rowStart := builder.blocksFlushedRows
  rowEnd := builder.blocksFlushedRows + .ofNat builder.pendingRows

/-- End the block, if it has rows. -/
def flushBlock (builder : BlockZoneMapBuilder) : BlockZoneMapBuilder :=
  if builder.pendingRows = 0 then builder
  else
    { builder with
      currentGranule := builder.currentGranule ++ [builder.currentBlock]
      blocksInGranule := builder.blocksInGranule + 1
      blocksFlushedRows := builder.blocksFlushedRows + .ofNat builder.pendingRows
      pendingRows := 0
      pendingBytes := 0
      currentBlockStats := .empty }

/-- End the granule, if it has blocks. -/
def flushGranule (builder : BlockZoneMapBuilder) : BlockZoneMapBuilder :=
  if builder.currentGranule = [] then builder
  else
    { builder with
      completedGranules := builder.completedGranules ++ [builder.currentGranule]
      currentGranule := []
      blocksInGranule := 0 }

/-- End the block, and the granule when it is full. -/
def closeBlock (builder : BlockZoneMapBuilder) : BlockZoneMapBuilder :=
  if granuleSize ≤ builder.flushBlock.blocksInGranule then
    builder.flushBlock.flushGranule
  else builder.flushBlock

def isFull (builder : BlockZoneMapBuilder) : Bool :=
  decide (blockSize ≤ builder.pendingRows) ||
    decide (maxBytesPerBlock ≤ builder.pendingBytes)

/-- How many of the rows left fit the block. -/
def rowsCanAdd (builder : BlockZoneMapBuilder) (remaining : Nat) : Nat :=
  min (min remaining (blockSize - builder.pendingRows))
    (max ((maxBytesPerBlock - builder.pendingBytes) / 8) 1)

/-- Take some rows into the block. -/
def addRows (builder : BlockZoneMapBuilder) (array : ArrowArray)
    (offset rows : Nat) : BlockZoneMapBuilder :=
  { builder with
    currentBlockStats := builder.currentBlockStats.mergeWith (computeBlockStats array offset rows)
    pendingRows := builder.pendingRows + rows
    pendingBytes := builder.pendingBytes + rows * 8 }

/-- The loop of `append_column`.  A pass adds at least one row, so as many
passes as there are rows are enough. -/
def appendRows (array : ArrowArray) : Nat → BlockZoneMapBuilder → Nat → BlockZoneMapBuilder
  | 0, builder, _ => builder
  | fuel + 1, builder, consumed =>
    if array.length ≤ consumed then builder
    else
      let ready := if builder.isFull then builder.closeBlock else builder
      let rows := ready.rowsCanAdd (array.length - consumed)
      if rows = 0 then
        appendRows array fuel
          { ready with pendingRows := blockSize }.closeBlock consumed
      else
        appendRows array fuel (ready.addRows array consumed rows)
          (consumed + rows)

def appendBatch (builder : BlockZoneMapBuilder) (array : ArrowArray) : BlockZoneMapBuilder :=
  (appendRows array array.length builder 0).flushBlock.flushGranule

/-- The index of what was appended. -/
def finalize (builder : BlockZoneMapBuilder) : GranuleZoneMapIndex where
  columnType := builder.columnType
  granules := builder.flushBlock.flushGranule.completedGranules

/-- The blocks so far. -/
def emitted (builder : BlockZoneMapBuilder) : List BlockStats :=
  builder.completedGranules.flatten ++ builder.currentGranule

/-- Nothing waits for the next block. -/
structure Clean (builder : BlockZoneMapBuilder) : Prop where
  rows : builder.pendingRows = 0
  bytes : builder.pendingBytes = 0
  stats : builder.currentBlockStats = .empty

variable {builder : BlockZoneMapBuilder}

lemma flushBlock_of_clean (clean : builder.Clean) : builder.flushBlock = builder := by
  simp [flushBlock, clean.rows]

lemma isFull_of_clean (clean : builder.Clean) : builder.isFull = false := by
  simp [isFull, clean.rows, clean.bytes, blockSize, maxBytesPerBlock]

@[simp]
lemma emitted_flushGranule (builder : BlockZoneMapBuilder) :
    builder.flushGranule.emitted = builder.emitted := by
  unfold flushGranule
  split
  · rfl
  · simp [emitted]

@[simp]
lemma columnType_flushGranule (builder : BlockZoneMapBuilder) :
    builder.flushGranule.columnType = builder.columnType := by
  unfold flushGranule
  split <;> rfl

@[simp]
lemma columnType_flushBlock (builder : BlockZoneMapBuilder) :
    builder.flushBlock.columnType = builder.columnType := by
  unfold flushBlock
  split <;> rfl

@[simp]
lemma columnType_closeBlock (builder : BlockZoneMapBuilder) :
    builder.closeBlock.columnType = builder.columnType := by
  unfold closeBlock
  split <;> simp

@[simp]
lemma columnType_appendRows (array) (fuel : Nat) (builder) (consumed : Nat) :
    (appendRows array fuel builder consumed).columnType = builder.columnType := by
  induction fuel generalizing builder consumed with
  | zero => rfl
  | succ fuel ih =>
    have ready : (if builder.isFull then builder.closeBlock
        else builder).columnType = builder.columnType := by
      split <;> simp
    by_cases done : array.length ≤ consumed
    · rw [appendRows, if_pos done]
    · simp only [appendRows, done, if_false]
      generalize (if builder.isFull then builder.closeBlock
        else builder) = closed at ready
      split
      · rw [ih, columnType_closeBlock, ← ready]
      · rw [ih, ← ready, addRows]

lemma emitted_flushBlock (pending : builder.pendingRows ≠ 0) : builder.flushBlock.emitted =
      builder.emitted ++ [builder.currentBlock] := by
  simp [flushBlock, pending, emitted]

lemma emitted_closeBlock (pending : builder.pendingRows ≠ 0) : builder.closeBlock.emitted =
      builder.emitted ++ [builder.currentBlock] := by
  unfold closeBlock
  split
  · rw [emitted_flushGranule, emitted_flushBlock pending]
  · rw [emitted_flushBlock pending]

lemma blocksFlushedRows_flushBlock (builder : BlockZoneMapBuilder) :
    builder.flushBlock.blocksFlushedRows =
      builder.blocksFlushedRows + .ofNat builder.pendingRows := by
  unfold flushBlock
  split <;> simp_all

@[simp]
lemma blocksFlushedRows_flushGranule (builder : BlockZoneMapBuilder) :
    builder.flushGranule.blocksFlushedRows = builder.blocksFlushedRows := by
  unfold flushGranule
  split <;> rfl

lemma blocksFlushedRows_closeBlock (builder : BlockZoneMapBuilder) :
    builder.closeBlock.blocksFlushedRows =
      builder.blocksFlushedRows + .ofNat builder.pendingRows := by
  unfold closeBlock
  split <;> simp [blocksFlushedRows_flushBlock]

lemma flushBlock_clean (pending : builder.pendingRows ≠ 0) : builder.flushBlock.Clean := by
  constructor <;> simp [flushBlock, pending]

lemma Clean.flushGranule (clean : builder.Clean) : builder.flushGranule.Clean := by
  unfold BlockZoneMapBuilder.flushGranule
  split
  · exact clean
  · exact ⟨clean.rows, clean.bytes, clean.stats⟩

lemma closeBlock_clean (pending : builder.pendingRows ≠ 0) : builder.closeBlock.Clean := by
  unfold closeBlock
  split
  · exact (flushBlock_clean pending).flushGranule
  · exact flushBlock_clean pending

variable {array : ArrowArray}

lemma appendRows_of_length_le (done : array.length ≤ consumed) :
    appendRows array fuel builder consumed = builder := by
  cases fuel with
  | zero => rfl
  | succ fuel => rw [appendRows, if_pos done]

lemma appendRows_of_full (more : consumed < array.length) (full : builder.isFull = true)
    (pending : builder.pendingRows ≠ 0) : appendRows array (fuel + 1) builder consumed =
      appendRows array (fuel + 1) builder.closeBlock consumed := by
  have clean := closeBlock_clean pending
  have next := isFull_of_clean clean
  simp only [appendRows, full, next, if_true, Bool.false_eq_true, if_false, Nat.not_le.mpr more]

lemma currentGranule_flushGranule (builder : BlockZoneMapBuilder) :
    builder.flushGranule.currentGranule = [] := by
  unfold flushGranule
  split <;> simp_all

lemma finalize_flatten (clean : builder.Clean) :
    builder.finalize.granules.flatten = builder.emitted := by
  rw [finalize, flushBlock_of_clean clean, ← emitted_flushGranule, emitted,
    currentGranule_flushGranule, List.append_nil]

end BlockZoneMapBuilder

open BlockZoneMapBuilder

/-- The block of some rows of an array. -/
def ArrowArray.blockOf (array : ArrowArray) (rowStart : UInt32)
    (offset rows : Nat) : BlockStats where
  toBlockColumnStats := computeBlockStats array offset rows
  rowStart := rowStart
  rowEnd := rowStart + .ofNat rows

/-- The blocks that an array adds from a row on. -/
def ArrowArray.blocksFrom (array : ArrowArray) (rowStart : UInt32)
    (consumed : Nat) : List BlockStats :=
  (List.range ((array.length - consumed + (blockSize - 1)) / blockSize)).map
    fun block => array.blockOf (rowStart + .ofNat (blockSize * block))
      (consumed + blockSize * block)
      (min (array.length - (consumed + blockSize * block)) blockSize)

variable {array : ArrowArray} {builder : BlockZoneMapBuilder}

lemma ArrowArray.blocksFrom_of_length_le (done : array.length ≤ consumed) :
    array.blocksFrom rowStart consumed = [] := by
  simp [blocksFrom, Nat.sub_eq_zero_of_le done, blockSize]

lemma ArrowArray.blocksFrom_of_lt (more : consumed < array.length) :
    array.blocksFrom rowStart consumed =
      array.blockOf rowStart consumed (min (array.length - consumed) blockSize) ::
        array.blocksFrom (rowStart + .ofNat blockSize) (consumed + blockSize) := by
  have count : (array.length - consumed + (blockSize - 1)) / blockSize =
      (array.length - (consumed + blockSize) + (blockSize - 1)) / blockSize +
        1 := by
    simp only [blockSize]
    omega
  simp only [blocksFrom, count, List.range_succ_eq_map, List.map_cons,
    List.map_map, Nat.mul_zero, Nat.add_zero, List.cons.injEq]
  refine ⟨by simp, List.map_congr_left fun block _ => ?_⟩
  simp only [Function.comp_apply, Nat.mul_succ, UInt32.ofNat_add,
    Nat.add_comm (blockSize * block), Nat.add_assoc, UInt32.add_assoc]

lemma computeBlockStats_min (array) (off : Nat) :
    computeBlockStats array off (min (array.length - off) blockSize) =
      computeBlockStats array off blockSize := by
  unfold computeBlockStats
  rcases Nat.le_total (array.length - off) blockSize with short | long
  · rw [Nat.min_eq_left short, array.slice_of_length_le short]
  · rw [Nat.min_eq_right long]

lemma appendRows_appends (array : ArrowArray) (clean : builder.Clean)
    (enough : array.length - consumed ≤ fuel) :
    let appended := (appendRows array fuel builder consumed).flushBlock
    appended.emitted = builder.emitted ++
        array.blocksFrom builder.blocksFlushedRows consumed ∧
      appended.blocksFlushedRows =
        builder.blocksFlushedRows + .ofNat (array.length - consumed) ∧
      appended.Clean := by
  induction fuel generalizing builder consumed with
  | zero =>
    have done : array.length ≤ consumed := by omega
    simp [appendRows, flushBlock_of_clean clean, clean,
      ArrowArray.blocksFrom_of_length_le done, Nat.sub_eq_zero_of_le done]
  | succ fuel ih =>
    by_cases done : array.length ≤ consumed
    · simp [appendRows, flushBlock_of_clean clean, clean, done,
        ArrowArray.blocksFrom_of_length_le done, Nat.sub_eq_zero_of_le done]
    · have more : consumed < array.length := by omega
      have rows : builder.rowsCanAdd (array.length - consumed) =
          min (array.length - consumed) blockSize := by
        simp [rowsCanAdd, clean.rows, clean.bytes, blockSize, maxBytesPerBlock]
      have some : min (array.length - consumed) blockSize ≠ 0 := by
        simp only [blockSize]
        omega
      simp only [appendRows, done, if_false, isFull_of_clean clean, Bool.false_eq_true, rows, some]
      generalize same : builder.addRows array consumed
        (min (array.length - consumed) blockSize) = ne
      have rowsPending : ne.pendingRows = min (array.length - consumed) blockSize := by
        simp [← same, addRows, clean.rows]
      have pending : ne.pendingRows ≠ 0 := by rwa [rowsPending]
      have block : ne.currentBlock =
          array.blockOf builder.blocksFlushedRows consumed
            (min (array.length - consumed) blockSize) := by
        simp [← same, addRows, currentBlock, clean.stats, clean.rows, ArrowArray.blockOf]
      have emitted : ne.emitted = builder.emitted := by
        rw [← same]
        rfl
      have flushedRows : ne.blocksFlushedRows = builder.blocksFlushedRows := by
        rw [← same]
        rfl
      rw [ArrowArray.blocksFrom_of_lt more]
      by_cases last : array.length ≤ consumed + blockSize
      · have allRows : min (array.length - consumed) blockSize = array.length - consumed := by omega
        have consumedAll : consumed + (array.length - consumed) = array.length := by omega
        rw [allRows, consumedAll, appendRows_of_length_le le_rfl]
        refine ⟨?_, ?_, flushBlock_clean pending⟩
        · rw [emitted_flushBlock pending, emitted, block, allRows,
            ArrowArray.blocksFrom_of_length_le last]
        · rw [blocksFlushedRows_flushBlock, flushedRows, rowsPending, allRows]
      · have wholeBlock : min (array.length - consumed) blockSize = blockSize := by omega
        have full : ne.isFull = true := by simp [isFull, rowsPending, wholeBlock]
        have flushed : ne.closeBlock.blocksFlushedRows =
            builder.blocksFlushedRows + .ofNat blockSize := by
          rw [blocksFlushedRows_closeBlock, flushedRows, rowsPending, wholeBlock]
        obtain ⟨rest, rfl⟩ : ∃ rest, fuel = rest + 1 :=
          ⟨fuel - 1, by simp only [blockSize] at last; omega⟩
        have remaining : array.length - consumed =
            blockSize + (array.length - (consumed + blockSize)) := by omega
        have fewer : array.length - (consumed + blockSize) ≤ rest + 1 := by
          simp only [blockSize]
          omega
        obtain ⟨laterBlocks, laterRows, laterClean⟩ := ih (closeBlock_clean pending) fewer
        rw [wholeBlock, appendRows_of_full (by omega) full pending]
        refine ⟨?_, ?_, laterClean⟩
        · rw [laterBlocks, emitted_closeBlock pending, emitted, block, wholeBlock, flushed]
          simp
        · rw [laterRows, flushed, remaining, UInt32.ofNat_add, UInt32.add_assoc]

lemma appendBatch_appends (array) (clean : builder.Clean) :
    (builder.appendBatch array).emitted = builder.emitted ++
        array.blocksFrom builder.blocksFlushedRows 0 ∧
      (builder.appendBatch array).blocksFlushedRows =
        builder.blocksFlushedRows + .ofNat array.length ∧ (builder.appendBatch array).Clean := by
  obtain ⟨blocks, rows, stillClean⟩ := appendRows_appends array clean (Nat.sub_le array.length 0)
  rw [appendBatch, emitted_flushGranule, blocksFlushedRows_flushGranule]
  exact ⟨blocks, rows, stillClean.flushGranule⟩

/-- The index of one array. -/
def ArrowArray.zoneMap (array : ArrowArray) : GranuleZoneMapIndex :=
  ((withArray array).appendBatch array).finalize

lemma ArrowArray.zoneMap_blocks (array : ArrowArray) :
    array.zoneMap.granules.flatten = array.blocksFrom 0 0 := by
  have clean : (withArray array).Clean := ⟨rfl, rfl, rfl⟩
  obtain ⟨blocks, -, stillClean⟩ := appendBatch_appends array clean
  rw [zoneMap, finalize_flatten stillClean, blocks]
  rfl

lemma ArrowArray.zoneMap_columnType (array : ArrowArray) :
    array.zoneMap.columnType = array.dataType := by
  simp [zoneMap, appendBatch, finalize, withArray, new]

end RockDuck
