import RockDuck.ZoneMapPredicates

/-!
# Pruning of segments

A segment that is skipped must hold no row that satisfies the filter.
-/

namespace RockDuck

open BlockZoneMapBuilder List ArrowArray

/-- The comparison of two values. -/
def CompareOp.holds {Place : Type*} [LinearOrder Place] (left right : Place) : CompareOp → Bool
  | .eq => decide (left = right)
  | .ne => decide (left ≠ right)
  | .lt => decide (left < right)
  | .le => decide (left ≤ right)
  | .gt => decide (right < left)
  | .ge => decide (right ≤ left)

section Holds

variable {Place : Type*} [LinearOrder Place] {left right : Place}

lemma CompareOp.holds_eq_iff : CompareOp.eq.holds left right = true ↔ left = right := by
  simp [holds]

lemma CompareOp.holds_lt_iff : CompareOp.lt.holds left right = true ↔ left < right := by
  simp [holds]

lemma CompareOp.holds_le_iff : CompareOp.le.holds left right = true ↔ left ≤ right := by
  simp [holds]

end Holds

/-- What a comparison asks of the values of a column from below. -/
def CompareOp.lower {Value : Type*} (value : Value) : CompareOp → Option Value
  | .eq | .ge | .gt => some value
  | .ne | .le | .lt => none

def CompareOp.upper {Value : Type*} (value : Value) : CompareOp → Option Value
  | .eq | .le | .lt => some value
  | .ne | .ge | .gt => none

namespace ArrowArray

/-- The documented comparison of an array with a constant.  The types have to
agree, floating-point numbers are compared in their total order, and a
dictionary is compared through its values. -/
def compareWith (op : CompareOp) (val : ParsedScalar) : ArrowArray → Option (List (Option Bool))
  | integer type values =>
    match val with
    | .int64 value =>
      if type = .int64 then
        some (values.map fun entry => entry.map fun pattern =>
          op.holds (type.value pattern) (type.value (i64Pattern value)))
      else none
    | _ => none
  | float format values =>
    match val with
    | .float64 bits =>
      if format = .float64 then
        some (values.map fun entry => entry.map fun pattern =>
          op.holds (format.totalValue pattern)
            (format.totalValue bits.toNat))
      else none
    | _ => none
  | utf8 large values =>
    match val with
    | .string text =>
      if large then none
      else
        some (values.map fun entry => entry.map fun bytes =>
          op.holds (byteOrder bytes) (byteOrder (textBytes text)))
    | _ => none
  | boolean values =>
    match val with
    | .bool value =>
      some (values.map fun entry => entry.map fun known => op.holds known value)
    | _ => none
  | dictionary _ keys values =>
    (compareWith op val values).map fun mask =>
      keys.map fun key => key.bind fun place => (mask[place]?).join
  | date _ _ | other _ _ => none

/-- The blocks of an array. -/
def blocks (array : ArrowArray) : List ArrowArray :=
  (List.range ((array.length + (blockSize - 1)) / blockSize)).map fun block =>
    array.slice (blockSize * block) blockSize

/-- Whether the values of a block leave room for a comparison.  A range over
numbers cannot be compared without its bound. -/
def meets (op : CompareOp) (val : ParsedScalar) : ArrowArray → Option Bool
  | integer type values =>
    match val with
    | .int64 value =>
      rangeMeets type.lt none (op.lower (i64Pattern value))
        (op.upper (i64Pattern value))
        (extremes type.lt values.reduceOption)
    | _ => some true
  | float format values =>
    match val with
    | .float64 bits =>
      rangeMeets format.lt none (op.lower bits.toNat) (op.upper bits.toNat)
        (extremes format.lt (format.numbers values))
    | _ => some true
  | utf8 _ values =>
    match val with
    | .string text =>
      rangeMeets byteLt (some []) (op.lower (textBytes text))
        (op.upper (textBytes text)) (extremes byteLt values.reduceOption)
    | _ => some true
  | boolean _ | date _ _ | dictionary _ _ _ | other _ _ => some true

@[simp]
lemma dataType_slice (array : ArrowArray) (off len : Nat) :
    (array.slice off len).dataType = array.dataType := by
  cases array <;> rfl

lemma zoneMap_flatten (array : ArrowArray) :
    array.zoneMap.granules.flatten.map BlockStats.toBlockColumnStats =
      array.blocks.map blockStats := by
  rw [zoneMap_blocks, blocksFrom, blocks, map_map, map_map]
  apply map_congr_left
  intro block _
  simp only [Function.comp_apply, blockOf, computeBlockStats_min, Nat.zero_add]
  rfl

lemma mayOverlap_zoneMap (array : ArrowArray) (predMin predMax) :
    array.zoneMap.mayOverlap predMin predMax =
      scanUntil (fun block => blockOverlaps predMin predMax array.dataType
        block.blockStats) array.blocks := by
  rw [GranuleZoneMapIndex.mayOverlap, zoneMap_columnType]
  have flattened := scanUntil_flatMap (fun block =>
    blockOverlaps predMin predMax array.dataType block.toBlockColumnStats) id
    array.zoneMap.granules
  have checks := scanUntil_map (blockOverlaps predMin predMax array.dataType)
    BlockStats.toBlockColumnStats array.zoneMap.granules.flatten
  rw [zoneMap_flatten, scanUntil_map] at checks
  rw [flatMap_id] at flattened
  exact flattened.symm.trans checks.symm

end ArrowArray

/-- The bytes of the values of a column are compared like the values, and an
absent bound like `missing`. -/
structure ComparesAs {Value : Type*} (dtype : DataType)
    (lt : Value → Value → Bool) (encode : Value → Bytes)
    (missing : Option Value) : Prop where
  lower : ∀ (value : Value) (bound : Option Value),
    bytesLt (encode value) (bound.elim [] encode) dtype =
      (bound.or missing).map (lt value ·)
  upper : ∀ (value : Value) (bound : Option Value),
    bytesLt (bound.elim [] encode) (encode value) dtype =
      (bound.or missing).map (lt · value)

lemma comparesAs_integer {type : IntegerType} (wide : 0 < type.width) :
    ComparesAs (.integer type) type.lt (leBytes type.width) none := by
  constructor <;> intro val bound <;> cases bound <;>
    simp [bytesLt, wide, IntegerType.lt]

lemma comparesAs_float {format : FloatFormat} (wide : 0 < format.width) :
    ComparesAs (.float format) format.lt (leBytes format.width) none := by
  constructor <;> intro val bound <;> cases bound <;> simp [bytesLt, wide]

lemma comparesAs_bytes : ComparesAs .bytes byteLt id (some []) := by
  constructor <;> intro val bound <;> cases bound <;> simp [bytesLt]

lemma ComparesAs.blockOverlaps_eq {Value dtype lt encode missing}
    (compares : ComparesAs dtype lt encode missing) (lower upper : Option Value) (vals nullCount)
    : blockOverlaps (lower.elim [] encode) (upper.elim [] encode) dtype
        (.ofValues lt encode vals nullCount) =
      rangeMeets lt missing lower upper (extremes lt vals) := by
  by_cases empty : vals = []
  · subst empty
    rfl
  · obtain ⟨least, greatest, isLeast, isGreatest, both⟩ := exists_extremes lt empty
    simp only [blockOverlaps, BlockColumnStats.ofValues, isLeast, isGreatest, Option.map_some,
      Option.elim_some, compares.lower, compares.upper, both, rangeMeets]
    cases lower.or missing with
    | none => rfl
    | some lower =>
      cases upper.or missing with
      | none => cases lt greatest lower <;> rfl
      | some upper => cases below : lt greatest lower <;> simp [below]

variable {val : ParsedScalar} {block : ArrowArray} {array : ArrowArray} {constant : Nat}
    {op : CompareOp} {mask : List (Option Bool)} {values : List (Option Nat)}

lemma predicateRange_eq (encode : Value → Bytes) (value : Value)
    (bytes : scalarToBytes val = some (encode value))
    (range : predicateRange op val = some (predMin, predMax)) :
    predMin = (op.lower value).elim [] encode ∧ predMax = (op.upper value).elim [] encode := by
  rw [predicateRange, bytes] at range
  cases op <;> cases range <;> exact ⟨rfl, rfl⟩

/-- Booleans are compared for equality only. -/
def OnlyEqualities (op : CompareOp) (val : ParsedScalar) : Prop :=
  ∀ value, val = .bool value → op = .eq ∨ op = .ne

lemma ArrowArray.blockOverlaps_eq_meets (cmp : block.compareWith op val = some mask)
    (equality : OnlyEqualities op val) (range : predicateRange op val = some (predMin, predMax)) :
    blockOverlaps predMin predMax block.dataType block.blockStats = block.meets op val := by
  cases block with
  | integer type values =>
    cases val with
    | int64 value =>
      simp only [compareWith] at cmp
      split at cmp
      case isTrue same =>
          subst same
          have compares := comparesAs_integer (show 0 < IntegerType.int64.width by decide)
          obtain ⟨rfl, rfl⟩ := predicateRange_eq (leBytes 8) (i64Pattern value) rfl range
          exact compares.blockOverlaps_eq _ _ _ _
      case isFalse => simp at cmp
    | _ => simp [compareWith] at cmp
  | float format values =>
    cases val with
    | float64 bits =>
      simp only [compareWith] at cmp
      split at cmp
      case isTrue same =>
          subst same
          have compares := comparesAs_float (show 0 < FloatFormat.float64.width by decide)
          obtain ⟨rfl, rfl⟩ := predicateRange_eq (leBytes 8) bits.toNat rfl range
          exact compares.blockOverlaps_eq _ _ _ _
      case isFalse => simp at cmp
    | _ => simp [compareWith] at cmp
  | utf8 large values =>
    cases val with
    | string text =>
      obtain ⟨rfl, rfl⟩ := predicateRange_eq id (textBytes text) rfl range
      exact comparesAs_bytes.blockOverlaps_eq _ _ _ _
    | _ => simp [compareWith] at cmp
  | boolean values =>
    cases val with
    | bool value =>
      rcases equality value rfl with rfl | rfl
      · cases range
        by_cases hasTrue : some true ∈ values <;>
          by_cases hasFalse : some false ∈ values <;>
          cases value <;>
          simp [blockOverlaps, blockStats, meets, dataType, bytesLt, hasTrue, hasFalse]
      · simp [predicateRange, scalarToBytes] at range
    | _ => simp [compareWith] at cmp
  | dictionary int32Keys keys values =>
    have unordered : ∀ left right, bytesLt left right .unordered = some false := fun _ _ => rfl
    simp only [blockOverlaps, dataType, unordered, meets]
    cases (dictionary int32Keys keys values).blockStats.maxBytes <;>
      cases (dictionary int32Keys keys values).blockStats.minBytes <;> rfl
  | date type values | other type length => simp [compareWith] at cmp

lemma ArrowArray.compareWith_slice (array : ArrowArray) (op val) (off len : Nat) :
    (array.slice off len).compareWith op val =
      (array.compareWith op val).map fun mask => (mask.drop off).take len := by
  cases array with
  | integer type values | float format values | utf8 large values =>
    cases val <;> simp only [slice, compareWith, Option.map_none]
    split <;> simp [map_take, map_drop]
  | boolean values => cases val <;> simp [slice, compareWith, map_take, map_drop]
  | dictionary int32Keys keys values =>
    simp only [slice, compareWith, Option.map_map, Function.comp_def, map_take, map_drop]
  | date type values | other type length => rfl

section

variable {op : CompareOp} {mask : List (Option Bool)}
    (compared : array.compareWith op val = some mask)
include compared

lemma ArrowArray.compareWith_length : mask.length = array.length := by
  cases array with
  | integer type values | float format values | utf8 large values =>
    cases val <;> simp only [compareWith, reduceCtorEq] at compared
    split at compared
    all_goals first
      | (simp at compared; done)
      | (cases compared; simp [length])
  | boolean values =>
    cases val <;> simp only [compareWith, reduceCtorEq] at compared
    cases compared
    simp [length]
  | dictionary int32Keys keys values =>
    obtain ⟨inner, _, rfl⟩ := Option.map_eq_some_iff.mp compared
    simp [length]
  | date type values | other type length => simp [compareWith] at compared

lemma ArrowArray.exists_block_of_row {row : Nat} (holds : mask[row]? = some (some true)) :
    ∃ block ∈ array.blocks, ∃ part, block.compareWith op val = some part ∧ some true ∈ part := by
  have mem : row < array.length := by
    rw [← compareWith_length compared]
    exact (List.getElem?_eq_some_iff.mp holds).1
  have places : row / blockSize < (array.length + (blockSize - 1)) / blockSize := by
    simp only [blockSize]
    omega
  refine ⟨_, mem_map_of_mem (mem_range.mpr places), _,
    (array.compareWith_slice op val _ _).trans (by rw [compared]; rfl), ?_⟩
  refine mem_of_getElem? (i := row % blockSize) ?_
  rw [getElem?_take_of_lt (Nat.mod_lt _ (by decide)), getElem?_drop, Nat.div_add_mod, holds]

end

/-- A comparison with both of its bounds.  A string that is bounded from above
has the empty string as its lower bound. -/
def TwoSided (op : CompareOp) (val : ParsedScalar) : Prop :=
  op = .eq ∨ (∃ text, val = .string text) ∧ (op = .lt ∨ op = .le)

lemma byteLt_nil (bytes) : byteLt bytes [] = false := by
  simp [byteLt, byteOrder]

lemma integer_meets_of_mem {type : IntegerType} (mem : some pattern ∈ values)
    (equal : type.value pattern = type.value constant) :
    rangeMeets type.lt none (some constant) (some constant)
      (extremes type.lt values.reduceOption) = some true := by
  refine rangeMeets_of_mem type.lt type.value (fun _ _ _ _ => rfl)
    (reduceOption_mem_iff.mpr mem) rfl rfl ?_ ?_
  · intro other above
    simp only [IntegerType.lt, decide_eq_false_iff_not, not_lt]
    exact equal ▸ above
  · intro other below
    simp only [IntegerType.lt, decide_eq_false_iff_not, not_lt]
    exact equal ▸ below

lemma float_meets_of_mem {format : FloatFormat} (member : some pattern ∈ values)
    (equal : format.totalValue pattern = format.totalValue constant) :
    rangeMeets format.lt none (some constant) (some constant)
      (extremes format.lt (format.numbers values)) = some true := by
  obtain ⟨sameValue, sameNaN⟩ := FloatFormat.of_totalValue_eq equal
  cases num : format.isNaN constant with
  | true =>
    cases extremes format.lt (format.numbers values) with
    | none => rfl
    | some bounds => simp [rangeMeets, FloatFormat.lt, num]
  | false =>
    have nums : ∀ val ∈ format.numbers values, format.isNaN val = false := by
      intro val mem
      simpa using (mem_filter.mp mem).2
    have mem : pattern ∈ format.numbers values :=
      mem_filter.mpr ⟨reduceOption_mem_iff.mpr member, by
        simp [sameNaN, num]⟩
    refine rangeMeets_of_mem format.lt format.value (fun a ha b hb =>
      FloatFormat.lt_eq_of_numbers (nums a ha) (nums b hb)) mem rfl
      rfl ?_ ?_
    · intro other above
      simp [FloatFormat.lt, not_lt.mpr (sameValue ▸ above)]
    · intro other below
      simp [FloatFormat.lt, not_lt.mpr (sameValue ▸ below)]

lemma text_meets_of_mem {values : List (Option Bytes)} {bytes constant : Bytes}
    (twoSided : op = .eq ∨ op = .lt ∨ op = .le) (mem : some bytes ∈ values)
    (holds : op.holds (byteOrder bytes) (byteOrder constant) = true) :
    rangeMeets byteLt (some []) (op.lower constant) (op.upper constant)
      (extremes byteLt values.reduceOption) = some true := by
  have atMost : byteOrder bytes ≤ byteOrder constant := by
    rcases twoSided with rfl | rfl | rfl
    · exact (CompareOp.holds_eq_iff.mp holds).le
    · exact (CompareOp.holds_lt_iff.mp holds).le
    · exact CompareOp.holds_le_iff.mp holds
  have isHigh : (op.upper constant).or (some []) = some constant := by
    rcases twoSided with rfl | rfl | rfl <;> rfl
  obtain ⟨low, isLow, aboveLow⟩ : ∃ low,
      (op.lower constant).or (some []) = some low ∧
        ∀ other, byteOrder bytes ≤ byteOrder other →
          byteLt other low = false := by
    rcases twoSided with rfl | rfl | rfl
    · refine ⟨constant, rfl, fun other above => ?_⟩
      rw [CompareOp.holds_eq_iff.mp holds] at above
      simpa [byteLt] using above
    · exact ⟨[], rfl, fun other _ => byteLt_nil other⟩
    · exact ⟨[], rfl, fun other _ => byteLt_nil other⟩
  refine rangeMeets_of_mem byteLt byteOrder (fun _ _ _ _ => by simp [byteLt])
    (reduceOption_mem_iff.mpr mem) isLow isHigh aboveLow ?_
  intro other below
  simpa [byteLt] using below.trans atMost

lemma ArrowArray.meets_of_mem (twoSided : TwoSided op val)
    (cmp : block.compareWith op val = some mask) (satisfied : some true ∈ mask) :
    block.meets op val = some true := by
  have entry {Value : Type} {holds : Value → Bool} {values : List (Option Value)}
      (same : some (values.map fun entry => entry.map holds) = some mask) :
      ∃ value, some value ∈ values ∧ holds value = true := by
    cases same
    obtain ⟨entry, mem, isTrue⟩ := mem_map.mp satisfied
    obtain ⟨value, rfl, holds⟩ := Option.map_eq_some_iff.mp isTrue
    exact ⟨value, mem, holds⟩
  cases block with
  | integer type values =>
    cases val with
    | int64 value =>
      simp only [compareWith] at cmp
      split at cmp
      · obtain rfl : op = .eq := by simpa [TwoSided] using twoSided
        obtain ⟨pattern, mem, holds⟩ := entry cmp
        exact integer_meets_of_mem mem (CompareOp.holds_eq_iff.mp holds)
      · simp at cmp
    | _ => rfl
  | float format values =>
    cases val with
    | float64 bits =>
      simp only [compareWith] at cmp
      split at cmp
      · obtain rfl : op = .eq := by simpa [TwoSided] using twoSided
        obtain ⟨pattern, mem, holds⟩ := entry cmp
        exact float_meets_of_mem mem (CompareOp.holds_eq_iff.mp holds)
      · simp at cmp
    | _ => rfl
  | utf8 large values =>
    cases val with
    | string text =>
      simp only [compareWith] at cmp
      split at cmp
      · simp at cmp
      · obtain ⟨bytes, mem, holds⟩ := entry cmp
        exact text_meets_of_mem (by simpa [TwoSided] using twoSided) mem
          holds
    | _ => rfl
  | boolean values | date type values | dictionary int32Keys keys values
  | other type length => rfl

lemma ArrowArray.meets_ne_none (twoSided : TwoSided op val) (block : ArrowArray) :
    block.meets op val ≠ none := by
  cases block with
  | integer type values =>
    cases val with
    | int64 value =>
      obtain rfl : op = .eq := by simpa [TwoSided] using twoSided
      exact rangeMeets_ne_none rfl rfl _
    | _ => simp [meets]
  | float format values =>
    cases val with
    | float64 bits =>
      obtain rfl : op = .eq := by simpa [TwoSided] using twoSided
      exact rangeMeets_ne_none rfl rfl _
    | _ => simp [meets]
  | utf8 large values =>
    cases val with
    | string text => cases op <;> exact rangeMeets_ne_none rfl rfl _
    | _ => simp [meets]
  | boolean values | date type values | dictionary int32Keys keys values
  | other type length => simp [meets]

/-- Kernels that compare as Arrow documents it. -/
structure DocumentedKernels extends ArrowKernels ArrowArray UInt64 where
  numRows_eq : ∀ array, numRows array = array.length
  documented : ∀ {op array val mask}, compare op array val = .ok mask ↔
    array.compareWith op val = some mask

section Batches

variable {kernels : DocumentedKernels} {batch : FilterBatch kernels.toArrowKernels}
    {array : ArrowArray} {val : ParsedScalar}

lemma compare_of_compareWithScalar
    (cmp : compareWithScalar kernels.toArrowKernels op array val = .ok mask) :
    kernels.compare op array val = .ok mask := by
  unfold compareWithScalar at cmp
  cases res : kernels.compare op array val with
  | error error => simp [res, Except.mapError] at cmp
  | ok found => simpa [res, Except.mapError] using cmp

lemma compareWith_of_holds {col range}
    (ranged : predicateRange op val = some range) (named : batch.columnByName col = some array)
    {row} (holds : (Expr.comparison col op val).sqlValue batch row = some true) :
    ∃ mask, array.compareWith op val = some mask ∧ mask[row]? = some (some true) := by
  rw [Expr.sqlValue] at holds
  cases evaluated : evaluateComparison col op val batch with
  | error error => simp [evaluated] at holds
  | ok mask =>
    rw [evaluated] at holds
    refine ⟨mask, ?_, Option.join_eq_some_iff.mp holds⟩
    have cmp : kernels.compare op array val = .ok mask := by
      simp only [evaluateComparison, named] at evaluated
      cases val with
      | null => simp [predicateRange, scalarToBytes] at ranged
      | bool value =>
        cases op <;> first
          | exact compare_of_compareWithScalar evaluated
          | simp at evaluated
      | int64 value | float64 bits | string text => exact compare_of_compareWithScalar evaluated
    exact kernels.documented.mp cmp

end Batches

/-- A segment whose zone maps were built from its batch. -/
structure ZoneMappedSegment (kernels : DocumentedKernels) extends
    SegmentZoneMaps where
  batch : FilterBatch kernels.toArrowKernels
  built : ∀ {column index}, toSegmentZoneMaps.index? column = some index →
    ∃ array, batch.columnByName column = some array ∧ index = array.zoneMap

abbrev ColumnComparison := CompareOp × ParsedScalar

def comparisonRange (op : CompareOp) (val : ParsedScalar) : Option ColumnComparison :=
  (predicateRange op val).map fun _ => (op, val)

def ColumnComparison.bounds (comparison : ColumnComparison) : Bytes × Bytes :=
  (predicateRange comparison.1 comparison.2).getD ([], [])

lemma predicateRange_eq_map (op val) : predicateRange op val =
      (comparisonRange op val).map ColumnComparison.bounds := by
  rw [comparisonRange, Option.map_map]
  cases found : predicateRange op val with
  | none => rfl
  | some range => simp [ColumnComparison.bounds, found]

def comparisonGroups (orders : HashOrders) (expr : ParsedExpr) :
    Option (ZoneMapPredicateGroup ColumnComparison) :=
  extractPredicatesGrouped comparisonRange orders expr

lemma toZoneMapPredicateGroup_eq (orders expr) :
    toZoneMapPredicateGroup orders expr = (comparisonGroups orders expr).map
        (ZoneMapPredicateGroup.map ColumnComparison.bounds) := by
  rw [comparisonGroups, ← extractPredicatesGrouped_map]
  simp only [← predicateRange_eq_map, toZoneMapPredicateGroup]

namespace ZoneMappedSegment

variable {kernels : DocumentedKernels} (segment : ZoneMappedSegment kernels)

def indexed? (column : String) : Option ArrowArray :=
  (segment.index? column).bind fun _ => segment.batch.columnByName column

def groupChecks (group : ZoneMapOrGroup ColumnComparison) : List (Option Bool) :=
  match segment.indexed? group.column with
  | none => [some true]
  | some array =>
    group.ranges.flatMap fun comparison =>
      array.blocks.map fun block => block.meets comparison.1 comparison.2

/-- The blocks checked against the comparisons of all groups. -/
def checks (group : ZoneMapPredicateGroup ColumnComparison) : List (Option Bool) :=
  group.groups.flatMap segment.groupChecks

variable {segment}

lemma indexed?_of_index? (found : segment.index? col = some idx) :
    ∃ array, segment.batch.columnByName col = some array ∧
      idx = array.zoneMap ∧ segment.indexed? col = some array := by
  obtain ⟨array, named, same⟩ := segment.built found
  exact ⟨array, named, same, by simp [indexed?, found, named]⟩

variable {array : ArrowArray} {group : ZoneMapOrGroup ColumnComparison}

lemma compared_of_comparable (comparable : Comparable segment.batch col op val)
    {range} (ranged : predicateRange op val = some range)
    (named : segment.batch.columnByName col = some array) :
    OnlyEqualities op val ∧ ∃ mask, array.compareWith op val = some mask := by
  obtain ⟨other, found, made⟩ := comparable
  rw [named, Option.some.injEq] at found
  subst found
  cases val with
  | null => simp [predicateRange, scalarToBytes] at ranged
  | bool value =>
    obtain ⟨equality, mask, cmp⟩ := made
    exact ⟨fun _ _ => equality, mask, kernels.documented.mp cmp⟩
  | int64 value | float64 bits | string text =>
    obtain ⟨mask, cmp⟩ := made
    exact ⟨by simp [OnlyEqualities], mask, kernels.documented.mp cmp⟩

lemma evaluateOrGroupForSegment_eq
    (evaluable : ∀ comparison ∈ group.ranges, Comparable segment.batch group.column comparison.1
      comparison.2)
    (ranged : ∀ comparison ∈ group.ranges, predicateRange comparison.1 comparison.2 = some
      comparison.bounds) : segment.evaluateOrGroupForSegment (group.map ColumnComparison.bounds) =
      scanUntil id (segment.groupChecks group) := by
  cases found : segment.index? group.column with
  | none =>
    simp [SegmentZoneMaps.evaluateOrGroupForSegment, ZoneMapOrGroup.map, found,
      groupChecks, indexed?, scanUntil]
  | some idx =>
    obtain ⟨array, named, rfl, indexed⟩ := indexed?_of_index? found
    simp only [SegmentZoneMaps.evaluateOrGroupForSegment, ZoneMapOrGroup.map,
      found, groupChecks, indexed, scanUntil_flatMap, scanUntil_map]
    apply scanUntil_congr
    intro comparison mem
    have range := ranged comparison mem
    obtain ⟨equality, mask, cmp⟩ :=
      compared_of_comparable (evaluable comparison mem) range named
    rw [Function.comp_apply, mayOverlap_zoneMap]
    apply scanUntil_congr
    intro block amongBlocks
    obtain ⟨place, _, rfl⟩ := mem_map.mp amongBlocks
    have sliced := array.compareWith_slice comparison.1 comparison.2 (blockSize * place) blockSize
    rw [cmp, Option.map_some] at sliced
    have same := blockOverlaps_eq_meets sliced equality range
    rw [dataType_slice] at same
    exact same

lemma comparison_of_mem (made : comparisonGroups orders expr = some whole)
    (mem : group ∈ whole.groups) (inRanges : comparison ∈ group.ranges) :
    .comparison group.column comparison.1 comparison.2 ∈ expr.subexpressions ∧
      predicateRange comparison.1 comparison.2 = some comparison.bounds := by
  obtain ⟨op, val, sub, found⟩ := exists_comparison_of_hasRange made ⟨group, mem, rfl, inRanges⟩
  obtain ⟨range, ranged, rfl⟩ := Option.map_eq_some_iff.mp found
  exact ⟨sub, by simp [ColumnComparison.bounds, ranged]⟩

variable {expr : ParsedExpr}

/-- Where its comparisons can be made, a filter that some row satisfies keeps
the segment when the first block that is not missed is met. -/
lemma shouldSkip_eq_false_iff
    (evaluable : ∀ col op val, .comparison col op val ∈ expr.subexpressions →
      Comparable segment.batch col op val) (satisfied : expr.sqlValue segment.batch row = some true)
    : segment.shouldSkipSegmentForZoneMap (toZoneMapPredicateGroup orders expr) = some false ↔
      ∀ group, comparisonGroups orders expr = some group → group.hasCrossColumnOr = false →
        scanUntil id (segment.checks group) = some true := by
  rw [toZoneMapPredicateGroup_eq]
  cases made : comparisonGroups orders expr with
  | none => simp [SegmentZoneMaps.shouldSkipSegmentForZoneMap]
  | some group =>
    obtain ⟨_, _, _, _, _, _, covers⟩ := exists_covers_of_satisfied made satisfied
    obtain ⟨first, amongFirst, _⟩ := covers.present
    have ne : group.groups ≠ [] := ne_nil_of_mem amongFirst
    have evaluated : scanUntil segment.evaluateOrGroupForSegment
        (group.groups.map (ZoneMapOrGroup.map ColumnComparison.bounds)) =
          scanUntil id (segment.checks group) := by
      rw [scanUntil_map, checks, scanUntil_flatMap]
      apply scanUntil_congr
      intro part mem
      refine evaluateOrGroupForSegment_eq ?_ ?_
      · intro comparison inRanges
        exact evaluable _ _ _ (comparison_of_mem made mem inRanges).1
      · intro comparison inRanges
        exact (comparison_of_mem made mem inRanges).2
    simp only [Option.map_some, SegmentZoneMaps.shouldSkipSegmentForZoneMap,
      ZoneMapPredicateGroup.map, isEmpty_map, evaluated, Option.some.injEq, forall_eq']
    cases group.hasCrossColumnOr <;>
      simp [ne]

lemma columnByName_of_indexed? (indexed : segment.indexed? col = some array) :
    segment.batch.columnByName col = some array := by
  obtain ⟨_, _, named⟩ := Option.bind_eq_some_iff.mp indexed
  exact named

lemma scanUntil_checks_of_twoSided
    (twoSided : ∀ col op val, .comparison col op val ∈ expr.subexpressions → TwoSided op val)
    {row : Nat} (satisfied : expr.sqlValue segment.batch row = some true)
    {group : ZoneMapPredicateGroup ColumnComparison}
    (made : comparisonGroups orders expr = some group) :
    scanUntil id (segment.checks group) = some true := by
  have checked : ∀ check ∈ segment.checks group, check ≠ none := by
    intro check mem
    obtain ⟨part, amongParts, inPart⟩ := mem_flatMap.mp mem
    unfold groupChecks at inPart
    split at inPart
    · simp_all
    · obtain ⟨comparison, inRanges, inBlocks⟩ := mem_flatMap.mp inPart
      obtain ⟨block, _, rfl⟩ := mem_map.mp inBlocks
      have sub := (comparison_of_mem made amongParts inRanges).1
      exact meets_ne_none (twoSided _ _ _ sub) block
  obtain ⟨column, op, val, member, holds, found, covers⟩ :=
    exists_covers_of_satisfied made satisfied
  obtain ⟨part, amongParts, rfl, inRanges⟩ := covers.hasRange
  obtain ⟨range, ranged, rfl⟩ := Option.map_eq_some_iff.mp found
  suffices met : some true ∈ segment.groupChecks part from
    scanUntil_eq_true_of_mem checked
      (mem_flatMap.mpr ⟨part, amongParts, met⟩) rfl
  cases indexed : segment.indexed? part.column with
  | none => simp [groupChecks, indexed]
  | some array =>
    have sub := (comparison_of_mem made amongParts inRanges).1
    obtain ⟨mask, cmp, rowHolds⟩ := compareWith_of_holds ranged
      (columnByName_of_indexed? indexed) holds
    obtain ⟨block, amongBlocks, rows, blockCompared, rowIn⟩ :=
      exists_block_of_row cmp rowHolds
    have meets := meets_of_mem (twoSided _ _ _ sub) blockCompared rowIn
    simp only [groupChecks, indexed]
    exact mem_flatMap.mpr ⟨_, inRanges, mem_map.mpr ⟨block, amongBlocks, meets⟩⟩

end ZoneMappedSegment

/-- On a segment that holds a row for the filter, pruning keeps the segment
exactly when, going through the comparisons of the filter and the blocks of
their columns, the first block that is not missed is met.  Comparisons that
have both bounds always get there. -/
theorem shouldSkipSegmentForZoneMap_sound_iff {kernels : DocumentedKernels}
    (segment : ZoneMappedSegment kernels) (orders : HashOrders) (expr : ParsedExpr)
    (evaluable : ∀ col op val, .comparison col op val ∈ expr.subexpressions →
      Comparable segment.batch col op val)
    (row : Nat) (satisfied : expr.sqlValue segment.batch row = some true) :
    (segment.shouldSkipSegmentForZoneMap (toZoneMapPredicateGroup orders expr) = some false ↔
      ∀ group, comparisonGroups orders expr = some group → group.hasCrossColumnOr = false →
        ∃ earlier later, segment.checks group = earlier ++ some true :: later ∧
          ∀ check ∈ earlier, check = some false) ∧
    ((∀ col op val, .comparison col op val ∈ expr.subexpressions → TwoSided op val) →
      segment.shouldSkipSegmentForZoneMap (toZoneMapPredicateGroup orders expr) = some false) := by
  have kept : segment.shouldSkipSegmentForZoneMap
      (toZoneMapPredicateGroup orders expr) = some false ↔ _ :=
    ZoneMappedSegment.shouldSkip_eq_false_iff evaluable satisfied
  constructor
  · rw [kept]
    refine forall_congr' fun group => forall_congr' fun extracted =>
      forall_congr' fun sameColumn => ?_
    rw [scanUntil_eq_true_iff]
    constructor
    · rintro ⟨earlier, item, later, split, failed, rfl⟩
      exact ⟨earlier, later, split, failed⟩
    · rintro ⟨earlier, later, split, failed⟩
      exact ⟨earlier, some true, later, split, failed, rfl⟩
  · intro twoSided
    rw [kept]
    intro group extracted _
    exact ZoneMappedSegment.scanUntil_checks_of_twoSided twoSided satisfied extracted

def arrowKernels : DocumentedKernels where
  numRows := ArrowArray.length
  dataTypeDebug _ := ""
  compare op array val :=
    match array.compareWith op val with
    | some mask => .ok mask
    | none => .error "Invalid comparison operation"
  isNull array := List.replicate array.length (some false)
  isNotNull array := List.replicate array.length (some true)
  compare_length := by
    intro op array val mask compared
    split at compared
    case h_1 found same =>
        cases compared
        exact ArrowArray.compareWith_length same
    case h_2 => simp at compared
  isNull_length := by simp
  isNotNull_length := by simp
  numRows_eq _ := rfl
  documented := by
    intro op array val mask
    cases array.compareWith op val <;> simp

def oneColumn (array : ArrowArray) : ZoneMappedSegment arrowKernels where
  columns := ["x"]
  zoneMapFile _ := .decoded array.zoneMap
  batch := ⟨array.length, [("x", array)], by simp [arrowKernels]⟩
  built := by
    intro column index found
    obtain ⟨rfl, rfl⟩ : column = "x" ∧ array.zoneMap = index := by
      simpa [SegmentZoneMaps.index?] using found
    exact ⟨array, rfl, rfl⟩

def storedOrder : HashOrders :=
  fun _ => (.asStored, .asStored)

def sevens : ArrowArray := .integer .int64 [some 7]

theorem sevens_kept :
    (oneColumn sevens).shouldSkipSegmentForZoneMap
      (toZoneMapPredicateGroup storedOrder (.comparison "x" .eq (.int64 7))) = some false :=
  (shouldSkipSegmentForZoneMap_sound_iff (oneColumn sevens) storedOrder
    (.comparison "x" .eq (.int64 7))
    (by
      intro col op val sub
      obtain ⟨rfl, rfl, rfl⟩ : col = "x" ∧ op = .eq ∧ val = .int64 7 := by
        simpa [Expr.subexpressions] using sub
      exact ⟨sevens, rfl, [some true], by decide +kernel⟩)
    0 (by decide +kernel)).2 (by
      intro col op val sub
      exact Or.inl (by simp_all [Expr.subexpressions]))

/-- A number above the bound makes pruning panic, and a string above it gets
its segment skipped. -/
theorem oneSided_pruned :
    (Expr.comparison "x" .gt (.int64 3)).sqlValue (oneColumn sevens).batch 0 = some true ∧
      (oneColumn sevens).shouldSkipSegmentForZoneMap
        (toZoneMapPredicateGroup storedOrder (.comparison "x" .gt (.int64 3))) = none ∧
      (Expr.comparison "x" .gt (.string "a")).sqlValue
        (oneColumn (.utf8 false [some [98]])).batch 0 = some true ∧
      (oneColumn (.utf8 false [some [98]])).shouldSkipSegmentForZoneMap
        (toZoneMapPredicateGroup storedOrder
          (.comparison "x" .gt (.string "a"))) = some true := by
  decide +kernel

end RockDuck
