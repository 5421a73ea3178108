import RockDuck.BlockZoneMap

/-!
# Merging the statistics of parts of a column

The statistics of a column may be put together from those of its slices.
-/

namespace RockDuck

open List

lemma IntegerType.leBytes_eq_of_value_eq {type : IntegerType}
    (same : type.value left = type.value right) :
    leBytes type.width left = leBytes type.width right := by
  have pos : 0 < 256 ^ type.width := Nat.pow_pos (by decide)
  have residues : left % 256 ^ type.width = right % 256 ^ type.width := by
    have leftBound := Nat.mod_lt left pos
    have rightBound := Nat.mod_lt right pos
    have modulus : (256 : Int) ^ type.width = (256 ^ type.width : Nat) := by
      push_cast
      rfl
    simp only [value, modulus] at same
    generalize 256 ^ type.width = size at *
    split at same <;> split at same <;> omega
  rw [← leBytes_mod, residues, leBytes_mod]

lemma byteOrder_injective : Function.Injective byteOrder :=
  map_injective_iff.mpr fun _ _ => UInt8.toNat_inj.mp

lemma byteLt_ordered (left right) : byteLt left right = @decide (byteOrder left < byteOrder right)
      (LinearOrder.toDecidableLT _ _) := by
  simp [byteLt]

/-- The order of the encoded values is that of the values. -/
structure OrderedEncoding {Value Place : Type*} [LinearOrder Place]
    (dtype : DataType) (lt : Value → Value → Bool) (encode : Value → Bytes)
    (place : Value → Place) : Prop where
  ordered : ∀ left right, lt left right = decide (place left < place right)
  compares : ∀ left right,
    bytesLt (encode left) (encode right) dtype = some (lt left right)
  encodes : ∀ left right, place left = place right →
    encode left = encode right

variable (type : IntegerType)

lemma orderedEncoding_integer :
    OrderedEncoding (.integer type) type.lt (leBytes type.width) type.value where
  ordered _ _ := rfl
  compares left right := by simp [bytesLt, IntegerType.lt]
  encodes _ _ same := IntegerType.leBytes_eq_of_value_eq same

lemma orderedEncoding_text : OrderedEncoding .bytes byteLt id byteOrder where
  ordered := byteLt_ordered
  compares _ _ := rfl
  encodes _ _ same := byteOrder_injective same

structure ColumnEncoding {Value Place : Type*} [LinearOrder Place]
    (dtype : DataType) (lt : Value → Value → Bool) (encode : Value → Bytes)
    (place : Value → Place) (toArray : List (Option Value) → ArrowArray) : Prop
    extends OrderedEncoding dtype lt encode place where
  typed : ∀ values, (toArray values).dataType = dtype
  length : ∀ values, (toArray values).length = values.length
  sliced : ∀ values offset len,
    (toArray values).slice offset len = toArray ((values.drop offset).take len)
  minimum : ∀ values, (toArray values).blockStats.minBytes =
    (runningMin lt values.reduceOption).map encode
  maximum : ∀ values, (toArray values).blockStats.maxBytes =
    (runningMax lt values.reduceOption).map encode

lemma columnEncoding_integer :
    ColumnEncoding (.integer type) type.lt (leBytes type.width) type.value (.integer type) where
  toOrderedEncoding := orderedEncoding_integer type
  typed _ := rfl
  length _ := rfl
  sliced _ _ _ := rfl
  minimum _ := rfl
  maximum _ := rfl

lemma columnEncoding_utf8 (large : Bool) :
    ColumnEncoding .bytes byteLt id byteOrder (.utf8 large) where
  toOrderedEncoding := orderedEncoding_text
  typed _ := rfl
  length _ := rfl
  sliced _ _ _ := rfl
  minimum _ := rfl
  maximum _ := rfl

/-- No part has a minimum whose bytes come before those of the minimum of all
values, and none a maximum whose bytes come after. -/
def BoundsInByteOrder {Value : Type*} (lt : Value → Value → Bool)
    (encode : Value → Bytes) (parts : List (List Value)) : Prop :=
  (∀ part ∈ parts, ∀ least, LeastOf lt part least → ∀ whole, LeastOf lt parts.flatten whole →
      byteLt (encode least) (encode whole) = false) ∧
  ∀ part ∈ parts, ∀ greatest, GreatestOf lt part greatest →
    ∀ whole, GreatestOf lt parts.flatten whole →
      byteLt (encode whole) (encode greatest) = false

lemma boundsInByteOrder_text (parts) : BoundsInByteOrder byteLt id parts := by
  constructor
  · intro part mem least isLeast whole isWhole
    exact isWhole.2 least (mem_flatten.mpr ⟨part, mem, isLeast.1⟩)
  · intro part mem greatest isGreatest whole isWhole
    exact isWhole.2 greatest (mem_flatten.mpr ⟨part, mem, isGreatest.1⟩)

namespace BlockColumnStats

/-- Merge the statistics of some blocks. -/
def mergeAll (stats : List BlockColumnStats) : BlockColumnStats :=
  stats.foldl mergeWith empty

variable (stats : List BlockColumnStats)

lemma minBytes_mergeAll : (mergeAll stats).minBytes =
      runningMin byteLt (stats.filterMap minBytes) := by
  rw [runningMin, foldl_filterMap, mergeAll]
  refine (foldl_hom minBytes fun merged other => ?_).symm
  rw [mergeWith]
  cases other.minBytes with
  | none => rfl
  | some val =>
    cases merged.minBytes with
    | none => rfl
    | some least => cases smaller : byteLt val least <;> simp [smaller]

lemma maxBytes_mergeAll : (mergeAll stats).maxBytes =
      runningMax byteLt (stats.filterMap maxBytes) := by
  rw [runningMax, foldl_filterMap, mergeAll]
  refine (foldl_hom maxBytes fun merged other => ?_).symm
  rw [mergeWith]
  cases other.maxBytes with
  | none => rfl
  | some val =>
    cases merged.maxBytes with
    | none => rfl
    | some greatest => cases larger : byteLt greatest val <;> simp [larger]

lemma nullCount_mergeAll {Part stats count}
    (counts : ∀ part, (stats part).nullCount = .ofNat (count part)) (parts : List Part) :
    (mergeAll (parts.map stats)).nullCount = .ofNat (parts.map count).sum := by
  suffices all : ∀ start : BlockColumnStats,
      ((parts.map stats).foldl mergeWith start).nullCount =
        start.nullCount + .ofNat (parts.map count).sum by
    rw [mergeAll, all]
    simp [empty]
  induction parts with
  | nil => simp
  | cons first parts ih =>
    intro start
    simp [ih, mergeWith, counts, UInt32.ofNat_add, add_assoc]

end BlockColumnStats

/-- The statistics of the slices of an array. -/
def sliceStats (array : ArrowArray) (offset : Nat) : List Nat → List BlockColumnStats
  | [] => []
  | len :: lens => computeBlockStats array offset len :: sliceStats array (offset + len) lens

section Parts

variable {Value Place : Type*} [LinearOrder Place] {dtype : DataType} {lt : Value → Value → Bool}
    {encode : Value → Bytes} {place : Value → Place} {toArray : List (Option Value) → ArrowArray}

lemma ColumnEncoding.sliceStats_eq_map (enc : ColumnEncoding dtype lt encode place toArray)
    (old) (parts : List (List (Option Value))) :
    sliceStats (toArray (old ++ parts.flatten)) old.length (parts.map List.length) =
      parts.map fun part => (toArray part).blockStats := by
  induction parts generalizing old with
  | nil => rfl
  | cons part parts ih =>
    have whole := ih (old ++ part)
    rw [length_append, append_assoc] at whole
    rw [map_cons, map_cons, sliceStats, flatten_cons, whole, computeBlockStats, enc.sliced]
    simp

/-- The statistics are exact for the column. -/
structure ExactStats {Value : Type*} (lt : Value → Value → Bool)
    (encode : Value → Bytes) (column : List (Option Value))
    (stats : BlockColumnStats) : Prop where
  minBytes : ∀ bytes, stats.minBytes = some bytes ↔
    ∃ least, LeastOf lt column.reduceOption least ∧ encode least = bytes
  maxBytes : ∀ bytes, stats.maxBytes = some bytes ↔
    ∃ greatest, GreatestOf lt column.reduceOption greatest ∧
      encode greatest = bytes
  nullCount : stats.nullCount.toNat = column.countP Option.isNone

lemma OrderedEncoding.exactStats_iff (enc : OrderedEncoding dtype lt encode place) :
    ExactStats lt encode col stats ↔ stats.minBytes = (runningMin lt col.reduceOption).map encode ∧
      stats.maxBytes = (runningMax lt col.reduceOption).map encode ∧
      stats.nullCount.toNat = col.countP Option.isNone := by
  constructor
  · intro exact
    refine ⟨Option.ext fun bytes => ?_, Option.ext fun bytes => ?_,
      exact.nullCount⟩
    · exact (exact.minBytes bytes).trans (map_runningMin_eq_some_iff enc.ordered enc.encodes).symm
    · exact (exact.maxBytes bytes).trans (map_runningMax_eq_some_iff enc.ordered enc.encodes).symm
  · rintro ⟨isMin, isMax, isCount⟩
    refine ⟨fun bytes => ?_, fun bytes => ?_, isCount⟩
    · rw [isMin, map_runningMin_eq_some_iff enc.ordered enc.encodes]
    · rw [isMax, map_runningMax_eq_some_iff enc.ordered enc.encodes]

lemma sum_eq_sum_iff {Part : Type*} {count held : Part → Nat}
    (atMost : ∀ part, count part ≤ held part) (parts : List Part) :
    (parts.map count).sum = (parts.map held).sum ↔ ∀ part ∈ parts, count part = held part := by
  induction parts with
  | nil => simp
  | cons part parts ih =>
    have first := atMost part
    have rest : (parts.map count).sum ≤ (parts.map held).sum :=
      sum_le_sum fun part _ => atMost part
    rw [forall_mem_cons, ← ih, map_cons, map_cons, sum_cons, sum_cons]
    omega

lemma OrderedEncoding.exactStats_mergeAll_iff (enc : OrderedEncoding dtype lt encode place)
    {count : List (Option Value) → Nat} (atMost : ∀ part, count part ≤ part.countP Option.isNone)
    (parts : List (List (Option Value))) : ExactStats lt encode parts.flatten
        (.mergeAll (parts.map fun part =>
          .ofValues lt encode part.reduceOption (.ofNat (count part)))) ↔
      BoundsInByteOrder lt encode (parts.map List.reduceOption) ∧
      (∀ part ∈ parts, count part = part.countP Option.isNone) ∧
      parts.flatten.countP Option.isNone < 2 ^ 32 := by
  have flat : parts.flatten.reduceOption = (parts.map List.reduceOption).flatten := by
    rw [List.reduceOption, filterMap_flatten]
  have nulls : parts.flatten.countP Option.isNone =
      (parts.map (List.countP Option.isNone)).sum := by
    rw [countP_flatten]
  have total : (parts.map count).sum ≤ (parts.map (List.countP Option.isNone)).sum :=
    sum_le_sum fun part _ => atMost part
  have allCounted : (parts.map count).sum =
      (parts.map (List.countP Option.isNone)).sum ↔
        ∀ part ∈ parts, count part = part.countP Option.isNone :=
    sum_eq_sum_iff atMost parts
  have minima := runningMin_encoded_iff enc.ordered byteLt_ordered
    byteOrder_injective enc.encodes (parts.map List.reduceOption)
  have maxima := runningMax_encoded_iff enc.ordered byteLt_ordered
    byteOrder_injective enc.encodes (parts.map List.reduceOption)
  have counts : ∀ part : List (Option Value),
      (BlockColumnStats.ofValues lt encode part.reduceOption
        (.ofNat (count part))).nullCount = .ofNat (count part) :=
    fun _ => rfl
  rw [enc.exactStats_iff, BlockColumnStats.minBytes_mergeAll,
    BlockColumnStats.maxBytes_mergeAll, BlockColumnStats.nullCount_mergeAll counts, flat, nulls, ←
    allCounted, BoundsInByteOrder, ← minima, ← maxima, and_assoc]
  simp only [filterMap_map, Function.comp_def, BlockColumnStats.ofValues, UInt32.toNat_ofNat']
  refine and_congr_right fun _ => and_congr_right fun _ => ?_
  omega

end Parts

def countedNulls {Value : Type*} (values : List (Option Value)) : Nat :=
  if values.reduceOption.isEmpty then 0 else values.countP Option.isNone

lemma countedNulls_le (vals : List (Option Value)) :
    countedNulls vals ≤ vals.countP Option.isNone := by
  unfold countedNulls
  split <;> simp

lemma countedNulls_eq_iff {Value : Type*} {vals : List (Option Value)} :
    countedNulls vals = vals.countP Option.isNone ↔ (vals.reduceOption = [] → vals = []) := by
  unfold countedNulls
  cases vals with
  | nil => simp
  | cons first vals => cases first <;> simp [List.reduceOption]

lemma blockStats_integer (vals) : (ArrowArray.integer type vals).blockStats =
      .ofValues type.lt (leBytes type.width) vals.reduceOption (.ofNat (countedNulls vals)) := by
  rw [ArrowArray.blockStats, countedNulls, apply_ite UInt32.ofNat]
  rfl

namespace BlockColumnStats

/-- When the merged statistics of consecutive slices are those of the column.
Integers need slices whose bounds are in the order of their bytes, and none of
nothing but nulls; strings need no more than a counter that does not wrap. -/
theorem mergeAll_exact_iff (type : IntegerType) (parts : List (List (Option Nat))) (large : Bool)
    (texts : List (List (Option Bytes))) : (ExactStats type.lt (leBytes type.width) parts.flatten
          (mergeAll (sliceStats (.integer type parts.flatten) 0 (parts.map List.length))) ↔
        BoundsInByteOrder type.lt (leBytes type.width) (parts.map List.reduceOption) ∧
          (∀ part ∈ parts, part.reduceOption = [] → part = []) ∧
          parts.flatten.countP Option.isNone < 2 ^ 32) ∧ (ExactStats byteLt id texts.flatten
          (mergeAll (sliceStats (.utf8 large texts.flatten) 0 (texts.map List.length))) ↔
        texts.flatten.countP Option.isNone < 2 ^ 32) := by
  constructor
  · have slices := (columnEncoding_integer type).sliceStats_eq_map [] parts
    have merged := (orderedEncoding_integer type).exactStats_mergeAll_iff countedNulls_le parts
    simp only [countedNulls_eq_iff, ← blockStats_integer] at merged
    rw [← merged, ← slices]
    rfl
  · have slices := (columnEncoding_utf8 large).sliceStats_eq_map [] texts
    have merged := orderedEncoding_text.exactStats_mergeAll_iff
      (fun part => le_refl (part.countP Option.isNone)) texts
    rw [and_iff_right (boundsInByteOrder_text _), and_iff_right fun _ _ => rfl] at merged
    rw [← merged]
    exact Iff.of_eq (congrArg _ (congrArg mergeAll slices))

/-- The bytes of `256` come before those of `1`, and a slice of one null has no
nulls. -/
theorem splitColumns_not_exact : ¬ExactStats IntegerType.int64.lt (leBytes 8) [some 1, some 256]
        (mergeAll (sliceStats (.integer .int64 [some 1, some 256]) 0 [1, 1])) ∧
    ¬ExactStats IntegerType.int64.lt (leBytes 8) [none, some 5]
        (mergeAll (sliceStats (.integer .int64 [none, some 5]) 0 [1, 1])) := by
  constructor
  · exact mt (orderedEncoding_integer .int64).exactStats_iff.mp (by decide)
  · exact mt (orderedEncoding_integer .int64).exactStats_iff.mp (by decide)

end BlockColumnStats

end RockDuck
