import RockDuck.MergedStatistics

/-!
# Zone maps of segments

Every insert into a segment widens the bounds of the segment's columns by those
of the new rows.
-/

namespace RockDuck

open List

def computeFullStats (array : ArrowArray) : BlockColumnStats :=
  computeBlockStats array 0 array.length

/-- The statistics of a column. -/
structure ColumnStats where
  columnId : Int
  minValue : Option Bytes
  maxValue : Option Bytes
  nullCount : Int
  dataType : DataType

namespace ColumnStats

def fresh (columnId : Int) (dataType : DataType) : ColumnStats where
  columnId := columnId
  minValue := none
  maxValue := none
  nullCount := 0
  dataType := dataType

/-- Take in the statistics of another array. -/
def absorb (column : ColumnStats) (stats : BlockColumnStats) : ColumnStats :=
  { column with
    nullCount := column.nullCount + stats.nullCount.toNat
    minValue := stats.minBytes.elim column.minValue fun bytes =>
      some (column.minValue.elim bytes fun existing =>
        if byteLt bytes existing then bytes else existing)
    maxValue := stats.maxBytes.elim column.maxValue fun bytes =>
      some (column.maxValue.elim bytes fun existing =>
        if byteLt existing bytes then bytes else existing) }

section

variable (columnId : Int) (dataType : DataType) (stats : List BlockColumnStats)

lemma minValue_foldl_absorb : (stats.foldl absorb (fresh columnId dataType)).minValue =
      runningMin byteLt (stats.filterMap BlockColumnStats.minBytes) := by
  rw [runningMin, foldl_filterMap]
  refine (foldl_hom minValue fun column part => ?_).symm
  rw [absorb]
  cases part.minBytes <;> rfl

lemma maxValue_foldl_absorb : (stats.foldl absorb (fresh columnId dataType)).maxValue =
      runningMax byteLt (stats.filterMap BlockColumnStats.maxBytes) := by
  rw [runningMax, foldl_filterMap]
  refine (foldl_hom maxValue fun column part => ?_).symm
  rw [absorb]
  cases part.maxBytes <;> rfl

end

lemma dataType_foldl_absorb (column) (stats : List BlockColumnStats) :
    (stats.foldl absorb column).dataType = column.dataType := by
  induction stats generalizing column with
  | nil => rfl
  | cons part stats ih => exact ih (column.absorb part)

end ColumnStats

/-- The zone map of a segment. -/
structure ZoneMapStats where
  columns : List ColumnStats

namespace ZoneMapStats

def new : ZoneMapStats := ⟨[]⟩

def column (zoneMap : ZoneMapStats) (columnId : Int) : Option ColumnStats :=
  zoneMap.columns.find? (·.columnId = columnId)

/-- Update the first entry of the column, or add one. -/
def updateFirst (columnId : Int) (array : ArrowArray) : List ColumnStats → List ColumnStats
  | [] => [(ColumnStats.fresh columnId array.dataType).absorb (computeFullStats array)]
  | column :: columns =>
    if column.columnId = columnId then
      column.absorb (computeFullStats array) :: columns
    else column :: updateFirst columnId array columns

def updateCol (zoneMap : ZoneMapStats) (columnId : Int) (array : ArrowArray) : ZoneMapStats :=
  ⟨updateFirst columnId array zoneMap.columns⟩

/-- A value of the range may be in the column. -/
def mayOverlap (zoneMap : ZoneMapStats) (columnId : Int)
    (predicateMin predicateMax : Bytes) : Option Bool :=
  match zoneMap.column columnId with
  | none => some true
  | some column => do
      let below ← column.maxValue.elim (some false) (bytesLt · predicateMin column.dataType)
      if below then return false
      let above ← column.minValue.elim (some false) (bytesLt predicateMax · column.dataType)
      return !above

/-- The zone map after some updates. -/
def updateAll (calls : List (Int × ArrowArray)) : ZoneMapStats :=
  calls.foldl (fun zoneMap call => zoneMap.updateCol call.1 call.2) new

lemma column_updateCol (zoneMap : ZoneMapStats) (columnId other : Int) (array) :
    (zoneMap.updateCol columnId array).column other =
      if columnId = other then
        some (((zoneMap.column other).getD
          (.fresh other array.dataType)).absorb (computeFullStats array))
      else zoneMap.column other := by
  obtain ⟨cols⟩ := zoneMap
  simp only [column, updateCol]
  induction cols with
  | nil =>
    by_cases same : columnId = other <;>
      simp [updateFirst, same, ColumnStats.fresh, ColumnStats.absorb]
  | cons first cols ih =>
    rw [updateFirst]
    by_cases named : first.columnId = columnId
    · by_cases same : columnId = other <;>
        simp [named, same, ColumnStats.absorb]
    · rw [if_neg named]
      by_cases wanted : first.columnId = other
      · have ne : columnId ≠ other := fun same => named (wanted.trans same.symm)
        simp [wanted, ne]
      · simpa [wanted] using ih

end ZoneMapStats

def arraysOf (columnId : Int) (calls : List (Int × ArrowArray)) : List ArrowArray :=
  (calls.filter (·.1 = columnId)).map Prod.snd

lemma ZoneMapStats.column_foldl (columnId : Int)
    (calls : List (Int × ArrowArray)) (zoneMap : ZoneMapStats) :
    (calls.foldl (fun zoneMap call => zoneMap.updateCol call.1 call.2) zoneMap).column columnId =
      (arraysOf columnId calls).foldl (fun found array =>
        some ((found.getD (.fresh columnId array.dataType)).absorb
          (computeFullStats array))) (zoneMap.column columnId) := by
  induction calls generalizing zoneMap with
  | nil => rfl
  | cons call calls ih =>
    rw [foldl_cons, ih, column_updateCol]
    by_cases same : call.1 = columnId <;> simp [arraysOf, same]

lemma ZoneMapStats.column_updateAll {columnId : Int}
    {calls : List (Int × ArrowArray)} {first : ArrowArray} {arrays : List ArrowArray}
    (brought : arraysOf columnId calls = first :: arrays) : (updateAll calls).column columnId =
      some (((first :: arrays).map computeFullStats).foldl ColumnStats.absorb
        (.fresh columnId first.dataType)) := by
  rw [updateAll, column_foldl, brought, map_cons, foldl_cons, foldl_cons, foldl_map]
  exact foldl_hom some fun _ _ => rfl

section Bounds

variable {Value Place : Type*} [LinearOrder Place] {dtype : DataType} {lt : Value → Value → Bool}
    {encode : Value → Bytes} {place : Value → Place} {toArray : List (Option Value) → ArrowArray}

lemma ColumnEncoding.computeFullStats_eq (enc : ColumnEncoding dtype lt encode place toArray)
    (vals) : computeFullStats (toArray vals) = (toArray vals).blockStats := by
  rw [computeFullStats, computeBlockStats, enc.sliced, enc.length]
  simp

variable {arrays : List (List (Option Value))} {columnId : Int} {calls : List (Int × ArrowArray)}

/-- The segment's bounds of a column, as the typed bounds of each array compared
as bytes. -/
lemma ColumnEncoding.exists_column (enc : ColumnEncoding dtype lt encode place toArray)
    (ne : arrays ≠ []) (brought : arraysOf columnId calls = arrays.map toArray) :
    ∃ column, (ZoneMapStats.updateAll calls).column columnId = some column ∧
      column.dataType = dtype ∧
      column.minValue = runningMin byteLt ((arrays.map List.reduceOption).filterMap
        fun part => (runningMin lt part).map encode) ∧
      column.maxValue = runningMax byteLt ((arrays.map List.reduceOption).filterMap
        fun part => (runningMax lt part).map encode) := by
  cases arrays with
  | nil => simp at ne
  | cons first arrays =>
    refine ⟨_, ZoneMapStats.column_updateAll brought, ?_, ?_, ?_⟩
    · rw [ColumnStats.dataType_foldl_absorb, ColumnStats.fresh, enc.typed]
    · rw [ColumnStats.minValue_foldl_absorb, ← map_cons, map_map, filterMap_map, filterMap_map]
      refine congrArg _ (congrArg (List.filterMap · _) (funext fun vals => ?_))
      simp only [Function.comp_apply, enc.computeFullStats_eq]
      exact enc.minimum vals
    · rw [ColumnStats.maxValue_foldl_absorb, ← map_cons, map_map, filterMap_map, filterMap_map]
      refine congrArg _ (congrArg (List.filterMap · _) (funext fun vals => ?_))
      simp only [Function.comp_apply, enc.computeFullStats_eq]
      exact enc.maximum vals

lemma OrderedEncoding.place_le_of_encode_eq (enc : OrderedEncoding dtype lt encode place)
    (same : encode left = encode right) : place left ≤ place right := by
  have compared := enc.compares right left
  rw [same, enc.compares, Option.some_inj, enc.ordered, enc.ordered] at compared
  simpa using compared.symm

lemma ZoneMapStats.mayOverlap_eq_true_iff {zoneMap : ZoneMapStats} {column least greatest}
    (found : zoneMap.column columnId = some column)
    (isMin : column.minValue = some least) (isMax : column.maxValue = some greatest)
    (low high) : zoneMap.mayOverlap columnId low high = some true ↔
      bytesLt greatest low column.dataType = some false ∧
        bytesLt high least column.dataType = some false := by
  rw [mayOverlap, found]
  simp only [isMin, isMax, Option.elim_some]
  cases bytesLt greatest low column.dataType with
  | none => simp
  | some below => cases below <;> cases bytesLt high least column.dataType <;> simp

lemma ColumnEncoding.mayOverlap_iff (enc : ColumnEncoding dtype lt encode place toArray)
    (brought : arraysOf columnId calls = arrays.map toArray) :
    (∀ val, some val ∈ arrays.flatten → ∀ low high, lt val low = false → lt high val = false
      → (ZoneMapStats.updateAll calls).mayOverlap columnId (encode low) (encode high) = some true) ↔
      BoundsInByteOrder lt encode (arrays.map List.reduceOption) := by
  have stored : ∀ val, some val ∈ arrays.flatten ↔
      val ∈ (arrays.map List.reduceOption).flatten := by
    simp [reduceOption_mem_iff]
  simp only [stored]
  by_cases empty : (arrays.map List.reduceOption).flatten = []
  · simp [BoundsInByteOrder, empty, LeastOf, GreatestOf]
  have ne : arrays ≠ [] := by
    rintro rfl
    simp at empty
  obtain ⟨column, found, isTyped, isMin, isMax⟩ := enc.exists_column ne brought
  obtain ⟨lowest, lowestMember, isLowest⟩ := exists_runningMin_encoded encode
    enc.ordered byteLt_ordered empty
  obtain ⟨highest, highestMember, isHighest⟩ := exists_runningMax_encoded encode
    enc.ordered byteLt_ordered empty
  obtain ⟨least, greatest, isLeast, isGreatest, -⟩ := exists_extremes lt empty
  obtain ⟨leastMember, leastBound⟩ := runningMin_bound (fun a _ b _ => enc.ordered a b) isLeast
  obtain ⟨greatestMember, greatestBound⟩ :=
    runningMax_bound (fun a _ b _ => enc.ordered a b) isGreatest
  have overlaps : ∀ low high, (ZoneMapStats.updateAll calls).mayOverlap columnId
      (encode low) (encode high) = some true ↔
        place low ≤ place highest ∧ place lowest ≤ place high := by
    intro low high
    rw [ZoneMapStats.mayOverlap_eq_true_iff found (isMin.trans isLowest)
      (isMax.trans isHighest), isTyped, enc.compares, enc.compares]
    simp [enc.ordered]
  rw [BoundsInByteOrder, ← runningMin_encoded_iff enc.ordered byteLt_ordered
    byteOrder_injective enc.encodes, ← runningMax_encoded_iff enc.ordered byteLt_ordered
    byteOrder_injective enc.encodes, isLowest, isHighest, isLeast, isGreatest]
  simp only [overlaps, enc.ordered, decide_eq_false_iff_not, not_lt,
    Option.map_some, Option.some_inj]
  constructor
  · intro all
    have below := (all least leastMember least least le_rfl le_rfl).2
    have above := (all greatest greatestMember greatest greatest le_rfl le_rfl).1
    exact ⟨enc.encodes _ _ (le_antisymm below (leastBound lowest lowestMember)),
      enc.encodes _ _ (le_antisymm (greatestBound highest highestMember) above)⟩
  · rintro ⟨sameMin, sameMax⟩ val mem low high aboveLow belowHigh
    have lowestLe : place lowest ≤ place least := enc.place_le_of_encode_eq sameMin
    have greatestLe : place greatest ≤ place highest := enc.place_le_of_encode_eq sameMax.symm
    exact ⟨(aboveLow.trans (greatestBound val mem)).trans greatestLe,
      (lowestLe.trans (leastBound val mem)).trans belowHigh⟩

end Bounds

namespace ZoneMapStats

/-- When no range around a stored value is excluded.  The arrays of an integer
column must have bounds in the order of their bytes; a column of strings needs
nothing. -/
theorem mayOverlap_stored_iff (columnId : Int) (calls : List (Int × ArrowArray)) :
    (∀ (type : IntegerType) (arrays : List (List (Option Nat))),
      arraysOf columnId calls = arrays.map (.integer type) →
        ((∀ value, some value ∈ arrays.flatten → ∀ low high,
          type.lt value low = false → type.lt high value = false →
            (updateAll calls).mayOverlap columnId (leBytes type.width low)
              (leBytes type.width high) = some true) ↔
          BoundsInByteOrder type.lt (leBytes type.width) (arrays.map List.reduceOption))) ∧
    ∀ (large : Bool) (arrays : List (List (Option Bytes))),
      arraysOf columnId calls = arrays.map (.utf8 large) →
        ∀ value, some value ∈ arrays.flatten → ∀ low high,
          byteLt value low = false → byteLt high value = false →
            (updateAll calls).mayOverlap columnId low high = some true := by
  constructor
  · intro type arrays brought
    exact (columnEncoding_integer type).mayOverlap_iff brought
  · intro large arrays brought
    exact ((columnEncoding_utf8 large).mayOverlap_iff brought).mpr (boundsInByteOrder_text _)

/-- Two inserts of one row into two columns. -/
def smallInserts : List (Int × ArrowArray) :=
  [(0, .integer .int64 [some 1]), (1, .utf8 false [some [98]]),
    (0, .integer .int64 [some 2]), (1, .utf8 false [some [97]])]

theorem smallInserts_overlap : (updateAll smallInserts).mayOverlap 0 (leBytes 8 1) (leBytes 8 1) =
        some true ∧ (updateAll smallInserts).mayOverlap 1 [98] [99] = some true := by
  have inOrder : BoundsInByteOrder IntegerType.int64.lt (leBytes 8) [[1], [2]] := by
    constructor <;>
      simp [LeastOf, GreatestOf] <;> decide
  constructor
  · exact ((mayOverlap_stored_iff 0 smallInserts).1 .int64 [[some 1], [some 2]]
      rfl).mpr inOrder 1 (by decide) 1 1 (by decide) (by decide)
  · exact (mayOverlap_stored_iff 1 smallInserts).2 false
      [[some [98]], [some [97]]] rfl [98] (by decide) [98] [99] (by decide)
      (by decide)

/-- The bytes of `256` come before those of `1`. -/
def crossingInserts : List (Int × ArrowArray) :=
  [(0, .integer .int64 [some 1]), (0, .integer .int64 [some 256])]

theorem crossingInserts_exclude_one : arraysOf 0 crossingInserts =
        [[some 1], [some 256]].map (.integer .int64) ∧ some 1 ∈ [[some 1], [some 256]].flatten ∧
      IntegerType.int64.lt 1 1 = false ∧
      (updateAll crossingInserts).mayOverlap 0 (leBytes 8 1) (leBytes 8 1) = some false := by
  refine ⟨rfl, by decide, by decide, by decide⟩

end ZoneMapStats

end RockDuck
