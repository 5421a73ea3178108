import RockDuck.MergedStatistics

/-!
# The blocks of a column

Batches are appended to the index of a column one after the other.
-/

namespace RockDuck

open BlockZoneMapBuilder List

/-- Blocks from one row to another without a gap, none of them empty or larger
than the block size. -/
inductive Tiles : Nat → Nat → List BlockStats → Prop where
  | nil (row : Nat) : Tiles row row []
  | cons {start stop : Nat} {block : BlockStats} {blocks : List BlockStats}
      (starts : block.rowStart.toNat = start)
      (nonempty : start < block.rowEnd.toNat)
      (small : block.rowEnd.toNat ≤ start + blockSize)
      (rest : Tiles block.rowEnd.toNat stop blocks) :
      Tiles start stop (block :: blocks)

lemma Tiles.append (first : Tiles start middle old) (second : Tiles middle stop later) :
    Tiles start stop (old ++ later) := by
  induction first with
  | nil => exact second
  | cons starts ne small _ ih => exact .cons starts ne small (ih second)

section Columns

variable {Value : Type*}

/-- The bounds of a block hold for its rows. -/
def BoundsRows (lt : Value → Value → Bool) (encode : Value → Bytes)
    (column : List (Option Value)) (block : BlockStats) : Prop :=
  ∀ row, block.rowStart.toNat ≤ row → row < block.rowEnd.toNat →
    ∀ value, column[row]? = some (some value) →
      ∃ least greatest, block.minBytes = some (encode least) ∧
        block.maxBytes = some (encode greatest) ∧
        lt value least = false ∧ lt greatest value = false

/-- The blocks of an index follow each other over the whole column and bound it. -/
structure TilesColumn (lt : Value → Value → Bool) (encode : Value → Bytes)
    (column : List (Option Value)) (index : GranuleZoneMapIndex) : Prop where
  tiles : Tiles 0 column.length index.granules.flatten
  granules : ∀ granule ∈ index.granules, granule.length ≤ granuleSize
  bounds : ∀ block ∈ index.granules.flatten, BoundsRows lt encode column block

variable {Place : Type*} [LinearOrder Place] {dtype : DataType} {lt : Value → Value → Bool}
    {encode : Value → Bytes} {place : Value → Place} {toArray : List (Option Value) → ArrowArray}

section

variable (enc : ColumnEncoding dtype lt encode place toArray) {vals : List (Option Value)}
include enc

lemma ColumnEncoding.boundsRows_blockOf {rowStart : UInt32}
    (agrees : ∀ row < vals.length, col[base + row]? = vals[row]?)
    (starts : rowStart.toNat = base + consumed) (inside : consumed + rows ≤ vals.length)
    (ends : (rowStart + .ofNat rows).toNat = base + consumed + rows) : BoundsRows lt encode col
      ((toArray vals).blockOf rowStart consumed rows) := by
  intro row atLeast below val held
  simp only [ArrowArray.blockOf, starts, ends] at atLeast below
  obtain ⟨off, rfl⟩ := Nat.exists_eq_add_of_le atLeast
  have mem : val ∈ ((vals.drop consumed).take rows).reduceOption := by
    rw [reduceOption_mem_iff]
    refine mem_of_getElem? (i := off) ?_
    rw [getElem?_take_of_lt (by omega), getElem?_drop, ← agrees _ (by omega), ← Nat.add_assoc, held]
  obtain ⟨least, greatest, isLeast, isGreatest, -⟩ := exists_extremes lt (ne_nil_of_mem mem)
  have notBelow := (runningMin_bound (fun a _ b _ => enc.ordered a b) isLeast).2 val mem
  have notAbove := (runningMax_bound (fun a _ b _ => enc.ordered a b) isGreatest).2 val mem
  refine ⟨least, greatest, ?_, ?_, ?_, ?_⟩
  · simp [ArrowArray.blockOf, computeBlockStats, enc.sliced, enc.minimum, isLeast]
  · simp [ArrowArray.blockOf, computeBlockStats, enc.sliced, enc.maximum, isGreatest]
  · simpa [enc.ordered] using notBelow
  · simpa [enc.ordered] using notAbove

lemma ColumnEncoding.tiles_blocksFrom {rowStart : UInt32}
    (agrees : ∀ row < vals.length, col[base + row]? = vals[row]?)
    (starts : rowStart.toNat = base + consumed) (mem : consumed ≤ vals.length)
    (fits : base + vals.length < 2 ^ 32) : Tiles (base + consumed) (base + vals.length)
        ((toArray vals).blocksFrom rowStart consumed) ∧
      ∀ block ∈ (toArray vals).blocksFrom rowStart consumed, BoundsRows lt encode col block := by
  generalize size : vals.length - consumed = rest
  induction rest using Nat.strong_induction_on generalizing rowStart consumed with
  | _ rest ih =>
    by_cases done : vals.length ≤ consumed
    · obtain rfl : consumed = vals.length := by omega
      rw [ArrowArray.blocksFrom_of_length_le (by rw [enc.length])]
      exact ⟨.nil _, by simp⟩
    rw [ArrowArray.blocksFrom_of_lt (by rw [enc.length]; omega), enc.length, forall_mem_cons]
    generalize rowsEq : min (vals.length - consumed) blockSize = rows
    have pos : 0 < rows := by
      simp only [blockSize] at rowsEq
      omega
    have ends : (rowStart + .ofNat rows).toNat = base + consumed + rows := by
      rw [UInt32.toNat_add, UInt32.toNat_ofNat', starts]
      omega
    have bounds := enc.boundsRows_blockOf agrees starts (by omega) ends
    have laterTiles : Tiles (base + consumed + rows) (base + vals.length)
          ((toArray vals).blocksFrom (rowStart + .ofNat blockSize) (consumed + blockSize)) ∧
        ∀ block ∈ (toArray vals).blocksFrom (rowStart + .ofNat blockSize)
          (consumed + blockSize), BoundsRows lt encode col block := by
      by_cases last : vals.length ≤ consumed + blockSize
      · have allRows : base + consumed + rows = base + vals.length := by omega
        rw [ArrowArray.blocksFrom_of_length_le (by rwa [enc.length]), allRows]
        exact ⟨.nil _, by simp⟩
      · obtain rfl : rows = blockSize := by omega
        rw [Nat.add_assoc]
        exact ih _ (by omega) (by rw [ends, Nat.add_assoc]) (by omega) rfl
    refine ⟨.cons starts ?_ ?_ ?_, bounds, laterTiles.2⟩
    · simp only [ArrowArray.blockOf, ends]
      omega
    · simp only [ArrowArray.blockOf, ends]
      omega
    · simp only [ArrowArray.blockOf, ends]
      exact laterTiles.1

end

/-- The blocks of some arrays, one each. -/
def blocksOf (toArray : List (Option Value) → ArrowArray) :
    UInt32 → List (List (Option Value)) → List BlockStats
  | _, [] => []
  | rowStart, values :: arrays =>
    (toArray values).blocksFrom rowStart 0 ++
      blocksOf toArray (rowStart + .ofNat values.length) arrays

lemma ColumnEncoding.tiles_blocksOf (enc : ColumnEncoding dtype lt encode place toArray)
    {rowStart : UInt32} (old : List (Option Value)) (arrays : List (List (Option Value)))
    (starts : rowStart.toNat = old.length) (fits : (old ++ arrays.flatten).length < 2 ^ 32)
    : Tiles old.length (old ++ arrays.flatten).length (blocksOf toArray rowStart arrays) ∧
      ∀ block ∈ blocksOf toArray rowStart arrays,
        BoundsRows lt encode (old ++ arrays.flatten) block := by
  induction arrays generalizing rowStart old with
  | nil =>
    simp only [blocksOf, flatten_nil, append_nil]
    exact ⟨.nil _, by simp⟩
  | cons vals arrays ih =>
    have whole : old ++ (vals :: arrays).flatten = (old ++ vals) ++ arrays.flatten := by simp
    rw [whole] at fits ⊢
    have room : old.length + vals.length < 2 ^ 32 := by
      simp only [length_append] at fits
      omega
    have agrees : ∀ row < vals.length,
        ((old ++ vals) ++ arrays.flatten)[old.length + row]? =
          vals[row]? := by
      intro row mem
      rw [getElem?_append_left (by simpa using mem),
        getElem?_append_right (by omega), Nat.add_sub_cancel_left]
    have fromStart : rowStart.toNat = old.length + 0 := starts
    obtain ⟨tiles, bounds⟩ := enc.tiles_blocksFrom agrees fromStart (Nat.zero_le _) room
    have next : (rowStart + .ofNat vals.length).toNat = (old ++ vals).length := by
      rw [UInt32.toNat_add, UInt32.toNat_ofNat', starts, length_append]
      omega
    obtain ⟨laterTiles, laterBounds⟩ := ih (old ++ vals) next fits
    rw [blocksOf]
    refine ⟨?_, forall_mem_append.mpr ⟨bounds, laterBounds⟩⟩
    rw [← length_append] at tiles
    exact tiles.append laterTiles

end Columns

namespace BlockZoneMapBuilder

/-- The granules are not too large, and the one that is being filled has at most
as many blocks as the limit says. -/
structure GranulesFit (limit : Nat) (builder : BlockZoneMapBuilder) : Prop where
  counted : builder.blocksInGranule = builder.currentGranule.length
  current : builder.currentGranule.length ≤ limit
  completed : ∀ granule ∈ builder.completedGranules,
    granule.length ≤ granuleSize

namespace GranulesFit

variable {builder : BlockZoneMapBuilder}

lemma mono (fit : GranulesFit limit builder) (more : limit ≤ larger) : GranulesFit larger builder :=
  ⟨fit.counted, fit.current.trans more, fit.completed⟩

lemma flushBlock (fit : GranulesFit limit builder) :
    GranulesFit (limit + 1) builder.flushBlock := by
  unfold BlockZoneMapBuilder.flushBlock
  split
  · exact fit.mono (Nat.le_succ limit)
  · exact ⟨by simp [fit.counted], by simpa using fit.current, fit.completed⟩

lemma flushGranule (fit : GranulesFit granuleSize builder) :
    GranulesFit 0 builder.flushGranule := by
  unfold BlockZoneMapBuilder.flushGranule
  split
  case isTrue empty => exact ⟨fit.counted, by simp [empty], fit.completed⟩
  case isFalse =>
      refine ⟨rfl, le_rfl, forall_mem_append.mpr ⟨fit.completed, ?_⟩⟩
      simpa using fit.current

lemma closeBlock (fit : GranulesFit (granuleSize - 1) builder) :
    GranulesFit (granuleSize - 1) builder.closeBlock := by
  unfold BlockZoneMapBuilder.closeBlock
  split
  · exact fit.flushBlock.flushGranule.mono (Nat.zero_le _)
  case isFalse small =>
      rw [fit.flushBlock.counted] at small
      exact ⟨fit.flushBlock.counted, by omega, fit.flushBlock.completed⟩

lemma appendRows (array) (fuel : Nat)
    (fit : GranulesFit (granuleSize - 1) builder) : GranulesFit (granuleSize - 1)
      (BlockZoneMapBuilder.appendRows array fuel builder consumed) := by
  induction fuel generalizing builder consumed with
  | zero => exact fit
  | succ fuel ih =>
    have ready : GranulesFit (granuleSize - 1)
        (if builder.isFull then builder.closeBlock else builder) := by
      split
      · exact fit.closeBlock
      · exact fit
    rw [BlockZoneMapBuilder.appendRows]
    split
    · exact fit
    · generalize (if builder.isFull then builder.closeBlock
        else builder) = closed at ready
      dsimp only
      split
      · refine ih (GranulesFit.closeBlock ?_)
        exact ⟨ready.counted, ready.current, ready.completed⟩
      · exact ih ⟨ready.counted, ready.current, ready.completed⟩

lemma appendBatch (array) (fit : GranulesFit (granuleSize - 1) builder) :
    GranulesFit (granuleSize - 1) (builder.appendBatch array) :=
  (fit.appendRows array array.length).flushBlock.flushGranule.mono
    (Nat.zero_le _)

end GranulesFit

def appendAll (builder : BlockZoneMapBuilder) (batches : List ArrowArray) : BlockZoneMapBuilder :=
  batches.foldl appendBatch builder

variable {Value Place : Type*} [LinearOrder Place] {dtype : DataType} {lt : Value → Value → Bool}
    {encode : Value → Bytes} {place : Value → Place} {toArray : List (Option Value) → ArrowArray}

lemma appendAll_appends (enc : ColumnEncoding dtype lt encode place toArray)
    {builder : BlockZoneMapBuilder} (clean : builder.Clean)
    (fit : GranulesFit (granuleSize - 1) builder) (arrays : List (List (Option Value))) :
    (builder.appendAll (arrays.map toArray)).emitted =
        builder.emitted ++ blocksOf toArray builder.blocksFlushedRows arrays ∧
      (builder.appendAll (arrays.map toArray)).Clean ∧ GranulesFit (granuleSize - 1)
        (builder.appendAll (arrays.map toArray)) := by
  induction arrays generalizing builder with
  | nil => exact ⟨by simp [appendAll, blocksOf], clean, fit⟩
  | cons vals arrays ih =>
    obtain ⟨blocks, rows, stillClean⟩ := appendBatch_appends (toArray vals) clean
    have rest := ih stillClean (fit.appendBatch (toArray vals))
    rw [blocks, rows, enc.length, append_assoc] at rest
    exact rest

lemma tilesColumn_finalize (enc : ColumnEncoding dtype lt encode place toArray)
    (arrays : List (List (Option Value))) (fits : arrays.flatten.length < 2 ^ 32) :
    TilesColumn lt encode arrays.flatten ((new dtype).appendAll (arrays.map toArray)).finalize := by
  have clean : (new dtype).Clean := ⟨rfl, rfl, rfl⟩
  have fit : GranulesFit (granuleSize - 1) (new dtype) := ⟨rfl, by simp [new], by simp [new]⟩
  obtain ⟨blocks, stillClean, stillFit⟩ := appendAll_appends enc clean fit arrays
  have allBlocks : ((new dtype).appendAll (arrays.map toArray)).finalize.granules.flatten =
        blocksOf toArray 0 arrays :=
    (finalize_flatten stillClean).trans blocks
  have starts : (0 : UInt32).toNat = ([] : List (Option Value)).length := rfl
  obtain ⟨tiles, bounds⟩ := enc.tiles_blocksOf [] arrays starts fits
  exact ⟨allBlocks ▸ tiles, stillFit.flushBlock.flushGranule.completed, allBlocks ▸ bounds⟩

/-- The index of an integer column or of a column of strings tiles the column,
whatever the batches are. -/
theorem finalize_tilesColumn :
    (∀ (type : IntegerType) (arrays : List (List (Option Nat))),
      arrays.flatten.length < 2 ^ 32 →
        TilesColumn type.lt (leBytes type.width) arrays.flatten
          ((new (.integer type)).appendAll (arrays.map (.integer type))).finalize) ∧
    ∀ (large : Bool) (arrays : List (List (Option Bytes))),
      arrays.flatten.length < 2 ^ 32 →
        TilesColumn byteLt id arrays.flatten
          ((new .bytes).appendAll (arrays.map (.utf8 large))).finalize := by
  constructor
  · intro type arrays fits
    exact tilesColumn_finalize (columnEncoding_integer type) arrays fits
  · intro large arrays fits
    exact tilesColumn_finalize (columnEncoding_utf8 large) arrays fits

theorem shortColumns_tiled : TilesColumn IntegerType.int64.lt (leBytes 8) [some 3, none, some 1]
        ((new (.integer .int64)).appendAll
          [.integer .int64 [some 3, none], .integer .int64 [some 1]]).finalize ∧
      TilesColumn byteLt id [some [98], some [97]] ((new .bytes).appendAll
          [.utf8 false [some [98]], .utf8 false [some [97]]]).finalize :=
  ⟨finalize_tilesColumn.1 .int64 [[some 3, none], [some 1]] (by decide),
    finalize_tilesColumn.2 false [[some [98]], [some [97]]] (by decide)⟩

end BlockZoneMapBuilder

end RockDuck
