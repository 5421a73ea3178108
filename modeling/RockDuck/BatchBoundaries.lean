import RockDuck.DeltaOverlay
import RockDuck.RoutedScan

/-!
# Batch boundaries of a merged scan

A delta says which row it changes by the offset of the row in its segment.
-/

namespace RockDuck

open List RoutedSegment

attribute [local simp] Function.comp_def

/-- The visibility file and the delete log of a segment, as far as they can be read. -/
structure VisibilityFiles where
  vis : Option (Except RockDuckError (List VisBatch))
  visPathText : String
  deltavis : Option (Except RockDuckError (List (Nat × TxnId)))

def VisibilityFiles.image (visibility : VisibilityFiles) : SegmentImage Slot where
  columnBatches _ := none
  vis := visibility.vis
  visPathText := visibility.visPathText
  deltavis := visibility.deltavis

/-- The rows of a segment before they are put into batches: the declared
columns, and the places of those that have a file. -/
structure StoredRows where
  segId : String
  columns : List (String × ColumnType)
  numRows : Nat
  stored : String → Option (List Slot)
  aligned : ∀ name slots, stored name = some slots → slots.length = numRows
  zoneMapFile : String → ZoneMapFile

/-- The batches of some columns, one for each size. -/
def cuts : List Nat → List (String × List Slot) → List (List (String × List Slot))
  | [], _ => []
  | size :: sizes, columns =>
    (columns.map fun column => (column.1, column.2.take size)) ::
      cuts sizes (columns.map fun column => (column.1, column.2.drop size))

/-- The first rows of some columns, as they are handed out. -/
def rowsOf (columns : List (String × List Slot)) (count : Nat) : List (DataRow (Option Bytes)) :=
  (List.range count).map fun row =>
    columns.map fun column => (column.1, (column.2[row]?).bind Slot.get)

namespace StoredRows

variable (source : StoredRows) (visibility : VisibilityFiles)

def type (name : String) : ColumnType :=
  ((source.columns.find? fun column => decide (column.1 = name)).map Prod.snd).getD .int64

/-- The columns of the segment that can be read. -/
def readable : List (String × List Slot) :=
  source.columns.filterMap fun column => (source.stored column.1).map fun slots => (column.1, slots)

/-- The segment with its columns cut into batches of the given sizes. -/
def split (sizes : Composition source.numRows) : RoutedSegment where
  segId := source.segId
  columns := source.columns
  image :=
    { visibility.image with
      columnBatches := fun name => (source.stored name).map fun slots =>
        .ok (sizes.blocks.splitLengths slots) }
  storedType := source.type
  zoneMapFile := source.zoneMapFile

def shouldSkip (context : RouteContext) : Option Bool :=
  SegmentZoneMaps.shouldSkipSegmentForZoneMap
    ⟨source.columns.map Prod.fst, source.zoneMapFile⟩ context.zoneMapGroup

/-- The columns as arrays of their types. -/
def typed (columns : List (String × List Slot)) : List (String × ColumnArray) :=
  columns.map fun column => (column.1, ⟨source.type column.1, column.2⟩)

/-- The batch is made of these columns. -/
def Holds (batch : TableBatch) (columns : List (String × List Slot)) : Prop :=
  batch.columns = source.typed columns

variable {source visibility}

lemma length_of_mem_readable (mem : col ∈ source.readable) : col.2.length = source.numRows := by
  obtain ⟨declared, -, found⟩ := mem_filterMap.mp mem
  obtain ⟨slots, stored, rfl⟩ := Option.map_eq_some_iff.mp found
  exact source.aligned _ _ stored

lemma declaredType_split (name) :
    (source.split visibility sizes).declaredType name = source.type name := by
  simp only [declaredType, split, type]
  cases source.columns.find? fun col => decide (col.1 = name) <;> rfl

variable (sizes : Composition source.numRows)

lemma readColumns_split (mem : 0 < source.numRows) :
    (source.split visibility sizes).image.readColumns (source.columns.map Prod.fst) =
      .ok (source.readable.map fun col => (col.1, sizes.blocks.splitLengths col.2)) := by
  have cut (slots : List Slot) : (sizes.blocks.splitLengths slots).isEmpty = false := by
    rw [isEmpty_eq_false_iff, ← length_pos_iff, length_splitLengths]
    exact sizes.length_pos_of_pos mem
  rw [readable]
  induction source.columns with
  | nil => rfl
  | cons col cols ih =>
    rw [map_cons, SegmentImage.readColumns, filterMap_cons, ih]
    simp only [split]
    cases source.stored col.1 with
    | none => rfl
    | some slots =>
      simp only [Option.map_some, cut, Bool.false_eq_true, if_false, Except.map, map_cons]

lemma mapM_buildBatch {seg : RoutedSegment}
    (declared : ∀ name, seg.declaredType name = source.type name)
    (storedAs : seg.storedType = source.type) (sizes : List Nat)
    {cols} (ne : cols ≠ []) (lengths : ∀ col ∈ cols, col.2.length = sizes.sum) :
    ∃ base, (List.range sizes.length).mapM (seg.buildBatch (cols.map fun col =>
          (col.1, sizes.splitLengths col.2))) = .ok base ∧
      List.Forall₂ source.Holds base (cuts sizes cols) ∧ base.map TableBatch.numRows = sizes := by
  induction sizes generalizing cols with
  | nil => exact ⟨[], rfl, .nil, rfl⟩
  | cons size sizes ih =>
    rw [sum_cons] at lengths
    let rest := cols.map fun col => (col.1, col.2.drop size)
    have restLengths : ∀ col ∈ rest, col.2.length = sizes.sum := by
      intro col mem
      obtain ⟨whole, listed, rfl⟩ := mem_map.mp mem
      rw [length_drop, lengths whole listed, Nat.add_sub_cancel_left]
    obtain ⟨base, built, holds, counts⟩ := ih (by simpa [rest] using ne) restLengths
    let first : TableBatch :=
      ⟨size, source.typed (cols.map fun col => (col.1, col.2.take size)), by
        intro col mem
        simp only [typed, map_map, mem_map] at mem
        obtain ⟨whole, listed, rfl⟩ := mem
        simp [lengths whole listed]⟩
    have builtFirst : seg.buildBatch (cols.map fun col =>
        (col.1, (size :: sizes).splitLengths col.2)) 0 =
          .ok first := by
      have made : TableBatch.tryNew (cols.map fun col =>
          (col.1, source.type col.1, ⟨source.type col.1, col.2.take size⟩)) = .ok first := by
        refine TableBatch.tryNew_eq_ok_iff.mpr ⟨by simpa using ne, ?_, ?_⟩
        · intro col mem
          obtain ⟨whole, listed, rfl⟩ := mem_map.mp mem
          simp [lengths whole listed, first]
        · simp [first, typed]
      simp only [buildBatch, map_map, Function.comp_def,
        declared, storedAs, splitLengths_cons, getD_cons_zero, made]
      rfl
    refine ⟨first :: base, ?_, .cons rfl holds, by simp [first, counts]⟩
    rw [mapM_eq_ok_iff] at built ⊢
    rw [length_cons, range_succ_eq_map]
    refine .cons builtFirst (forall₂_map_left_iff.mpr ?_)
    refine built.imp fun idx batch later => ?_
    rw [← later]
    simp [buildBatch, rest]

lemma readVortexSegment_split (present : 0 < source.numRows) (ne : source.readable ≠ []) :
    ∃ base, (source.split visibility sizes).readVortexSegment = .ok base ∧
      List.Forall₂ source.Holds base (cuts sizes.blocks source.readable) ∧
      base.map TableBatch.numRows = sizes.blocks := by
  have lengths : ∀ col ∈ source.readable, col.2.length = sizes.blocks.sum := fun col mem => by
    rw [length_of_mem_readable mem, sizes.blocks_sum]
  obtain ⟨base, built, holds, counts⟩ := @mapM_buildBatch source
    (source.split visibility sizes) declaredType_split rfl sizes.blocks
    source.readable ne lengths
  refine ⟨base, ?_, holds, counts⟩
  have reads := @readColumns_split source visibility sizes present
  obtain ⟨first, rest, readable⟩ := exists_cons_of_ne_nil ne
  rw [readable] at reads built
  rw [map_cons] at reads built
  have counted : ((rest.map fun col => (col.1, sizes.blocks.splitLengths col.2)).foldl
        (fun count col => min count col.2.length)
        (sizes.blocks.splitLengths first.2).length) = sizes.blocks.length := by
    rw [foldl_map, length_splitLengths]
    exact foldl_fixed' (fun col => by simp) rest
  have even : (((first.1, sizes.blocks.splitLengths first.2) ::
      rest.map fun col => (col.1, sizes.blocks.splitLengths col.2)).any fun col =>
          col.2.length != sizes.blocks.length) = false := by
    simp
  have reads' : (source.split visibility sizes).image.readColumns
      ((source.split visibility sizes).columns.map Prod.fst) = _ := reads
  simp only [readVortexSegment, reads', counted, even, built,
    Bool.false_and, Bool.false_eq_true, if_false]

lemma readVortexSegment_split_of_nothing (nothing : source.numRows = 0 ∨ source.readable = []) :
    (source.split visibility sizes).readVortexSegment = .ok [] := by
  have reads : (source.split visibility sizes).image.readColumns
      ((source.split visibility sizes).columns.map Prod.fst) = .ok [] := by
    by_cases mem : 0 < source.numRows
    · have unread := nothing.resolve_left mem.ne'
      have reads := @readColumns_split source visibility sizes mem
      rw [unread] at reads
      exact reads
    · have uncut (slots : List Slot) : sizes.blocks.splitLengths slots = [] := by
        rw [← length_eq_zero_iff, length_splitLengths]
        exact Nat.le_zero.mp (sizes.length_le.trans (Nat.le_of_not_lt mem))
      change SegmentImage.readColumns _ (source.columns.map Prod.fst) = _
      induction source.columns with
      | nil => rfl
      | cons col cols ih =>
        rw [map_cons, SegmentImage.readColumns, ih]
        simp only [split, uncut]
        cases source.stored col.1 <;> rfl
  rw [readVortexSegment, reads]

lemma rowsOf_append (cols) (front back : Nat) : rowsOf cols (front + back) =
      rowsOf (cols.map fun col => (col.1, col.2.take front)) front ++
        rowsOf (cols.map fun col => (col.1, col.2.drop front)) back := by
  rw [rowsOf, range_add, map_append]
  congr 1
  · refine map_congr_left fun row mem => ?_
    have inside := mem_range.mp mem
    simp [getElem?_take_of_lt inside]
  · simp [rowsOf]

lemma Holds.rows {batch cols}
    (holds : source.Holds batch cols) : batch.rows = rowsOf cols batch.numRows := by
  rw [TableBatch.rows, holds, rowsOf]
  simp [typed]

lemma flatten_rows_of_cuts (sizes) {cols base}
    (holds : List.Forall₂ source.Holds base (cuts sizes cols))
    (counts : base.map TableBatch.numRows = sizes) :
    (base.map TableBatch.rows).flatten = rowsOf cols sizes.sum := by
  induction sizes generalizing cols base with
  | nil =>
    cases holds
    rfl
  | cons size sizes ih =>
    cases holds with
    | cons first rest =>
      rw [map_cons, List.cons.injEq] at counts
      rw [map_cons, flatten_cons, first.rows, counts.1, ih rest counts.2, sum_cons, rowsOf_append]

end StoredRows

section Filter

variable {Row : Type*}

lemma exists_filtered (vis) (deletedRows) (rows : List Row) (decides : ∀ row < rows.length, ∃ shown,
      decideRow visFilter snap vis deletedRows row = .ok shown) :
    ∃ kept, ∀ batches : List (List Row), batches.flatten = rows →
      (filterBatchesByVisibilityImpl visFilter snap vis batches
        deletedRows).map List.flatten = .ok kept := by
  choose! shown decided using decides
  refine ⟨(rows.zipIdx.filter fun entry => shown entry.2).map Prod.fst, fun batches whole => ?_⟩
  subst whole
  exact map_eq_ok.mpr (filterBatchesByVisibilityImpl_of_decides decided)

end Filter

namespace ColumnArray

variable {codecs : DeltaCodecs}

/-- So few rows that a patch of one of them is blended in. -/
structure Few (length : Nat) : Prop where
  some : 0 < length
  atMost : length ≤ 100

lemma Few.short {length : Nat} (few : Few length) (type : ColumnType) : Short type length := by
  have below : length < 2 ^ 32 := few.atMost.trans_lt (by decide)
  have same := Nat.mod_eq_of_lt below
  exact ⟨same.symm ▸ few.some, same.symm ▸ few.atMost, fun _ => below⟩

/-- No cell has an image, or those that have one are for the first of few rows. -/
def Calm (codecs : DeltaCodecs) (length : Nat) (cells : List StoredDeltaCell) : Prop :=
  (∀ cell ∈ cells, cell.after = none) ∨
    Few length ∧ ∀ cell ∈ cells, HasImage codecs cell →
      cell.rowOffset % 2 ^ 32 = 0

lemma applyCell_of_not_hasImage {current : ColumnArray} {cell : StoredDeltaCell}
    (calm : cell.after = none ∨ Few current.slots.length) (undecodable : ¬ HasImage codecs cell) :
    current.applyCell codecs cell = .ok current := by
  unfold applyCell
  split
  · rfl
  · next after written =>
      have short := (calm.resolve_left (by simp [written])).short current.type
      cases decoded : codecs.decodeIpcColumn after with
      | ok done => exact absurd ⟨after, written, decoded⟩ undecodable
      | error error =>
        simp only [applySparsePatchVectorized, if_neg short.some.ne',
          if_neg (show ¬ 100 * [cell.rowOffset % 2 ^ 32].length <
            current.slots.length % 2 ^ 32 by simpa using short.few),
          applySparseTake, decoded]

variable {cells : List StoredDeltaCell}

open Classical in
lemma foldlM_applyCell_of_calm {current : ColumnArray}
    (calm : Calm codecs current.slots.length cells) : cells.foldlM (applyCell codecs) current =
      .ok (if ∃ cell ∈ cells, HasImage codecs cell then current.rebuilt
        else current) := by
  induction cells generalizing current with
  | nil => simp [pure, Except.pure]
  | cons cell cells ih =>
    have rest : Calm codecs current.slots.length cells := calm.imp
      (fun none other mem => none other (mem_cons_of_mem _ mem))
      fun calm => ⟨calm.1, fun other mem => calm.2 other (mem_cons_of_mem _ mem)⟩
    rw [foldlM_cons]
    by_cases image : HasImage codecs cell
    · obtain ⟨few, atFirst⟩ := calm.resolve_left fun none => by
        obtain ⟨after, written, -⟩ := image
        cases written.symm.trans (none cell mem_cons_self)
      have first := applyCell_of_short (few.short _) image
        (by rw [atFirst cell mem_cons_self image]; exact few.some)
      rw [first]
      have onward := ih (by rwa [length_rebuilt] : Calm codecs current.rebuilt.slots.length cells)
      rw [rebuilt_rebuilt, ite_self] at onward
      rw [if_pos ⟨cell, mem_cons_self, image⟩]
      exact onward
    · rw [applyCell_of_not_hasImage (calm.imp (fun none => none cell mem_cons_self) And.left) image]
      change cells.foldlM (applyCell codecs) current = _
      rw [ih rest]
      simp [image]

open Classical in
lemma applyCells_of_calm {base : ColumnArray} (calm : Calm codecs base.slots.length cells) :
    base.applyCells codecs cells = .ok (if ∃ cell ∈ cells, HasImage codecs cell then base.rebuilt
        else base) := by
  have mem {cell : StoredDeltaCell} :
      (cell ∈ cells.insertionSort fun left right =>
        left.txnId ≤ right.txnId) ↔ cell ∈ cells := mem_insertionSort _
  have sorted : Calm codecs base.slots.length (cells.insertionSort
      fun left right => left.txnId ≤ right.txnId) := by
    simpa only [Calm, mem] using calm
  have same : (∃ cell ∈ cells.insertionSort fun left right =>
      left.txnId ≤ right.txnId, HasImage codecs cell) ↔ ∃ cell ∈ cells, HasImage codecs cell := by
    simp only [mem]
  rw [applyCells, foldlM_applyCell_of_calm sorted, if_congr same rfl rfl]

variable {current merged : ColumnArray}

lemma applyCell_of_single (single : current.slots.length = 1)
    (applied : current.applyCell codecs cell = .ok merged) : merged.slots.length = 1 ∧
      (HasImage codecs cell → cell.rowOffset % 2 ^ 32 = 0) := by
  have few : Few current.slots.length := by
    rw [single]
    exact ⟨by decide, by decide⟩
  have short := few.short current.type
  by_cases image : HasImage codecs cell
  · by_cases mem : cell.rowOffset % 2 ^ 32 < current.slots.length
    · rw [applyCell_of_short short image mem] at applied
      cases applied
      rw [length_rebuilt]
      exact ⟨single, fun _ => by omega⟩
    · obtain ⟨after, written, decoded⟩ := image
      have outside : current.slots[cell.rowOffset % 2 ^ 32]? = none :=
        List.getElem?_eq_none (Nat.le_of_not_lt mem)
      have panics : current.applySparsePatchVectorized codecs
          [cell.rowOffset % 2 ^ 32] after = none := by
        rw [applySparsePatchVectorized, if_neg short.some.ne',
          if_neg (by simpa using short.few), applySparseTake, decoded,
          take_singleton, outside]
        rfl
      simp only [applyCell, written, panics] at applied
      cases applied
  · rw [applyCell_of_not_hasImage (.inr few) image] at applied
    cases applied
    exact ⟨single, fun possible => absurd possible image⟩

lemma foldlM_applyCell_of_single (single : current.slots.length = 1)
    (applied : cells.foldlM (applyCell codecs) current = .ok merged) :
    ∀ cell ∈ cells, HasImage codecs cell → cell.rowOffset % 2 ^ 32 = 0 := by
  induction cells generalizing current with
  | nil => simp
  | cons cell cells ih =>
    rw [foldlM_cons] at applied
    obtain ⟨next, first, rest⟩ := bind_eq_ok.mp applied
    obtain ⟨stillSingle, atFirst⟩ := applyCell_of_single single first
    exact forall_mem_cons.mpr ⟨atFirst, ih stillSingle rest⟩

/-- Of one row more than a few, a patch leaves the one it is for. -/
lemma length_applyCell_of_many (many : current.slots.length = 101) (written : cell.after ≠ none)
    (applied : current.applyCell codecs cell = .ok merged) : merged.slots.length ≤ 1 := by
  obtain ⟨after, written⟩ := Option.ne_none_iff_exists'.mp written
  have filtered : current.applySparsePatchVectorized codecs [cell.rowOffset % 2 ^ 32] after =
      (current.slots[cell.rowOffset % 2 ^ 32]?).map fun slot =>
        .ok { current with slots := [slot] } := by
    rw [applySparsePatchVectorized, many, if_neg (by decide), if_pos (by simp), applySparseFilter,
      take_singleton, Option.map_map]
    rfl
  simp only [applyCell, written, filtered] at applied
  cases held : current.slots[cell.rowOffset % 2 ^ 32]? with
  | none =>
    rw [held] at applied
    cases applied
  | some slot =>
    rw [held] at applied
    cases applied
    simp

lemma length_foldlM_applyCell_of_many (many : current.slots.length = 101)
    (patched : ∃ cell ∈ cells, cell.after ≠ none)
    (applied : cells.foldlM (applyCell codecs) current = .ok merged) :
    merged.slots.length ≤ 1 := by
  induction cells with
  | nil => simp at patched
  | cons cell cells ih =>
    rw [foldlM_cons] at applied
    obtain ⟨next, first, rest⟩ := bind_eq_ok.mp applied
    by_cases written : cell.after = none
    · rw [applyCell, written] at first
      cases first
      exact ih (by simpa [written] using patched) rest
    · exact (length_foldlM_applyCell_le rest).trans (length_applyCell_of_many many written first)

end ColumnArray

namespace StoredRows

open ColumnArray (HasImage Few)

variable (source : StoredRows)

/-- The cell has a value for a column that is read. -/
def Patches (cell : StoredDeltaCell) : Prop :=
  cell.after ≠ none ∧ cell.column ∈ source.readable.map Prod.fst

/-- The deltas do not depend on how many rows a batch has. -/
def Calm (codecs : DeltaCodecs) (deltas : List StoredDeltaCell) (length : Nat) : Prop :=
  (∀ cell ∈ deltas, ¬ source.Patches cell) ∨
    Few length ∧ ∀ cell ∈ deltas, source.Patches cell →
      HasImage codecs cell → cell.rowOffset % 2 ^ 32 = 0

open Classical in
/-- A column as calm deltas leave it: a patched one loses its empty places. -/
noncomputable def fillSlots (codecs : DeltaCodecs)
    (deltas : List StoredDeltaCell) (name : String) (slots : List Slot) : List Slot :=
  if (source.type name).isBlended ∧ ∃ cell ∈ deltas,
      cell.column = name ∧ HasImage codecs cell then
    slots.map fun slot => ⟨slot.value, true⟩
  else slots

/-- The columns with the values of the deltas written over them. -/
noncomputable def fill (codecs : DeltaCodecs) (deltas : List StoredDeltaCell)
    (columns : List (String × List Slot)) : List (String × List Slot) :=
  columns.map fun column => (column.1, source.fillSlots codecs deltas column.1 column.2)

/-- Some of the columns that are read, or pieces of them. -/
structure Piece (columns : List (String × List Slot)) : Prop where
  filled : columns ≠ []
  named : ∀ column ∈ columns, column.1 ∈ source.readable.map Prod.fst
  uniform : ∀ first ∈ columns, ∀ second ∈ columns, first.1 = second.1 →
    first = second

variable {source} {codecs : DeltaCodecs} {deltas : List StoredDeltaCell}

lemma Piece.map {cols} (piece : source.Piece cols) (change : List Slot → List Slot) :
    source.Piece (cols.map fun col => (col.1, change col.2)) where
  filled := by simpa using piece.filled
  named := by
    intro col mem
    obtain ⟨whole, listed, rfl⟩ := mem_map.mp mem
    exact piece.named whole listed
  uniform := by
    intro first firstAmong second secondAmong same
    obtain ⟨whole, listed, rfl⟩ := mem_map.mp firstAmong
    obtain ⟨other, otherListed, rfl⟩ := mem_map.mp secondAmong
    rw [piece.uniform whole listed other otherListed same]

lemma piece_readable (filled : source.readable ≠ []) : source.Piece source.readable where
  filled := filled
  named col among := mem_map_of_mem among
  uniform := by
    intro first firstAmong second secondAmong same
    obtain ⟨_, -, firstFound⟩ := mem_filterMap.mp firstAmong
    obtain ⟨_, -, secondFound⟩ := mem_filterMap.mp secondAmong
    obtain ⟨slots, stored, rfl⟩ := Option.map_eq_some_iff.mp firstFound
    obtain ⟨rest, otherStored, rfl⟩ := Option.map_eq_some_iff.mp secondFound
    dsimp only at same
    rw [same] at stored
    cases stored.symm.trans otherStored
    rw [same]

lemma piece_of_mem_cuts (sizes : List Nat) {cols piece} (whole : source.Piece cols)
    (mem : piece ∈ cuts sizes cols) : source.Piece piece := by
  induction sizes generalizing cols with
  | nil => cases mem
  | cons size sizes ih =>
    rcases mem_cons.mp mem with rfl | later
    · exact whole.map (List.take size)
    · exact ih (whole.map (List.drop size)) later

section

variable (name : String) (slots : List Slot)

@[simp]
lemma length_fillSlots : (source.fillSlots codecs deltas name slots).length = slots.length := by
  unfold fillSlots
  split <;> simp

lemma fillSlots_take (size : Nat) : source.fillSlots codecs deltas name (slots.take size) =
      (source.fillSlots codecs deltas name slots).take size := by
  unfold fillSlots
  split <;> simp

lemma fillSlots_drop (size : Nat) : source.fillSlots codecs deltas name (slots.drop size) =
      (source.fillSlots codecs deltas name slots).drop size := by
  unfold fillSlots
  split <;> simp

end

lemma cuts_fill (sizes) (cols) : cuts sizes (source.fill codecs deltas cols) =
      (cuts sizes cols).map (source.fill codecs deltas) := by
  induction sizes generalizing cols with
  | nil => rfl
  | cons size sizes ih =>
    rw [cuts, cuts, map_cons, ← ih]
    simp [fill, fillSlots_take, fillSlots_drop]

section

variable {batch : TableBatch} {columns : List (String × List Slot)} (piece : source.Piece columns)
    (holds : source.Holds batch columns) (calm : source.Calm codecs deltas batch.numRows)
include piece holds calm

lemma patchColumn_of_calm (mem : col ∈ columns) :
    patchColumn codecs batch deltas (col.1, ⟨source.type col.1, col.2⟩) =
      .ok (col.1, source.type col.1, ⟨source.type col.1,
        source.fillSlots codecs deltas col.1 col.2⟩) := by
  by_cases touched : Touched deltas col.1
  · have listed : (col.1, ⟨source.type col.1, col.2⟩) ∈ batch.columns := by
      rw [holds]
      exact mem_map.mpr ⟨col, mem, rfl⟩
    obtain ⟨base, found, length⟩ := exists_base listed
    obtain rfl : base = (col.1, ⟨source.type col.1, col.2⟩) := by
      have stored := mem_of_find?_eq_some found
      have named : base.1 = col.1 := by simpa using find?_some found
      rw [holds] at stored
      obtain ⟨other, otherAmong, rfl⟩ := mem_map.mp stored
      rw [piece.uniform other otherAmong col mem named]
    have quiet : ColumnArray.Calm codecs col.2.length
        (deltas.filter fun cell => decide (cell.column = col.1)) := by
      dsimp only at length
      rw [length]
      refine calm.imp (fun none cell filtered => ?_) fun short =>
        ⟨short.1, fun cell filtered image => ?_⟩
      all_goals
        obtain ⟨listed, inColumn⟩ := mem_filter.mp filtered
        have read : cell.column ∈ source.readable.map Prod.fst := by
          rw [of_decide_eq_true inColumn]
          exact piece.named col mem
      · by_contra written
        exact none cell listed ⟨written, read⟩
      · obtain ⟨after, written, -⟩ := id image
        exact short.2 cell listed ⟨by simp [written], read⟩ image
    rw [patchColumn_of_touched touched found, ColumnArray.applyCells_of_calm quiet]
    have same : (∃ cell ∈ deltas.filter fun cell =>
        decide (cell.column = col.1), HasImage codecs cell) ↔
          ∃ cell ∈ deltas, cell.column = col.1 ∧ HasImage codecs cell := by
      simp [and_assoc]
    simp only [Except.map, fillSlots, ColumnArray.rebuilt]
    by_cases image : ∃ cell ∈ deltas, cell.column = col.1 ∧ HasImage codecs cell
    · rw [if_pos (same.mpr image)]
      by_cases blended : (source.type col.1).isBlended = true <;>
        simp [image, blended]
    · rw [if_neg (same.not.mpr image), if_neg fun both => image both.2]
  · rw [patchColumn_of_not_touched touched]
    have none : ¬ ∃ cell ∈ deltas, cell.column = col.1 ∧ HasImage codecs cell := by
      rintro ⟨cell, listed, inColumn, -⟩
      exact touched ⟨cell, listed, inColumn⟩
    rw [fillSlots, if_neg fun both => none both.2]

lemma applyDeltasToBatch_of_calm : ∃ merged, applyDeltasToBatch codecs batch deltas = .ok merged ∧
      source.Holds merged (source.fill codecs deltas columns) ∧ merged.numRows = batch.numRows := by
  let merged : TableBatch :=
    ⟨batch.numRows, source.typed (source.fill codecs deltas columns), by
      intro col mem
      simp only [typed, fill, map_map, mem_map] at mem
      obtain ⟨whole, listed, rfl⟩ := mem
      have inBatch : (whole.1, ⟨source.type whole.1, whole.2⟩) ∈ batch.columns := by
        rw [holds]
        exact mem_map.mpr ⟨whole, listed, rfl⟩
      simpa using batch.aligned _ inBatch⟩
  by_cases none : deltas = []
  · subst none
    have unchanged : source.fill codecs [] columns = columns := by simp [fill, fillSlots]
    exact ⟨batch, rfl, by rwa [unchanged], rfl⟩
  · refine ⟨merged, ?_, rfl, rfl⟩
    have patched : batch.columns.mapM (patchColumn codecs batch deltas) =
        .ok (columns.map fun col => (col.1, source.type col.1, ⟨source.type col.1,
            source.fillSlots codecs deltas col.1 col.2⟩)) := by
      rw [holds, typed, mapM_eq_ok_iff, forall₂_map_left_iff, forall₂_map_right_iff, forall₂_same]
      exact fun col mem => patchColumn_of_calm piece holds calm mem
    have built : TableBatch.tryNew (columns.map fun col =>
        (col.1, source.type col.1, ⟨source.type col.1,
          source.fillSlots codecs deltas col.1 col.2⟩)) =
            .ok merged := by
      refine TableBatch.tryNew_eq_ok_iff.mpr ⟨by simpa using piece.filled,
        fun entry mem => ?_, by simp [merged, typed, fill]⟩
      obtain ⟨col, listed, rfl⟩ := mem_map.mp mem
      refine ⟨merged.aligned (col.1, _) ?_, rfl⟩
      simp only [merged, typed, fill, map_map, mem_map]
      exact ⟨col, listed, rfl⟩
    simp [applyDeltasToBatch, none, patched, built]

end

lemma mergeBatches_of_calm {base pieces} (each : ∀ cols ∈ pieces, source.Piece cols)
    (holds : List.Forall₂ source.Holds base pieces)
    (calm : ∀ batch ∈ base, source.Calm codecs deltas batch.numRows) :
    ∃ merged, RoutedSegment.mergeBatches codecs base deltas = .ok merged ∧
      List.Forall₂ source.Holds merged (pieces.map (source.fill codecs deltas)) ∧
      merged.map TableBatch.numRows = base.map TableBatch.numRows := by
  have all : ∃ merged, base.mapM (applyDeltasToBatch codecs · deltas) = .ok merged ∧
      List.Forall₂ source.Holds merged
        (pieces.map (source.fill codecs deltas)) ∧
      merged.map TableBatch.numRows = base.map TableBatch.numRows := by
    induction holds with
    | nil => exact ⟨[], rfl, .nil, rfl⟩
    | cons first _ ih =>
      rw [forall_mem_cons] at each calm
      obtain ⟨merged, applied, ne, count⟩ := applyDeltasToBatch_of_calm each.1 first calm.1
      obtain ⟨rest, restApplied, restFilled, restCounts⟩ := ih each.2 calm.2
      refine ⟨merged :: rest, ?_, .cons ne restFilled, by simp [count, restCounts]⟩
      rw [mapM_cons, applied, restApplied]
      rfl
  obtain ⟨merged, applied, ne, counts⟩ := all
  refine ⟨merged, ?_, ne, counts⟩
  unfold mergeBatches
  split
  · next none =>
      obtain rfl := List.isEmpty_iff.mp none
      have same : List.Forall₂ Eq base merged :=
        (mapM_eq_ok_iff.mp applied).imp fun batch res unchanged => by
          simpa [applyDeltasToBatch] using unchanged
      rw [forall₂_eq_eq_eq] at same
      rw [same]
  · exact applied

lemma exists_patched (applied : applyDeltasToBatch codecs batch deltas = .ok merged)
    (some : deltas ≠ []) (mem : col ∈ batch.columns) :
    ∃ patched, patchColumn codecs batch deltas col = .ok patched ∧
      patched.2.2.slots.length = merged.numRows := by
  unfold applyDeltasToBatch at applied
  rw [if_neg (by simpa using some)] at applied
  split at applied
  · cases applied
  · next cols patched =>
      split at applied
      · cases applied
      · next built =>
          cases applied
          obtain ⟨-, each, -⟩ := TableBatch.tryNew_eq_ok_iff.mp built
          obtain ⟨res, listed, made⟩ := exists_value_of_mapM_eq_ok patched mem
          exact ⟨res, made, (each res listed).1⟩

section

variable {batch merged : TableBatch} {cols : List (String × List Slot)}
    (holds : source.Holds batch cols) (named : cols.map Prod.fst = source.readable.map Prod.fst)
include holds named

lemma exists_base_of_patches (mem : cell ∈ deltas) (patches : source.Patches cell)
    (applied : applyDeltasToBatch codecs batch deltas = .ok merged) :
    ∃ base array : ColumnArray, base.slots.length = batch.numRows ∧
      base.applyCells codecs (deltas.filter fun other =>
        decide (other.column = cell.column)) = .ok array ∧ array.slots.length = merged.numRows := by
  have listed := patches.2
  rw [← named] at listed
  obtain ⟨col, inColumns, name⟩ := mem_map.mp listed
  have inBatch : (col.1, ⟨source.type col.1, col.2⟩) ∈ batch.columns := by
    rw [holds]
    exact mem_map.mpr ⟨col, inColumns, rfl⟩
  obtain ⟨patched, made, rows⟩ := exists_patched applied (ne_nil_of_mem mem) inBatch
  obtain ⟨base, found, length⟩ := exists_base inBatch
  rw [patchColumn_of_touched ⟨cell, mem, name.symm⟩ found] at made
  dsimp only at made
  rw [name] at made
  cases folded : base.2.applyCells codecs (deltas.filter fun other =>
      decide (other.column = cell.column)) with
  | error err =>
    rw [folded] at made
    cases made
  | ok array =>
    rw [folded] at made
    cases made
    exact ⟨base.2, array, length, folded, rows⟩

lemma atFirst_of_single (single : batch.numRows = 1)
    (applied : applyDeltasToBatch codecs batch deltas = .ok merged) :
    ∀ cell ∈ deltas, source.Patches cell → HasImage codecs cell → cell.rowOffset % 2 ^ 32 = 0 := by
  intro cell mem patches image
  obtain ⟨base, array, length, folded, -⟩ :=
    exists_base_of_patches holds named mem patches applied
  exact ColumnArray.foldlM_applyCell_of_single (length.trans single) folded cell
    ((mem_insertionSort _).mpr (by simpa using mem)) image

lemma numRows_le_one_of_long (long : batch.numRows = 101)
    (mem : cell ∈ deltas) (patches : source.Patches cell)
    (applied : applyDeltasToBatch codecs batch deltas = .ok merged) : merged.numRows ≤ 1 := by
  obtain ⟨base, array, length, folded, rows⟩ :=
    exists_base_of_patches holds named mem patches applied
  rw [← rows]
  exact ColumnArray.length_foldlM_applyCell_of_many (length.trans long)
    ⟨cell, (mem_insertionSort _).mpr (by simpa using mem), patches.1⟩ folded

end

variable (source codecs deltas)

/-- When the boundaries between batches make no difference. -/
def BoundaryFree : Prop :=
  source.numRows = 0 ∨ (∀ cell ∈ deltas, ¬ source.Patches cell) ∨
    source.numRows ≤ 100 ∧ ∀ cell ∈ deltas, source.Patches cell →
      HasImage codecs cell → cell.rowOffset % 2 ^ 32 = 0

end StoredRows

/-- What the visibility files say of the rows is known. -/
structure VisibilityFiles.Decides (visibility : VisibilityFiles)
    (context : RouteContext) (count : Nat) (visBatches : List VisBatch)
    (deletedRows : List Nat) : Prop where
  vis : visibility.image.readVisibilityBatches = .ok visBatches
  deleted : visibility.image.readDeletedRows = .ok deletedRows
  decided : ∀ row < count, ∃ shown, decideRow context.visFilter
    context.snapshot visBatches deletedRows row = .ok shown

def VisibilityFiles.absent : VisibilityFiles :=
  ⟨none, "", none⟩

lemma VisibilityFiles.absent_decides (ctx) (count : Nat) : absent.Decides ctx count [] [] :=
  ⟨rfl, rfl, fun _ _ => ⟨true, rfl⟩⟩

namespace StoredRows

open ColumnArray (HasImage Few)

variable {source : StoredRows} {context : RouteContext} {visibility : VisibilityFiles}
    {deltas : List StoredDeltaCell} {deletedRows : List Nat} {base : List TableBatch}
    {visBatches : List VisBatch} {sizes : Composition source.numRows}
    {rows : List (DataRow (Option Bytes))}

lemma execute_split (queried : context.stack.query source.segId context.snapshot = .ok deltas)
    (kept : source.shouldSkip context = some false)
    (decides : visibility.Decides context source.numRows visBatches deletedRows)
    (reads : (source.split visibility sizes).readVortexSegment = .ok base) (ne : base ≠ []) :
    (source.split visibility sizes).executeCooperativeMergeSegment context =
      (RoutedSegment.mergeBatches context.codecs base deltas).bind
        fun merged => filterBatchesByVisibilityImpl context.visFilter
          context.snapshot visBatches (merged.map TableBatch.rows) deletedRows := by
  obtain ⟨first, rest, rfl⟩ := exists_cons_of_ne_nil ne
  have keptHere : (source.split visibility sizes).shouldSkip context = some false := kept
  have visHere : (source.split visibility
      sizes).image.readVisibilityBatches = .ok visBatches := decides.vis
  have deletedHere : (source.split visibility sizes).image.readDeletedRows =
      .ok deletedRows := decides.deleted
  have queriedHere : context.stack.query (source.split visibility sizes).segId
      context.snapshot = .ok deltas := queried
  rw [executeCooperativeMergeSegment]
  simp only [keptHere, reads, visHere, deletedHere, queriedHere]
  cases mergeBatches context.codecs (first :: rest) deltas <;> rfl

lemma ne_nil_of_counts (mem : 0 < source.numRows)
    (counts : base.map TableBatch.numRows = sizes.blocks) : base ≠ [] := by
  rintro rfl
  have none := sizes.length_pos_of_pos mem
  rw [Composition.length, ← counts] at none
  exact absurd none (lt_irrefl 0)

section

variable (queried : context.stack.query source.segId context.snapshot = .ok deltas)
    (kept : source.shouldSkip context = some false)
include queried kept

/-- Where the batches do not matter, every choice of them gives one result. -/
lemma exists_rows_of_boundaryFree (free : source.BoundaryFree context.codecs deltas)
    (decides : visibility.Decides context source.numRows visBatches deletedRows) :
    ∃ rows, ∀ sizes : Composition source.numRows,
      ((source.split visibility sizes).executeCooperativeMergeSegment
        context).map List.flatten = .ok rows := by
  by_cases nothing : source.numRows = 0 ∨ source.readable = []
  · refine ⟨[], fun sizes => ?_⟩
    have keptHere : (source.split visibility sizes).shouldSkip context = some false := kept
    rw [executeCooperativeMergeSegment, keptHere, readVortexSegment_split_of_nothing sizes nothing]
    rfl
  obtain ⟨someRows, ne⟩ := not_or.mp nothing
  have present := Nat.pos_of_ne_zero someRows
  have calm : ∀ length, 0 < length → length ≤ source.numRows →
      source.Calm context.codecs deltas length := by
    intro length pos atMost
    exact (free.resolve_left someRows).imp id fun few => ⟨⟨pos, atMost.trans few.1⟩, few.2⟩
  obtain ⟨rows, filtered⟩ := exists_filtered visBatches deletedRows
    (rowsOf (source.fill context.codecs deltas source.readable)
      source.numRows) (by simpa [rowsOf] using decides.decided)
  refine ⟨rows, fun sizes => ?_⟩
  obtain ⟨base, reads, holds, counts⟩ :=
    @readVortexSegment_split source visibility sizes present ne
  have calmHere : ∀ batch ∈ base, source.Calm context.codecs deltas batch.numRows := by
    intro batch mem
    have block : batch.numRows ∈ sizes.blocks := by
      rw [← counts]
      exact mem_map_of_mem mem
    exact calm _ (sizes.blocks_pos block) (sizes.blocks_sum ▸ single_le_sum (by simp) _ block)
  obtain ⟨merged, applied, mergedHolds, mergedCounts⟩ := mergeBatches_of_calm
    (fun cols mem => piece_of_mem_cuts _ (piece_readable ne) mem)
    holds calmHere
  rw [execute_split queried kept decides reads (ne_nil_of_counts present counts), applied]
  refine filtered _ ?_
  rw [← cuts_fill] at mergedHolds
  rw [flatten_rows_of_cuts sizes.blocks mergedHolds (mergedCounts.trans counts), sizes.blocks_sum]

lemma exists_merged_of_returned (mem : 0 < source.numRows) (ne : source.readable ≠ [])
    (returned : ((source.split .absent sizes).executeCooperativeMergeSegment context).map
      List.flatten = .ok rows) : ∃ base merged,
      List.Forall₂ source.Holds base (cuts sizes.blocks source.readable) ∧
      base.map TableBatch.numRows = sizes.blocks ∧
      RoutedSegment.mergeBatches context.codecs base deltas = .ok merged ∧
      (merged.map TableBatch.rows).flatten = rows := by
  obtain ⟨base, reads, holds, counts⟩ :=
    @readVortexSegment_split source .absent sizes mem ne
  rw [execute_split queried kept (VisibilityFiles.absent_decides context _) reads
    (ne_nil_of_counts mem counts)] at returned
  cases applied : mergeBatches context.codecs base deltas with
  | error err =>
    rw [applied] at returned
    cases returned
  | ok merged =>
    rw [applied] at returned
    cases returned
    exact ⟨base, merged, holds, counts, applied, rfl⟩

end

lemma exists_first {codecs size sizes merged}
    (holds : List.Forall₂ source.Holds base (cuts (size :: sizes) source.readable))
    (counts : base.map TableBatch.numRows = size :: sizes) (some : deltas ≠ [])
    (applied : RoutedSegment.mergeBatches codecs base deltas = .ok merged) :
    ∃ first mergedFirst cols, source.Holds first cols ∧
      cols.map Prod.fst = source.readable.map Prod.fst ∧ first.numRows = size ∧
      applyDeltasToBatch codecs first deltas = .ok mergedFirst ∧
      (merged.map TableBatch.numRows).sum ≤ mergedFirst.numRows + sizes.sum := by
  have ne : deltas.isEmpty = false := by simpa using some
  cases holds with
  | @cons first _ rest _ holds _ =>
    rw [map_cons, List.cons.injEq] at counts
    rw [mergeBatches, ne, if_neg Bool.false_ne_true, mapM_cons] at applied
    obtain ⟨mergedFirst, appliedFirst, later⟩ := bind_eq_ok.mp applied
    obtain ⟨mergedRest, appliedRest, whole⟩ := bind_eq_ok.mp later
    cases whole
    have others : mergeBatches codecs rest deltas = .ok mergedRest := by
      rw [mergeBatches, ne, if_neg Bool.false_ne_true, appliedRest]
    have fewer := sum_numRows_mergeBatches_le others
    rw [counts.2] at fewer
    refine ⟨first, mergedFirst, _, holds, by simp, counts.1, appliedFirst, ?_⟩
    rw [map_cons, sum_cons]
    exact Nat.add_le_add_left fewer _

/-- The rows in batches of one, except that the first batch has more than a
hundred. -/
def longFirst (count : Nat) (many : 100 < count) : Composition count where
  blocks := 101 :: List.replicate (count - 101) 1
  blocks_pos := by
    intro size among
    rcases List.mem_cons.mp among with rfl | rest
    · decide
    · rw [List.eq_of_mem_replicate rest]
      decide
  blocks_sum := by
    rw [List.sum_cons, List.sum_replicate, smul_eq_mul, mul_one]
    omega

lemma length_flatten_rows (merged : List TableBatch) :
    (merged.map TableBatch.rows).flatten.length = (merged.map TableBatch.numRows).sum := by
  rw [length_flatten, map_length_rows]

/-- When every choice of batches gives one result, the batches do not
matter. -/
lemma boundaryFree_of_same
    (queried : context.stack.query source.segId context.snapshot = .ok deltas)
    (kept : source.shouldSkip context = some false)
    (same : ∀ sizes : Composition source.numRows, ((source.split .absent
      sizes).executeCooperativeMergeSegment context).map List.flatten = .ok rows) :
    source.BoundaryFree context.codecs deltas := by
  refine or_iff_not_imp_left.mpr fun someRows => or_iff_not_imp_left.mpr fun patched => ?_
  push Not at patched
  obtain ⟨patch, mem, patches⟩ := patched
  have present := Nat.pos_of_ne_zero someRows
  have ne : source.readable ≠ [] := fun none => by
    simpa [none] using patches.2
  have some := ne_nil_of_mem mem
  -- In batches of one row every patch has to be for the first.
  obtain ⟨base, merged, holds, counts, applied, whole⟩ :=
    exists_merged_of_returned queried kept present ne
      (same (.ones source.numRows))
  have singles : (Composition.ones source.numRows).blocks =
      1 :: List.replicate (source.numRows - 1) 1 := by
    rw [Composition.ones_blocks, ← replicate_succ, Nat.sub_add_cancel present]
  have atFirst : ∀ cell ∈ deltas, source.Patches cell →
      HasImage context.codecs cell → cell.rowOffset % 2 ^ 32 = 0 := by
    rw [singles] at holds counts
    obtain ⟨first, mergedFirst, cols, held, named, single, appliedFirst,
      -⟩ := exists_first holds counts some applied
    exact atFirst_of_single held named single appliedFirst
  refine ⟨?_, atFirst⟩
  -- They keep all rows, but a long batch keeps one.
  have total : rows.length = source.numRows := by
    obtain ⟨filledBatches, applied', -, mergedCounts⟩ :=
      @mergeBatches_of_calm source context.codecs deltas base _
        (fun cols listed => piece_of_mem_cuts _ (piece_readable ne) listed) holds
        fun batch listed => .inr ⟨by
          have block : batch.numRows ∈ List.replicate source.numRows 1 := by
            rw [← Composition.ones_blocks, ← counts]
            exact mem_map_of_mem listed
          rw [eq_of_mem_replicate block]
          exact ⟨by decide, by decide⟩, atFirst⟩
    cases applied.symm.trans applied'
    rw [← whole, length_flatten_rows, mergedCounts, counts, Composition.blocks_sum]
  by_contra many
  have many : 100 < source.numRows := Nat.lt_of_not_le many
  obtain ⟨base, merged, holds, counts, applied, whole⟩ :=
    exists_merged_of_returned queried kept present ne
      (same (longFirst source.numRows many))
  obtain ⟨first, mergedFirst, cols, held, named, long, appliedFirst,
    atMost⟩ := exists_first holds counts some applied
  have one := numRows_le_one_of_long held named long mem patches appliedFirst
  rw [← length_flatten_rows, whole, total, sum_replicate, smul_eq_mul, mul_one] at atMost
  omega

/-- A merged scan returns the same rows however the rows of the segment are put
into batches, exactly when the zone map skips the segment, or the batches do
not matter to the merge. -/
theorem merged_rows_independent_iff
    (queried : context.stack.query source.segId context.snapshot = .ok deltas) :
    (∀ (visibility : VisibilityFiles) (visBatches : List VisBatch) (deletedRows : List Nat),
        visibility.Decides context source.numRows visBatches deletedRows →
        ∃ rows, ∀ sizes : Composition source.numRows,
          ((source.split visibility sizes).executeCooperativeMergeSegment context).map
            List.flatten = .ok rows) ↔
      source.shouldSkip context = some true ∨
        source.shouldSkip context = some false ∧ source.BoundaryFree context.codecs deltas := by
  constructor
  · intro same
    obtain ⟨rows, returned⟩ := same .absent [] []
      (VisibilityFiles.absent_decides context source.numRows)
    cases skip : source.shouldSkip context with
    | none =>
      have skipHere : (source.split .absent (.ones source.numRows)).shouldSkip
          context = none := skip
      have fails := returned (.ones source.numRows)
      rw [executeCooperativeMergeSegment, skipHere] at fails
      cases fails
    | some skipped =>
      cases skipped with
      | true => exact .inl rfl
      | false => exact .inr ⟨rfl, boundaryFree_of_same queried skip returned⟩
  · rintro (skipped | ⟨kept, free⟩) visibility visBatches deletedRows decides
    · refine ⟨[], fun sizes => ?_⟩
      have skippedHere : (source.split visibility sizes).shouldSkip context = some true := skipped
      rw [executeCooperativeMergeSegment, skippedHere]
      rfl
    · exact exists_rows_of_boundaryFree queried kept free decides

/-- A segment with 7 and 8 in its one column. -/
def sevenAndEight : StoredRows where
  segId := "s"
  columns := [("x", .uint8)]
  numRows := 2
  stored name := if name = "x" then some [⟨[7], true⟩, ⟨[8], true⟩] else none
  aligned := by
    intro name slots found
    split at found
    · cases found
      rfl
    · cases found
  zoneMapFile _ := .missing

/-- The pending update is for the first row. -/
theorem merged_rows_independent_iff_firstRow :
    pendingUpdate.stack.query "s" pendingUpdate.snapshot =
        .ok [⟨"s", 0, "x", 1, some [0], some [], true, 0⟩] ∧
      ∀ (visibility : VisibilityFiles) (visBatches : List VisBatch) (deletedRows : List Nat),
        visibility.Decides pendingUpdate 2 visBatches deletedRows → ∃ rows, ∀ sizes : Composition 2,
          ((sevenAndEight.split visibility sizes).executeCooperativeMergeSegment
            pendingUpdate).map List.flatten = .ok rows := by
  have queried : pendingUpdate.stack.query sevenAndEight.segId
      pendingUpdate.snapshot =
        .ok [⟨"s", 0, "x", 1, some [0], some [], true, 0⟩] := rfl
  refine ⟨queried, (merged_rows_independent_iff queried).mpr (.inr ⟨rfl,
    .inr (.inr ⟨by decide, fun cell mem _ _ => ?_⟩)⟩)⟩
  obtain rfl := mem_singleton.mp mem
  decide

/-- A change of the second row is pending. -/
def pendingSecond : RouteContext :=
  { pendingUpdate with
    stack :=
      { pendingUpdate.stack with
        l1 := (DeltaMemStore.empty.put
          ⟨"s", 1, "x", 1, some [8], some [], true, 0⟩ none).1 } }

/-- The rows in one batch are merged.  With a batch for each of them the merge
looks for a second row in the first batch. -/
theorem second_batch_panics : ((sevenAndEight.split .absent (.single 2 (by decide))
        ).executeCooperativeMergeSegment pendingSecond).map List.flatten =
      .ok [[("x", some [7])], [("x", some [8])]] ∧
    ((sevenAndEight.split .absent (.ones 2)).executeCooperativeMergeSegment
        pendingSecond).map List.flatten =
      .error (.panicked "index out of bounds") ∧
    ¬ ∀ (source : StoredRows) (context : RouteContext) (visibility : VisibilityFiles)
        (sizes others : Composition source.numRows),
      ((source.split visibility sizes).executeCooperativeMergeSegment context).map List.flatten =
        ((source.split visibility others).executeCooperativeMergeSegment
          context).map List.flatten := by
  have one : ((sevenAndEight.split .absent (.single 2 (by decide))
      ).executeCooperativeMergeSegment pendingSecond).map List.flatten =
      .ok [[("x", some [7])], [("x", some [8])]] := rfl
  have two : ((sevenAndEight.split .absent
      (.ones 2)).executeCooperativeMergeSegment pendingSecond).map
        List.flatten = .error (.panicked "index out of bounds") := rfl
  refine ⟨one, two, fun same => ?_⟩
  cases one.symm.trans ((same _ _ _ _ _).trans two)

end StoredRows

end RockDuck
