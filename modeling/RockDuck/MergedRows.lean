import RockDuck.CompactedRows

/-!
# What a merge of segments writes

The rows of a merge are told apart by the number of their segment and their
number in it.
-/

namespace RockDuck

open List SegmentShape

/-- The segments of a merge, by shape. -/
structure MergeInput where
  columns : List String
  reserved : "__vis" ∉ columns
  segments : List SegmentShape

namespace MergeInput

variable (input : MergeInput)

def entries : List (SegmentShape × Nat) :=
  input.segments.zipIdx

/-- The segments with values. -/
def fill {Value : Type} (values : String → Nat × Nat → Value) : List (CompactionSource Value) :=
  input.entries.map fun entry =>
    entry.1.fill input.columns fun column row => values column (entry.2, row)

def width : Nat :=
  (input.segments.map fun shape => shape.sizes.length).foldl max 0

def total (index : Nat) : Nat :=
  (input.segments.map fun shape => shape.size index).sum

/-- Some segment has a batch without visibility columns at the index. -/
def VisibleAt (index : Nat) : Prop :=
  ∃ shape ∈ input.segments, shape.Uncovered index

instance (index : Nat) : Decidable (input.VisibleAt index) :=
  inferInstanceAs (Decidable (∃ shape ∈ _, _))

def rowsAt (entry : SegmentShape × Nat) (index : Nat) : List (Nat × Nat) :=
  (entry.1.rowsOf index).map fun row => (entry.2, row)

/-- The rows that one round of the merge writes to a column. -/
def columnRowsAt (index : Nat) : List (Nat × Nat) :=
  if input.VisibleAt index then
    input.entries.flatMap fun entry =>
      if input.total index = entry.1.size index then rowsAt entry index
      else []
  else []

/-- The rows that the merge writes to a column. -/
def columnRows : List (Nat × Nat) :=
  (List.range input.width).flatMap input.columnRowsAt

/-- What reaches the visibility file from a batch index: a record for each row
of a batch without visibility columns. -/
def visCountAt (index : Nat) : Nat :=
  (input.segments.map fun shape => if shape.Uncovered index then shape.size index else 0).sum

def visCount : Nat :=
  ((List.range input.width).map input.visCountAt).sum

variable {input}

variable {front back : List SegmentShape} {shape : SegmentShape}

section

variable {index : Nat} (split : input.segments = front ++ shape :: back)
    (all : input.total index = shape.size index)
include split all

lemma size_eq_zero_of_total :
    (∀ other ∈ front, other.size index = 0) ∧ ∀ other ∈ back, other.size index = 0 := by
  have sums : (front.map fun shape => shape.size index).sum +
      (back.map fun shape => shape.size index).sum = 0 := by
    rw [total, split, map_append, sum_append, map_cons, sum_cons] at all
    omega
  refine ⟨fun other mem => ?_, fun other mem => ?_⟩
  · have bound := le_sum_of_mem (mem_map_of_mem (f := fun shape => shape.size index) mem)
    omega
  · have bound := le_sum_of_mem (mem_map_of_mem (f := fun shape => shape.size index) mem)
    omega

lemma uncovered_of_total (visible : input.VisibleAt index) : shape.Uncovered index := by
  obtain ⟨other, mem, uncovered⟩ := visible
  obtain ⟨before, after⟩ := size_eq_zero_of_total split all
  rw [split, mem_append, mem_cons] at mem
  rcases mem with old | rfl | later
  · exact absurd (before other old) uncovered.1.ne'
  · exact uncovered
  · exact absurd (after other later) uncovered.1.ne'

end

lemma exists_split_of_mem_entries (mem : entry ∈ input.entries) :
    ∃ front back, input.segments = front ++ entry.1 :: back := by
  have member : entry.1 ∈ input.segments := by
    have found := mem_zipIdx_iff_getElem?.mp mem
    exact mem_of_getElem? found
  exact append_of_mem member

lemma map_entries (change : SegmentShape → Result) :
    (input.entries.map fun entry => change entry.1) = input.segments.map change := by
  have shapes : input.entries.map Prod.fst = input.segments := by simp [entries]
  calc
    _ = (input.entries.map Prod.fst).map change := by
      rw [map_map]
      rfl
    _ = _ := by rw [shapes]

section Masks

variable {Value : Type} {index : Nat}

lemma mask_ok {cols : List String} (ne : cols ≠ []) {vals : String → Nat → Value} {mask : List Bool}
    (made : (⟨shape.vis.getD [], cols.map fun col => (col, shape.batches (vals col))⟩
      : SegmentReaders Value).mask createdPlace index = .ok mask) :
    mask = List.replicate (shape.size index) (!decide (shape.Covered index)) := by
  rw [SegmentReaders.mask, shape.batchRows_eq ne] at made
  by_cases covered : shape.Covered index
  · rw [aliveMask_covered covered made]
    simp [covered]
  · have none : (shape.visBatch index).bind VisBatch.extractVisibilityColumns = none := by
      simpa [SegmentShape.Covered] using covered
    have marked : aliveMask createdPlace (shape.vis.getD [])[index]?
        (shape.size index) = .ok (List.replicate (shape.size index) true) :=
      aliveMask_uncovered createdPlace none _
    rw [marked] at made
    cases made
    simp [covered]

variable (input)

def readers (values : String → Nat × Nat → Value) : List (SegmentReaders Value) :=
  input.entries.map fun entry =>
    ⟨entry.1.vis.getD [], input.columns.map fun column =>
      (column, entry.1.batches fun row => values column (entry.2, row))⟩

def masksAt (index : Nat) : List (List Bool) :=
  input.segments.map fun shape => List.replicate (shape.size index) (!decide (shape.Covered index))

variable {input}

lemma masks_ok (ne : input.columns ≠ []) {vals : String → Nat × Nat → Value}
    {masks : List (List Bool)}
    (made : ((input.readers vals).mapM fun seg => seg.mask createdPlace index) = .ok
      masks) : masks = input.masksAt index := by
  have each := mapM_eq_ok_iff.mp made
  rw [readers, forall₂_map_left_iff] at each
  have same : List.Forall₂ (fun (entry : SegmentShape × Nat) mask =>
      List.replicate (entry.1.size index)
        (!decide (entry.1.Covered index)) = mask) input.entries masks :=
    each.imp fun entry mask made => (mask_ok ne made).symm
  have whole : (input.entries.map fun entry =>
      List.replicate (entry.1.size index)
        (!decide (entry.1.Covered index))) = masks := by
    rw [← forall₂_eq_eq_eq]
    exact forall₂_map_left_iff.mpr same
  rw [← whole, masksAt]
  exact map_entries fun shape => List.replicate (shape.size index) (!decide (shape.Covered index))

lemma all_masksAt_iff : (input.masksAt index).flatten.all (! ·) = true ↔
      ¬ input.VisibleAt index := by
  rw [all_eq_true]
  constructor
  · rintro none ⟨shape, mem, ne, uncovered⟩
    have marked := none true (mem_flatten.mpr ⟨_, mem_map_of_mem mem, by simp [uncovered, ne.ne']⟩)
    simp at marked
  · intro hidden bit mem
    obtain ⟨mask, listed, inside⟩ := mem_flatten.mp mem
    obtain ⟨shape, member, rfl⟩ := mem_map.mp listed
    obtain ⟨ne, rfl⟩ := mem_replicate.mp inside
    by_contra marked
    refine hidden ⟨shape, member, Nat.pos_of_ne_zero ne, ?_⟩
    simpa using marked

lemma flatten_masksAt (mem : entry ∈ input.entries)
    (all : input.total index = entry.1.size index) (visible : input.VisibleAt index) :
    (input.masksAt index).flatten = List.replicate (entry.1.size index) true := by
  obtain ⟨front, back, split⟩ := exists_split_of_mem_entries mem
  obtain ⟨before, after⟩ := size_eq_zero_of_total split all
  have uncovered := uncovered_of_total split all visible
  have empty (shapes : List SegmentShape) (none : ∀ shape ∈ shapes, shape.size index = 0) :
      (shapes.map fun shape => List.replicate (shape.size index)
        (!decide (shape.Covered index))).flatten = [] := by
    rw [flatten_eq_nil_iff]
    intro mask listed
    obtain ⟨shape, member, rfl⟩ := mem_map.mp listed
    rw [none shape member, replicate_zero]
  rw [masksAt, split, map_append, map_cons, flatten_append,
    flatten_cons, empty front before, empty back after]
  simp [uncovered.2]

lemma length_flatten_masksAt (index : Nat) :
    (input.masksAt index).flatten.length = input.total index := by
  simp [masksAt, total, length_flatten, Function.comp_def]

end Masks

section Merge

variable {Value : Type} {values : String → Nat × Nat → Value} {index : Nat}

lemma length_keptRecords_mask
    (recorded : keptRecords (shape.vis.getD [])[index]? (List.replicate (shape.size index) (!decide
      (shape.Covered index))) = .ok recs) : recs.length =
      if shape.Uncovered index then shape.size index else 0 := by
  by_cases covered : shape.Covered index
  · rw [if_neg fun uncovered => uncovered.2 covered]
    have nothing : selected (List.range (shape.size index))
        (List.replicate (shape.size index) false) = [] := by
      refine filterMap_eq_nil_iff.mpr fun entry mem => ?_
      have bit := (of_mem_zip mem).2
      rw [(mem_replicate.mp bit).2]
      rfl
    simp only [keptRecords, covered, decide_true, Bool.not_true,
      length_replicate, nothing] at recorded
    cases recorded
    rfl
  · simp only [covered, decide_false, Bool.not_false] at recorded
    rw [length_keptRecords recorded]
    split
    · rfl
    · next empty =>
        by_contra ne
        exact empty ⟨Nat.pos_of_ne_zero ne, covered⟩

lemma mergeVis_ok (ne : input.columns ≠ []) {before after : List (List (Nat × Nat))}
    (merges : mergeVis (input.readers values) before index = .ok after) :
    (after = before ∧ ¬ input.VisibleAt index) ∨ (∃ recs, after = before ++ [recs] ∧
        recs.length = input.visCountAt index ∧ input.VisibleAt index) := by
  obtain ⟨masks, made, merges⟩ := bind_eq_ok.mp merges
  obtain rfl := masks_ok ne made
  split at merges
  · next hidden =>
      cases merges
      exact .inl ⟨rfl, all_masksAt_iff.mp hidden⟩
  · next visible =>
      obtain ⟨recs, recorded, merges⟩ := bind_eq_ok.mp merges
      cases merges
      refine .inr ⟨_, rfl, ?_, not_not.mp (mt all_masksAt_iff.mpr visible)⟩
      have masks : input.masksAt index = input.entries.map fun entry =>
          List.replicate (entry.1.size index)
            (!decide (entry.1.Covered index)) := (map_entries _).symm
      have each := mapM_eq_ok_iff.mp recorded
      rw [masks, readers, zip_map', forall₂_map_left_iff] at each
      have lengths : (input.entries.map fun entry =>
          if entry.1.Uncovered index then entry.1.size index else 0) =
            recs.map List.length := by
        rw [← forall₂_eq_eq_eq, forall₂_map_left_iff, forall₂_map_right_iff]
        exact each.imp fun entry record made => (length_keptRecords_mask made).symm
      rw [length_flatten, ← lengths, visCountAt]
      exact congrArg List.sum (map_entries fun shape =>
        if shape.Uncovered index then shape.size index else 0)

lemma size_le_total (mem : entry ∈ input.entries) (index : Nat) :
    entry.1.size index ≤ input.total index := by
  obtain ⟨front, back, split⟩ := exists_split_of_mem_entries mem
  refine le_sum_of_mem (mem_map_of_mem ?_)
  rw [split]
  simp

variable (input) (values) in
def columnBatchesAt (column : String) (index : Nat) : List (List Value) :=
  if input.VisibleAt index then
    input.entries.filterMap fun entry =>
      if 0 < entry.1.size index ∧ input.total index = entry.1.size index then
        some ((rowsAt entry index).map (values column))
      else none
  else []

lemma ne_nil_of_mem_columnBatchesAt
    (mem : batch ∈ input.columnBatchesAt values col index) : batch ≠ [] := by
  unfold columnBatchesAt at mem
  split at mem
  · obtain ⟨entry, _, made⟩ := mem_filterMap.mp mem
    split at made
    · next ne =>
        cases made
        rw [← length_pos_iff, length_map, rowsAt, length_map, length_rowsOf]
        exact ne.1
    · cases made
  · cases mem

lemma mergeColumn_eq {filter column} (listed : column ∈ input.columns)
    (visible : input.VisibleAt index) (content) : mergeColumn filter (input.readers values) index
        (input.masksAt index).flatten ⟨column, content⟩ =
      ⟨column, content ++ input.columnBatchesAt values column index⟩ := by
  rw [mergeColumn, readers, filterMap_map, columnBatchesAt, if_pos visible]
  congr 2
  refine filterMap_congr fun entry mem => ?_
  have found : (input.columns.map fun column => (column,
      entry.1.batches fun row => values column (entry.2, row))).find?
        (fun other => decide (other.1 = column)) =
      some (column, entry.1.batches fun row => values column (entry.2, row)) := by
    have first : input.columns.find? (fun other => decide (other = column)) =
        some column := by
      have some : (input.columns.find? fun other => decide (other = column)).isSome :=
        find?_isSome.mpr ⟨column, listed, by simp⟩
      obtain ⟨other, here⟩ := Option.isSome_iff_exists.mp some
      have same : other = column := by simpa using find?_some here
      rw [here, same]
    rw [find?_map, Function.comp_def]
    dsimp only
    rw [first]
    rfl
  simp only [Function.comp_apply, found, getElem?_batches]
  by_cases filled : 0 < entry.1.size index
  · have inside : index < entry.1.sizes.length := by
      by_contra outside
      have empty := entry.1.size_eq_zero (Nat.le_of_not_lt outside)
      omega
    have rows : ((entry.1.rowsOf index).map fun row =>
        values column (entry.2, row)) =
          (rowsAt entry index).map (values column) := by
      rw [rowsAt, map_map]
      rfl
    have length : ((rowsAt entry index).map (values column)).length = entry.1.size index := by
      simp [rowsAt]
    have ne : ((rowsAt entry index).map (values column)).isEmpty = false := by
      rw [isEmpty_eq_false_iff, ← length_pos_iff, length]
      exact filled
    simp only [inside, if_true, rows, ne, Bool.false_eq_true, if_false, filled, true_and]
    by_cases all : input.total index = entry.1.size index
    · have whole := selected_replicate_true ((rowsAt entry index).map (values column))
      rw [length] at whole
      rw [if_pos all, flatten_masksAt mem all visible,
        filter.filter_aligned (by simp [length]), whole, Option.filter_some,
        ne]
      rfl
    · have longer := size_le_total mem index
      rw [if_neg all, filter.filter_longer]
      · rfl
      · rw [length, length_flatten_masksAt]
        omega
  · have empty : (entry.1.rowsOf index) = [] := by
      rw [← length_eq_zero_iff, length_rowsOf]
      omega
    simp only [filled, false_and, if_false, empty, map_nil]
    by_cases inside : index < entry.1.sizes.length <;> simp [inside]

variable {indices : List Nat}

lemma mergeBatches_ok (ne : input.columns ≠ []) {filter : ArrowFilter}
    {writers : List (PerColWriter Value)}
    (merges : indices.foldlM (mergeBatch filter (input.readers values)) (input.columns.map fun
      col => ⟨col, []⟩) = .ok writers) : writers = input.columns.map fun col =>
      ⟨col, indices.flatMap (input.columnBatchesAt values col)⟩ := by
  refine foldlM_establishes
    (fun done writers => writers = input.columns.map fun col =>
      (⟨col, done.flatMap (input.columnBatchesAt values col)⟩ : PerColWriter Value))
    (fun done index rest before next _ holds step => ?_) merges rfl
  obtain ⟨masks, made, step⟩ := bind_eq_ok.mp step
  obtain rfl := masks_ok ne made
  split at step
  · next hidden =>
      cases step
      rw [holds]
      refine map_congr_left fun col _ => ?_
      rw [flatMap_append, flatMap_singleton, columnBatchesAt,
        if_neg (all_masksAt_iff.mp hidden), append_nil]
  · next visible =>
      cases step
      rw [holds, map_map]
      refine map_congr_left fun col mem => ?_
      rw [Function.comp_apply, mergeColumn_eq mem (not_not.mp (mt all_masksAt_iff.mpr visible)),
        flatMap_append, flatMap_singleton]

lemma flatten_columnBatchesAt (col) (indices : List Nat) :
    (indices.flatMap (input.columnBatchesAt values col)).flatten =
      (indices.flatMap input.columnRowsAt).map (values col) := by
  have at_index (index : Nat) :
      (input.columnBatchesAt values col index).flatten =
        (input.columnRowsAt index).map (values col) := by
    unfold columnBatchesAt columnRowsAt
    split
    · induction input.entries with
      | nil => rfl
      | cons entry entries ih =>
        have empty (none : ¬ 0 < entry.1.size index) : rowsAt entry index = [] := by
          rw [← length_eq_zero_iff, rowsAt, length_map, length_rowsOf]
          omega
        rw [filterMap_cons, flatMap_cons, map_append, ← ih]
        by_cases ne : 0 < entry.1.size index <;>
          by_cases all : input.total index = entry.1.size index <;>
            simp [ne, all, empty]
    · rfl
  induction indices with
  | nil => rfl
  | cons index indices ih =>
    rw [flatMap_cons, flatten_append, at_index, ih, flatMap_cons, map_append]

lemma visCountAt_pos (visible : input.VisibleAt index) : 0 < input.visCountAt index := by
  obtain ⟨shape, mem, uncovered⟩ := visible
  have bound := le_sum_of_mem (mem_map_of_mem
    (f := fun shape : SegmentShape => if shape.Uncovered index then shape.size index else 0) mem)
  rw [if_pos uncovered] at bound
  exact lt_of_lt_of_le uncovered.1 bound

lemma visCountAt_eq_zero (hidden : ¬ input.VisibleAt index) : input.visCountAt index = 0 := by
  refine sum_eq_zero fun count mem => ?_
  obtain ⟨shape, listed, rfl⟩ := mem_map.mp mem
  exact if_neg fun uncovered => hidden ⟨shape, listed, uncovered⟩

lemma mergeVisBatches_ok (ne : input.columns ≠ [])
    (merges : indices.foldlM (mergeVis (input.readers values)) [] = .ok newVis) :
    (∀ batch ∈ newVis, batch ≠ []) ∧
      (newVis.map List.length).sum = (indices.map input.visCountAt).sum := by
  refine foldlM_establishes
    (fun done (newVis : List (List (Nat × Nat))) =>
      (∀ batch ∈ newVis, batch ≠ []) ∧
        (newVis.map List.length).sum = (done.map input.visCountAt).sum)
    (fun done index rest before next _ holds step => ?_) merges
    ⟨by simp, rfl⟩
  rw [map_append, sum_append, map_singleton, sum_singleton, ← holds.2]
  rcases mergeVis_ok ne step with ⟨rfl, hidden⟩ | ⟨recs, rfl, count, visible⟩
  · rw [visCountAt_eq_zero hidden]
    exact ⟨holds.1, rfl⟩
  · refine ⟨fun batch mem => ?_, by simp [count]⟩
    rcases mem_append.mp mem with old | last
    · exact holds.1 batch old
    · rw [mem_singleton.mp last, ← length_pos_iff, count]
      exact visCountAt_pos visible

variable {filter : ArrowFilter} {codec : VortexCodec Value}
  {visCodec : VortexCodec Nat} {cfg : PdtMergeConfig}
  {environment : CompactionEnvironment} {merged : CompactedSegment}

variable (input values codec visCodec merged) in
/-- What the merged segment has. -/
def Merged : Prop :=
  input.columns ≠ [] ∧ (∀ column ∈ input.columns, readRows codec merged.files (colPath column) =
      .ok (input.columnRows.map (values column))) ∧
    (∃ created, readRows visCodec merged.files visPath = .ok created ∧
      created.length = input.visCount) ∧
    merged.rowCount = (input.segments.map SegmentShape.aliveRowCount).sum

lemma readers_eq : ((input.fill values).map fun source =>
      (⟨source.visBatches, source.colBatches⟩ : SegmentReaders Value)) = input.readers values := by
  rw [fill, readers, map_map]
  refine map_congr_left fun entry _ => ?_
  rw [Function.comp_apply, visBatches_fill, colBatches_fill]

lemma width_eq (ne : input.columns ≠ []) : ((input.readers values).map fun seg =>
      CompactionSource.numBatches seg.colBatches).foldl max 0 = input.width := by
  rw [readers, map_map, width, ← map_entries]
  congr 1
  exact map_congr_left fun entry _ => entry.1.numBatches_eq ne _

lemma mergeSegments_ok (ran : mergeSegments filter codec visCodec env input.columns
      (input.fill values) = .ok merged) : Merged input values codec visCodec merged := by
  unfold mergeSegments at ran
  split at ran
  · cases ran
  · rw [readers_eq] at ran
    dsimp only at ran
    split at ran
    · cases ran
    · next batched =>
        have ne : input.columns ≠ [] := by
          intro empty
          refine batched ?_
          refine Nat.le_zero.mp (foldl_max_le_iff.mpr ⟨le_rfl, fun count mem => ?_⟩)
          obtain ⟨seg, listed, rfl⟩ := mem_map.mp mem
          obtain ⟨entry, _, rfl⟩ := mem_map.mp listed
          simp [empty, CompactionSource.numBatches]
        rw [width_eq ne] at ran
        obtain ⟨_, _, ran⟩ := bind_eq_ok.mp ran
        obtain ⟨newVis, vis, ran⟩ := bind_eq_ok.mp ran
        obtain ⟨visFiles, writes, ran⟩ := bind_eq_ok.mp ran
        obtain ⟨writers, merges, ran⟩ := bind_eq_ok.mp ran
        obtain ⟨files, finishes, ran⟩ := bind_eq_ok.mp ran
        obtain ⟨_, _, ran⟩ := bind_eq_ok.mp ran
        cases ran
        have apart : ∀ col ∈ input.columns, colPath col ≠ visPath :=
          fun col mem => colPath_ne_visPath fun same => input.reserved (same ▸ mem)
        obtain ⟨filled, counts⟩ := mergeVisBatches_ok ne vis
        obtain ⟨⟨created, visRead, count⟩, rest⟩ := writeVis_ok filled (by simp) writes
        obtain rfl := mergeBatches_ok ne merges
        obtain ⟨read, elsewhere⟩ := finishWriters_ok
          (fun col => (List.range input.width).flatMap (input.columnBatchesAt values col))
          (fun col batch mem => by
            obtain ⟨index, _, listed⟩ := mem_flatMap.mp mem
            exact ne_nil_of_mem_columnBatchesAt listed) finishes
          (fun col mem => by
            rw [rest _ (apart col mem).symm]
            simp)
        refine ⟨ne, fun col mem => ?_, ⟨created, ?_, ?_⟩, ?_⟩
        · rw [read col mem, flatten_columnBatchesAt, columnRows]
        · rw [readRows, elsewhere visPath apart]
          exact visRead
        · rw [count, counts, visCount]
        · rw [fill, map_map, ← map_entries]
          rfl

lemma columnRows_single (cols)
    (reserved : "__vis" ∉ cols) (shape : SegmentShape) :
    let kept := keptAmong shape (List.range shape.sizes.length)
    columnRows ⟨cols, reserved, [shape]⟩ =
        (kept.flatMap shape.rowsOf).map (fun row => (0, row)) ∧
      visCount ⟨cols, reserved, [shape]⟩ =
        (kept.flatMap shape.rowsOf).length := by
  have filtered {Item : Type} (part : Nat → List Item) (indices : List Nat) :
      (keptAmong shape indices).flatMap part =
        indices.flatMap fun index => if shape.Uncovered index then part index else [] := by
    induction indices with
    | nil => rfl
    | cons index indices ih =>
      rw [flatMap_cons, ← ih, keptAmong]
      by_cases uncovered : shape.Uncovered index <;>
        simp [uncovered, keptAmong]
  have bound : width ⟨cols, reserved, [shape]⟩ = shape.sizes.length := by simp [width]
  dsimp only
  refine ⟨?_, ?_⟩
  · rw [map_flatMap, filtered, columnRows, bound]
    refine flatMap_congr fun index _ => ?_
    simp [columnRowsAt, total, VisibleAt, entries, rowsAt]
  · rw [filtered, length_flatMap, visCount, bound]
    refine congrArg List.sum (map_congr_left fun index _ => ?_)
    rw [visCountAt, map_singleton, sum_singleton]
    split <;> simp

lemma multiwayMerge_ok (ran : multiwayMerge filter codec visCodec cfg env
      (input.fill values) = .ok merged) : Merged input values codec visCodec merged := by
  obtain ⟨cols, reserved, segments⟩ := input
  match segments with
  | [] => cases ran
  | [shape] =>
    have compacts : compactSegment filter codec visCodec cfg env
        (shape.fill cols fun col row => values col (0, row)) =
          .ok merged := ran
    obtain ⟨ne, read, ⟨created, visRead, count⟩, _, rows⟩ :=
      compactSegment_ok reserved compacts
    obtain ⟨same, counted⟩ := columnRows_single cols reserved shape
    refine ⟨ne, fun col mem => ?_, ⟨created, visRead, ?_⟩, ?_⟩
    · rw [read col mem, same, map_map]
      rfl
    · rw [count, counted]
    · simpa using rows
  | first :: second :: rest => exact mergeSegments_ok ran

end Merge

end MergeInput

end RockDuck
