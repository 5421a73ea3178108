import RockDuck.SegmentCompaction

/-!
# What a compaction writes

The input of a compaction is given by the sizes of its batches, its visibility
batches and the values of its rows.
-/

namespace RockDuck

open List

lemma foldl_max_le_iff {counts : List Nat} : counts.foldl max start ≤ bound ↔
      start ≤ bound ∧ ∀ count ∈ counts, count ≤ bound := by
  induction counts generalizing start with
  | nil => simp
  | cons count counts ih => simp [ih, and_assoc]

/-- A segment without the values of its rows.  All columns have the same
batches, given by their sizes; the visibility batches go with them by place. -/
structure SegmentShape where
  segId : String
  directoryText : String
  hasDirectory : Bool
  sizes : List Nat
  vis : Option (List VisBatch)
  deltavis : List (Nat × TxnId)
  rowCount : Nat
  aliveRowCount : Nat

namespace SegmentShape

/-- The rows of a batch. -/
def size (shape : SegmentShape) (index : Nat) : Nat :=
  shape.sizes.getD index 0

/-- The numbers of the rows of a batch. -/
def rowsOf (shape : SegmentShape) (index : Nat) : List Nat :=
  (List.range (shape.size index)).map ((shape.sizes.take index).sum + ·)

variable (shape : SegmentShape)

@[simp]
lemma length_rowsOf (index : Nat) : (shape.rowsOf index).length = shape.size index := by
  simp [rowsOf]

def visBatch (shape : SegmentShape) (index : Nat) : Option VisBatch :=
  (shape.vis.getD [])[index]?

/-- The batch has a visibility batch with its two columns. -/
def Covered (shape : SegmentShape) (index : Nat) : Prop :=
  ((shape.visBatch index).bind VisBatch.extractVisibilityColumns).isSome

instance (shape : SegmentShape) (index : Nat) : Decidable (shape.Covered index) :=
  inferInstanceAs (Decidable (_ = true))

/-- The batch has rows and no visibility columns. -/
def Uncovered (shape : SegmentShape) (index : Nat) : Prop :=
  0 < shape.size index ∧ ¬ shape.Covered index

instance (shape : SegmentShape) (index : Nat) : Decidable (shape.Uncovered index) :=
  inferInstanceAs (Decidable (_ ∧ _))

variable {Value : Type}

/-- The values of a column, batch by batch. -/
def batches (shape : SegmentShape) (values : Nat → Value) : List (List Value) :=
  (List.range shape.sizes.length).map fun index => (shape.rowsOf index).map values

/-- A source of the shape, with the given values. -/
def fill (shape : SegmentShape) (columns : List String)
    (values : String → Nat → Value) : CompactionSource Value where
  segId := shape.segId
  directoryText := shape.directoryText
  hasDirectory := shape.hasDirectory
  columns := columns
  rowCount := shape.rowCount
  aliveRowCount := shape.aliveRowCount
  image :=
    { columnBatches := fun column =>
        if column ∈ columns then some (.ok (shape.batches (values column)))
        else none
      vis := shape.vis.map .ok
      visPathText := shape.directoryText ++ "/" ++ visPath
      deltavis := some (.ok shape.deltavis) }

section

variable (shape : SegmentShape) (columns : List String) (vals : String → Nat → Value)

lemma visBatches_fill : (shape.fill columns vals).visBatches = shape.vis.getD [] := by
  unfold CompactionSource.visBatches fill
  cases shape.vis <;> rfl

lemma colBatches_fill : (shape.fill columns vals).colBatches =
      columns.map fun col => (col, shape.batches (vals col)) := by
  refine Eq.trans (filterMap_congr (g := fun col => some (col, shape.batches (vals col)))
    fun col mem => ?_) (congrFun filterMap_eq_map' _)
  have listed : col ∈ columns := mem
  simp [fill, listed]

end

lemma getElem?_batches (vals : Nat → Value) (idx : Nat) : (shape.batches vals)[idx]? =
      if idx < shape.sizes.length then some ((shape.rowsOf idx).map vals)
      else none := by
  by_cases mem : idx < shape.sizes.length <;>
    simp [batches, mem]

lemma size_eq_zero (outside : shape.sizes.length ≤ idx) : shape.size idx = 0 := by
  simp [size, outside]

section

variable (shape : SegmentShape) {cols : List String} (nonempty : cols ≠ [])
    (vals : String → Nat → Value)
include nonempty

lemma batchRows_eq (index : Nat) :
    CompactionSource.batchRows (cols.map fun col => (col, shape.batches (vals col)))
        index = shape.size index := by
  obtain ⟨first, rest, rfl⟩ := exists_cons_of_ne_nil nonempty
  simp only [CompactionSource.batchRows, map_cons, head?_cons, Option.bind_some, getElem?_batches]
  split
  · simp
  · next outside => simp [shape.size_eq_zero (Nat.le_of_not_lt outside)]

lemma numBatches_eq : CompactionSource.numBatches
        (cols.map fun col => (col, shape.batches (vals col))) = shape.sizes.length := by
  have each : ∀ count ∈ (cols.map fun col =>
      (col, shape.batches (vals col))).map
        (fun col => col.2.length), count = shape.sizes.length := by
    simp [batches]
  obtain ⟨first, rest, rfl⟩ := exists_cons_of_ne_nil nonempty
  refine le_antisymm (foldl_max_le_iff.mpr ⟨Nat.zero_le _, fun count mem => (each count mem).le⟩) ?_
  exact (foldl_max_le_iff.mp le_rfl).2 _ (by simp [batches])

end

end SegmentShape

lemma selected_replicate_true (rows : List Value) :
    selected rows (List.replicate rows.length true) = rows := by
  induction rows with
  | nil => rfl
  | cons row rows ih =>
    simp only [selected, length_cons, replicate_succ, zip_cons_cons, filterMap_cons, if_true]
    exact congrArg (row :: ·) ih

lemma aliveMask_uncovered (createdPlace) {vis : Option VisBatch}
    (uncovered : vis.bind VisBatch.extractVisibilityColumns = none) (rows : Nat) :
    aliveMask createdPlace vis rows = .ok (List.replicate rows true) := by
  have alive (row : Nat) : rowAlive createdPlace vis row = .ok true := by
    unfold rowAlive
    cases vis with
    | none => rfl
    | some batch => rw [Option.bind_some] at uncovered; simp [uncovered]
  rw [aliveMask, mapM_eq_ok_iff, forall₂_iff_get]
  refine ⟨by simp, fun idx _ mem => ?_⟩
  rw [alive]
  simp

lemma aliveMask_covered {vis : Option VisBatch}
    (covered : (vis.bind VisBatch.extractVisibilityColumns).isSome)
    (made : aliveMask createdPlace vis rows = .ok mask) : mask = List.replicate rows false := by
  have each := mapM_eq_ok_iff.mp made
  have length : mask.length = rows := by simpa using each.length_eq.symm
  refine eq_replicate_iff.mpr ⟨length, fun bit mem => ?_⟩
  obtain ⟨row, _, decided⟩ := exists_mem_of_mapM_eq_ok made mem
  cases vis with
  | none => simp at covered
  | some batch =>
    obtain ⟨cols, extracted⟩ := Option.isSome_iff_exists.mp covered
    rw [Option.bind_some] at extracted
    simp only [rowAlive, extracted, bind_eq_ok] at decided
    obtain ⟨deleted, _, created, _, shown⟩ := decided
    rw [compactionShows_eq_false] at shown
    exact (Except.ok.inj shown).symm

lemma length_keptRecords
    (made : keptRecords vis (List.replicate rows true) = .ok recs) : recs.length = rows := by
  have all := selected_replicate_true (List.range rows)
  rw [length_range] at all
  rw [keptRecords, length_replicate, all] at made
  simpa using (mapM_eq_ok_iff.mp made).length_eq.symm

section Files

variable {Value : Type} {codec : VortexCodec Value} {files after : Std.ExtTreeMap String Bytes}

lemma writeBatches_ok {batches : List (List Value)} (ne : batches.flatten ≠ [])
    (writes : writeBatches codec faults path files batches = .ok after) :
    readRows codec after path = .ok batches.flatten ∧
      ∀ other, path ≠ other → after[other]? = files[other]? := by
  unfold writeBatches at writes
  split at writes
  · simp at writes
  · next finished =>
      obtain ⟨bytes, absent, _⟩ := VortexWriter.finish_ofBatches ne
        (VortexWriter.length_lt_of_finish_ofBatches finished) finished
      cases absent
  · next bytes total finished =>
      cases writes
      obtain ⟨stored, same, decodes⟩ := VortexWriter.finish_ofBatches ne
        (VortexWriter.length_lt_of_finish_ofBatches finished) finished
      cases same
      refine ⟨by simp [readRows, decodes], fun other differ => ?_⟩
      simp [Std.ExtTreeMap.getElem?_insert, differ]

lemma finishWriters_ok {cols : List String}
    (content : String → List (List Value)) (filled : ∀ col, ∀ batch ∈ content col, batch ≠ [])
    (finishes : (cols.map fun col => (⟨col, content col⟩ : PerColWriter Value)).foldlM
      (finishWriter codec disk) files = .ok after)
    (fresh : ∀ col ∈ cols, files[colPath col]? = none) : (∀ col ∈ cols,
        readRows codec after (colPath col) = .ok (content col).flatten) ∧
      ∀ path, (∀ col ∈ cols, colPath col ≠ path) → after[path]? = files[path]? := by
  have unwritten (col : String) (current : Std.ExtTreeMap String Bytes)
      (empty : content col = []) (absent : current[colPath col]? = none) :
      readRows codec current (colPath col) =
        .ok (content col).flatten := by
    simp [readRows, absent, empty]
  obtain ⟨written, _, elsewhere⟩ := foldlM_establishes
    (fun done current =>
      (∀ writer ∈ done, readRows codec current (colPath writer.colName) =
        .ok (content writer.colName).flatten) ∧
      (∀ col ∈ cols, content col = [] → current[colPath col]? = none) ∧
      ∀ path, (∀ col ∈ cols, colPath col ≠ path) →
        current[path]? = files[path]?)
    (fun done writer rest before next whole holds finish => by
      obtain ⟨read, absent, kept⟩ := holds
      have listed : writer ∈ cols.map fun col =>
          (⟨col, content col⟩ : PerColWriter Value) := by
        rw [whole]
        simp
      obtain ⟨col, mem, rfl⟩ := mem_map.mp listed
      unfold finishWriter at finish
      cases empty : content col with
      | nil =>
        simp only [empty, isEmpty_nil, if_true] at finish
        cases finish
        refine ⟨fun other member => ?_, absent, kept⟩
        rcases mem_append.mp member with old | last
        · exact read other old
        · obtain rfl := mem_singleton.mp last
          exact unwritten col _ empty (absent col mem empty)
      | cons batch batches =>
        have ne : (content col).flatten ≠ [] := by
          have first := filled col batch (by simp [empty])
          simp [empty, first]
        rw [if_neg (by simp [empty])] at finish
        obtain ⟨here, others⟩ := writeBatches_ok ne finish
        refine ⟨fun other member => ?_, fun other member none => ?_, fun path differ => ?_⟩
        · by_cases same : col = other.colName
          · rw [← same]
            exact here
          · have old : other ∈ done := by
              rcases mem_append.mp member with old | last
              · exact old
              · obtain rfl := mem_singleton.mp last
                exact absurd rfl same
            have path : colPath col ≠ colPath other.colName :=
              fun equal => same (colPath_injective equal)
            rw [readRows, others _ path]
            exact read other old
        · have differ : col ≠ other := by
            rintro rfl
            rw [empty] at none
            cases none
          rw [others _ fun equal => differ (colPath_injective equal)]
          exact absent other member none
        · rw [others path (differ col mem)]
          exact kept path differ)
    finishes
    ⟨fun _ member => by simp at member, fun col mem _ => fresh col mem, fun _ _ => rfl⟩
  refine ⟨fun col mem => ?_, elsewhere⟩
  exact written ⟨col, content col⟩ (mem_map.mpr ⟨col, mem, rfl⟩)

end Files

section CompactSegment

variable {Value : Type}

lemma modify_length_append (front rest)
    (item : Item) (change) : (front ++ item :: rest).modify front.length change =
      front ++ change item :: rest := by
  induction front with
  | nil => rfl
  | cons first front ih => simp [ih]

variable {front after : List (PerColWriter Value)} {index : Nat}
    {files : Std.ExtTreeMap String Bytes}

lemma pushFiltered_ok {back : List (PerColWriter Value)}
    (named : ∀ writer ∈ back.head?, writer.colName = col)
    (pushes : pushFiltered front.length col filtered (front ++ back) = .ok after) :
    after = front ++ ⟨col, (back.head?.map PerColWriter.batches).getD [] ++
      [filtered]⟩ :: back.tail := by
  cases back with
  | nil =>
    simp only [pushFiltered, append_nil, Nat.le_refl, if_true,
      length_append, length_singleton, Nat.lt_succ_self] at pushes
    cases pushes
    exact modify_length_append front [] ⟨col, []⟩ _
  | cons writer back =>
    have short : ¬ (front ++ writer :: back).length ≤ front.length := by simp
    have mem : front.length < (front ++ writer :: back).length := by simp
    simp only [pushFiltered, short, if_false, mem, if_true] at pushes
    cases pushes
    rw [modify_length_append]
    have same := named writer (by simp)
    simp [← same]

/-- The writers after some batches were kept. -/
def writersAfter (shape : SegmentShape) (columns : List String)
    (values : String → Nat → Value) (kept : List Nat) : List (PerColWriter Value) :=
  if kept.isEmpty then []
  else columns.map fun column =>
    ⟨column, kept.map fun index => (shape.rowsOf index).map (values column)⟩

variable {filter : ArrowFilter} {env : CompactionEnvironment}
  {shape : SegmentShape} {cols : List String}
  {vals : String → Nat → Value}

lemma compactColumn_ok (uncovered : shape.Uncovered index)
    (compacts : compactColumn filter env index (List.replicate (shape.size index) true)
      before ((col, shape.batches (vals col)), place) = .ok after) :
    pushFiltered place col ((shape.rowsOf index).map (vals col)) before = .ok after := by
  have mem : index < shape.sizes.length := by
    by_contra outside
    have empty := shape.size_eq_zero (Nat.le_of_not_lt outside)
    exact absurd uncovered.1 (by omega)
  have filtered : filter.filterRecordBatch ((shape.rowsOf index).map (vals col))
      (List.replicate (shape.size index) true) =
        some ((shape.rowsOf index).map (vals col)) := by
    rw [filter.filter_aligned (by simp)]
    have all := selected_replicate_true ((shape.rowsOf index).map (vals col))
    rw [length_map, SegmentShape.length_rowsOf] at all
    rw [all]
  have ne : ((shape.rowsOf index).map (vals col)).isEmpty = false := by
    rw [isEmpty_eq_false_iff, ← length_pos_iff]
    simpa using uncovered.1
  simp only [compactColumn, SegmentShape.getElem?_batches, mem, if_true,
    filtered, ne, Bool.false_eq_true, if_false] at compacts
  obtain ⟨_, _, pushes⟩ := bind_eq_ok.mp compacts
  exact pushes

lemma compactColumns_ok (uncovered : shape.Uncovered index)
    (compacts : ((cols.map fun col => (col, shape.batches (vals col))).zipIdx
      front.length).foldlM (compactColumn filter env index (List.replicate (shape.size
      index) true)) (front ++ writersAfter shape cols vals kept) = .ok after) :
    after = front ++ writersAfter shape cols vals (kept ++ [index]) := by
  induction cols generalizing front with
  | nil =>
    cases compacts
    simp [writersAfter]
  | cons col cols ih =>
    rw [map_cons, zipIdx_cons, foldlM_cons, bind_eq_ok] at compacts
    obtain ⟨next, first, rest⟩ := compacts
    have pushed := pushFiltered_ok (by
      unfold writersAfter
      split <;> simp) (compactColumn_ok uncovered first)
    have moved : next = (front ++ [⟨col, (kept ++ [index]).map
        fun index => (shape.rowsOf index).map (vals col)⟩]) ++
          writersAfter shape cols vals kept := by
      rw [pushed]
      unfold writersAfter
      cases kept <;> simp
    rw [moved, ← length_singleton, ← length_append] at rest
    rw [ih rest]
    simp [writersAfter]

/-- The batches of which the rows are kept. -/
def keptAmong (shape : SegmentShape) (indices : List Nat) : List Nat :=
  indices.filter fun index => decide (shape.Uncovered index)

variable {indices : List Nat}

lemma uncovered_of_mem_keptAmong (mem : index ∈ keptAmong shape indices) :
    shape.Uncovered index := by
  simpa [keptAmong] using (mem_filter.mp mem).2

lemma compactBatches_ok (ne : cols ≠ [])
    (compacts : indices.foldlM (compactBatch filter env (shape.vis.getD []) (cols.map fun
      col => (col, shape.batches (vals col)))) ⟨[], []⟩ = .ok state) :
    state.writers = writersAfter shape cols vals (keptAmong shape indices) ∧
      state.newVis.map List.length = (keptAmong shape indices).map shape.size := by
  refine foldlM_establishes
    (fun done (state : CompactionState Value) =>
      state.writers = writersAfter shape cols vals
        (keptAmong shape done) ∧
      state.newVis.map List.length = (keptAmong shape done).map shape.size)
    (fun done index rest before next _ holds step => ?_) compacts
    ⟨rfl, rfl⟩
  have skipped (covered : ¬ shape.Uncovered index) :
      keptAmong shape (done ++ [index]) = keptAmong shape done := by
    simp [keptAmong, covered]
  unfold compactBatch at step
  rw [shape.batchRows_eq ne] at step
  dsimp only at step
  split at step
  · next empty =>
      cases step
      rw [skipped fun uncovered => absurd empty uncovered.1.ne']
      exact holds
  · next filled =>
      obtain ⟨mask, made, step⟩ := bind_eq_ok.mp step
      by_cases covered : shape.Covered index
      · rw [aliveMask_covered covered made] at step
        rw [if_pos (by simp)] at step
        cases step
        rw [skipped fun uncovered => uncovered.2 covered]
        exact holds
      · have uncovered : shape.Uncovered index := ⟨Nat.pos_of_ne_zero filled, covered⟩
        have none : (shape.visBatch index).bind VisBatch.extractVisibilityColumns = none := by
          simpa [SegmentShape.Covered] using covered
        have marked : aliveMask firstColumn (shape.vis.getD [])[index]?
            (shape.size index) =
              .ok (List.replicate (shape.size index) true) :=
          aliveMask_uncovered firstColumn none _
        rw [marked] at made
        cases made
        rw [if_neg (by simp [filled])] at step
        obtain ⟨recs, recorded, step⟩ := bind_eq_ok.mp step
        obtain ⟨writers, written, step⟩ := bind_eq_ok.mp step
        cases step
        have added : keptAmong shape (done ++ [index]) = keptAmong shape done ++ [index] := by
          simp [keptAmong, uncovered]
        rw [holds.1, ← nil_append (writersAfter _ _ _ _)] at written
        have whole := compactColumns_ok uncovered written
        rw [added]
        refine ⟨by simpa using whole, ?_⟩
        rw [map_append, map_append, holds.2, map_singleton,
          map_singleton, length_keptRecords recorded]

variable {codec : VortexCodec Value} {visCodec : VortexCodec Nat}
  {cfg : PdtMergeConfig}

lemma writeVis_ok {faults after newVis} (ne : ∀ batch ∈ newVis, batch ≠ [])
    (fresh : files[visPath]? = none) (writes : writeVis visCodec faults files newVis = .ok after) :
    (∃ created, readRows visCodec after visPath = .ok created ∧
        created.length = (newVis.map List.length).sum) ∧
      ∀ path, visPath ≠ path → after[path]? = files[path]? := by
  unfold writeVis at writes
  cases newVis with
  | nil =>
    cases writes
    exact ⟨⟨[], by simp [readRows, fresh], rfl⟩, fun _ _ => rfl⟩
  | cons batch newVis =>
    rw [if_neg (by simp)] at writes
    obtain ⟨read, rest⟩ := writeBatches_ok (by simp [ne batch mem_cons_self]) writes
    refine ⟨⟨_, read, ?_⟩, rest⟩
    simp [length_flatten, Function.comp_def]

lemma finish_writersAfter (uncovered : ∀ index ∈ kept, shape.Uncovered index)
    (finishes : (writersAfter shape cols vals kept).foldlM (finishWriter codec disk) ∅ = .ok
      files) : (∀ col ∈ cols, readRows codec files (colPath col) = .ok ((kept.flatMap
      shape.rowsOf).map (vals col))) ∧
      ∀ path, (∀ col ∈ cols, colPath col ≠ path) → files[path]? = none := by
  unfold writersAfter at finishes
  cases kept with
  | nil =>
    cases finishes
    simp [readRows]
  | cons index kept =>
    rw [if_neg (by simp)] at finishes
    obtain ⟨read, rest⟩ := finishWriters_ok
      (fun col => (index :: kept).map fun index => (shape.rowsOf index).map (vals col))
      (fun col batch mem => by
        obtain ⟨place, listed, rfl⟩ := mem_map.mp mem
        rw [← length_pos_iff]
        simpa using (uncovered place listed).1) finishes (by simp)
    refine ⟨fun col mem => ?_, fun path ne => ?_⟩
    · rw [read col mem, map_flatMap, flatMap_def]
    · rw [rest path ne]
      simp

lemma compactSegment_ok (reserved : "__vis" ∉ cols)
    (ran : compactSegment filter codec visCodec cfg env (shape.fill cols vals) = .ok compacted) :
    let kept := (keptAmong shape (List.range shape.sizes.length)).flatMap shape.rowsOf
    cols ≠ [] ∧ (∀ col ∈ cols, readRows codec compacted.files (colPath col) =
        .ok (kept.map (vals col))) ∧
      (∃ created, readRows visCodec compacted.files visPath = .ok created ∧
        created.length = kept.length) ∧
      compacted.segId = env.newSegId ∧
      compacted.rowCount = shape.aliveRowCount := by
  unfold compactSegment at ran
  split at ran
  · cases ran
  · split at ran
    · cases ran
    · obtain ⟨_, _, ran⟩ := bind_eq_ok.mp ran
      rw [shape.colBatches_fill, shape.visBatches_fill] at ran
      dsimp only at ran
      split at ran
      · cases ran
      · next readable =>
          have batched : shape.sizes ≠ [] := by
            intro empty
            simp [SegmentShape.batches, empty] at readable
          have all : ((cols.map fun col =>
              (col, shape.batches (vals col))).filter
                fun col => !col.2.isEmpty) =
              cols.map fun col => (col, shape.batches (vals col)) := by
            refine filter_eq_self.mpr fun entry mem => ?_
            obtain ⟨col, _, rfl⟩ := mem_map.mp mem
            simpa [SegmentShape.batches] using batched
          rw [all] at ran readable
          have ne : cols ≠ [] := by simpa using readable
          rw [shape.numBatches_eq ne] at ran
          obtain ⟨state, compacts, ran⟩ := bind_eq_ok.mp ran
          obtain ⟨files, finishes, ran⟩ := bind_eq_ok.mp ran
          obtain ⟨after, writes, ran⟩ := bind_eq_ok.mp ran
          obtain ⟨_, _, ran⟩ := bind_eq_ok.mp ran
          cases ran
          obtain ⟨writers, visSizes⟩ := compactBatches_ok ne compacts
          rw [writers] at finishes
          obtain ⟨read, unwritten⟩ := finish_writersAfter
            (fun index mem => uncovered_of_mem_keptAmong mem) finishes
          have filled : ∀ batch ∈ state.newVis, batch ≠ [] := by
            intro batch mem
            have listed : batch.length ∈ (keptAmong shape
                (List.range shape.sizes.length)).map shape.size := by
              rw [← visSizes]
              exact mem_map_of_mem mem
            obtain ⟨index, kept, size⟩ := mem_map.mp listed
            rw [← length_pos_iff, ← size]
            exact (uncovered_of_mem_keptAmong kept).1
          have apart : ∀ col ∈ cols, colPath col ≠ visPath :=
            fun col mem => colPath_ne_visPath fun same => reserved (same ▸ mem)
          obtain ⟨⟨created, visRead, count⟩, rest⟩ :=
            writeVis_ok filled (unwritten visPath apart) writes
          refine ⟨ne, fun col mem => ?_, ⟨created, visRead, ?_⟩, rfl, rfl⟩
          · rw [readRows, rest _ (apart col mem).symm]
            exact read col mem
          · rw [count, visSizes]
            simp [length_flatMap]

end CompactSegment

end RockDuck
