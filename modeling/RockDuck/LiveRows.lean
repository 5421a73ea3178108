import RockDuck.MergedRows

/-!
# Live rows through a compaction

A row is live unless a committed transaction deleted it, which the visibility
file or the delete log says.
-/

namespace RockDuck

open List SegmentShape

namespace SegmentShape

variable (shape : SegmentShape)

def offset (index : Nat) : Nat :=
  (shape.sizes.take index).sum

/-- The creator and the deletion field of a row. -/
def record (index row : Nat) : Option (TxnId × Nat) :=
  ((shape.visBatch index).bind VisBatch.extractVisibilityColumns).bind
    fun columns => (columns.1.zip columns.2)[row - shape.offset index]?

/-- Some committed transaction has deleted the row. -/
def deletedBy (committed : TxnId → Bool) (index row : Nat) : Bool :=
  ((shape.record index row).bind fun record => deletedTxn record.2).any committed ||
    shape.deltavis.any fun entry => decide (entry.1 = row) && committed entry.2

variable {shape}

lemma mem_rowsOf : row ∈ shape.rowsOf index ↔ shape.offset index ≤ row ∧
        row < shape.offset index + shape.size index := by
  simp only [rowsOf, offset, mem_map, mem_range]
  constructor
  · rintro ⟨place, mem, rfl⟩
    omega
  · rintro ⟨lower, upper⟩
    exact ⟨row - (shape.sizes.take index).sum, by omega, by omega⟩

lemma offset_succ (index : Nat) :
    shape.offset (index + 1) = shape.offset index + shape.size index := by
  by_cases mem : index < shape.sizes.length
  · rw [offset, offset, sum_take_succ _ _ mem, size, getD_eq_getElem _ _ mem]
  · rw [shape.size_eq_zero (Nat.le_of_not_lt mem), offset, offset,
      take_of_length_le (by omega), take_of_length_le (by omega),
      Nat.add_zero]

lemma offset_mono : Monotone shape.offset :=
  monotone_nat_of_le_succ fun idx => by
    rw [offset_succ]
    omega

lemma lt_of_mem_rowsOf (before : first < second)
    (one : row ∈ shape.rowsOf first) (two : other ∈ shape.rowsOf second) : row < other := by
  rw [mem_rowsOf] at one two
  have bound := shape.offset_mono (Nat.succ_le_of_lt before)
  rw [Nat.succ_eq_add_one, offset_succ] at bound
  omega

lemma index_unique (one : row ∈ shape.rowsOf first)
    (two : row ∈ shape.rowsOf second) : first = second := by
  rcases Nat.lt_trichotomy first second with old | same | later
  · exact absurd (lt_of_mem_rowsOf old one two) (lt_irrefl row)
  · exact same
  · exact absurd (lt_of_mem_rowsOf later two one) (lt_irrefl row)

lemma size_pos_of_mem_rowsOf (mem : row ∈ shape.rowsOf index) : 0 < shape.size index := by
  rw [mem_rowsOf] at mem
  omega

lemma pairwise_rowsOf (idx : Nat) : (shape.rowsOf idx).Pairwise (· < ·) := by
  rw [rowsOf, pairwise_map]
  exact List.pairwise_lt_range.imp fun before => by omega

lemma record_eq_none (uncovered : ¬ shape.Covered idx) : shape.record idx row = none := by
  have none : (shape.visBatch idx).bind VisBatch.extractVisibilityColumns = none := by
    simpa [Covered] using uncovered
  rw [record, none, Option.bind_none]

end SegmentShape

/-- The order of the input: by segment, then by row. -/
def RowBefore (first second : Nat × Nat) : Prop :=
  first.1 < second.1 ∨ first.1 = second.1 ∧ first.2 < second.2

instance : Std.Irrefl RowBefore where
  irrefl row before := by
    unfold RowBefore at before
    omega

instance : Std.Antisymm RowBefore where
  antisymm first second before after := by
    unfold RowBefore at before after
    omega

namespace MergeInput

variable (input : MergeInput) (committed : TxnId → Bool)

/-- The rows that no committed transaction has deleted. -/
def liveRows : List (Nat × Nat) :=
  input.entries.flatMap fun entry =>
    (List.range entry.1.sizes.length).flatMap fun index =>
      (rowsAt entry index).filter fun row => !entry.1.deletedBy committed index row.2

def recordOf (row : Nat × Nat) : Option (TxnId × Nat) :=
  (input.segments[row.1]?).bind fun shape =>
    ((List.range shape.sizes.length).find? fun index =>
      decide (row.2 ∈ shape.rowsOf index)).bind fun index => shape.record index row.2

/-- A compaction that succeeds writes the live rows: in order to every column,
with the transactions that created them to the visibility file, and their
number to the description. -/
def PreservesLiveRows (filter : ArrowFilter) (visCodec : VortexCodec Nat)
    (config : PdtMergeConfig) (environment : CompactionEnvironment) : Prop :=
  ∀ (Value : Type) (codec : VortexCodec Value)
    (values : String → Nat × Nat → Value) (merged : CompactedSegment),
    multiwayMerge filter codec visCodec config environment
        (input.fill values) = .ok merged →
      (∀ column ∈ input.columns, readRows codec merged.files (colPath column) =
        .ok ((input.liveRows committed).map (values column))) ∧
      (∃ created, readRows visCodec merged.files visPath = .ok created ∧
        List.Forall₂ (fun row txn => ∀ record, input.recordOf row = some record →
          txn = record.1) (input.liveRows committed) created) ∧
      merged.rowCount = (input.liveRows committed).length

/-- Deletions and batches coincide, batches of different segments do not meet,
and the recorded numbers of live rows are right. -/
structure DeletedBatchwise : Prop where
  covered_deleted : ∀ shape ∈ input.segments, ∀ index, shape.Covered index →
    ∀ row ∈ shape.rowsOf index, shape.deletedBy committed index row
  uncovered_live : ∀ shape ∈ input.segments, ∀ index, ¬ shape.Covered index →
    ∀ row ∈ shape.rowsOf index, ¬ shape.deletedBy committed index row
  alone : ∀ shape ∈ input.segments, ∀ index, shape.Uncovered index →
    input.total index = shape.size index
  ordered : ∀ first ∈ input.entries, ∀ second ∈ input.entries,
    first.2 < second.2 → ∀ early late, first.1.Uncovered early →
      second.1.Uncovered late → early < late
  counted : (input.segments.map SegmentShape.aliveRowCount).sum =
    input.visCount

variable {input committed}

variable {entry : SegmentShape × Nat} {row : Nat × Nat}

lemma mem_entries : entry ∈ input.entries ↔ input.segments[entry.2]? = some entry.1 :=
  mem_zipIdx_iff_getElem?

lemma fst_mem_segments (mem : entry ∈ input.entries) : entry.1 ∈ input.segments :=
  mem_of_getElem? (mem_entries.mp mem)

variable {shape : SegmentShape} {first second : SegmentShape × Nat}

lemma exists_entry (mem : shape ∈ input.segments) : ∃ place, (shape, place) ∈ input.entries := by
  obtain ⟨place, found⟩ := mem_iff_getElem?.mp mem
  exact ⟨place, mem_entries.mpr found⟩

lemma entry_unique (one : first ∈ input.entries)
    (two : second ∈ input.entries) (same : first.2 = second.2) : first = second := by
  rw [mem_entries] at one two
  rw [same, two] at one
  exact Prod.ext (Option.some.inj one).symm same

lemma mem_rowsAt : row ∈ rowsAt entry index ↔ row.1 = entry.2 ∧ row.2 ∈ entry.1.rowsOf index := by
  rw [rowsAt, mem_map]
  constructor
  · rintro ⟨num, mem, rfl⟩
    exact ⟨rfl, mem⟩
  · rintro ⟨seg, mem⟩
    exact ⟨row.2, mem, Prod.ext seg.symm rfl⟩

lemma lt_length_of_mem_rowsOf {row} (mem : row ∈ shape.rowsOf idx) : idx < shape.sizes.length := by
  by_contra outside
  have empty := shape.size_eq_zero (Nat.le_of_not_lt outside)
  have filled := size_pos_of_mem_rowsOf mem
  omega

lemma lt_width_of_mem_rowsOf {row} (listed : shape ∈ input.segments)
    (mem : row ∈ shape.rowsOf idx) : idx < input.width :=
  lt_of_lt_of_le (lt_length_of_mem_rowsOf mem)
    ((foldl_max_le_iff.mp le_rfl).2 _ (mem_map_of_mem
      (f := fun shape : SegmentShape => shape.sizes.length) listed))

lemma mem_liveRows : row ∈ input.liveRows committed ↔
      ∃ entry ∈ input.entries, ∃ idx, row ∈ rowsAt entry idx ∧
        ¬ entry.1.deletedBy committed idx row.2 := by
  simp only [liveRows, mem_flatMap, mem_range, mem_filter, Bool.not_eq_true', Bool.not_eq_true]
  constructor
  · rintro ⟨entry, listed, idx, _, mem, live⟩
    exact ⟨entry, listed, idx, mem, live⟩
  · rintro ⟨entry, listed, idx, mem, live⟩
    exact ⟨entry, listed, idx, lt_length_of_mem_rowsOf (mem_rowsAt.mp mem).2, mem, live⟩

lemma mem_columnRowsAt : row ∈ input.columnRowsAt index ↔
      input.VisibleAt index ∧ ∃ entry ∈ input.entries,
        input.total index = entry.1.size index ∧ row ∈ rowsAt entry index := by
  unfold columnRowsAt
  constructor
  · intro reached
    split at reached
    · next visible =>
        obtain ⟨entry, listed, mem⟩ := mem_flatMap.mp reached
        split at mem
        · next all => exact ⟨visible, entry, listed, all, mem⟩
        · cases mem
    · cases reached
  · rintro ⟨visible, entry, listed, all, mem⟩
    rw [if_pos visible]
    exact mem_flatMap.mpr ⟨entry, listed, by rwa [if_pos all]⟩

lemma mem_columnRows : row ∈ input.columnRows ↔
      ∃ entry ∈ input.entries, ∃ index, row ∈ rowsAt entry index ∧ entry.1.Uncovered index ∧
          input.total index = entry.1.size index := by
  simp only [columnRows, mem_flatMap, mem_range, mem_columnRowsAt]
  constructor
  · rintro ⟨index, _, visible, entry, listed, all, mem⟩
    obtain ⟨front, back, split⟩ := exists_split_of_mem_entries listed
    exact ⟨entry, listed, index, mem, uncovered_of_total split all visible, all⟩
  · rintro ⟨entry, listed, index, mem, uncovered, all⟩
    exact ⟨index, lt_width_of_mem_rowsOf (fst_mem_segments listed) (mem_rowsAt.mp mem).2, ⟨entry.1,
      fst_mem_segments listed, uncovered⟩, entry, listed, all, mem⟩

lemma pairwise_rowsAt (entry) (idx : Nat) : (rowsAt entry idx).Pairwise RowBefore := by
  rw [rowsAt, pairwise_map]
  exact (entry.1.pairwise_rowsOf idx).imp fun before => .inr ⟨rfl, before⟩

lemma pairwise_entries : input.entries.Pairwise fun first second => first.2 < second.2 := by
  have nums : (input.entries.map Prod.snd).Pairwise (· < ·) := by
    rw [entries, zipIdx_map_snd]
    exact pairwise_lt_range'
  exact pairwise_map.mp nums

lemma pairwise_liveRows : (input.liveRows committed).Pairwise RowBefore := by
  rw [liveRows, pairwise_flatMap]
  refine ⟨fun entry _ => ?_, pairwise_entries.imp fun before row one other two => ?_⟩
  · rw [pairwise_flatMap]
    refine ⟨fun idx _ => (pairwise_rowsAt entry idx).filter _,
      List.pairwise_lt_range.imp fun before row one other two => ?_⟩
    obtain ⟨seg, mem⟩ := mem_rowsAt.mp (mem_of_mem_filter one)
    obtain ⟨segment', among'⟩ := mem_rowsAt.mp (mem_of_mem_filter two)
    exact .inr ⟨seg.trans segment'.symm, lt_of_mem_rowsOf before mem among'⟩
  · obtain ⟨idx, _, one⟩ := mem_flatMap.mp one
    obtain ⟨index', _, two⟩ := mem_flatMap.mp two
    obtain ⟨seg, _⟩ := mem_rowsAt.mp (mem_of_mem_filter one)
    obtain ⟨segment', _⟩ := mem_rowsAt.mp (mem_of_mem_filter two)
    refine .inl ?_
    rw [seg, segment']
    exact before

lemma size_eq_zero_of_later (one : first ∈ input.entries) (two : second ∈ input.entries)
    (before : first.2 < second.2) (all : input.total idx = first.1.size idx) :
    second.1.size idx = 0 := by
  rw [mem_entries] at one two
  obtain ⟨mem, here⟩ := List.getElem?_eq_some_iff.mp one
  have split : input.segments = input.segments.take first.2 ++
      first.1 :: input.segments.drop (first.2 + 1) := by
    rw [← here, getElem_cons_drop, take_append_drop]
  have later : second.1 ∈ input.segments.drop (first.2 + 1) := by
    refine mem_of_getElem? (i := second.2 - (first.2 + 1)) ?_
    rw [getElem?_drop, ← two]
    congr 1
    omega
  exact (size_eq_zero_of_total split all).2 _ later

lemma uncovered_of_mem_entries (mem : entry ∈ input.entries) (visible : input.VisibleAt index)
    (all : input.total index = entry.1.size index) : entry.1.Uncovered index := by
  obtain ⟨front, back, split⟩ := exists_split_of_mem_entries mem
  exact uncovered_of_total split all visible

section Lengths

lemma length_columnRowsAt (visible : input.VisibleAt idx) :
    (input.columnRowsAt idx).length = (input.entries.map fun entry =>
        if input.total idx = entry.1.size idx then entry.1.size idx
        else 0).sum := by
  rw [columnRowsAt, if_pos visible, length_flatMap]
  refine congrArg List.sum (map_congr_left fun entry _ => ?_)
  split <;> simp [rowsAt]

lemma visCountAt_eq (idx : Nat) : input.visCountAt idx = (input.entries.map fun entry =>
      if entry.1.Uncovered idx then entry.1.size idx else 0).sum :=
  congrArg List.sum (map_entries _).symm

lemma length_columnRowsAt_le (index : Nat) :
    (input.columnRowsAt index).length ≤ input.visCountAt index := by
  by_cases visible : input.VisibleAt index
  · rw [length_columnRowsAt visible, visCountAt_eq]
    refine sum_le_sum fun entry mem => ?_
    split
    · next all =>
        rw [if_pos (uncovered_of_mem_entries mem visible all)]
    · exact Nat.zero_le _
  · rw [columnRowsAt, if_neg visible]
    exact Nat.zero_le _

lemma length_columnRows : input.columnRows.length = ((List.range input.width).map fun idx =>
        (input.columnRowsAt idx).length).sum := by
  rw [columnRows, length_flatMap]

lemma alone_of_length (same : input.columnRows.length = input.visCount)
    (mem : shape ∈ input.segments) (uncovered : shape.Uncovered index) :
    input.total index = shape.size index := by
  have visible : input.VisibleAt index := ⟨shape, mem, uncovered⟩
  have inside : index ∈ Finset.range input.width := by
    obtain ⟨row, listed⟩ := length_pos_iff_exists_mem.mp
      (by simpa using uncovered.1 : 0 < (shape.rowsOf index).length)
    exact Finset.mem_range.mpr (lt_width_of_mem_rowsOf mem listed)
  rw [length_columnRows, visCount] at same
  have pointwise := (Finset.sum_eq_sum_iff_of_le
    (s := Finset.range input.width) fun index _ =>
      input.length_columnRowsAt_le index).mp same index inside
  have ne : 0 < (input.columnRowsAt index).length := by
    rw [pointwise]
    exact visCountAt_pos visible
  obtain ⟨row, reached⟩ := length_pos_iff_exists_mem.mp ne
  obtain ⟨_, entry, listed, all, _⟩ := mem_columnRowsAt.mp reached
  obtain ⟨front, back, split⟩ := exists_split_of_mem_entries listed
  obtain ⟨before, after⟩ := size_eq_zero_of_total split all
  rw [split, mem_append, mem_cons] at mem
  rcases mem with old | rfl | later
  · exact absurd (before shape old) uncovered.1.ne'
  · exact all
  · exact absurd (after shape later) uncovered.1.ne'

lemma visCount_eq_length (alone : ∀ shape ∈ input.segments, ∀ idx, shape.Uncovered idx →
      input.total idx = shape.size idx) : input.visCount = input.columnRows.length := by
  rw [length_columnRows, visCount]
  refine congrArg List.sum (map_congr_left fun idx _ => ?_)
  refine le_antisymm ?_ (length_columnRowsAt_le idx)
  by_cases visible : input.VisibleAt idx
  · rw [length_columnRowsAt visible, visCountAt_eq]
    refine sum_le_sum fun entry mem => ?_
    split
    · next uncovered =>
        rw [if_pos (alone _ (fst_mem_segments mem) _ uncovered)]
    · exact Nat.zero_le _
  · rw [visCountAt_eq_zero visible]
    exact Nat.zero_le _

end Lengths

lemma pairwise_columnRows (ordered : ∀ first ∈ input.entries, ∀ second ∈ input.entries,
      first.2 < second.2 → ∀ early late, first.1.Uncovered early →
        second.1.Uncovered late → early < late) : input.columnRows.Pairwise RowBefore := by
  rw [columnRows, pairwise_flatMap]
  refine ⟨fun idx _ => ?_, ?_⟩
  · unfold columnRowsAt
    split
    · next visible =>
        rw [pairwise_flatMap]
        refine ⟨fun entry _ => ?_, pairwise_entries.imp_of_mem
          fun one two before row reached other reached' => ?_⟩
        · split
          · exact pairwise_rowsAt entry idx
          · exact .nil
        · split at reached
          · next all =>
              have none := size_eq_zero_of_later one two before all
              split at reached'
              · have filled := size_pos_of_mem_rowsOf (mem_rowsAt.mp reached').2
                omega
              · cases reached'
          · cases reached
    · exact .nil
  · refine List.pairwise_lt_range.imp fun before row reached other reached' => ?_
    obtain ⟨visible, first, one, all, mem⟩ := mem_columnRowsAt.mp reached
    obtain ⟨visible', second, two, all', among'⟩ := mem_columnRowsAt.mp reached'
    obtain ⟨seg, inside⟩ := mem_rowsAt.mp mem
    obtain ⟨segment', inside'⟩ := mem_rowsAt.mp among'
    rcases Nat.lt_trichotomy first.2 second.2 with old | same | later
    · exact .inl (by rwa [seg, segment'])
    · obtain rfl := entry_unique one two same
      exact .inr ⟨seg.trans segment'.symm, lt_of_mem_rowsOf before inside inside'⟩
    · have reversed := ordered second two first one later _ _
        (uncovered_of_mem_entries two visible' all')
        (uncovered_of_mem_entries one visible all)
      omega

lemma ordered_of_pairwise (alone : ∀ shape ∈ input.segments, ∀ idx, shape.Uncovered idx →
      input.total idx = shape.size idx) (sorted : input.columnRows.Pairwise RowBefore)
    (one : first ∈ input.entries) (two : second ∈ input.entries) (before : first.2 < second.2)
    (uncovered : first.1.Uncovered early) (uncovered' : second.1.Uncovered late) :
    early < late := by
  have row_of {entry : SegmentShape × Nat} {idx : Nat}
      (listed : entry ∈ input.entries) (bare : entry.1.Uncovered idx) :
      ∃ row ∈ input.columnRowsAt idx, row.1 = entry.2 ∧
        idx < input.width := by
    have ne : 0 < (entry.1.rowsOf idx).length := by simpa using bare.1
    obtain ⟨row, mem⟩ := length_pos_iff_exists_mem.mp ne
    have member := fst_mem_segments listed
    exact ⟨(entry.2, row), mem_columnRowsAt.mpr ⟨⟨_, member, bare⟩, entry, listed, alone _ member _
      bare, mem_rowsAt.mpr ⟨rfl, mem⟩⟩, rfl, lt_width_of_mem_rowsOf member mem⟩
  obtain ⟨row, reached, seg, inside⟩ := row_of one uncovered
  obtain ⟨other, reached', segment', _⟩ := row_of two uncovered'
  rcases Nat.lt_trichotomy early late with old | rfl | later
  · exact old
  · have none := size_eq_zero_of_later one two before (alone _ (fst_mem_segments one) _ uncovered)
    exact absurd none uncovered'.1.ne'
  · have across := (pairwise_flatMap.mp sorted).2
    rw [pairwise_iff_getElem] at across
    have placed := across late early (by simpa using later.trans inside)
      (by simpa using inside) later
    simp only [getElem_range] at placed
    have swapped := placed other reached' row reached
    unfold RowBefore at swapped
    omega

lemma columnRows_eq_liveRows (batchwise : input.DeletedBatchwise committed) :
    input.columnRows = input.liveRows committed := by
  refine (pairwise_columnRows batchwise.ordered).eq_of_mem_iff pairwise_liveRows fun row => ?_
  rw [mem_columnRows, mem_liveRows]
  constructor
  · rintro ⟨entry, listed, index, mem, uncovered, _⟩
    exact ⟨entry, listed, index, mem, batchwise.uncovered_live _
      (fst_mem_segments listed) index uncovered.2 _ (mem_rowsAt.mp mem).2⟩
  · rintro ⟨entry, listed, index, mem, live⟩
    have inside := (mem_rowsAt.mp mem).2
    have uncovered : entry.1.Uncovered index :=
      ⟨size_pos_of_mem_rowsOf inside, fun covered =>
        live (batchwise.covered_deleted _ (fst_mem_segments listed) index covered _ inside)⟩
    exact ⟨entry, listed, index, mem, uncovered,
      batchwise.alone _ (fst_mem_segments listed) index uncovered⟩

lemma recordOf_eq_none (batchwise : input.DeletedBatchwise committed)
    (live : row ∈ input.liveRows committed) : input.recordOf row = none := by
  rw [← columnRows_eq_liveRows batchwise, mem_columnRows] at live
  obtain ⟨entry, listed, idx, mem, uncovered, _⟩ := live
  obtain ⟨seg, inside⟩ := mem_rowsAt.mp mem
  rw [recordOf, seg, mem_entries.mp listed, Option.bind_some]
  cases found : (List.range entry.1.sizes.length).find? fun idx =>
      decide (row.2 ∈ entry.1.rowsOf idx) with
  | none => rfl
  | some place =>
    have there : row.2 ∈ entry.1.rowsOf place := by simpa using find?_some found
    obtain rfl := index_unique there inside
    exact record_eq_none uncovered.2

lemma deletedBatchwise_of_eq (same : input.columnRows = input.liveRows committed)
    (lengths : input.columnRows.length = input.visCount)
    (count : (input.segments.map SegmentShape.aliveRowCount).sum =
      input.visCount) : input.DeletedBatchwise committed := by
  have alone : ∀ shape ∈ input.segments, ∀ index, shape.Uncovered index →
      input.total index = shape.size index :=
    fun shape mem index => alone_of_length lengths mem
  have located {entry other : SegmentShape × Nat} {index place row : Nat}
      (listed : entry ∈ input.entries) (listed' : other ∈ input.entries)
      (inside : row ∈ entry.1.rowsOf index)
      (mem : (entry.2, row) ∈ rowsAt other place) :
      other = entry ∧ place = index := by
    obtain ⟨seg, there⟩ := mem_rowsAt.mp mem
    obtain rfl := entry_unique listed' listed seg.symm
    exact ⟨rfl, index_unique there inside⟩
  refine ⟨fun shape mem index covered row inside => ?_,
    fun shape mem index bare row inside => ?_, alone,
    fun first one second two before early late => ?_, count⟩
  · obtain ⟨seg, listed⟩ := exists_entry mem
    by_contra live
    have arrived : (seg, row) ∈ input.columnRows := by
      rw [same, mem_liveRows]
      exact ⟨_, listed, index, mem_rowsAt.mpr ⟨rfl, inside⟩, live⟩
    obtain ⟨entry, listed', place, there, uncovered, _⟩ := mem_columnRows.mp arrived
    obtain ⟨rfl, rfl⟩ := located listed listed' inside there
    exact uncovered.2 covered
  · obtain ⟨seg, listed⟩ := exists_entry mem
    have uncovered : shape.Uncovered index := ⟨size_pos_of_mem_rowsOf inside, bare⟩
    have arrived : (seg, row) ∈ input.columnRows :=
      mem_columnRows.mpr ⟨_, listed, index, mem_rowsAt.mpr ⟨rfl, inside⟩,
        uncovered, alone _ mem _ uncovered⟩
    rw [same, mem_liveRows] at arrived
    obtain ⟨entry, listed', place, there, live⟩ := arrived
    obtain ⟨rfl, rfl⟩ := located listed listed' inside there
    exact live
  · refine ordered_of_pairwise alone ?_ one two before
    rw [same]
    exact pairwise_liveRows

/-- Compactions preserve the live rows exactly where deletions go by batches.
The run with the rows' own numbers as values tells all rows apart. -/
theorem multiwayMerge_preserves_iff {filter : ArrowFilter} {codec : VortexCodec (Nat × Nat)}
    {visCodec : VortexCodec Nat} {config : PdtMergeConfig} {environment : CompactionEnvironment}
    {merged : CompactedSegment} (succeeds : multiwayMerge filter codec visCodec config environment
      (input.fill fun _ row => row) = .ok merged) :
    input.PreservesLiveRows committed filter visCodec config environment ↔
      input.DeletedBatchwise committed := by
  constructor
  · intro preserves
    obtain ⟨ne, read, ⟨created, visRead, count⟩, rows⟩ := multiwayMerge_ok succeeds
    obtain ⟨read', ⟨created', visRead', records⟩, rows'⟩ := preserves _ codec _ merged succeeds
    obtain ⟨column, mem⟩ := exists_mem_of_ne_nil _ ne
    have same : input.columnRows = input.liveRows committed := by
      have both := (read column mem).symm.trans (read' column mem)
      simpa using both
    have visSame : created' = created := Except.ok.inj (visRead'.symm.trans visRead)
    have length : (input.liveRows committed).length = input.visCount := by
      rw [records.length_eq, visSame, count]
    refine deletedBatchwise_of_eq same (same ▸ length) ?_
    rw [← rows, rows', length]
  · intro batchwise Value codec values merged succeeds
    obtain ⟨_, read, ⟨created, visRead, count⟩, rows⟩ := multiwayMerge_ok succeeds
    have same := columnRows_eq_liveRows batchwise
    have length : input.visCount = (input.liveRows committed).length := by
      rw [visCount_eq_length batchwise.alone, same]
    refine ⟨fun column mem => ?_, ⟨created, visRead, ?_⟩, ?_⟩
    · rw [read column mem, same]
    · refine forall₂_iff_get.mpr ⟨by rw [count, length],
        fun place inside _ record found => ?_⟩
      rw [recordOf_eq_none batchwise (get_mem _ ⟨place, inside⟩)] at found
      cases found
    · rw [rows, batchwise.counted, length]

end MergeInput

def arrowFilter : ArrowFilter where
  filterRecordBatch rows mask :=
    if mask.length ≤ rows.length then some (selected rows mask) else none
  filter_aligned same := if_pos same.le
  filter_longer longer := if_neg (Nat.not_le_of_lt longer)

/-- A codec of one byte a row. -/
def byteCodec {Value : Type} (number : Value → Nat) (value : Nat → Value)
    (inverse : ∀ item, number item < 256 → value (number item) = item) : VortexCodec Value where
  encode rows := rows.mapM fun row =>
    if number row < 256 then .ok (UInt8.ofNat (number row))
    else .error (.internal "value out of range")
  decode bytes := .ok (bytes.map fun byte => value byte.toNat)
  decode_encode {rows bytes} encoded := by
    refine congrArg Except.ok ?_
    rw [← List.forall₂_eq_eq_eq, List.forall₂_map_left_iff]
    refine (mapM_eq_ok_iff.mp encoded).flip.imp fun byte row written => ?_
    split at written
    · next small =>
        cases written
        rw [UInt8.toNat_ofNat_of_lt' small]
        exact inverse row small
    · cases written

def numberCodec : VortexCodec Nat :=
  byteCodec id id fun _ _ => rfl

/-- Rows as values, for segments of at most sixteen rows. -/
def rowCodec : VortexCodec (Nat × Nat) :=
  byteCodec (fun row => if row.2 < 16 then 16 * row.1 + row.2 else 256)
    (fun number => (number / 16, number % 16)) fun row small => by
      split at small
      · next few =>
          rw [if_pos few]
          ext <;> dsimp only <;> omega
      · omega

namespace MergeInput

def oneBatch (rows : Nat) (deltavis : List (Nat × TxnId)) (alive : Nat) : MergeInput where
  columns := ["x"]
  reserved := by decide
  segments := [{
    segId := "s", directoryText := "data/s", hasDirectory := true,
    sizes := [rows], vis := none, deltavis := deltavis, rowCount := rows,
    aliveRowCount := alive }]

lemma exists_oneBatch_merged (cfg deltavis) (alive : Nat)
    (ran : (multiwayMerge arrowFilter rowCodec numberCodec cfg
      (.undisturbed "s_c1")
      ((oneBatch 2 deltavis alive).fill fun _ row => row)).isOk = true) :
    ∃ merged, multiwayMerge arrowFilter rowCodec numberCodec cfg
      (.undisturbed "s_c1")
      ((oneBatch 2 deltavis alive).fill fun _ row => row) = .ok merged := by
  cases run : multiwayMerge arrowFilter rowCodec numberCodec cfg
      (.undisturbed "s_c1")
      ((oneBatch 2 deltavis alive).fill fun _ row => row) with
  | ok merged => exact ⟨merged, rfl⟩
  | error err =>
    rw [run] at ran
    cases ran

theorem multiwayMerge_preserves_iff_oneBatch :
    (oneBatch 2 [] 2).PreservesLiveRows (fun _ => true) arrowFilter numberCodec
      ⟨"0", fun _ _ => true⟩ (.undisturbed "s_c1") := by
  obtain ⟨merged, run⟩ := exists_oneBatch_merged
    ⟨"0", fun _ _ => true⟩ [] 2 (by decide +kernel)
  refine (multiwayMerge_preserves_iff run).mpr ⟨?_, ?_, ?_, ?_, ?_⟩
  · intro shape mem index covered
    obtain rfl := mem_singleton.mp mem
    cases covered
  · intro shape mem index bare row inside deleted
    obtain rfl := mem_singleton.mp mem
    cases deleted
  · intro shape mem index uncovered
    obtain rfl := mem_singleton.mp mem
    rfl
  · intro first one second two before
    rw [mem_singleton.mp one, mem_singleton.mp two] at before
    exact absurd before (lt_irrefl 0)
  · rfl

/-- A logged delete is not applied: the deleted row is in the new column. -/
theorem deleted_row_written : let input := oneBatch 2 [(0, 7)] 1
    input.liveRows (fun _ => true) = [(0, 1)] ∧
      ∃ merged, multiwayMerge arrowFilter rowCodec numberCodec
          ⟨"0.05", fun dead total => decide (total ≤ 20 * dead)⟩
          (.undisturbed "s_c1") (input.fill fun _ row => row) = .ok merged ∧
        readRows rowCodec merged.files (colPath "x") =
          .ok [(0, 0), (0, 1)] ∧ merged.rowCount = 1 := by
  refine ⟨by decide +kernel, ?_⟩
  obtain ⟨merged, run⟩ := exists_oneBatch_merged
    ⟨"0.05", fun dead total => decide (total ≤ 20 * dead)⟩ [(0, 7)] 1
    (by decide +kernel)
  obtain ⟨_, read, _, count⟩ := multiwayMerge_ok run
  exact ⟨merged, run, read "x" (mem_singleton.mpr rfl), count⟩

end MergeInput

end RockDuck
