import RockDuck.VersionIndex

/-!
# Rows of the version index

What the index holds of a row, for a visibility file of any shape.
-/

namespace RockDuck

open List

variable {Value : Type*} {image : SegmentImage Value}

def SegmentImage.cellBytes (image : SegmentImage Value)
    (extractRowBytes : Value → RowValue) (columns : List String) : List Bytes :=
  columns.flatMap fun column =>
    match image.columnBatches column with
    | some (.ok batches) => batches.flatten.map fun value => (extractRowBytes value).toStorageBytes
    | _ => []

/-- The bytes that a row gets from the ring of buffers. -/
def ringBytes (cells : List Bytes) (totalRows row : Nat) : Bytes :=
  ((cells.take totalRows).zipIdx.filter fun cell =>
    decide (cell.2 % chunkSize = row % chunkSize)).flatMap Prod.fst

lemma ringBytes_concat (cells bytes) (totalRows row : Nat) :
    ringBytes (cells ++ [bytes]) totalRows row = ringBytes cells totalRows row ++
        if cells.length < totalRows ∧
          cells.length % chunkSize = row % chunkSize then bytes else [] := by
  unfold ringBytes
  by_cases room : cells.length < totalRows
  · rw [take_of_length_le (by simp; omega), take_of_length_le (by omega), zipIdx_append]
    by_cases place : cells.length % chunkSize = row % chunkSize <;>
      simp [room, place]
  · rw [take_append_of_le_length (by omega)]
    simp [room]

lemma ChunkRows.foldl_push (totalRows : Nat) (cells : List Bytes) :
    let chunk := cells.foldl (push totalRows) (start totalRows)
    chunk.filled = min cells.length totalRows ∧
      chunk.buffers.length = min chunkSize totalRows ∧
      ∀ row < totalRows, chunk.buffers.getD (row % chunkSize) [] =
        ringBytes cells totalRows row := by
  induction cells using List.reverseRecOn with
  | nil =>
    refine ⟨by simp [start], by simp [start], fun row _ => ?_⟩
    simp [start, ringBytes, getD_eq_getElem?_getD, getElem?_replicate]
    grind
  | append_singleton cells bytes ih =>
    rw [foldl_append, foldl_cons, foldl_nil]
    generalize cells.foldl (push totalRows) (start totalRows) = chunk at ih
    obtain ⟨ne, length, buffers⟩ := ih
    unfold push
    split
    · rename_i full
      refine ⟨by simp; omega, length, fun row mem => ?_⟩
      rw [buffers row mem, ringBytes_concat, if_neg (by omega), append_nil]
    · rename_i room
      have count : chunk.filled = cells.length := by omega
      refine ⟨by simp; omega, by simpa using length, fun row mem => ?_⟩
      have place : row % chunkSize < chunk.buffers.length := by
        rw [length, lt_min_iff]
        exact ⟨Nat.mod_lt _ (by decide), (Nat.mod_le _ _).trans_lt mem⟩
      rw [ringBytes_concat, ← buffers row mem, count]
      simp only [getD_eq_getElem?_getD, List.getElem?_modify, getElem?_eq_getElem place]
      by_cases same : cells.length % chunkSize = row % chunkSize
      · simp [same, show cells.length < totalRows by omega]
      · simp [same]

lemma SegmentImage.collectRows_eq
    (reads : ∀ col ∈ cols, ∀ error, image.columnBatches col ≠ some (.error error))
    (totalRows : Nat) (chunk) : image.collectRows extractRowBytes totalRows cols chunk =
      .ok ((image.cellBytes extractRowBytes cols).foldl (ChunkRows.push totalRows) chunk) := by
  induction cols generalizing chunk with
  | nil => rfl
  | cons col cols ih =>
    have rest := ih fun other mem => reads other (mem_cons_of_mem _ mem)
    unfold collectRows
    rw [cellBytes, flatMap_cons, foldl_append]
    cases file : image.columnBatches col with
    | none => exact rest chunk
    | some read =>
      cases read with
      | error error => exact absurd file (reads col mem_cons_self error)
      | ok batches =>
        simp only [foldl_map]
        exact rest _

/-- The rows of a batch that get a version: none of a batch with fewer than two columns.  With
two or more, the last two have to be `Int64` columns. -/
def VisBatch.versioned (batch : VisBatch) : Option (List (TxnId × Nat)) :=
  match batch.columns.reverse with
  | (_, .int64 deleted) :: (_, .int64 created) :: _ => some (created.zip deleted)
  | _ :: _ :: _ => none
  | _ => some []

/-- The rows of the batches that have versions. -/
def versionedRows (batches : List VisBatch) : List (TxnId × Nat) :=
  batches.flatMap fun batch => batch.versioned.getD []

lemma VisBatch.length_versioned_le (batch : VisBatch) :
    (batch.versioned.getD []).length ≤ batch.numRows := by
  unfold versioned
  split
  · next deletedName deleted createdName created rest cols =>
      have aligned := batch.aligned (deletedName, .int64 deleted) (by
        rw [← mem_reverse, cols]
        exact mem_cons_self)
      rw [Option.getD_some, length_zip]
      exact (min_le_right _ _).trans aligned.le
  · simp
  · simp

lemma length_versionedRows_le (batches : List VisBatch) :
    (versionedRows batches).length ≤ (batches.map VisBatch.numRows).sum := by
  rw [versionedRows, length_flatMap]
  exact sum_le_sum fun batch _ => batch.length_versioned_le

lemma rowVersions_append (buffers) (firstRow : Nat) (front rest) :
    rowVersions buffers firstRow (front ++ rest) = rowVersions buffers firstRow front ++
        rowVersions buffers (firstRow + front.length) rest := by
  simp [rowVersions, zipIdx_append]

lemma versionEntries_eq (buffers) (totalRows row : Nat) {batches : List VisBatch}
    (each : ∀ batch ∈ batches, batch.versioned ≠ none)
    (bound : row + (batches.map VisBatch.numRows).sum ≤ totalRows) :
    versionEntries buffers totalRows row batches =
      (rowVersions buffers row (versionedRows batches), .ok ()) := by
  induction batches generalizing row with
  | nil => rfl
  | cons batch batches ih =>
    rw [forall_mem_cons] at each
    rw [map_cons, sum_cons] at bound
    have fits := batch.length_versioned_le
    have first := each.1
    rw [versionedRows, flatMap_cons, rowVersions_append]
    unfold VisBatch.versioned at fits first ⊢
    match cols : batch.columns.reverse with
    | (_, .int64 deleted) :: (_, .int64 created) :: _ =>
      rw [cols] at fits
      simp only [Option.getD_some] at fits
      have whole : (created.zip deleted).take (totalRows - row) = created.zip deleted :=
        take_of_length_le (by omega)
      simp only [versionEntries, cols, whole, Option.getD_some]
      rw [ih _ each.2 (by omega)]
      rfl
    | (_, .other _) :: (_, .int64 _) :: _ => simp [cols] at first
    | _ :: (_, .other _) :: _ => simp [cols] at first
    | [] | [_] =>
      simp only [versionEntries, cols, Option.getD_some, length_nil, Nat.add_zero]
      rw [ih _ each.2 (by omega)]
      rfl

lemma versionEntries_eq_error (buffers) (totalRows row : Nat) {batches : List VisBatch}
    (unreadable : ∃ batch ∈ batches, batch.versioned = none) :
    ∃ error, (versionEntries buffers totalRows row batches).2 = .error error := by
  induction batches generalizing row with
  | nil => simp at unreadable
  | cons batch batches ih =>
    have later (readable : batch.versioned ≠ none) : ∃ batch ∈ batches, batch.versioned = none := by
      simpa [readable] using unreadable
    unfold VisBatch.versioned at later
    match cols : batch.columns.reverse with
    | (_, .int64 _) :: (_, .int64 _) :: _ =>
      simp only [versionEntries, cols]
      exact ih _ (later (by simp [cols]))
    | (_, .other _) :: (_, .int64 _) :: _ => exact ⟨_, by simp [versionEntries, cols]; rfl⟩
    | _ :: (_, .other _) :: _ => exact ⟨_, by simp [versionEntries, cols]; rfl⟩
    | [] | [_] =>
      simp only [versionEntries, cols]
      exact ih _ (later (by simp [cols]))

/-- The values in the versions of a row. -/
def valuesAt (entries : List IndexedVersion) (row : Nat) : List Bytes :=
  (entries.filter fun entry => decide (entry.row = row)).map fun entry => entry.version.value

lemma valuesAt_rowVersions (buffers) (firstRow row : Nat) (rows) :
    valuesAt (rowVersions buffers firstRow rows) row =
      if firstRow ≤ row ∧ row < firstRow + rows.length then
        [buffers.getD (row % chunkSize) []] else [] := by
  induction rows generalizing firstRow with
  | nil => simp [valuesAt, rowVersions]
  | cons first rows ih =>
    have rest := ih (firstRow + 1)
    simp only [valuesAt, rowVersions, zipIdx_cons, map_cons, filter_cons, length_cons] at rest ⊢
    by_cases own : firstRow = row
    · subst own
      simp only [decide_true, if_true, map_cons, rest]
      simp
    · simp only [own, decide_false, Bool.false_eq_true, if_false, rest]
      congr 1
      simp only [eq_iff_iff]
      omega

/-- The columns of a segment and their values, one for each row. -/
structure SegmentImage.HasColumns (image : SegmentImage Value) (columns : List String)
    (values : String → List Value) (count : Nat) : Prop where
  readable : ∀ column ∈ columns, ∃ batches,
    image.columnBatches column = some (.ok batches) ∧ batches.flatten = values column
  complete : ∀ column ∈ columns, (values column).length = count

def storedBytes (extractRowBytes : Value → RowValue) (values : List Value) : List Bytes :=
  values.map fun value => (extractRowBytes value).toStorageBytes

/-- The values of a row, one after the other. -/
def rowBytes (extractRowBytes : Value → RowValue) (values : String → List Value)
    (columns : List String) (row : Nat) : Bytes :=
  columns.flatMap fun column => (storedBytes extractRowBytes (values column)).getD row []

lemma SegmentImage.HasColumns.cellBytes {cols vals} {rows : Nat}
    (stored : image.HasColumns cols vals rows) (extractRowBytes) :
    image.cellBytes extractRowBytes cols =
      cols.flatMap fun col => storedBytes extractRowBytes (vals col) := by
  rw [SegmentImage.cellBytes, flatMap_def, flatMap_def]
  congr 1
  refine map_congr_left fun col mem => ?_
  obtain ⟨batches, found, flat⟩ := stored.readable col mem
  rw [found, ← flat]
  rfl

section Build

variable {batches : List VisBatch} {cols : List String} {vals : String → List Value} {rows : Nat}

lemma SegmentImage.build_of_no_rows (vis : image.vis.getD (.ok []) = .ok batches)
    (noRows : (batches.map VisBatch.numRows).sum = 0) (extractRowBytes) :
    image.buildSegmentVersionIndex extractRowBytes cols = ([], .ok ()) := by
  unfold buildSegmentVersionIndex
  cases file : image.vis with
  | none => rfl
  | some read =>
    obtain rfl : read = .ok batches := by simpa [file] using vis
    simp [noRows]

/-- With rows, the build comes to the visibility batches, with the cells of the ring. -/
lemma SegmentImage.build_of_rows (vis : image.vis.getD (.ok []) = .ok batches)
    (some : (batches.map VisBatch.numRows).sum ≠ 0) (stored : image.HasColumns cols vals rows)
    (extractRowBytes) : ∃ buffers : List Bytes,
      (∀ row < (batches.map VisBatch.numRows).sum, buffers.getD (row % chunkSize) [] =
        ringBytes (cols.flatMap fun col => storedBytes extractRowBytes (vals col))
          (batches.map VisBatch.numRows).sum row) ∧
      ∀ entries result,
        versionEntries buffers (batches.map VisBatch.numRows).sum 0 batches = (entries, result) →
        image.buildSegmentVersionIndex extractRowBytes cols =
          (if result = .ok () then entries
            else entries.take (entries.length / batchKvSize * batchKvSize), result) := by
  have file : image.vis = Option.some (.ok batches) := by
    cases file : image.vis with
    | none =>
      rw [file] at vis
      cases vis
      simp at some
    | some read => rw [show read = .ok batches by simpa [file] using vis]
  have reads : ∀ col ∈ cols, ∀ error, image.columnBatches col ≠ Option.some (.error error) := by
    intro col mem error failed
    obtain ⟨batches, found, -⟩ := stored.readable col mem
    cases found.symm.trans failed
  obtain ⟨-, -, held⟩ := ChunkRows.foldl_push (batches.map VisBatch.numRows).sum
    (image.cellBytes extractRowBytes cols)
  rw [stored.cellBytes] at held
  refine ⟨_, held, fun entries result ran => ?_⟩
  simp only [buildSegmentVersionIndex, file, some, if_false, collectRows_eq reads,
    stored.cellBytes, ran]
  cases result <;> simp

lemma SegmentImage.build_of_unreadable (vis : image.vis.getD (.ok []) = .ok batches)
    (some : (batches.map VisBatch.numRows).sum ≠ 0) (stored : image.HasColumns cols vals rows)
    (unreadable : ∃ batch ∈ batches, batch.versioned = none) (extractRowBytes) (entries) :
    image.buildSegmentVersionIndex extractRowBytes cols ≠ (entries, .ok ()) := by
  obtain ⟨buffers, -, built⟩ := image.build_of_rows vis some stored extractRowBytes
  obtain ⟨error, failed⟩ := versionEntries_eq_error buffers
    (batches.map VisBatch.numRows).sum 0 unreadable
  rw [built _ _ rfl, failed]
  simp

lemma SegmentImage.build_of_readable (vis : image.vis.getD (.ok []) = .ok batches)
    (some : (batches.map VisBatch.numRows).sum ≠ 0) (stored : image.HasColumns cols vals rows)
    (readable : ∀ batch ∈ batches, batch.versioned ≠ none) (extractRowBytes) :
    ∃ entries, image.buildSegmentVersionIndex extractRowBytes cols = (entries, .ok ()) ∧
      ∀ row, valuesAt entries row =
        if row < (versionedRows batches).length then
          [ringBytes (cols.flatMap fun col => storedBytes extractRowBytes (vals col))
            (batches.map VisBatch.numRows).sum row] else [] := by
  have fits := length_versionedRows_le batches
  obtain ⟨buffers, held, built⟩ := image.build_of_rows vis some stored extractRowBytes
  have made := built _ _ (versionEntries_eq _ _ _ readable (Nat.zero_add _).le)
  rw [if_pos rfl] at made
  refine ⟨_, made, fun row => ?_⟩
  rw [valuesAt_rowVersions]
  by_cases inside : row < (versionedRows batches).length
  · rw [if_pos (by omega), if_pos inside, held row (by omega)]
  · rw [if_neg (by omega), if_neg inside]

end Build

/-- The version index has the right values in one version of every row exactly when the build
fails at a visibility batch, or the batches have versions for all rows and the cells that share
the buffer of a row are its own. -/
theorem SegmentImage.version_values_iff {image : SegmentImage Value} {batches : List VisBatch}
    {columns : List String} {values : String → List Value} {count : Nat}
    (vis : image.vis.getD (.ok []) = .ok batches)
    (stored : image.HasColumns columns values count) (extractRowBytes : Value → RowValue) :
    (∀ entries, image.buildSegmentVersionIndex extractRowBytes columns = (entries, .ok ()) →
        ∀ row < count, valuesAt entries row = [rowBytes extractRowBytes values columns row]) ↔
      (0 < (batches.map VisBatch.numRows).sum ∧ ∃ batch ∈ batches, batch.versioned = none) ∨
        count ≤ (versionedRows batches).length ∧ ∀ row < count,
          ringBytes (columns.flatMap fun column => storedBytes extractRowBytes (values column))
            (batches.map VisBatch.numRows).sum row =
              rowBytes extractRowBytes values columns row := by
  by_cases noRows : (batches.map VisBatch.numRows).sum = 0
  · have fits := length_versionedRows_le batches
    simp only [image.build_of_no_rows vis noRows, noRows, Prod.mk.injEq, and_true, forall_eq',
      valuesAt, filter_nil, map_nil, Nat.lt_irrefl, false_and, false_or]
    constructor
    · intro empty
      have none : count = 0 := Nat.eq_zero_of_not_pos fun some => by simpa using empty 0 some
      exact ⟨by omega, fun row inside => by omega⟩
    · rintro ⟨bound, -⟩ row inside
      omega
  by_cases unreadable : ∃ batch ∈ batches, batch.versioned = none
  · exact iff_of_true
      (fun entries built => absurd built
        (image.build_of_unreadable vis noRows stored unreadable extractRowBytes entries))
      (.inl ⟨Nat.pos_of_ne_zero noRows, unreadable⟩)
  obtain ⟨entries, built, valued⟩ := image.build_of_readable vis noRows stored
    (fun batch mem none => unreadable ⟨batch, mem, none⟩) extractRowBytes
  simp only [built, unreadable, and_false, false_or, Prod.mk.injEq, and_true, forall_eq', valued]
  constructor
  · intro right
    have bound : count ≤ (versionedRows batches).length := by
      by_contra short
      have last := right (versionedRows batches).length (by omega)
      simp at last
    refine ⟨bound, fun row inside => ?_⟩
    have value := right row inside
    rw [if_pos (by omega)] at value
    exact List.singleton_inj.mp value
  · rintro ⟨bound, right⟩ row inside
    rw [if_pos (by omega), right row inside]

/-- One row with the value 7 in column `a` and 8 in column `b`. -/
def oneWideRow (vis : VisBatch) : SegmentImage RowValue where
  columnBatches column :=
    if column = "a" then some (.ok [[.value [7]]])
    else if column = "b" then some (.ok [[.value [8]]])
    else none
  vis := some (.ok [vis])
  visPathText := "__vis.vortex"
  deltavis := none

/-- The index of the first column alone has its value. -/
theorem oneWideRow_first :
    (oneWideRow (.ofRows [(1, notDeleted)])).buildSegmentVersionIndex id ["a"] =
        ([⟨0, 1, ⟨1, [7], 1, none⟩⟩], .ok ()) ∧
      valuesAt [⟨0, 1, ⟨1, [7], 1, none⟩⟩] 0 =
        [rowBytes id (fun _ => [.value [7]]) ["a"] 0] := by
  have built : (oneWideRow (.ofRows [(1, notDeleted)])).buildSegmentVersionIndex id ["a"] =
      ([⟨0, 1, ⟨1, [7], 1, none⟩⟩], .ok ()) := rfl
  have stored : (oneWideRow (.ofRows [(1, notDeleted)])).HasColumns ["a"]
      (fun _ => [.value [7]]) 1 := ⟨by simp [oneWideRow], by simp⟩
  refine ⟨built, (SegmentImage.version_values_iff rfl stored id).mpr
    (.inr ⟨by decide, fun row inside => ?_⟩) _ built 0 Nat.one_pos⟩
  obtain rfl : row = 0 := by simpa using inside
  rfl

/-- The index of both columns has no value of the second one, and none at all if the
visibility file has one column, as the writer leaves it. -/
theorem oneWideRow_incomplete :
    (oneWideRow (.ofRows [(1, notDeleted)])).buildSegmentVersionIndex id ["a", "b"] =
        ([⟨0, 1, ⟨1, [7], 1, none⟩⟩], .ok ()) ∧
      (oneWideRow ⟨1, [(createdTxnCol, .int64 [1])], by simp [VisColumn.length]⟩
        ).buildSegmentVersionIndex id ["a", "b"] = ([], .ok ()) ∧
      rowBytes id (fun column => if column = "a" then [.value [7]] else [.value [8]]) ["a", "b"] 0 =
        [7, 8] :=
  ⟨rfl, rfl, rfl⟩

end RockDuck
