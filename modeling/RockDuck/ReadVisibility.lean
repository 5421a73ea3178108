import RockDuck.PointGet

/-!
# Reads and the visibility rule

Which rows a scan and a point get return, compared with the rows the visibility
rule shows when every delete of a row is taken with the transaction that made
it.
-/

namespace RockDuck

open List VisBatch

variable {Value : Type*}

/-- What can be read from the files of a segment.  The visibility batches have any shape. -/
structure SegmentImage.Stores (image : SegmentImage Value)
    (columns : List String) (data : List (List (DataRow Value))) (batches : List VisBatch)
    (deleteLog : List (Nat × TxnId)) : Prop where
  dataReads : image.readVortexSegment columns = .ok data
  visReads : image.vis.getD (.ok []) = .ok batches
  logReads : image.deltavis.getD (.ok []) = .ok deleteLog

/-- The creator of a row, from the first column, and its deleter, from the second one if the
batch has it. -/
def VisBatch.record (batch : VisBatch) (index : Nat) : Option (TxnId × Nat) :=
  match batch.columns with
  | (_, .int64 created) :: (_, .int64 deleted) :: _ =>
    some (created.getD index 0, deleted.getD index 0)
  | (_, .int64 created) :: _ => some (created.getD index 0, notDeleted)
  | _ => none

/-- The visibility record of a row. -/
def recordOf (batches : List VisBatch) (row : Nat) : Option (TxnId × Nat) :=
  (locate VisBatch.numRows batches row).bind fun found => found.1.record found.2

/-- The second column has the deleters. -/
def VisBatch.hasDeleters (batch : VisBatch) : Bool :=
  match batch.columns with
  | _ :: (_, .int64 _) :: _ => true
  | _ => false

/-- The transactions that deleted a row. -/
def deletersOf (deleteLog : List (Nat × TxnId)) (row stored : Nat) : List TxnId :=
  (deletedTxn stored).toList ++
    (deleteLog.filter fun entry => decide (entry.1 = row)).map Prod.snd

/-- The snapshot sees the creator and no deleter. -/
def RowVisible (snapshot : TxnSnapshot) (created : TxnId) (deleters : List TxnId) : Prop :=
  VisibilityManager.isVisible snapshot created none = true ∧
    ∀ deleter ∈ deleters,
      VisibilityManager.isVisible snapshot created (some deleter) = true

lemma rowVisible_iff (snap created deleters) : RowVisible snap created deleters ↔
      (created ≤ snap.snapshotId ∧ snap.Counts created) ∧
        ∀ deleter ∈ deleters, ¬ snap.Counts deleter := by
  simp only [RowVisible, VisibilityManager.isVisible_iff]
  constructor
  · rintro ⟨⟨bound, counts, -⟩, hidden⟩
    exact ⟨⟨bound, counts⟩, fun deleter mem => (hidden deleter mem).2.2 deleter rfl⟩
  · rintro ⟨⟨bound, counts⟩, ignored⟩
    refine ⟨⟨bound, counts, by simp⟩, fun deleter mem => ?_⟩
    refine ⟨bound, counts, ?_⟩
    rintro other same
    cases same
    exact ignored deleter mem

/-- The rows with their numbers. -/
def numberRows {Row : Type*} : Nat → List (List Row) → List (List (Row × Nat))
  | _, [] => []
  | row, batch :: batches => batch.zipIdx row :: numberRows (row + batch.length) batches

/-- A scan keeps the row. -/
def SegmentImage.ScanKeeps (image : SegmentImage Value) (visFilter : VisFilter)
    (snapshot : TxnSnapshot) (data : List (List (DataRow Value))) (row : Nat) : Prop :=
  ∃ kept, image.scanRows visFilter snapshot (numberRows 0 data) = .ok kept ∧
    row ∈ kept.flatten.map Prod.snd

/-- What the scan decides a row by, when every batch has its two columns. -/
def shownRow (snapshot : TxnSnapshot) (visRows : List (List (TxnId × Nat)))
    (deletedRows : List Nat) (row : Nat) : Bool :=
  !deletedRows.contains row &&
    match visRows.flatten[row]? with
    | none => true
    | some (created, stored) => VisibilityManager.isVisible snapshot created (deletedTxn stored)

variable {deleteLog : List (Nat × TxnId)}

def VisBatch.int64Rows (batch : VisBatch) : Option (List (TxnId × Nat)) :=
  match batch.columns with
  | [(_, .int64 created), (_, .int64 deleted)] => some (created.zip deleted)
  | _ => none

lemma VisBatch.columns_of_int64Rows {batch : VisBatch} (read : batch.int64Rows = some rows) :
    ∃ createdName created deletedName deleted, batch.columns =
          [(createdName, .int64 created), (deletedName, .int64 deleted)] ∧
        rows = created.zip deleted ∧ created.length = batch.numRows ∧
          deleted.length = batch.numRows := by
  unfold int64Rows at read
  split at read
  · rename_i createdName created deletedName deleted stored
    have aligned := batch.aligned
    rw [stored] at aligned
    refine ⟨_, _, _, _, stored, (Option.some.inj read).symm, ?_, ?_⟩
    · exact aligned (createdName, .int64 created) (by simp)
    · exact aligned (deletedName, .int64 deleted) (by simp)
  · simp at read

@[simp]
lemma VisBatch.int64Rows_ofRows (rows) : (ofRows rows).int64Rows = some rows := by
  have pairs : (rows.map Prod.fst).zip (rows.map Prod.snd) = rows := (zip_of_prod rfl rfl).symm
  simp [int64Rows, ofRows, pairs]

section

variable (visFilter : VisFilter) (snap : TxnSnapshot)

lemma isRowVisibleInVisBatch_of_int64Rows {batch : VisBatch} (read : batch.int64Rows = some rows)
    (mem : idx < batch.numRows) : ∃ created stored, rows[idx]? = some (created, stored) ∧
      isRowVisibleInVisBatch visFilter snap batch idx =
        .ok (VisibilityManager.isVisible snap created (deletedTxn stored)) := by
  obtain ⟨_, created, _, deleted, cols, rfl, inCreated, inDeleted⟩ :=
    columns_of_int64Rows read
  have createdBound : idx < created.length := inCreated ▸ mem
  have deletedBound : idx < deleted.length := inDeleted ▸ mem
  refine ⟨created[idx], deleted[idx], ?_, ?_⟩
  · simp [createdBound, deletedBound]
  · simp [isRowVisibleInVisBatch, cols, VisFilter.isRowVisible_eq, createdBound, deletedBound]

lemma decideRow_eq_shownRow {vis : List VisBatch} {visRows : List (List (TxnId × Nat))}
    (read : vis.map VisBatch.int64Rows = visRows.map some) (deletedRows)
    (row : Nat) : decideRow visFilter snap vis deletedRows row =
      .ok (shownRow snap visRows deletedRows row) := by
  have readable : ∀ batch ∈ vis, ∃ rows, batch.int64Rows = some rows := by
    intro batch mem
    have listed := mem_map_of_mem (f := int64Rows) mem
    rw [read] at listed
    obtain ⟨rows, _, same⟩ := mem_map.mp listed
    exact ⟨rows, same.symm⟩
  have flattened : visRows.flatten = vis.flatMap fun batch => batch.int64Rows.getD [] := by
    have rows := congrArg (List.map fun entry => entry.getD []) read
    simp only [map_map, Function.comp_def, Option.getD_some, map_id'] at rows
    rw [← rows, flatMap_def]
  have sized : ∀ batch ∈ vis, (batch.int64Rows.getD []).length = batch.numRows := by
    intro batch mem
    obtain ⟨rows, readsAs⟩ := readable batch mem
    obtain ⟨_, _, _, _, _, rfl, createdLength, deletedLength⟩ :=
      columns_of_int64Rows readsAs
    simp [readsAs, createdLength, deletedLength]
  unfold decideRow shownRow
  rw [flattened, ← locate_bind_getElem? numRows _ sized]
  by_cases logged : row ∈ deletedRows
  · simp [logged]
  · cases found : locate numRows vis row with
    | none => simp [logged]
    | some place =>
      obtain ⟨batch, idx⟩ := place
      obtain ⟨mem, inside⟩ := locate_lt found
      obtain ⟨rows, readsAs⟩ := readable batch mem
      obtain ⟨created, stored, entry, decided⟩ :=
        isRowVisibleInVisBatch_of_int64Rows visFilter snap readsAs inside
      simp [logged, readsAs, entry, decided]

end

/-- The filter keeps the rows that are not deleted and whose entry among the
visibility rows, if there is one, is visible.  Both are counted across their
batches. -/
theorem filterBatchesByVisibilityImpl_keeps_shown {Row : Type*} (visFilter : VisFilter)
    (snapshot : TxnSnapshot) (visBatches : List VisBatch) (visRows : List (List (TxnId × Nat)))
    (twoColumns : visBatches.map VisBatch.int64Rows = visRows.map some)
    (dataBatches : List (List Row)) (deletedRows : List Nat) :
    ∃ kept, filterBatchesByVisibilityImpl visFilter snapshot visBatches
        dataBatches deletedRows = .ok kept ∧ kept.length = dataBatches.length ∧
      kept.flatten = (dataBatches.flatten.zipIdx.filter fun entry =>
        !deletedRows.contains entry.2 && visRows.flatten[entry.2]?.all fun visRow =>
            visFilter.isRowVisible snapshot visRow.1 (deletedTxn visRow.2)).map Prod.fst := by
  obtain ⟨kept, filtered, rows⟩ := filterBatchesByVisibilityImpl_of_decides fun row _ =>
    decideRow_eq_shownRow visFilter snapshot twoColumns deletedRows row
  refine ⟨kept, filtered, length_filterBatchesByVisibilityImpl filtered, ?_⟩
  rw [rows]
  congr 2
  funext entry
  rw [shownRow]
  cases visRows.flatten[entry.2]? with
  | none => simp
  | some visRow => simp [VisFilter.isRowVisible_eq]

/-- Rows and visibility rows in batches of different sizes: the creator of the
second row is not committed, and the third row has no entry. -/
theorem differentBatches_filtered : ∃ kept, filterBatchesByVisibilityImpl .visibilityManager
        ⟨5, ∅, .snapshot, Std.ExtTreeMap.ofList [(1, 1)]⟩
        [.ofRows [(1, notDeleted)], .ofRows [], .ofRows [(2, notDeleted)]]
        [["a", "b"], [], ["c"]] [] = .ok kept ∧
      kept.length = 3 ∧ kept.flatten = ["a", "c"] := by
  obtain ⟨kept, filtered, batches, rows⟩ :=
    filterBatchesByVisibilityImpl_keeps_shown .visibilityManager
      ⟨5, ∅, .snapshot, Std.ExtTreeMap.ofList [(1, 1)]⟩
      [.ofRows [(1, notDeleted)], .ofRows [], .ofRows [(2, notDeleted)]]
      [[(1, notDeleted)], [], [(2, notDeleted)]] (by simp)
      [["a", "b"], [], ["c"]] []
  exact ⟨kept, filtered, batches, rows.trans (by decide +kernel)⟩

lemma inDeltavis_eq {image : SegmentImage Value}
    (logReads : image.deltavis.getD (.ok []) = .ok deleteLog) (row : Nat) :
    image.inDeltavis row = (deleteLog.map Prod.fst).contains row := by
  unfold SegmentImage.inDeltavis
  cases stored : image.deltavis with
  | none =>
    have noEntries : deleteLog = [] := by simpa [stored, eq_comm] using logReads
    simp [noEntries]
  | some read =>
    obtain rfl : read = .ok deleteLog := by simpa [stored] using logReads
    rw [Bool.eq_iff_iff]
    simp

section Stored

variable {image : SegmentImage Value} {cols : List String} {data : List (List (DataRow Value))}
    {batches : List VisBatch} {visFilter : VisFilter} {snap : TxnSnapshot} {row : Nat}

lemma flatten_numberRows {Row : Type*} (start : Nat) (rows : List (List Row)) :
    (numberRows start rows).flatten = rows.flatten.zipIdx start := by
  induction rows generalizing start with
  | nil => rfl
  | cons batch rows ih => simp [numberRows, ih, zipIdx_append]

lemma SegmentImage.Stores.scanRows_eq {Row : Type*}
    (stores : image.Stores cols data batches deleteLog) (rows : List (List Row)) :
    image.scanRows visFilter snap rows =
      filterBatchesByVisibilityImpl visFilter snap batches rows (deleteLog.map Prod.fst) := by
  have vis : image.readVisibilityBatches = .ok batches := by
    have reads := stores.visReads
    unfold SegmentImage.readVisibilityBatches
    cases stored : image.vis with
    | none => simpa [stored] using reads
    | some read =>
      rw [stored] at reads
      cases reads
      rfl
  have deletedRows : image.readDeletedRows = .ok (deleteLog.map Prod.fst) := by
    have reads := stores.logReads
    unfold SegmentImage.readDeletedRows
    cases stored : image.deltavis with
    | none => simpa [stored] using reads
    | some read =>
      rw [stored] at reads
      cases reads
      rfl
  simp only [SegmentImage.scanRows, vis, deletedRows]

lemma length_numberRows (data : List (List (DataRow Value))) :
    (numberRows 0 data).flatten.length = data.flatten.length := by
  rw [flatten_numberRows, length_zipIdx]

/-- A scan returns if it can decide every row. -/
lemma SegmentImage.Stores.scanReturns_iff (stores : image.Stores cols data batches deleteLog) :
    (∃ kept, image.scanRows visFilter snap (numberRows 0 data) = .ok kept) ↔
      ∀ row < data.flatten.length, ∃ shown,
        decideRow visFilter snap batches (deleteLog.map Prod.fst) row = .ok shown := by
  rw [stores.scanRows_eq, ← length_numberRows data]
  constructor
  · rintro ⟨kept, ran⟩ row inside
    exact decides_of_filterBatchesByVisibilityImpl ran inside
  · intro decides
    choose! shown decided using decides
    obtain ⟨kept, ran, -⟩ := filterBatchesByVisibilityImpl_of_decides decided
    exact ⟨kept, ran⟩

/-- Then it keeps the rows that it shows. -/
lemma SegmentImage.Stores.scanKeeps_iff (stores : image.Stores cols data batches deleteLog)
    (returns : ∃ kept, image.scanRows visFilter snap (numberRows 0 data) = .ok kept)
    (inside : row < data.flatten.length) : image.ScanKeeps visFilter snap data row ↔
      decideRow visFilter snap batches (deleteLog.map Prod.fst) row = .ok true := by
  have decides := stores.scanReturns_iff.mp returns
  choose! shown decided using decides
  rw [← length_numberRows data] at decided
  obtain ⟨kept, ran, rows⟩ := filterBatchesByVisibilityImpl_of_decides decided
  rw [ScanKeeps, stores.scanRows_eq, ran, decided row (by rwa [length_numberRows])]
  have present : ∃ value, data.flatten[row]? = some value := ⟨_, List.getElem?_eq_getElem inside⟩
  simp only [Except.ok.injEq, exists_eq_left', rows, flatten_numberRows]
  simpa [mem_zipIdx_iff_getElem?, getElem?_zipIdx] using fun _ => present

lemma rowVisible_of_unlogged (unlogged : ∀ deleter, (row, deleter) ∉ deleteLog) :
    RowVisible snap created (deletersOf deleteLog row stored) ↔
      VisibilityManager.isVisible snap created (deletedTxn stored) = true := by
  have deleters : deletersOf deleteLog row stored = (deletedTxn stored).toList := by
    have none_logged : deleteLog.filter (fun entry => decide (entry.1 = row)) = [] := by
      rw [filter_eq_nil_iff]
      rintro ⟨logged, deleter⟩ mem
      simp only [decide_eq_true_eq]
      rintro rfl
      exact unlogged deleter mem
    simp [deletersOf, none_logged]
  rw [deleters, rowVisible_iff, VisibilityManager.isVisible_iff, and_assoc]
  simp

lemma decideRow_of_logged (logged : (row, deleter) ∈ deleteLog) :
    decideRow visFilter snap batches (deleteLog.map Prod.fst) row = .ok false := by
  have listed : (deleteLog.map Prod.fst).contains row = true := by
    simpa using ⟨deleter, logged⟩
  rw [decideRow, listed, if_pos rfl]

lemma decideRow_of_unlogged (unlogged : ∀ deleter, (row, deleter) ∉ deleteLog)
    (located : locate numRows batches row = some (batch, index)) :
    decideRow visFilter snap batches (deleteLog.map Prod.fst) row =
      isRowVisibleInVisBatch visFilter snap batch index := by
  have absent : (deleteLog.map Prod.fst).contains row = false := by simpa using unlogged
  rw [decideRow, absent, located]
  rfl

lemma VisBatch.decides_iff (batch : VisBatch) (index : Nat) :
    (∃ shown, isRowVisibleInVisBatch visFilter snap batch index = .ok shown) ↔
      2 ≤ batch.columns.length := by
  match cols : batch.columns with
  | [] | [_] => simp [isRowVisibleInVisBatch, cols]
  | (_, .int64 _) :: (_, .int64 _) :: _ | (_, .int64 _) :: (_, .other _) :: _
  | (_, .other _) :: _ :: _ => simp [isRowVisibleInVisBatch, cols]

/-- A scan goes by the record of a row, and shows the row if the record has no deleter's
column. -/
lemma VisBatch.shows_iff {batch : VisBatch} (recorded : batch.record index = some (created, stored))
    (wide : 2 ≤ batch.columns.length) :
    isRowVisibleInVisBatch visFilter snap batch index = .ok true ↔
      (batch.hasDeleters = true →
        VisibilityManager.isVisible snap created (deletedTxn stored) = true) := by
  match cols : batch.columns with
  | (_, .int64 _) :: (_, .int64 _) :: _ =>
    simp only [record, cols, Option.some.injEq, Prod.mk.injEq] at recorded
    obtain ⟨rfl, rfl⟩ := recorded
    simp [isRowVisibleInVisBatch, hasDeleters, cols, VisFilter.isRowVisible_eq]
  | (_, .int64 _) :: (_, .other _) :: _ => simp [isRowVisibleInVisBatch, hasDeleters, cols]
  | [(_, .int64 _)] => simp [cols] at wide
  | [] | (_, .other _) :: _ => simp [record, cols] at recorded

lemma VisBatch.stored_of_not_hasDeleters {batch : VisBatch}
    (recorded : batch.record index = some (created, stored)) (none : batch.hasDeleters = false) :
    stored = notDeleted := by
  unfold VisBatch.record at recorded
  unfold hasDeleters at none
  split at recorded
  · next cols => simp [cols] at none
  · cases recorded
    rfl
  · cases recorded

end Stored

lemma SegmentImage.Stores.columns_ne_nil {image : SegmentImage Value} {cols data batches}
    (stores : image.Stores cols data batches deleteLog) {row}
    (mem : row < data.flatten.length) : cols ≠ [] := by
  rintro rfl
  have reads := stores.dataReads
  cases reads
  simp at mem

namespace ReadContext

variable {context : ReadContext Value} {segId : String} {segment : SegmentMeta}

lemma get_cases (described : context.segmentMeta segId = .ok (some segment))
    (ne : segment.columns ≠ []) (snap deltaSnapshot)
    (indexed : context.pkIndex pk = .ok (some (segId, granule, row))) :
    (((context.image segId).inDeltavis row = true ∨ (context.image segId).visShows snap row =
        false) ∧ context.get snap deltaSnapshot pk = .ok none) ∨
    (((context.image segId).inDeltavis row = false ∧
        (context.image segId).visShows snap row = true) ∧
      context.get snap deltaSnapshot pk ≠ .ok none ∧
      ∀ deltas, context.deltas segId deltaSnapshot = .ok deltas →
        context.get snap deltaSnapshot pk =
          .ok (some (applyRowDeltas row ((context.image segId).readRow
            context.extractRowBytes row segment.columns) deltas))) := by
  cases logged : (context.image segId).inDeltavis row with
  | true =>
    refine .inl ⟨.inl rfl, ?_⟩
    simp [get, indexed, logged]
  | false =>
    cases shows : (context.image segId).visShows snap row with
    | false =>
      refine .inl ⟨.inr rfl, ?_⟩
      simp [get, indexed, logged, shows]
    | true =>
      refine .inr ⟨⟨rfl, rfl⟩, ?_⟩
      cases answered : context.deltas segId deltaSnapshot with
      | error error | ok deltas => simp [get, indexed, logged, shows, described, ne, answered]

/-- A point get answers nothing for the rows the rule hides, and the row with
its changes for the others, once the delta layer answers. -/
def PointGetHonours (context : ReadContext Value) (segId : String) (segment : SegmentMeta)
    (snapshot deltaSnapshot : TxnSnapshot) (pk : Bytes) (row : Nat) (visible : Prop) : Prop :=
  (context.get snapshot deltaSnapshot pk = .ok none ↔ ¬ visible) ∧
    (visible → ∀ deltas, context.deltas segId deltaSnapshot = .ok deltas →
      context.get snapshot deltaSnapshot pk =
        .ok (some (applyRowDeltas row ((context.image segId).readRow
          context.extractRowBytes row segment.columns) deltas)))

/-- A scan returns, and every stored row with a visibility record is returned by the scan, and
by a point get of a key that leads to it, exactly when the rule shows it. -/
def ReadsHonourMvcc (context : ReadContext Value) (segId : String)
    (segment : SegmentMeta) (visFilter : VisFilter) (snapshot deltaSnapshot : TxnSnapshot)
    (data : List (List (DataRow Value))) (batches : List VisBatch)
    (deleteLog : List (Nat × TxnId)) : Prop :=
  (∃ kept, (context.image segId).scanRows visFilter snapshot (numberRows 0 data) = .ok kept) ∧
  ∀ row < data.flatten.length, ∀ created stored, recordOf batches row = some (created, stored) →
    ((context.image segId).ScanKeeps visFilter snapshot data row ↔
      RowVisible snapshot created (deletersOf deleteLog row stored)) ∧
    ∀ pk granuleId,
      context.pkIndex pk = .ok (some (segId, granuleId, row)) →
        context.PointGetHonours segId segment snapshot deltaSnapshot pk row
          (RowVisible snapshot created (deletersOf deleteLog row stored))

/-- A logged delete of a row whose creator counts comes with one that counts too.  A row
without one is in a batch of two columns or more; the second has the deleters, or the creator
counts; and a point get, which goes by the last two columns, finds there what the rule says. -/
structure Judged (context : ReadContext Value) (segId : String) (snapshot : TxnSnapshot)
    (batches : List VisBatch) (deleteLog : List (Nat × TxnId)) (row : Nat) : Prop where
  logged : (∃ deleter, (row, deleter) ∈ deleteLog) → ∀ created stored,
    recordOf batches row = some (created, stored) →
      created ≤ snapshot.snapshotId → snapshot.Counts created →
        ∃ deleter ∈ deletersOf deleteLog row stored, snapshot.Counts deleter
  wide : (∀ deleter, (row, deleter) ∉ deleteLog) → ∀ batch index,
    locate VisBatch.numRows batches row = some (batch, index) → 2 ≤ batch.columns.length ∧
      (batch.hasDeleters = false → ∀ created stored, batch.record index = some (created, stored) →
        created ≤ snapshot.snapshotId ∧ snapshot.Counts created)
  indexed : (∀ deleter, (row, deleter) ∉ deleteLog) → ∀ pk granuleId,
    context.pkIndex pk = .ok (some (segId, granuleId, row)) → ∀ created stored,
      recordOf batches row = some (created, stored) →
        ((context.image segId).visShows snapshot row = true ↔
          VisibilityManager.isVisible snapshot created (deletedTxn stored) = true)

end ReadContext

section Rule

variable {context : ReadContext Value} {segId : String} {segment : SegmentMeta}
    {data : List (List (DataRow Value))} {batches : List VisBatch}
    {deleteLog : List (Nat × TxnId)} {snapshot : TxnSnapshot} {row : Nat}

lemma not_rowVisible_iff (created stored) :
    ¬ RowVisible snapshot created (deletersOf deleteLog row stored) ↔
      (created ≤ snapshot.snapshotId → snapshot.Counts created →
        ∃ deleter ∈ deletersOf deleteLog row stored, snapshot.Counts deleter) := by
  rw [rowVisible_iff]
  push Not
  exact and_imp

lemma ReadContext.pointGetHonours_iff (described : context.segmentMeta segId = .ok (some segment))
    (stores : (context.image segId).Stores segment.columns data batches deleteLog)
    (inside : row < data.flatten.length) (snapshot deltaSnapshot : TxnSnapshot)
    (indexed : context.pkIndex pk = .ok (some (segId, granuleId, row))) (visible : Prop) :
    context.PointGetHonours segId segment snapshot deltaSnapshot pk row visible ↔
      (((∀ deleter, (row, deleter) ∉ deleteLog) ∧
        (context.image segId).visShows snapshot row = true) ↔ visible) := by
  have unlogged : (context.image segId).inDeltavis row = false ↔
      ∀ deleter, (row, deleter) ∉ deleteLog := by
    rw [inDeltavis_eq stores.logReads]
    simp
  rw [← unlogged, PointGetHonours]
  rcases get_cases described (stores.columns_ne_nil inside) snapshot deltaSnapshot indexed with
    ⟨hidden, answer⟩ | ⟨⟨notLogged, shows⟩, found, answer⟩
  · rcases hidden with logged | hides
    · simp only [answer, logged, true_iff, Bool.true_eq_false, false_and, false_iff]
      exact and_iff_left_of_imp fun no yes => absurd yes no
    · simp only [answer, hides, true_iff, Bool.false_eq_true, and_false, false_iff]
      exact and_iff_left_of_imp fun no yes => absurd yes no
  · simp only [notLogged, shows, and_self, true_iff, found, false_iff, not_not]
    exact ⟨And.left, fun holds => ⟨holds, fun _ => answer⟩⟩

lemma SegmentImage.Stores.scanReturns_of_judged
    (stores : (context.image segId).Stores segment.columns data batches deleteLog) (visFilter)
    (judged : ∀ row < data.flatten.length, context.Judged segId snapshot batches deleteLog row) :
    ∃ kept, (context.image segId).scanRows visFilter snapshot (numberRows 0 data) = .ok kept := by
  refine stores.scanReturns_iff.mpr fun row inside => ?_
  by_cases unlogged : ∀ deleter, (row, deleter) ∉ deleteLog
  · cases located : locate VisBatch.numRows batches row with
    | none =>
      have absent : (deleteLog.map Prod.fst).contains row = false := by simpa using unlogged
      exact ⟨true, by rw [decideRow, absent, located]; rfl⟩
    | some found =>
      rw [decideRow_of_unlogged unlogged located, VisBatch.decides_iff]
      exact ((judged row inside).wide unlogged _ _ located).1
  · push Not at unlogged
    obtain ⟨deleter, mem⟩ := unlogged
    exact ⟨false, decideRow_of_logged mem⟩

end Rule

/-- Reads follow the visibility rule exactly when it judges every row as they do. -/
theorem reads_honour_mvcc_iff {context : ReadContext Value} {segId : String} {segment : SegmentMeta}
    {data : List (List (DataRow Value))} {batches : List VisBatch}
    {deleteLog : List (Nat × TxnId)} (described : context.segmentMeta segId = .ok (some segment))
    (stores : (context.image segId).Stores segment.columns data batches deleteLog)
    (visFilter : VisFilter) (snapshot deltaSnapshot : TxnSnapshot) :
    context.ReadsHonourMvcc segId segment visFilter snapshot deltaSnapshot data batches deleteLog ↔
      ∀ row < data.flatten.length, context.Judged segId snapshot batches deleteLog row := by
  constructor
  · rintro ⟨returns, honours⟩ row inside
    have decides := stores.scanReturns_iff.mp returns row inside
    refine ⟨fun logged created stored recorded => ?_, fun unlogged batch index located => ?_,
      fun unlogged pk granuleId indexed created stored recorded => ?_⟩
    · rw [← not_rowVisible_iff, ← (honours row inside created stored recorded).1,
        stores.scanKeeps_iff returns inside]
      obtain ⟨deleter, mem⟩ := logged
      simp [decideRow_of_logged mem]
    · rw [decideRow_of_unlogged unlogged located, VisBatch.decides_iff] at decides
      refine ⟨decides, fun none created stored recorded => ?_⟩
      have whole : recordOf batches row = some (created, stored) := by
        rw [recordOf, located]
        exact recorded
      have kept := (honours row inside created stored whole).1
      rw [stores.scanKeeps_iff returns inside, decideRow_of_unlogged unlogged located,
        VisBatch.shows_iff recorded decides, none] at kept
      exact ((rowVisible_iff _ _ _).mp (kept.mp (by simp))).1
    · have gets := (honours row inside created stored recorded).2 pk granuleId indexed
      rw [ReadContext.pointGetHonours_iff described stores inside snapshot deltaSnapshot indexed,
        rowVisible_of_unlogged unlogged, and_iff_right unlogged] at gets
      exact gets
  · intro judged
    have returns := stores.scanReturns_of_judged visFilter judged
    refine ⟨returns, fun row inside created stored recorded => ?_⟩
    obtain ⟨⟨batch, index⟩, located, record⟩ := Option.bind_eq_some_iff.mp recorded
    by_cases unlogged : ∀ deleter, (row, deleter) ∉ deleteLog
    · obtain ⟨wide, counted⟩ := (judged row inside).wide unlogged batch index located
      rw [stores.scanKeeps_iff returns inside, decideRow_of_unlogged unlogged located,
        VisBatch.shows_iff record wide, rowVisible_of_unlogged unlogged]
      refine ⟨?_, fun pk granuleId indexed => ?_⟩
      · cases deleters : batch.hasDeleters with
        | true => simp
        | false =>
          obtain rfl := VisBatch.stored_of_not_hasDeleters record deleters
          refine iff_of_true (by simp) ?_
          rw [VisibilityManager.isVisible_iff]
          obtain ⟨bound, counts⟩ := counted deleters created _ record
          exact ⟨bound, counts, by simp [deletedTxn]⟩
      · rw [ReadContext.pointGetHonours_iff described stores inside snapshot deltaSnapshot indexed,
          and_iff_right unlogged]
        exact (judged row inside).indexed unlogged pk granuleId indexed created stored recorded
    · push Not at unlogged
      have hidden := (not_rowVisible_iff created stored).mpr
        ((judged row inside).logged unlogged created stored recorded)
      obtain ⟨deleter, mem⟩ := unlogged
      refine ⟨?_, fun pk granuleId indexed => ?_⟩
      · rw [stores.scanKeeps_iff returns inside, decideRow_of_logged mem]
        exact iff_of_false (by simp) hidden
      · rw [ReadContext.pointGetHonours_iff described stores inside snapshot deltaSnapshot indexed]
        exact iff_of_false (fun both => both.1 deleter mem) hidden

/-- One row, with the visibility file as the writer leaves it, and a logged delete. -/
def loggedDelete : SegmentImage UInt8 where
  columnBatches column := if column = "x" then some (.ok [[7]]) else none
  vis := some (.ok [⟨1, [(createdTxnCol, .int64 [1])], by simp [VisColumn.length]⟩])
  visPathText := "segments/seg_1/__vis.vortex"
  deltavis := some (.ok [(0, 2)])

def loggedDeleteContext : ReadContext UInt8 where
  pkIndex _ := .ok (some ("seg_1", 0, 0))
  segmentMeta _ := .ok (some (.new "seg_1" "t" ["x"]))
  image _ := loggedDelete
  deltas _ _ := .ok []
  extractRowBytes value := .value [value]

def whileDeleterActive : TxnSnapshot where
  snapshotId := 1
  activeTxns := (∅ : Std.ExtTreeSet TxnId).insert 2
  isolation := .snapshot
  commitTsMap := (∅ : Std.ExtTreeMap TxnId Nat).insert 1 1

def afterDeleterCommitted : TxnSnapshot where
  snapshotId := 2
  activeTxns := ∅
  isolation := .snapshot
  commitTsMap := ((∅ : Std.ExtTreeMap TxnId Nat).insert 1 1).insert 2 2

def createdByFirst : List VisBatch :=
  [⟨1, [(createdTxnCol, .int64 [1])], by simp [VisColumn.length]⟩]

/-- The delete is committed, and the row is not returned. -/
theorem reads_honour_mvcc_iff_loggedDelete :
    loggedDeleteContext.ReadsHonourMvcc "seg_1" (.new "seg_1" "t" ["x"]) .txnSnapshot
      afterDeleterCommitted afterDeleterCommitted [[[("x", 7)]]] createdByFirst [(0, 2)] := by
  have stores : (loggedDeleteContext.image "seg_1").Stores ["x"] [[[("x", 7)]]]
      createdByFirst [(0, 2)] := ⟨rfl, rfl, rfl⟩
  refine (reads_honour_mvcc_iff rfl stores .txnSnapshot afterDeleterCommitted
    afterDeleterCommitted).mpr fun row inside => ?_
  obtain rfl : row = 0 := by simpa using inside
  have logged : ¬ ∀ deleter, (0, deleter) ∉ [((0 : Nat), (2 : TxnId))] := by simp
  refine ⟨fun _ created stored recorded _ _ => ⟨2, ?_, ?_⟩,
    fun unlogged => absurd unlogged logged, fun unlogged => absurd unlogged logged⟩
  · simp [deletersOf]
  · exact ⟨by decide +kernel, 2, by decide +kernel, le_rfl⟩

/-- A delete of a transaction that is still active hides the row from scans
and from point gets. -/
theorem uncommitted_delete_hides_row :
    RowVisible whileDeleterActive 1 (deletersOf [(0, 2)] 0 notDeleted) ∧
      loggedDelete.scan .txnSnapshot whileDeleterActive ["x"] = .ok [[]] ∧
      loggedDeleteContext.get whileDeleterActive whileDeleterActive [] = .ok none ∧
      ¬ loggedDeleteContext.ReadsHonourMvcc "seg_1"
        (.new "seg_1" "t" ["x"]) .txnSnapshot whileDeleterActive
        whileDeleterActive [[[("x", 7)]]] createdByFirst [(0, 2)] := by
  have visible : RowVisible whileDeleterActive 1 (deletersOf [(0, 2)] 0 notDeleted) := by
    refine ⟨by decide +kernel, ?_⟩
    decide +kernel
  have hidden : loggedDeleteContext.get whileDeleterActive whileDeleterActive [] = .ok none := rfl
  refine ⟨visible, by decide +kernel, hidden, ?_⟩
  rintro ⟨-, honours⟩
  have answers := (honours 0 (by decide) 1 notDeleted rfl).2 [] 0 rfl
  exact answers.1.mp hidden visible

end RockDuck
