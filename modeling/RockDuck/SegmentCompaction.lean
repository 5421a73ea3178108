import RockDuck.SegmentScan

/-!
# Compacting segments

A compaction reads the columns of segments, drops the rows its visibility rule
does not show, and writes the rest to a new segment.
-/

namespace RockDuck

/-- The rows with a set bit. -/
def selected {Value : Type*} (rows : List Value) (mask : List Bool) : List Value :=
  (rows.zip mask).filterMap fun entry => if entry.2 then some entry.1 else none

/-- The filter kernel of Arrow. -/
structure ArrowFilter where
  filterRecordBatch : {Value : Type} → List Value → List Bool →
    Option (List Value)
  filter_aligned : ∀ {Value : Type} {rows : List Value} {mask : List Bool},
    mask.length = rows.length →
      filterRecordBatch rows mask = some (selected rows mask)
  filter_longer : ∀ {Value : Type} {rows : List Value} {mask : List Bool},
    rows.length < mask.length → filterRecordBatch rows mask = none

/-- The threshold of the share of deleted rows: whether the quotient of two row
counts, taken as `f64`, reaches it, and how it is displayed. -/
structure PdtMergeConfig where
  minDelRatioText : String
  reachesMinDelRatio : Nat → Nat → Bool

/-- A segment to compact: its description and what its files read as. -/
structure CompactionSource (Value : Type) where
  segId : String
  directoryText : String
  hasDirectory : Bool
  columns : List String
  rowCount : Nat
  aliveRowCount : Nat
  image : SegmentImage Value

/-- What a compaction meets outside the segments. -/
structure CompactionEnvironment where
  newSegId : String
  createFault : Fault
  bloomFault : Nat → Fault
  disk : String → DiskFaults
  visDisk : DiskFaults
  syncFault : Fault

def CompactionEnvironment.undisturbed (newSegId : String) : CompactionEnvironment where
  newSegId := newSegId
  createFault := none
  bloomFault _ := none
  disk _ := .none
  visDisk := .none
  syncFault := none

/-- The outcome of a compaction. -/
structure CompactedSegment where
  segId : String
  columns : List String
  files : Std.ExtTreeMap String Bytes
  rowCount : Nat
  aliveRowCount : Nat

/-- The rows of a file of the new segment.  A file that was not written has
none. -/
def readRows {Value : Type*} (codec : VortexCodec Value)
    (files : Std.ExtTreeMap String Bytes) (path : String) : Except RockDuckError (List Value) :=
  match files[path]? with
  | none => .ok []
  | some bytes => codec.decode bytes

def Fault.raise : Fault → Except ReadFailure Unit
  | none => .ok ()
  | some error => .error (.error error)

/-- A step that is taken under a condition only. -/
def Fault.raiseIf (condition : Bool) (fault : Fault) : Except ReadFailure Unit :=
  if condition then fault.raise else .ok ()

/-- The test that a compaction keeps rows by. -/
def compactionShows (createdTxn : TxnId) (deleted : Option TxnId) : Bool :=
  VisibilityManager.isRowVisible (2 ^ 64 - 1) createdTxn deleted ∅ ∅

/-- Without commit timestamps no transaction counts as committed, so that no
row is shown. -/
lemma compactionShows_eq_false (createdTxn deleted) :
    compactionShows createdTxn deleted = false := by
  unfold compactionShows VisibilityManager.isRowVisible
  split
  · rfl
  · simp

def int64Value (batch : VisBatch) (place row : Nat) : Except ReadFailure Nat :=
  match batch.columns[place]? with
  | none =>
    let length := batch.columns.length
    .error (.panicked
      s!"index out of bounds: the len is {length} but the index is {place}")
  | some (_, .other _) => .error (.panicked "primitive array")
  | some (_, .int64 values) =>
    match values[row]? with
    | some value => .ok value
    | none =>
      let length := values.length
      .error (.panicked
        s!"Trying to access an element at index {row} from a PrimitiveArray of length {length}")

/-- The row is kept. -/
def rowAlive (createdPlace : VisBatch → Nat) (vis : Option VisBatch)
    (row : Nat) : Except ReadFailure Bool :=
  match vis with
  | none => .ok true
  | some batch =>
    match batch.extractVisibilityColumns with
    | none => .ok true
    | some _ => do
        let deleted ← int64Value batch (batch.columns.length - 1) row
        let created ← int64Value batch (createdPlace batch) row
        .ok (compactionShows created (deletedTxn deleted))

def firstColumn (_ : VisBatch) : Nat := 0

def createdColumn (batch : VisBatch) : Nat := batch.columns.length - 2

/-- The rows of a batch to keep. -/
def aliveMask (createdPlace : VisBatch → Nat) (vis : Option VisBatch)
    (rows : Nat) : Except ReadFailure (List Bool) :=
  (List.range rows).mapM (rowAlive createdPlace vis)

/-- The visibility record of a surviving row.  Here both columns are taken by
their places from the front. -/
def keptRecord (vis : Option VisBatch) (row : Nat) : Except ReadFailure (Nat × Nat) :=
  match vis with
  | none => .ok (0, notDeleted)
  | some batch => do
      let created ← int64Value batch 0 row
      let deleted ← int64Value batch 1 row
      .ok (created, deleted)

/-- The new records of the kept rows. -/
def keptRecords (vis : Option VisBatch) (mask : List Bool) :
    Except ReadFailure (List (Nat × Nat)) :=
  (selected (List.range mask.length) mask).mapM (keptRecord vis)

structure PerColWriter (Value : Type) where
  colName : String
  batches : List (List Value)

section Files

variable {Value : Type} (codec : VortexCodec Value)

/-- Write a file of batches. -/
def writeBatches (faults : DiskFaults) (path : String) (files : Std.ExtTreeMap String Bytes)
    (batches : List (List Value)) : Except ReadFailure (Std.ExtTreeMap String Bytes) :=
  match VortexWriter.finish codec faults
      (.ofBatches batches, files[path]?) with
  | (_, .error error) => .error (.error error)
  | ((_, none), .ok _) => .ok (files.erase path)
  | ((_, some bytes), .ok _) => .ok (files.insert path bytes)

def finishWriter (disk : String → DiskFaults) (files : Std.ExtTreeMap String Bytes)
    (writer : PerColWriter Value) : Except ReadFailure (Std.ExtTreeMap String Bytes) :=
  if writer.batches.isEmpty then .ok files
  else
    writeBatches codec (disk writer.colName) (colPath writer.colName) files
      writer.batches

/-- Write the visibility file.  A writer keeps the first column of each
batch. -/
def writeVis (visCodec : VortexCodec Nat) (faults : DiskFaults)
    (files : Std.ExtTreeMap String Bytes) (newVis : List (List (Nat × Nat))) :
    Except ReadFailure (Std.ExtTreeMap String Bytes) :=
  if newVis.isEmpty then .ok files
  else
    writeBatches visCodec faults visPath files
      (newVis.map fun batch => batch.map Prod.fst)

end Files

namespace CompactionSource

variable {Value : Type}

/-- The batches of the visibility file.  A file that cannot be read counts as
empty. -/
def visBatches (source : CompactionSource Value) : List VisBatch :=
  match source.image.vis with
  | some (.ok batches) => batches
  | _ => []

/-- The columns that can be read. -/
def colBatches (source : CompactionSource Value) : List (String × List (List Value)) :=
  source.columns.filterMap fun column =>
    match source.image.columnBatches column with
    | some (.ok batches) => some (column, batches)
    | _ => none

def batchRows (columns : List (String × List (List Value))) (index : Nat) : Nat :=
  ((columns.head?.bind fun column => column.2[index]?).map List.length).getD 0

def numBatches (columns : List (String × List (List Value))) : Nat :=
  (columns.map fun column => column.2.length).foldl max 0

end CompactionSource

section CompactSegment

variable {Value : Type}

structure CompactionState (Value : Type) where
  newVis : List (List (Nat × Nat))
  writers : List (PerColWriter Value)

def pushFiltered (place : Nat) (column : String) (filtered : List Value)
    (writers : List (PerColWriter Value)) : Except ReadFailure (List (PerColWriter Value)) :=
  let writers := if writers.length ≤ place then writers ++ [⟨column, []⟩] else writers
  let length := writers.length
  if place < length then
    .ok (writers.modify place fun writer => { writer with batches := writer.batches ++ [filtered] })
  else
    .error (.panicked
      s!"index out of bounds: the len is {length} but the index is {place}")

def compactColumn (filter : ArrowFilter) (environment : CompactionEnvironment)
    (index : Nat) (mask : List Bool) (writers : List (PerColWriter Value))
    (column : (String × List (List Value)) × Nat) :
    Except ReadFailure (List (PerColWriter Value)) :=
  match column.1.2[index]? with
  | none => .ok writers
  | some batch =>
    match filter.filterRecordBatch batch mask with
    | none => .ok writers
    | some filtered =>
      if filtered.isEmpty then .ok writers
      else do
        (environment.bloomFault index).raiseIf (column.2 = 0)
        pushFiltered column.2 column.1.1 filtered writers

/-- Compact the batches at one index. -/
def compactBatch (filter : ArrowFilter) (environment : CompactionEnvironment)
    (visBatches : List VisBatch) (columns : List (String × List (List Value)))
    (state : CompactionState Value) (index : Nat) : Except ReadFailure (CompactionState Value) :=
  let rows := CompactionSource.batchRows columns index
  if rows = 0 then .ok state
  else do
    let mask ← aliveMask firstColumn visBatches[index]? rows
    if mask.all (! ·) then .ok state
    else do
      let vis ← keptRecords visBatches[index]? mask
      let writers ← columns.zipIdx.foldlM
        (compactColumn filter environment index mask) state.writers
      .ok ⟨state.newVis ++ [vis], writers⟩

/-- Compact a segment. -/
def compactSegment (filter : ArrowFilter) (codec : VortexCodec Value) (visCodec : VortexCodec Nat)
    (config : PdtMergeConfig) (environment : CompactionEnvironment)
    (source : CompactionSource Value) : Except ReadFailure CompactedSegment :=
  if !source.hasDirectory then
    .error (.error (.compaction
      ("Segment directory not found: " ++ source.directoryText)))
  else if source.rowCount = 0 ∨ !config.reachesMinDelRatio
      (source.rowCount - source.aliveRowCount) source.rowCount then
    .error (.error (.compaction
      ("del_ratio < threshold " ++ config.minDelRatioText)))
  else do
    environment.createFault.raise
    let columns := source.colBatches.filter fun column => !column.2.isEmpty
    if columns.isEmpty then
      .error (.error (.compaction "No column data found"))
    else do
      let state ← (List.range (CompactionSource.numBatches columns)).foldlM
        (compactBatch filter environment source.visBatches columns) ⟨[], []⟩
      let files ← state.writers.foldlM (finishWriter codec environment.disk) ∅
      -- the filters are not saved: what was inserted is in the cache, and a manager without stored
      -- filters counts as empty
      let files ← writeVis visCodec environment.visDisk files state.newVis
      environment.syncFault.raise
      .ok ⟨environment.newSegId, source.columns, files, source.aliveRowCount, source.aliveRowCount⟩

end CompactSegment

section MultiwayMerge

variable {Value : Type}

structure SegmentReaders (Value : Type) where
  visBatches : List VisBatch
  colBatches : List (String × List (List Value))

def SegmentReaders.mask (readers : SegmentReaders Value)
    (createdPlace : VisBatch → Nat) (index : Nat) : Except ReadFailure (List Bool) :=
  aliveMask createdPlace readers.visBatches[index]?
    (CompactionSource.batchRows readers.colBatches index)

/-- One round of the merge of the records. -/
def mergeVis (readers : List (SegmentReaders Value)) (newVis : List (List (Nat × Nat)))
    (index : Nat) : Except ReadFailure (List (List (Nat × Nat))) := do
  let masks ← readers.mapM fun segment => segment.mask firstColumn index
  if masks.flatten.all (! ·) then .ok newVis
  else do
    let records ← (readers.zip masks).mapM fun segment =>
      keptRecords segment.1.visBatches[index]? segment.2
    .ok (newVis ++ [records.flatten])

/-- One round of the merge of a column. -/
def mergeColumn (filter : ArrowFilter) (readers : List (SegmentReaders Value))
    (index : Nat) (mask : List Bool) (writer : PerColWriter Value) : PerColWriter Value :=
  { writer with
    batches := writer.batches ++ readers.filterMap fun segment =>
      match segment.colBatches.find? fun column => decide (column.1 = writer.colName) with
      | none => none
      | some column =>
        match column.2[index]? with
        | none => none
        | some batch =>
          if batch.isEmpty then none
          else (filter.filterRecordBatch batch mask).filter (!·.isEmpty) }

def mergeBatch (filter : ArrowFilter) (readers : List (SegmentReaders Value))
    (writers : List (PerColWriter Value)) (index : Nat) :
    Except ReadFailure (List (PerColWriter Value)) := do
  let masks ← readers.mapM fun segment => segment.mask createdColumn index
  if masks.flatten.all (! ·) then .ok writers
  else .ok (writers.map (mergeColumn filter readers index masks.flatten))

/-- Merge the files of some segments. -/
def mergeSegments (filter : ArrowFilter) (codec : VortexCodec Value) (visCodec : VortexCodec Nat)
    (environment : CompactionEnvironment) (columns : List String)
    (sources : List (CompactionSource Value)) : Except ReadFailure CompactedSegment :=
  match sources.find? fun source => !source.hasDirectory with
  | some source =>
    .error (.error (.compaction
      ("Segment directory not found: " ++ source.directoryText)))
  | none => do
      let readers := sources.map fun source =>
        (⟨source.visBatches, source.colBatches⟩ : SegmentReaders Value)
      let width := (readers.map fun segment =>
        CompactionSource.numBatches segment.colBatches).foldl max 0
      if width = 0 then
        .error (.error (.compaction "No column data found across segments"))
      else do
        environment.createFault.raise
        let newVis ← (List.range width).foldlM (mergeVis readers) []
        let files ← writeVis visCodec environment.visDisk ∅ newVis
        let writers ← (List.range width).foldlM (mergeBatch filter readers)
          (columns.map fun column => ⟨column, []⟩)
        let files ← writers.foldlM (finishWriter codec environment.disk) files
        environment.syncFault.raise
        let alive := (sources.map CompactionSource.aliveRowCount).sum
        .ok ⟨environment.newSegId, columns, files, alive, alive⟩

/-- Merge segments, or compact a single one. -/
def multiwayMerge (filter : ArrowFilter) (codec : VortexCodec Value)
    (visCodec : VortexCodec Nat) (config : PdtMergeConfig) (environment : CompactionEnvironment) :
    List (CompactionSource Value) → Except ReadFailure CompactedSegment
  | [] => .error (.error (.compaction "No segments to merge"))
  | [source] => compactSegment filter codec visCodec config environment source
  | first :: rest =>
    mergeSegments filter codec visCodec environment first.columns
      (first :: rest)

end MultiwayMerge

end RockDuck
