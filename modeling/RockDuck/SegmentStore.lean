import RockDuck.ColumnFiles
import RockDuck.Database

/-!
# Segments and the primary key index

The rows of a table lie in segments.
-/

namespace RockDuck

inductive SegmentStatus where
  | active
  | frozen
  | compacting
  | garbage
  deriving DecidableEq

/-- The metadata of a segment. -/
structure SegmentMeta where
  segId : String
  tableId : String
  status : SegmentStatus
  columns : List String
  aliveRowCount : Nat
  hasVisibilityColumns : Bool

def SegmentMeta.new (segId tableId : String) (columns : List String) : SegmentMeta where
  segId := segId
  tableId := tableId
  status := .active
  columns := columns
  aliveRowCount := 0
  hasVisibilityColumns := true

/-- Metadata by segment, and the segments of a table. -/
structure SegmentMetaCache where
  cache : Std.ExtTreeMap String SegmentMeta
  tableIndex : Std.ExtTreeMap String (List String)

namespace SegmentMetaCache

def empty : SegmentMetaCache where
  cache := ∅
  tableIndex := ∅

def put (cache : SegmentMetaCache) (segment : SegmentMeta) : SegmentMetaCache where
  cache := cache.cache.insert segment.segId segment
  tableIndex :=
    let segIds := cache.tableIndex.getD segment.tableId []
    if segIds.contains segment.segId then cache.tableIndex
    else cache.tableIndex.insert segment.tableId (segIds ++ [segment.segId])

def invalidate (cache : SegmentMetaCache) (segId : String) : SegmentMetaCache where
  cache := cache.cache.erase segId
  tableIndex := cache.tableIndex.map fun _ segIds =>
    segIds.filter fun other => decide (other ≠ segId)

/-- Entries the cache dropped to stay within its capacity.  They stay in the
index. -/
def evict (cache : SegmentMetaCache) (segIds : List String) : SegmentMetaCache :=
  { cache with
    cache := segIds.foldl (fun kept segId => kept.erase segId) cache.cache }

/-- The first active segment of a table. -/
def activeSegment (cache : SegmentMetaCache) (table : String) : Option String :=
  (cache.tableIndex.getD table []).findSome? fun segId =>
    match cache.cache[segId]? with
    | some segment =>
      if segment.status = .active then some segment.segId else none
    | none => none

end SegmentMetaCache

/-- The statistics of a table, next to the counter of its rows. -/
@[ext]
structure TableStats where
  segmentCount : Nat
  lastUpdatedTxn : TxnId
  deriving DecidableEq

def TableStats.default : TableStats where
  segmentCount := 0
  lastUpdatedTxn := 0

/-- The state of a store of tables. -/
structure TableStore extends Database where
  segments : Std.ExtTreeMap String SegmentMeta
  segMetaCache : SegmentMetaCache
  segRowCounts : Std.ExtTreeMap String Int
  files : Std.ExtTreeMap String (Std.ExtTreeMap String Bytes)
  pkIdx : Std.ExtTreeMap Bytes (String × Nat × Nat)
  pkLookup : Std.ExtTreeMap Bytes (String × Nat × Nat × Bytes)
  tableRowCounts : Std.ExtTreeMap String Int
  tableStats : Std.ExtTreeMap String TableStats

def colPath (column : String) : String :=
  column ++ ".vortex"

def visPath : String :=
  "__vis.vortex"

lemma colPath_injective (same : colPath first = colPath second) : first = second := by
  have characters := congrArg String.toList same
  simpa [colPath, String.toList_inj] using characters

lemma colPath_ne_visPath (userColumn : col ≠ "__vis") :
    colPath col ≠ visPath := by
  intro same
  exact userColumn (@colPath_injective col "__vis" same)

/-- A counter of the metadata store, which stops at the bounds of `i64`. -/
def atomicIncrement (count delta : Int) : Int :=
  max (-(2 ^ 63)) (min (2 ^ 63 - 1) (count + delta))

/-- The place of a row. -/
structure PositionResult where
  segId : String
  granuleId : Nat
  rowOffset : Nat
  deriving DecidableEq

def granuleSize : Nat := 8192

def granuleBytes (granuleId : Nat) : Bytes :=
  (List.range 4).map fun place => UInt8.ofNat (granuleId / 256 ^ place)

/-- The key of an index entry. -/
def pkIndexKey (segId : String) (granuleId : Nat) (pk : Bytes) : Bytes :=
  "pk_idx:".toUTF8.toList ++ segId.toUTF8.toList ++ [58] ++
    granuleBytes granuleId ++ [58] ++ pk

namespace TableStore

def new (db : Database) : TableStore where
  toDatabase := db
  segments := ∅
  segMetaCache := .empty
  segRowCounts := ∅
  files := ∅
  pkIdx := ∅
  pkLookup := ∅
  tableRowCounts := ∅
  tableStats := ∅

def file (store : TableStore) (segId path : String) : Option Bytes :=
  (store.files.getD segId ∅)[path]?

def setFile (store : TableStore) (segId path : String) (contents : Option Bytes) : TableStore :=
  let directory := store.files.getD segId ∅
  { store with
    files := store.files.insert segId
      (match contents with
      | some bytes => directory.insert path bytes
      | none => directory.erase path) }

variable (store : TableStore)

@[simp]
lemma file_setFile_self (segId path contents) :
    (store.setFile segId path contents).file segId path = contents := by
  cases contents <;> simp [file, setFile]

variable {segId : String}

lemma file_setFile_of_ne (segId contents) (ne : path ≠ other) :
    (store.setFile segId path contents).file segId other = store.file segId other := by
  cases contents <;>
    simp [file, setFile, Std.ExtTreeMap.getElem?_insert, Std.ExtTreeMap.getElem?_erase, ne]

lemma file_setFile_of_segment_ne (path file contents) (ne : segId ≠ other) :
    (store.setFile segId path contents).file other file = store.file other file := by
  simp [TableStore.file, setFile, Std.ExtTreeMap.getD_insert, ne]

lemma file_setFile_of_apart {path file} (contents)
    (apart : segId ≠ other ∨ path ≠ file) : (store.setFile segId path contents).file other file =
      store.file other file := by
  by_cases same : segId = other
  · subst other
    exact file_setFile_of_ne _ _ _ (apart.resolve_left fun ne => ne rfl)
  · exact file_setFile_of_segment_ne _ _ _ _ same

/-- At most the one file was written. -/
def SetsFile (segId path : String) (before after : TableStore) : Prop :=
  after = before ∨ ∃ contents, after = before.setFile segId path contents

section

variable {segId path : String} {before after : TableStore} (sets : SetsFile segId path before after)
include sets

lemma SetsFile.changes : ∃ files, after = { before with files := files } := by
  rcases sets with rfl | ⟨contents, rfl⟩ <;> exact ⟨_, rfl⟩

lemma SetsFile.segments : after.segments = before.segments := by
  obtain ⟨files, rfl⟩ := sets.changes
  rfl

lemma SetsFile.file {other file} (ne : segId ≠ other ∨ path ≠ file) :
    after.file other file = before.file other file := by
  rcases sets with rfl | ⟨contents, rfl⟩
  · rfl
  · exact file_setFile_of_apart _ _ ne

end

/-- Read a column file. -/
def readColumn {Value : Type*} (codec : VortexCodec Value)
    (store : TableStore) (segId column : String) : Except RockDuckError (List Value) :=
  match store.file segId (colPath column) with
  | none => .ok []
  | some bytes => codec.decode bytes

/-- The active segment of a table, from the cache or the store. -/
def findActiveSegmentForTable (store : TableStore) (table : String)
    (listFault : Fault) : TableStore × Except RockDuckError (Option String) :=
  match store.segMetaCache.activeSegment table with
  | some segId => (store, .ok (some segId))
  | none =>
    match listFault with
    | some error => (store, .error error)
    | none =>
      match store.segments.toList.find? fun entry =>
          decide (entry.2.tableId = table) &&
            decide (entry.2.status = .active) with
      | some entry =>
        ({ store with segMetaCache := store.segMetaCache.put entry.2 }, .ok (some entry.2.segId))
      | none => (store, .ok none)

/-- Describe a segment in the metadata store and forget what was cached. -/
def putSegmentMeta (store : TableStore) (segment : SegmentMeta) : TableStore :=
  { store with
    segments := store.segments.insert segment.segId segment
    segMetaCache := store.segMetaCache.invalidate segment.segId }

/-- The active segment of a table, or a new one. -/
def getOrCreateActiveSegment (store : TableStore) (table newSegId : String)
    (listFault createFault : Fault) : TableStore × Except RockDuckError String :=
  andThen (store.findActiveSegmentForTable table listFault) fun store found =>
    match found, createFault with
    | some segId, _ => (store, .ok segId)
    | none, some error => (store, .error error)
    | none, none => (store.putSegmentMeta (.new newSegId table []), .ok newSegId)

/-- Give a row its place. -/
def allocatePosition (store : TableStore) (table newSegId : String)
    (listFault createFault counterFault : Fault) :
    TableStore × Except RockDuckError PositionResult :=
  andThen (store.getOrCreateActiveSegment table newSegId listFault createFault)
    fun store segId =>
      match counterFault with
      | some error => (store, .error error)
      | none =>
        let count := atomicIncrement (store.segRowCounts.getD segId 0) 1
        let rowOffset := ((count - 1) % 2 ^ 32).toNat
        ({ store with
            segRowCounts := store.segRowCounts.insert segId count },
          .ok ⟨segId, rowOffset / granuleSize, rowOffset⟩)

/-- Set the columns of a segment that has none. -/
def ensureSegmentColumns (store : TableStore) (segId : String)
    (names : List String) (readFault writeFault : Fault) : TableStore × Except RockDuckError Unit :=
  match readFault, store.segments[segId]? with
  | some error, _ => (store, .error error)
  | none, none => (store, .error (.segmentNotFound segId))
  | none, some segment =>
    if segment.columns.isEmpty then
      match writeFault with
      | some error => (store, .error error)
      | none =>
        (store.putSegmentMeta { segment with columns := names, hasVisibilityColumns := true },
          .ok ())
    else (store, .ok ())

/-- Store both index entries of a key. -/
def putPkIndexDouble (store : TableStore) (pk : Bytes) (position : PositionResult) (fault : Fault) :
    TableStore × Except RockDuckError Unit :=
  match fault with
  | some error => (store, .error error)
  | none =>
    let key := pkIndexKey position.segId position.granuleId pk
    ({ store with
        pkIdx := store.pkIdx.insert key
          (position.segId, position.granuleId, position.rowOffset)
        pkLookup := store.pkLookup.insert pk
          (position.segId, position.granuleId, position.rowOffset, key) },
      .ok ())

/-- Where the key is. -/
def getPkIndexByPk (store : TableStore) (pk : Bytes) : Option PositionResult :=
  store.pkLookup[pk]?.map fun entry => ⟨entry.1, entry.2.1, entry.2.2.1⟩

/-- What the store answers when a key that it does not hold is deleted. -/
def absentKey : RockDuckError := .storage "mace-kv del: NotFound"

/-- Remove both entries of a key, one after the other.  One that is not there is an
error, so that the reverse entry stays when the index has none. -/
def deletePkIndexDouble (store : TableStore) (pk : Bytes) (segId : String)
    (granuleId : Nat) (indexFault lookupFault : Fault) : TableStore × Except RockDuckError Unit :=
  let key := pkIndexKey segId granuleId pk
  match indexFault with
  | some error => (store, .error error)
  | none =>
    if store.pkIdx.contains key then
      let removed := { store with pkIdx := store.pkIdx.erase key }
      match lookupFault with
      | some error => (removed, .error error)
      | none =>
        if store.pkLookup.contains pk then
          ({ removed with pkLookup := store.pkLookup.erase pk }, .ok ())
        else (removed, .error absentKey)
    else (store, .error absentKey)

/-- Add to the row count of a table. -/
def incrementRowCount (store : TableStore) (table : String) (delta : Int)
    (fault : Fault) : TableStore × Except RockDuckError Unit :=
  match fault with
  | some error => (store, .error error)
  | none =>
    ({ store with
        tableRowCounts := store.tableRowCounts.insert table
          (atomicIncrement (store.tableRowCounts.getD table 0) delta) },
      .ok ())

/-- Update the statistics of a table. -/
def updateTableStats (store : TableStore) (table : String) (delta : Int)
    (txnId : TxnId) (countFault statsFault : Fault) : TableStore × Except RockDuckError Unit :=
  andThen (store.incrementRowCount table delta countFault) fun store _ =>
    match statsFault with
    | some error => (store, .error error)
    | none =>
      let stats := store.tableStats.getD table .default
      ({ store with
          tableStats := store.tableStats.insert table
            { stats with lastUpdatedTxn := txnId } },
        .ok ())

section Changes

variable {store : TableStore}

lemma getOrCreateActiveSegment_changes
    (finds : store.getOrCreateActiveSegment table newSegId listFault createFault = (after, found)) :
    ∃ segments cache, after = { store with segments := segments, segMetaCache := cache } := by
  unfold getOrCreateActiveSegment findActiveSegmentForTable at finds
  split at finds
  · cases finds
    exact ⟨_, _, rfl⟩
  · split at finds
    · cases finds
      exact ⟨_, _, rfl⟩
    · split at finds
      · cases finds
        exact ⟨_, _, rfl⟩
      · cases createFault <;> cases finds <;> exact ⟨_, _, rfl⟩

lemma allocatePosition_changes
    (allocates : store.allocatePosition table newSegId listFault createFault counterFault = (after,
      pos)) : ∃ segments cache counts, after = { store with
        segments := segments
        segMetaCache := cache
        segRowCounts := counts } := by
  unfold allocatePosition at allocates
  rcases found : store.getOrCreateActiveSegment table newSegId listFault
    createFault with ⟨next, error | segId⟩
  all_goals
    obtain ⟨segments, cache, rfl⟩ := getOrCreateActiveSegment_changes found
    rw [found] at allocates
  · cases allocates
    exact ⟨_, _, _, rfl⟩
  · cases counterFault <;> cases allocates <;> exact ⟨_, _, _, rfl⟩

lemma ensureSegmentColumns_changes
    (ensures : store.ensureSegmentColumns segId names readFault writeFault = (after, res)) :
    ∃ segments cache, after = { store with segments := segments, segMetaCache := cache } := by
  unfold ensureSegmentColumns at ensures
  split at ensures
  · cases ensures
    exact ⟨_, _, rfl⟩
  · cases ensures
    exact ⟨_, _, rfl⟩
  · split_ifs at ensures
    · cases writeFault <;> cases ensures <;> exact ⟨_, _, rfl⟩
    · cases ensures
      exact ⟨_, _, rfl⟩

lemma putPkIndexDouble_changes
    (puts : store.putPkIndexDouble pk pos fault = (after, res)) : ∃ pkIdx pkLookup,
      after = { store with pkIdx := pkIdx, pkLookup := pkLookup } := by
  cases fault <;> cases puts <;> exact ⟨_, _, rfl⟩

lemma deletePkIndexDouble_changes (deletes : store.deletePkIndexDouble pk segId granule indexFault
      lookupFault = (after, res)) : ∃ pkIdx pkLookup,
      after = { store with pkIdx := pkIdx, pkLookup := pkLookup } := by
  unfold deletePkIndexDouble at deletes
  cases indexFault with
  | some error =>
    cases deletes
    exact ⟨_, _, rfl⟩
  | none =>
    dsimp only at deletes
    split at deletes
    · cases lookupFault with
      | some error =>
        cases deletes
        exact ⟨_, _, rfl⟩
      | none =>
        dsimp only at deletes
        split at deletes <;> cases deletes <;> exact ⟨_, _, rfl⟩
    · cases deletes
      exact ⟨_, _, rfl⟩

lemma updateTableStats_changes
    (updates : store.updateTableStats table delta txnId countFault statsFault = (after, res)) :
    ∃ counts stats, after = { store with tableRowCounts := counts, tableStats := stats } := by
  cases countFault <;> cases statsFault <;> cases updates <;>
    exact ⟨_, _, rfl⟩

end Changes

end TableStore

end RockDuck
