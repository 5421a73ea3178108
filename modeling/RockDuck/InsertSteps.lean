import RockDuck.InsertRuns

/-!
# The steps of a write

What each step of an insert or an update needs to succeed, in terms of the call
and of the store before it, and what it changes whether or not it succeeds.
-/

namespace RockDuck

open List

namespace TableStore

attribute [local simp] Except.isOk Except.toBool

variable {Value : Type*}

lemma file_congr {first second : TableStore} (same : first.files = second.files) (segId path) :
    first.file segId path = second.file segId path := by
  rw [file, same, file]

/-- No column file of the segment has the path. -/
def Untouched (segId other path : String) : Prop :=
  other ≠ segId ∨ ∀ column, colPath column ≠ path

lemma file_setFile_colPath (apart : Untouched segId other path) (store : TableStore) (col contents)
    : (store.setFile segId (colPath col) contents).file other path = store.file other path := by
  exact file_setFile_of_apart _ _ (apart.imp Ne.symm fun ne => ne col)

/-- The transaction of an operation, unless the counter has run out. -/
def nextTxn (store : TableStore) (explicitTxn : Option TxnId) : Option TxnId :=
  match explicitTxn with
  | some txnId => some txnId
  | none =>
    if store.txnCounter = 2 ^ 64 - 1 then none else some store.txnCounter

variable {store : TableStore} {table : String}
    {environment : InsertEnvironment Value} {segId : String}

lemma insertTxnId_of_some (given : store.nextTxn explicitTxn = some txnId) :
    ∃ ctr, store.insertTxnId explicitTxn = ({ store with txnCounter := ctr }, .ok txnId) := by
  cases explicitTxn with
  | some explicit =>
    cases given
    exact ⟨store.txnCounter, rfl⟩
  | none =>
    simp only [nextTxn] at given
    split at given
    · cases given
    · next more =>
        cases given
        refine ⟨store.txnCounter + 1, ?_⟩
        simp only [insertTxnId, Database.nextTxnId, if_neg more]

lemma insertTxnId_of_none (refused : store.nextTxn explicitTxn = none) :
    ∃ error, store.insertTxnId explicitTxn = (store, .error error) := by
  cases explicitTxn with
  | some explicit => cases refused
  | none =>
    simp only [nextTxn] at refused
    split at refused
    · next last =>
        simp only [insertTxnId, Database.nextTxnId, if_pos last]
        exact ⟨_, rfl⟩
    · cases refused

def evictCached (store : TableStore) (segIds : List String) : TableStore :=
  { store with segMetaCache := store.segMetaCache.evict segIds }

/-- The segment that an insert goes to. -/
def target (store : TableStore) (table : String) (environment : InsertEnvironment Value) :
    Option (String × Option SegmentMeta) :=
  match (store.segMetaCache.evict environment.evicted).activeSegment table with
  | some segId => some (segId, store.segments[segId]?)
  | none =>
    match environment.listFault, store.segments.toList.find? (fun entry =>
        decide (entry.2.tableId = table) &&
          decide (entry.2.status = .active)), environment.createFault with
    | some _, _, _ => none
    | none, some entry, _ => some (entry.2.segId, store.segments[entry.2.segId]?)
    | none, none, some _ => none
    | none, none, none => some (environment.newSegId, some (.new environment.newSegId table []))

def nextOffset (store : TableStore) (segId : String) : Nat :=
  ((atomicIncrement (store.segRowCounts.getD segId 0) 1 - 1) % 2 ^ 32).toNat

/-- The place of the next row. -/
def nextPosition (store : TableStore) (segId : String) : PositionResult :=
  ⟨segId, store.nextOffset segId / granuleSize, store.nextOffset segId⟩

def afterAllocation (store : TableStore) (segId : String)
    (segments : Std.ExtTreeMap String SegmentMeta) (cache : SegmentMetaCache) : TableStore :=
  { store with
    segments := segments
    segMetaCache := cache
    segRowCounts := store.segRowCounts.insert segId
      (atomicIncrement (store.segRowCounts.getD segId 0) 1) }

lemma getOrCreateActiveSegment_target (store : TableStore) (table : String)
    (environment : InsertEnvironment Value) :
    let attempt := (store.evictCached environment.evicted).getOrCreateActiveSegment table
      environment.newSegId environment.listFault environment.createFault
    match store.target table environment with
    | none => ∃ error, attempt = (store.evictCached environment.evicted, .error error)
    | some (segId, seg) => ∃ segments cache, segments[segId]? = seg ∧
        attempt = ({ store with segments := segments, segMetaCache := cache }, .ok segId) := by
  simp only [target, getOrCreateActiveSegment, findActiveSegmentForTable, evictCached]
  cases (store.segMetaCache.evict environment.evicted).activeSegment table with
  | some segId => exact ⟨_, _, rfl, rfl⟩
  | none =>
    cases environment.listFault with
    | some error => exact ⟨error, rfl⟩
    | none =>
      cases store.segments.toList.find? (fun entry =>
          decide (entry.2.tableId = table) && decide (entry.2.status = .active)) with
      | some entry => exact ⟨_, _, rfl, rfl⟩
      | none =>
        cases environment.createFault with
        | some error => exact ⟨error, rfl⟩
        | none => exact ⟨_, _, Std.ExtTreeMap.getElem?_insert_self, rfl⟩

variable {segment : Option SegmentMeta}

lemma allocatePosition_of_none (missing : store.target table environment = none) :
    ∃ error, (store.evictCached environment.evicted).allocatePosition table
        environment.newSegId environment.listFault environment.createFault
        environment.counterFault = (store.evictCached environment.evicted, .error error) := by
  have attempted := getOrCreateActiveSegment_target store table environment
  rw [missing] at attempted
  obtain ⟨error, fails⟩ := attempted
  exact ⟨error, by rw [allocatePosition, fails, andThen]⟩

lemma allocatePosition_of_some (found : store.target table environment = some (segId, segment)) :
    ∃ segments cache, segments[segId]? = segment ∧
      (store.evictCached environment.evicted).allocatePosition table
          environment.newSegId environment.listFault environment.createFault
          environment.counterFault =
        match environment.counterFault with
        | some error => ({ store with segments := segments, segMetaCache := cache }, .error error)
        | none => (store.afterAllocation segId segments cache, .ok (store.nextPosition segId)) := by
  have attempted := getOrCreateActiveSegment_target store table environment
  rw [found] at attempted
  obtain ⟨segments, cache, described, finds⟩ := attempted
  refine ⟨segments, cache, described, ?_⟩
  rw [allocatePosition, finds, andThen]
  cases environment.counterFault <;> rfl

def batchRows (batch : RecordBatch Value) : Nat :=
  (batch.head?.map fun column => column.2.length).getD 0

section

variable {cols : Std.ExtTreeMap String (List Value)} {order : Traversal (String × List Value)}
    {batch : RecordBatch Value} (accepted : columnsToBatch cols order = .ok batch)
include accepted

lemma columnsToBatch_filled : 0 < batchRows batch ∧ ∀ col ∈ batch, col.2 ≠ [] := by
  obtain ⟨-, present, uniform⟩ := columnsToBatch_ok accepted
  refine ⟨present, fun col mem empty => ?_⟩
  have length := uniform col mem
  rw [empty, length_nil] at length
  exact present.ne length

lemma columnsToBatch_nodup : (batch.map Prod.fst).Nodup := by
  rw [← (columnsToBatch_ok accepted).1, ((order.perm cols.toList).map Prod.fst).nodup_iff,
    Std.ExtTreeMap.map_fst_toList_eq_keys]
  exact Std.ExtTreeMap.nodup_keys

end

/-- The insert gets as far as its place in the segment. -/
structure TakesOffset (store : TableStore) (call : InsertCall Value)
    (txnId : TxnId) (batch : RecordBatch Value) (segId : String)
    (segment : Option SegmentMeta) : Prop where
  numbered : store.nextTxn call.explicitTxn = some txnId
  accepted : columnsToBatch call.columns call.environment.columnOrder =
    .ok batch
  found : store.target call.table call.environment = some (segId, segment)
  counted : call.environment.counterFault = none

lemma placeInsert_of_takesOffset {call : InsertCall Value} {txnId : TxnId}
    {batch : RecordBatch Value} (takes : store.TakesOffset call txnId batch segId segment) :
    ∃ ctr segments cache, segments[segId]? = segment ∧ store.placeInsert call =
        ({ store with txnCounter := ctr }.afterAllocation segId segments
          cache, .ok ⟨txnId, batch, store.nextPosition segId⟩) := by
  obtain ⟨numbered, accepted, found, count⟩ := takes
  obtain ⟨ctr, allocates⟩ := insertTxnId_of_some numbered
  have here : { store with txnCounter := ctr }.target call.table
      call.environment = some (segId, segment) := found
  obtain ⟨segments, cache, described, positions⟩ := allocatePosition_of_some here
  refine ⟨ctr, segments, cache, described, ?_⟩
  rw [count] at positions
  simp only [placeInsert, allocates, andThen, accepted]
  rw [count]
  simp only [evictCached] at positions
  rw [positions]
  rfl

lemma placeInsert_of_refused {call : InsertCall Value}
    (refused : ∀ txnId batch segId segment, ¬ store.TakesOffset call txnId batch segId segment) :
    ∃ ctr segments cache error, store.placeInsert call = ({ store with
          txnCounter := ctr
          segments := segments
          segMetaCache := cache },
        .error error) := by
  cases numbered : store.nextTxn call.explicitTxn with
  | none =>
    obtain ⟨error, fails⟩ := insertTxnId_of_none numbered
    exact ⟨store.txnCounter, store.segments, store.segMetaCache, error, by
      rw [placeInsert, fails, andThen]⟩
  | some txnId =>
    obtain ⟨ctr, allocates⟩ := insertTxnId_of_some numbered
    simp only [placeInsert, allocates, andThen]
    cases accepted : columnsToBatch call.columns call.environment.columnOrder with
    | error error => exact ⟨_, _, _, error, rfl⟩
    | ok batch =>
      dsimp only
      let numberedStore := { store with txnCounter := ctr }
      cases found : numberedStore.target call.table call.environment with
      | none =>
        obtain ⟨error, fails⟩ := allocatePosition_of_none found
        simp only [evictCached, numberedStore] at fails
        rw [fails]
        exact ⟨_, _, _, error, rfl⟩
      | some target =>
        obtain ⟨segments, cache, -, positions⟩ := allocatePosition_of_some found
        simp only [evictCached, numberedStore] at positions
        cases count : call.environment.counterFault with
        | none =>
          exact absurd ⟨numbered, accepted, found, count⟩ (refused txnId batch target.1 target.2)
        | some error =>
          rw [count] at positions
          rw [positions]
          exact ⟨_, _, _, error, rfl⟩

lemma exists_of_isOk {res : Except RockDuckError Result}
    (ran : res.isOk = true) : ∃ value, res = .ok value := by
  cases res with
  | error error => cases ran
  | ok value => exact ⟨value, rfl⟩

lemma visibilityColumns_eq (fmt : InsertFormats Value)
    (batch : RecordBatch Value) (createdTxn deletedTxn : Nat) :
    visibilityColumns fmt batch createdTxn deletedTxn = [(createdTxnCol,
          List.replicate (batchRows batch) (fmt.txnValue createdTxn)), (deletedTxnCol,
          List.replicate (batchRows batch) (fmt.txnValue deletedTxn))] :=
  rfl

section Files

variable (formats : InsertFormats Value) (environment : InsertEnvironment Value)

def encodable (column : String × List Value) : Bool :=
  (formats.vortex.encode (column.2.take 1)).isOk

/-- The column can be written. -/
def columnWritable (column : String × List Value) : Bool :=
  encodable formats column &&
    (environment.disk column.1).replace.isNone &&
    (environment.disk column.1).encodingMeta.isNone

/-- A batch can be appended to a visibility file that has some rows. -/
structure VisAppendable (rows created : List Value) : Prop where
  encodes : (formats.vortex.encode (rows ++ created)).isOk = true
  few : (rows ++ created).length < 100000
  replaces : environment.visDisk.replace = none
  notes : environment.visDisk.encodingMeta = none
  renames : environment.visRenameFault = none

def Describable (segment : Option SegmentMeta) : Prop :=
  environment.metaReadFault = none ∧ ∃ present, segment = some present ∧
    (present.columns = [] → environment.metaWriteFault = none)

lemma ensureSegmentColumns_isOk_iff (store : TableStore) (segId names) :
    (store.ensureSegmentColumns segId names environment.metaReadFault
        environment.metaWriteFault).2.isOk = true ↔
      Describable environment store.segments[segId]? := by
  unfold ensureSegmentColumns Describable
  split
  · next error unreadable => simp [unreadable]
  · next missing => simp [missing]
  · next readable mem =>
      rw [readable, mem]
      simp only [true_and, Option.some.injEq, exists_eq_left']
      split
      · next empty =>
          rw [List.isEmpty_iff] at empty
          split
          · next unwritable => simp [empty, unwritable]
          · next writable => simp [writable]
      · next ne =>
          rw [List.isEmpty_iff] at ne
          simp [ne]

lemma replaceFile_isOk_iff (codec : VortexCodec Value) (faults : DiskFaults)
    (state : VortexWriter Value × Option Bytes) :
    (VortexWriter.replaceFile codec faults state).2.isOk = true ↔
      (codec.encode state.1.batches.flatten).isOk = true ∧
        faults.replace = none ∧ faults.encodingMeta = none := by
  unfold VortexWriter.replaceFile
  split
  · next error fails => simp [fails]
  · next err encodes fails =>
      simp [encodes, fails]
  · next error encodes replaces fails =>
      simp [encodes, replaces, fails]
  · next encodes replaces notes =>
      simp [encodes, replaces, notes]

lemma length_take_one_pos {rows : List Value} (ne : rows ≠ []) :
    rows.take 1 ≠ [] ∧ (rows.take 1).length < 100000 := by
  refine ⟨by simpa using ne, ?_⟩
  rw [length_take]
  omega

variable {column : String × List Value} (segId : String) {rest : RecordBatch Value}
    {batch : RecordBatch Value}

lemma writeColumnDataFinal_fst (faults segId store) (filled : column.2 ≠ []) :
    ∃ contents, (writeColumnDataFinal formats.vortex faults segId column.1
        store [column.2.take 1]).1 = store.setFile segId (colPath column.1) contents ∧
      (encodable formats column = false → contents = store.file segId (colPath column.1)) := by
  obtain ⟨ne, few⟩ := length_take_one_pos filled
  rw [writeColumnDataFinal_eq _ _ _ _ _ ne few, encodable]
  cases formats.vortex.encode (column.2.take 1) with
  | error error => exact ⟨_, rfl, fun _ => rfl⟩
  | ok bytes =>
    cases faults.replace <;> cases faults.encodingMeta <;> dsimp only <;>
      exact ⟨_, rfl, fun unencodable => by cases unencodable⟩

lemma writeColumnDataFinal_isOk (store) (filled : column.2 ≠ []) :
    (writeColumnDataFinal formats.vortex (environment.disk column.1) segId
        column.1 store [column.2.take 1]).2.isOk = columnWritable formats environment column := by
  obtain ⟨ne, few⟩ := length_take_one_pos filled
  rw [writeColumnDataFinal_eq _ _ _ _ _ ne few, columnWritable, encodable]
  cases formats.vortex.encode (column.2.take 1) <;>
    cases (environment.disk column.1).replace <;>
    cases (environment.disk column.1).encodingMeta <;> rfl

/-- What the column writes of a batch put in the visibility file: the row of a
column of its name, if the writes get that far. -/
def overwritesVis (formats : InsertFormats Value) (environment : InsertEnvironment Value) :
    RecordBatch Value → Option (List Value)
  | [] => none
  | column :: rest =>
    if column.1 = "__vis" then
      if encodable formats column then some (column.2.take 1) else none
    else if columnWritable formats environment column then
      overwritesVis formats environment rest
    else none

lemma writeColumns_cons (store column batch) :
    writeColumns formats environment segId store (column :: batch) =
      andThen (writeColumnDataFinal formats.vortex (environment.disk column.1)
        segId column.1 store [column.2.take 1]) fun store _ =>
          writeColumns formats environment segId store batch :=
  rfl

section

variable (segId : String) (store : TableStore) {batch : RecordBatch Value}
    (filled : ∀ column ∈ batch, column.2 ≠ [])
include filled

lemma writeColumns_isOk : (writeColumns formats environment segId store batch).2.isOk =
      batch.all (columnWritable formats environment) := by
  induction batch generalizing store with
  | nil => rfl
  | cons column batch ih =>
    have first := writeColumnDataFinal_isOk formats environment segId store
      (filled column mem_cons_self)
    rw [writeColumns_cons, all_cons, ← first]
    rcases writeColumnDataFinal formats.vortex (environment.disk column.1)
      segId column.1 store [column.2.take 1] with ⟨next, error | done⟩
    · rfl
    · exact ih next fun other mem => filled other (mem_cons_of_mem _ mem)

lemma writeColumns_fst : ∃ files, (writeColumns formats environment segId store batch).1 =
        { store with files := files } ∧
      (∀ other path, Untouched segId other path → { store with files := files }.file other path =
          store.file other path) ∧
      (overwritesVis formats environment batch = none →
        { store with files := files }.file segId visPath =
          store.file segId visPath) := by
  induction batch generalizing store with
  | nil => exact ⟨store.files, rfl, fun _ _ _ => rfl, fun _ => rfl⟩
  | cons column batch ih =>
    have nonempty := filled column mem_cons_self
    obtain ⟨contents, changes, unencodable⟩ := writeColumnDataFinal_fst
      formats (environment.disk column.1) segId store nonempty
    have written := writeColumnDataFinal_isOk formats environment segId store nonempty
    have others (other path) (ne : Untouched segId other path) :
        (store.setFile segId (colPath column.1) contents).file other path =
          store.file other path :=
      file_setFile_colPath ne _ _ _
    have vis (kept : column.1 = "__vis" → encodable formats column = false) :
        (store.setFile segId (colPath column.1) contents).file segId visPath =
          store.file segId visPath := by
      by_cases same : column.1 = "__vis"
      · have path : colPath column.1 = visPath := congrArg colPath same
        rw [← path, file_setFile_self, unencodable (kept same)]
      · exact file_setFile_of_ne _ _ _ (colPath_ne_visPath same)
    rw [writeColumns_cons]
    rcases writes : writeColumnDataFinal formats.vortex
      (environment.disk column.1) segId column.1 store [column.2.take 1]
      with ⟨next, error | done⟩
    · rw [writes] at changes written
      obtain rfl : next = _ := changes
      refine ⟨_, rfl, others, fun kept => vis fun same => ?_⟩
      by_contra encodes
      rw [overwritesVis, if_pos same, if_pos (by simpa using encodes)] at kept
      cases kept
    · rw [writes] at changes written
      obtain rfl : next = _ := changes
      obtain ⟨files, rest, restOthers, restVis⟩ := ih
        (store.setFile segId (colPath column.1) contents)
        fun other mem => filled other (mem_cons_of_mem _ mem)
      have writable : columnWritable formats environment column = true := written.symm
      have encodes : encodable formats column = true := by
        simp only [columnWritable, Bool.and_eq_true] at writable
        exact writable.1.1
      refine ⟨files, rest, fun other path ne =>
        (restOthers other path ne).trans (others other path ne),
        fun kept => ?_⟩
      have ordinary : column.1 ≠ "__vis" := by
        intro same
        rw [overwritesVis, if_pos same, if_pos encodes] at kept
        cases kept
      rw [overwritesVis, if_neg ordinary, if_pos writable] at kept
      exact (restVis kept).trans (vis fun same => absurd same ordinary)

end

lemma appendVisBatch_fst (faults renameFault segId store visArrays) :
    ∃ files, (appendVisBatch formats.vortex faults renameFault segId store
        visArrays).1 = { store with files := files } ∧
      ∀ other path, Untouched segId other path →
        { store with files := files }.file other path =
          store.file other path := by
  have sets := appendVisBatch_changes (Prod.eta (appendVisBatch formats.vortex
    faults renameFault segId store visArrays)).symm
  obtain ⟨files, changes⟩ := sets.changes
  refine ⟨files, changes, fun other path apart => ?_⟩
  rw [← changes]
  exact sets.file (apart.imp Ne.symm fun ne => ne "__vis")

variable {store : TableStore}

lemma appendVisBatch_of_appendable {segId name rows created}
    (filled : created ≠ []) (reads : store.readColumn formats.vortex segId "__vis" = .ok rows)
    (appendable : VisAppendable formats environment rows created) :
    ∃ after, appendVisBatch formats.vortex environment.visDisk
        environment.visRenameFault segId store ((name, created) :: rest) = (after, .ok ()) ∧
      after.readColumn formats.vortex segId "__vis" =
        .ok (rows ++ created) := by
  obtain ⟨batches, loads, rfl⟩ : ∃ batches,
      loadVisBatches formats.vortex segId store = .ok batches ∧
        batches.flatten = rows := by
    rw [readColumn_vis] at reads
    cases loads : loadVisBatches formats.vortex segId store with
    | error error => rw [loads] at reads; cases reads
    | ok batches =>
      rw [loads] at reads
      cases reads
      exact ⟨batches, rfl, rfl⟩
  obtain ⟨encodes, few, replaces, notes, renames⟩ := appendable
  have whole : (batches ++ [created]).flatten = batches.flatten ++ created := by simp
  rw [← whole] at encodes few
  have ne : (batches ++ [created]).flatten ≠ [] := by simp [filled]
  obtain ⟨bytes, encoded⟩ := exists_of_isOk encodes
  have finished := VortexWriter.finish_ofBatches_eq_replaceFile formats.vortex
    environment.visDisk none ne few
  simp only [VortexWriter.replaceFile, encoded, replaces, notes] at finished
  simp only [appendVisBatch, loads, head?_cons, Option.map_some,
    Option.getD_some, finished, renames]
  refine ⟨_, rfl, ?_⟩
  have mem : (store.setFile segId visPath (some bytes)).ColumnHolds
      formats.vortex segId "__vis" (batches ++ [created]).flatten :=
    ⟨bytes, file_setFile_self _ _ _ _, formats.vortex.decode_encode encoded⟩
  rw [mem.readColumn, whole]

lemma appendVisBatch_of_not_appendable {segId name : String} {created : List Value}
    (ne : created ≠ [])
    (unappendable : ∀ rows, store.readColumn formats.vortex segId "__vis" = .ok rows → ¬
      VisAppendable formats environment rows created) :
    ∃ error, appendVisBatch formats.vortex environment.visDisk
        environment.visRenameFault segId store ((name, created) :: rest) =
      (store, .error error) := by
  unfold appendVisBatch
  split
  · exact ⟨_, rfl⟩
  · next batches loads =>
      simp only [head?_cons, Option.map_some, Option.getD_some]
      split
      · exact ⟨_, rfl⟩
      · exact ⟨_, rfl⟩
      · next finished renames =>
          have few := VortexWriter.length_lt_of_finish_ofBatches finished
          have whole : (batches ++ [created]).flatten = batches.flatten ++ created := by simp
          have written := congrArg (fun state => state.2.isOk)
            (VortexWriter.finish_ofBatches_eq_replaceFile formats.vortex
              environment.visDisk none (by simp [ne]) few)
          rw [finished] at written
          obtain ⟨encodes, replaces, notes⟩ := (replaceFile_isOk_iff _ _ _).mp written.symm
          rw [whole] at few encodes
          refine absurd ⟨encodes, few, replaces, notes, renames⟩ (unappendable batches.flatten ?_)
          rw [readColumn_vis, loads, Except.map]

/-- The part of an insert and of an update that writes the files of a row. -/
def writeFiles (segId : String) (txnId : TxnId) (store : TableStore)
    (batch : RecordBatch Value) : TableStore × Except RockDuckError Unit :=
  andThen (store.ensureSegmentColumns segId (batch.map Prod.fst)
    environment.metaReadFault environment.metaWriteFault) fun store _ =>
  andThen (writeColumns formats environment segId store batch) fun store _ =>
  appendVisBatch formats.vortex environment.visDisk
    environment.visRenameFault segId store
    (visibilityColumns formats batch txnId notDeleted)

lemma writeFiles_fst (txnId store) (ne : ∀ column ∈ batch, column.2 ≠ []) : ∃ segments cache files,
      (writeFiles formats environment segId txnId store batch).1 = { store with
          segments := segments
          segMetaCache := cache
          files := files } ∧
      ∀ other path, Untouched segId other path →
        { store with files := files }.file other path =
          store.file other path := by
  let kept := fun after : TableStore => ∃ segments cache files, after =
      { store with segments := segments, segMetaCache := cache, files := files } ∧
    ∀ other path, Untouched segId other path →
      { store with files := files }.file other path = store.file other path
  refine andThen_fst_keeps kept ?_ fun described _ same =>
    andThen_fst_keeps kept ?_ fun written _ same => ?_
  · obtain ⟨segments, cache, changes⟩ := ensureSegmentColumns_changes (Prod.eta _).symm
    exact ⟨segments, cache, store.files, changes, fun _ _ _ => rfl⟩
  · obtain ⟨segments, cache, files, rfl, rest⟩ := same
    obtain ⟨after, changes, cols, -⟩ := writeColumns_fst formats environment segId _ ne
    exact ⟨segments, cache, after, changes, fun other path apart =>
      (cols other path apart).trans (rest other path apart)⟩
  · obtain ⟨segments, cache, files, rfl, rest⟩ := same
    obtain ⟨after, changes, vis⟩ := appendVisBatch_fst formats
      environment.visDisk environment.visRenameFault segId _
      (visibilityColumns formats batch txnId notDeleted)
    exact ⟨segments, cache, after, changes, fun other path apart =>
      (vis other path apart).trans (rest other path apart)⟩

def rowsBeforeAppend (stored : Except RockDuckError (List Value))
    (batch : RecordBatch Value) : Except RockDuckError (List Value) :=
  match overwritesVis formats environment batch with
  | some values => .ok values
  | none => stored

/-- All files of the row can be written. -/
structure FilesWritable (segment : Option SegmentMeta)
    (stored : Except RockDuckError (List Value)) (txnId : TxnId)
    (batch : RecordBatch Value) : Prop where
  describable : Describable environment segment
  columns : ∀ column ∈ batch, columnWritable formats environment column = true
  vis : ∃ rows, rowsBeforeAppend formats environment stored batch = .ok rows ∧
    VisAppendable formats environment rows
      (List.replicate (batchRows batch) (formats.txnValue txnId))

lemma overwritesVis_eq_none (absent : "__vis" ∉ batch.map Prod.fst) :
    overwritesVis formats environment batch = none := by
  induction batch with
  | nil => rfl
  | cons column batch ih =>
    rw [map_cons, mem_cons, not_or] at absent
    rw [overwritesVis, if_neg (Ne.symm absent.1), ih absent.2, ite_self]

section

variable {segId : String} {store after : TableStore} {batch : RecordBatch Value}

lemma writeColumns_overwritten {values : List Value} (filled : ∀ column ∈ batch, column.2 ≠ [])
    (nodup : (batch.map Prod.fst).Nodup)
    (overwrites : overwritesVis formats environment batch = some values)
    (ran : writeColumns formats environment segId store batch = (after, .ok ())) :
    after.readColumn formats.vortex segId "__vis" = .ok values := by
  induction batch generalizing store with
  | nil => cases overwrites
  | cons column batch ih =>
    have restFilled : ∀ other ∈ batch, other.2 ≠ [] := fun other mem =>
      filled other (mem_cons_of_mem _ mem)
    rw [map_cons, nodup_cons] at nodup
    rw [writeColumns_cons] at ran
    obtain ⟨next, done, writes, rest⟩ := andThen_eq_ok.mp ran
    have written := writeColumnDataFinal_isOk formats environment segId store
      (filled column mem_cons_self)
    rw [writes] at written
    have writable : columnWritable formats environment column = true := written.symm
    by_cases vis : column.1 = "__vis"
    · have encodes : encodable formats column = true := by
        simp only [columnWritable, Bool.and_eq_true] at writable
        exact writable.1.1
      rw [overwritesVis, if_pos vis, if_pos encodes, Option.some.injEq] at overwrites
      obtain ⟨ne, few⟩ := length_take_one_pos (filled column mem_cons_self)
      have reads := (writeColumnDataFinal_holds ne few writes).readColumn
      rw [vis] at reads nodup
      rw [← overwrites, ← reads]
      obtain ⟨files, changes, -, kept⟩ := writeColumns_fst formats environment segId next restFilled
      rw [rest] at changes
      obtain rfl : after = _ := changes
      exact readColumn_vis_congr _ (kept (overwritesVis_eq_none formats environment nodup.1))
    · rw [overwritesVis, if_neg vis, if_pos writable] at overwrites
      exact ih restFilled nodup.2 overwrites rest

lemma writeColumns_readColumn (ne : ∀ column ∈ batch, column.2 ≠ [])
    (nodup : (batch.map Prod.fst).Nodup)
    (ran : writeColumns formats environment segId store batch = (after, .ok ())) :
    after.readColumn formats.vortex segId "__vis" =
      rowsBeforeAppend formats environment
        (store.readColumn formats.vortex segId "__vis") batch := by
  unfold rowsBeforeAppend
  split
  · next vals overwrites =>
      exact writeColumns_overwritten formats environment ne nodup overwrites ran
  · next apart =>
      obtain ⟨files, changes, -, kept⟩ := writeColumns_fst formats environment segId store ne
      rw [ran] at changes
      obtain rfl : after = _ := changes
      exact readColumn_vis_congr _ (kept apart)

end

lemma writeFiles_isOk_iff (txnId : TxnId) (store : TableStore) (mem : 0 < batchRows batch)
    (filled : ∀ column ∈ batch, column.2 ≠ []) (nodup : (batch.map Prod.fst).Nodup) :
    (writeFiles formats environment segId txnId store batch).2.isOk = true ↔
      FilesWritable formats environment store.segments[segId]?
        (store.readColumn formats.vortex segId "__vis") txnId batch := by
  have describes := ensureSegmentColumns_isOk_iff environment store segId (batch.map Prod.fst)
  rw [writeFiles]
  rcases ensured : store.ensureSegmentColumns segId (batch.map Prod.fst)
    environment.metaReadFault environment.metaWriteFault
    with ⟨described, error | done⟩
  all_goals
    rw [ensured] at describes
    obtain ⟨segments, cache, rfl⟩ := ensureSegmentColumns_changes ensured
  · exact iff_of_false Bool.false_ne_true fun writable =>
      absurd (describes.mpr writable.describable) Bool.false_ne_true
  have written := writeColumns_isOk formats environment segId
    { store with segments := segments, segMetaCache := cache } filled
  dsimp only [andThen]
  rcases cols : writeColumns formats environment segId
    { store with segments := segments, segMetaCache := cache } batch
    with ⟨completed, error | done⟩
  all_goals rw [cols] at written
  · exact iff_of_false Bool.false_ne_true fun writable =>
      absurd (written.trans (all_eq_true.mpr writable.columns))
        Bool.false_ne_true
  have ne : List.replicate (batchRows batch) (formats.txnValue txnId) ≠ [] := by
    simp [mem.ne']
  have reads := writeColumns_readColumn formats environment filled nodup cols
  dsimp only
  rw [visibilityColumns_eq]
  by_cases appends : ∃ rows, rowsBeforeAppend formats environment
      (store.readColumn formats.vortex segId "__vis") batch = .ok rows ∧
        VisAppendable formats environment rows
          (List.replicate (batchRows batch) (formats.txnValue txnId))
  · obtain ⟨rows, stored, appendable⟩ := appends
    obtain ⟨after, ran, -⟩ := appendVisBatch_of_appendable formats
      environment ne (reads.trans stored) appendable
    rw [ran]
    exact iff_of_true rfl ⟨describes.mp rfl, all_eq_true.mp written.symm, rows, stored, appendable⟩
  · obtain ⟨error, fails⟩ := appendVisBatch_of_not_appendable formats
      environment ne fun rows stored appendable =>
        appends ⟨rows, reads.symm.trans stored, appendable⟩
    rw [fails]
    exact iff_of_false Bool.false_ne_true fun writable => appends writable.vis

/-- The part of an insert after its files were written. -/
def indexInsert (call : InsertCall Value) (store : TableStore) (placed : PlacedInsert Value) :
    TableStore × Except RockDuckError TxnId :=
  andThen (store.putPkIndexDouble call.pk placed.position
    call.environment.indexFault) fun store _ =>
  andThen (store.updateTableStats call.table 1 placed.txnId
    call.environment.countFault call.environment.statsFault) fun store _ =>
  andThen (logInsert formats store call placed.txnId placed.position
    (placed.batch ++ visibilityColumns formats placed.batch placed.txnId notDeleted)) fun store _ =>
    (captureInsert formats store call placed.txnId placed.position placed.batch, .ok placed.txnId)

section

variable (call : InsertCall Value) (store : TableStore) (placed : PlacedInsert Value)

lemma insertPlaced_eq : insertPlaced formats call store placed =
      andThen (writeFiles formats call.environment placed.position.segId
        placed.txnId store placed.batch) fun store _ => indexInsert formats call store placed := by
  simp only [writeFiles, andThen_assoc]
  rfl

lemma indexInsert_fst_files : (indexInsert formats call store placed).1.files = store.files := by
  let kept := fun after : TableStore => after.files = store.files
  refine andThen_fst_keeps kept ?_ fun indexed _ same =>
    andThen_fst_keeps kept ?_ fun count _ same =>
      andThen_fst_keeps kept ?_ fun logged _ same => same
  · cases call.environment.indexFault <;> rfl
  · refine andThen_fst_keeps kept ?_ fun stated _ same => ?_
    · cases call.environment.countFault <;> exact same
    · cases call.environment.statsFault <;> exact same
  · unfold logInsert
    split
    · exact same
    · split
      · exact same
      · split
        · simp only [rollbackWithPlan]
          cases call.environment.rollbackIndexFault <;>
            cases call.environment.rollbackCountFault <;> exact same
        · exact same

lemma insertPlaced_fst_files : (insertPlaced formats call store placed).1.files =
      (writeFiles formats call.environment placed.position.segId placed.txnId
        store placed.batch).1.files := by
  rw [insertPlaced_eq]
  rcases writeFiles formats call.environment placed.position.segId placed.txnId
    store placed.batch with ⟨written, error | done⟩
  · rfl
  · exact indexInsert_fst_files formats call written placed

end

lemma writeFiles_file_of_untouched {segId}
    (apart : Untouched segId other path) (txnId store) (ne : ∀ column ∈ batch, column.2 ≠ []) :
    (writeFiles formats environment segId txnId store batch).1.file other
      path = store.file other path := by
  obtain ⟨segments, cache, files, changes, rest⟩ :=
    writeFiles_fst formats environment segId txnId store ne
  rw [changes]
  exact rest other path apart

end Files

end TableStore

end RockDuck
