import RockDuck.CrashRecovery
import RockDuck.KeyCompaction

/-!
# A compaction that a crash interrupts

The record of a compaction is in the log before the index and the aliases
change.
-/

namespace RockDuck

variable {World : Type*}

lemma applyUntilFailure_keeps {Record Error : Type*}
    {apply : World → Record → World × Except Error Unit} (prop : World → Prop) {recs : List Record}
    {world : World} (keeps : ∀ record ∈ recs, ∀ world, prop world → prop (apply world record).1)
    (holds : prop world) : prop (applyUntilFailure apply world recs).1 := by
  induction recs generalizing world with
  | nil => exact holds
  | cons record recs ih =>
    have next := keeps record List.mem_cons_self world holds
    rw [applyUntilFailure]
    split
    · next after taken =>
        rw [taken] at next
        exact ih (fun other mem => keeps other (List.mem_cons_of_mem _ mem)) next
    · next after error taken =>
        rw [taken] at next
        exact next

lemma applyBatches_keeps {Record Error Id : Type*}
    {apply : World → Record → World × Except Error Unit} (prop : World → Prop)
    {batches : List (Id × List Record)} {world : World}
    (keeps : ∀ batch ∈ batches, ∀ record ∈ batch.2, ∀ world, prop world → prop (apply world
      record).1) (holds : prop world) : prop (applyBatches apply world batches) := by
  induction batches generalizing world with
  | nil => exact holds
  | cons batch batches ih =>
    exact ih (fun other mem => keeps other (List.mem_cons_of_mem _ mem))
      (applyUntilFailure_keeps prop (keeps batch List.mem_cons_self) holds)

def OpPayload.isCompaction : OpPayload → Bool
  | .compaction .. => true
  | _ => false

/-- An operation record has no payload of a compaction. -/
def WalOp.Operates (op : WalOp) : Prop :=
  op.opType.role = .operation → op.payload.isCompaction = false

instance (op : WalOp) : Decidable op.Operates :=
  inferInstanceAs (Decidable (_ → _))

lemma openWithConfig_fst (apply : World → WalOp → World × Except RockDuckError Unit)
    (world : World) (recs : List WalOp) (readerError : Option String)
    (ckpt : Option CheckpointMvccState) (kv : MvccBucket) (env : OpenEnvironment) :
    (openWithConfig apply world recs readerError ckpt kv env).1 =
      applyBatches apply world (walView.committedBatches recs) := by
  rw [← world_replayCommittedOpsWith classifyApplyError, openWithConfig, replayCommittedOps]
  split <;> next res => rw [res]

namespace TableStore

variable {Value : Type*}

lemma segments_replayColumn (codec : VortexCodec Value)
    (segId col : String) (store : TableStore) (rows : List Value) :
    (replayColumn codec segId col store rows).1.segments = store.segments := by
  unfold replayColumn
  split
  · exact (writeColumnDataFinal_changes (Prod.eta _).symm).segments
  · rfl

variable (fmt : RowFormats Value)

lemma segments_replayRow (store pk cols wal segId) (off : Nat) :
    (replayRow fmt store pk cols wal segId off).1.segments = store.segments := by
  unfold replayRow
  split
  · rfl
  · next batch _ =>
      let kept (after : TableStore) : Prop := after.segments = store.segments
      refine andThen_fst_keeps kept ?_ fun next _ same =>
        andThen_fst_keeps kept ?_ fun _ _ same => same
      · refine forEach_fst_keeps kept (fun col _ before same => ?_) rfl
        dsimp only
        split
        · exact (segments_replayColumn ..).trans same
        · exact same
      · split
        · exact same
        · unfold writeVisColumnReplay
          split
          · exact same
          · dsimp only
            split
            · exact same
            · split
              · exact (appendVisBatch_changes (Prod.eta _).symm).segments.trans same
              · exact same

lemma segments_replayRowOp (store : TableStore) (txnId payload) :
    (store.replayRowOp fmt txnId payload).1.segments = store.segments := by
  have marked (segId : String) (row : Nat) :
      (store.markDeleted fmt.crc32 none segId row txnId).1.segments =
        store.segments := (markDeleted_changes (Prod.eta _).symm).segments
  cases payload with
  | insert => exact segments_replayRow ..
  | update =>
    refine andThen_fst_keeps (fun after : TableStore => after.segments = store.segments)
      (marked ..) fun next _ same => ?_
    exact (segments_replayRow ..).trans same
  | delete =>
    refine andThen_fst_keeps (fun after : TableStore => after.segments = store.segments)
      (marked ..) fun next _ same => ?_
    obtain ⟨pkIdx, pkLookup, changed⟩ := deletePkIndexDouble_changes (Prod.eta _).symm
    rw [changed]
    exact same
  | _ => rfl

end TableStore

namespace RecoveryWorld

variable {Value : Type} {formats : CompactionFormats Value}
  {world crashed written : RecoveryWorld}

lemma replayOp_keeps (formats : RowFormats Value) {op : WalOp}
    (operates : op.payload.isCompaction = false) (world : RecoveryWorld) :
    (replayOp formats world op).1.segAliases = world.segAliases ∧
      (replayOp formats world op).1.segments = world.segments := by
  unfold replayOp
  split
  · next payload =>
      rw [payload] at operates
      cases operates
  · exact ⟨rfl, TableStore.segments_replayRowOp ..⟩

/-- The database that is opened over what a crash left, of which part of the
log's buffer had been written out. -/
def reopen (formats : CompactionFormats Value) (crashed : RecoveryWorld) (flushed : Nat)
    (readerError : Option String) (checkpoint : Option CheckpointMvccState) (kv : MvccBucket)
    (environment : OpenEnvironment) : RecoveryWorld :=
  (openWithConfig (replayOp formats.toRowFormats) crashed
    (crashed.wal.crashImage flushed) readerError checkpoint kv environment).1

variable {flushed : Nat} {readerError : Option String}
  {checkpoint : Option CheckpointMvccState} {kv : MvccBucket}
  {environment : OpenEnvironment} {reopened : RecoveryWorld}

lemma reopen_keeps (opens : reopen formats crashed flushed readerError checkpoint kv
      env = reopened) (operates : ∀ op ∈ crashed.wal.crashImage flushed, op.Operates) :
    reopened.segAliases = crashed.segAliases ∧ reopened.segments = crashed.segments := by
  rw [← opens, reopen, openWithConfig_fst]
  refine applyBatches_keeps (fun world : RecoveryWorld =>
    world.segAliases = crashed.segAliases ∧
      world.segments = crashed.segments)
    (fun batch committed op mem world same => ?_) ⟨rfl, rfl⟩
  obtain ⟨idx, _, _, _, found, operation, _⟩ :=
    LogView.position_of_mem_committedBatches committed mem
  obtain ⟨aliases, segments⟩ := replayOp_keeps formats.toRowFormats
    (operates op (List.mem_of_getElem? found) (LogView.operates_iff.mp operation).2) world
  exact ⟨aliases.trans same.1, segments.trans same.2⟩

/-- The updates that a record announces are made. -/
structure Completed (segId : String) (logged : LoggedCompaction)
    (world : RecoveryWorld) : Prop where
  redirected : world.segAliases[segId]? = some logged.compacted.segId
  moved : ∀ entry ∈ logged.entries, world.pkLookup[entry.1]? =
    some (logged.compacted.segId, entry.2.1, entry.2.2, [])

/-- The lookup of the key leads to a segment that is described. -/
def ResolvesToSegment (world : RecoveryWorld) (pk : Bytes) : Prop :=
  ∃ position, world.getPkIndexByPk pk = .ok (some position) ∧
    world.segments.contains position.segId = true

/-- Both entries of the key are there, in the segment. -/
def HasKey (world : RecoveryWorld) (segId : String) (pk : Bytes) : Prop :=
  ∃ granuleId rowOffset idxKey,
    world.pkLookup[pk]? = some (segId, granuleId, rowOffset, idxKey) ∧
      idxKey ≠ [] ∧ world.pkIdx.contains idxKey = true

variable {logged : LoggedCompaction}

lemma completed_and_resolves_iff {segId pk} (nothing : logged.entries = [])
    (live : world.HasKey segId pk) : (Completed segId logged world ∧ world.ResolvesToSegment pk) ↔
      world.segAliases[segId]? = some logged.compacted.segId ∧
        world.segments.contains logged.compacted.segId = true := by
  obtain ⟨granule, row, idxKey, lookup, keyed, indexed⟩ := live
  constructor
  · rintro ⟨completed, pos, found, described⟩
    have redirected := completed.redirected
    obtain ⟨_, _, _, _, lookup', _, resolved⟩ := getPkIndexByPk_eq_some.mp found
    rw [lookup] at lookup'
    cases lookup'
    rcases resolved with ⟨current, _⟩ | ⟨_, _, redirected', _, rfl⟩
    · rw [redirected] at current
      cases current
    · rw [redirected] at redirected'
      cases redirected'
      exact ⟨redirected, described⟩
  · rintro ⟨redirected, described⟩
    obtain ⟨entry, stored⟩ := Option.isSome_iff_exists.mp
      (Std.ExtTreeMap.isSome_getElem?_eq_contains.trans indexed)
    exact ⟨⟨redirected, by simp [nothing]⟩, _,
      getPkIndexByPk_eq_some.mpr ⟨_, _, _, _, lookup, keyed,
        .inr ⟨_, entry, redirected, stored, rfl⟩⟩, described⟩

lemma applyCompaction_fst (run segId) (nothing : logged.entries = []) (world) :
    (applyCompaction run segId logged world).1.segAliases =
        (if run.aliasFault = none then
          world.segAliases.insert segId logged.compacted.segId
        else world.segAliases) ∧
      (applyCompaction run segId logged world).1.segments =
        if run.aliasFault = none ∧ run.putMetaFault = none then
          world.segments.insert logged.compacted.segId (compactedMeta logged.old logged.compacted)
        else world.segments := by
  simp only [applyCompaction, nothing, andThen, guarded, movePkEntries, onStore,
    TableStore.moveEntries, forEach]
  cases run.aliasFault with
  | some error => simp
  | none =>
    cases run.putMetaFault with
    | some error => simp
    | none =>
      cases run.versionIndexFault with
      | some error => simp
      | none =>
        cases run.flushFault <;> simp

/-- A crash after the record of a compaction is survived exactly if the alias
and the new description had been written before it: recovery completes
nothing. -/
theorem reopened_completes_iff {filter : ArrowFilter}
    {visCodec : VortexCodec Nat} {config : PdtMergeConfig}
    {run : CompactionRun} {source : CompactionSource Value} {logged : LoggedCompaction} {pk : Bytes}
    (logs : logCompaction filter formats visCodec config run world source =
      (written, .ok (some logged)))
    (breaksOff : (applyCompaction run source.segId logged written).1 = crashed)
    (operates : ∀ op ∈ crashed.wal.crashImage flushed, op.Operates)
    (opens : reopen formats crashed flushed readerError checkpoint kv environment = reopened)
    (live : reopened.HasKey source.segId pk) :
    (Completed source.segId logged reopened ∧ reopened.ResolvesToSegment pk) ↔
      (run.aliasFault = none ∨
        world.segAliases[source.segId]? = some (newSegId run source.segId)) ∧
      (run.aliasFault = none ∧ run.putMetaFault = none ∨
        world.segments.contains (newSegId run source.segId) = true) := by
  obtain ⟨_, _, aliasesBefore, segmentsBefore, nothing | something⟩ := logCompaction_ok logs
  · cases nothing.1
  · obtain ⟨_, same, _, empty, named⟩ := something
    cases same
    rw [completed_and_resolves_iff empty live]
    obtain ⟨aliases, segments⟩ := reopen_keeps opens operates
    obtain ⟨aliasesAt, segmentsAt⟩ := applyCompaction_fst run source.segId empty written
    rw [← breaksOff, aliasesAt, aliasesBefore] at aliases
    rw [← breaksOff, segmentsAt, segmentsBefore] at segments
    rw [aliases, segments, named]
    refine and_congr ?_ ?_
    · split
      · next applied => simp [applied]
      · next stopped => simp [stopped]
    · split
      · next applied => simp [applied]
      · next stopped => rw [or_iff_right stopped]

end RecoveryWorld

/-- The key of a live row in the second granule, and nothing in the log. -/
def interruptedWorld : RecoveryWorld :=
  { bareWorld with
    segments := (∅ : Std.ExtTreeMap String SegmentMeta).insert "seg_1"
      (.new "seg_1" "t" ["x"])
    pkIdx := (∅ : Std.ExtTreeMap Bytes (String × Nat × Nat)).insert
      (pkIndexKey "seg_1" 1 [1]) ("seg_1", 1, 0)
    pkLookup := (∅ : Std.ExtTreeMap Bytes (String × Nat × Nat × Bytes)).insert
      [1] ("seg_1", 1, 0, pkIndexKey "seg_1" 1 [1])
    wal := WriteAheadLog.new true .syncEach }

/-- The process ends before the new segment is described. -/
def interruptedRun : CompactionRun :=
  { CompactionRun.undisturbed "1" with
    putMetaFault := some (.storage "mace-kv begin: interrupted") }

def interruptedSource : CompactionSource UInt8 :=
  { oneRowSegment with segId := "seg_1" }.fill ["x"] fun _ _ => 7

def interruptedLog : RecoveryWorld × Except ReadFailure (Option RecoveryWorld.LoggedCompaction) :=
  RecoveryWorld.logCompaction arrowFilter byteCompactionFormats numberCodec
    ⟨"0.05", fun dead total => decide (total ≤ 20 * dead)⟩ interruptedRun
    interruptedWorld interruptedSource

/-- What is left when the process ends. -/
def interruptedCrash : RecoveryWorld :=
  (RecoveryWorld.runCompaction arrowFilter byteCompactionFormats numberCodec
    ⟨"0.05", fun dead total => decide (total ≤ 20 * dead)⟩ interruptedRun
    interruptedWorld interruptedSource).1

def interruptedReopened : RecoveryWorld :=
  RecoveryWorld.reopen byteCompactionFormats interruptedCrash 0 none none
    .empty (.at 0)

namespace RecoveryWorld

lemma exists_interruptedLog : ∃ logged, interruptedLog = (interruptedLog.1, .ok (some logged)) := by
  have reached : (interruptedLog.2.toOption.bind id).isSome = true := by decide +kernel
  obtain ⟨logged, found⟩ := Option.isSome_iff_exists.mp reached
  refine ⟨logged, Prod.ext rfl ?_⟩
  cases out : interruptedLog.2 with
  | error err =>
    rw [out] at found
    cases found
  | ok res =>
    rw [out] at found
    exact congrArg Except.ok found

theorem reopened_completes_iff_interrupted : ∃ logged, interruptedLog.2 = .ok (some logged) ∧
      ((Completed "seg_1" logged interruptedReopened ∧
          interruptedReopened.ResolvesToSegment [1]) ↔
        (interruptedRun.aliasFault = none ∨
          interruptedWorld.segAliases["seg_1"]? = some "seg_1_c1") ∧
        (interruptedRun.aliasFault = none ∧ interruptedRun.putMetaFault = none ∨
          interruptedWorld.segments.contains "seg_1_c1" = true)) := by
  obtain ⟨logged, logs⟩ := exists_interruptedLog
  have breaksOff : (applyCompaction interruptedRun interruptedSource.segId
      logged interruptedLog.1).1 = interruptedCrash := by
    rw [interruptedCrash, runCompaction, ← interruptedLog, logs]
    rfl
  refine ⟨logged, congrArg Prod.snd logs, ?_⟩
  exact reopened_completes_iff logs breaksOff (by decide +kernel) rfl
    ⟨1, 0, pkIndexKey "seg_1" 1 [1], by decide +kernel, by decide +kernel, by decide +kernel⟩

/-- After the crash the key leads to a segment without a description. -/
theorem crash_loses_segment : compactionOp "seg_1" "seg_1_c1" [] ∈ interruptedCrash.wal.file ∧
      interruptedReopened.getPkIndexByPk [1] = .ok (some ⟨"seg_1_c1", 1, 0⟩) ∧
      interruptedReopened.segments.contains "seg_1_c1" = false := by
  decide +kernel

end RecoveryWorld

end RockDuck
