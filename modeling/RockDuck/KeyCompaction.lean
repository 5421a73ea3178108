import RockDuck.LiveRows
import RockDuck.PkIndex
import RockDuck.WalApply

/-!
# Keys through a compaction

A compaction of a segment that is described in the metadata store writes the
new segment, logs what it does, and redirects the old segment to the new one.
-/

namespace RockDuck

/-- The formats of a replay, with the writer of logged key entries. -/
structure CompactionFormats (Value : Type) extends RowFormats Value where
  encodePkEntries : List (Bytes × Nat × Nat) → Except String Bytes
  decode_encodePkEntries : ∀ {entries : List (Bytes × Nat × Nat)}
    {bytes : Bytes}, encodePkEntries entries = .ok bytes →
      decodePkEntries bytes = .ok entries

/-- What a compaction of a described segment meets outside of it. -/
structure CompactionRun where
  uuid : String
  compaction : CompactionEnvironment
  metaFault : Fault
  listFault : Fault
  walOutcome : DurableOutcome
  batchFault : Fault
  aliasFault : Fault
  putMetaFault : Fault
  versionIndexFault : Fault
  flushFault : Fault

def CompactionRun.undisturbed (uuid : String) : CompactionRun where
  uuid := uuid
  compaction := .undisturbed ""
  metaFault := none
  listFault := none
  walOutcome := .synced
  batchFault := none
  aliasFault := none
  putMetaFault := none
  versionIndexFault := none
  flushFault := none

/-- An entry of the key index, as it is listed. -/
structure SkiplistEntry where
  pk : Bytes
  segId : String
  granuleId : Nat
  rowOffset : Nat

def pkSkiplistKey (segId : String) (granuleId : Nat) : Bytes :=
  "pk_idx:".toUTF8.toList ++ segId.toUTF8.toList ++ [58] ++
    granuleBytes granuleId

/-- The parts of a key of the index: the bytes of the segment id, the granule
and the primary key, which keeps the separator in front of it. -/
def parsePkIndexKey (key : Bytes) : Option (Bytes × Nat × Bytes) :=
  if "pk_idx:".toUTF8.toList.isPrefixOf key then
    let rest := key.drop 7
    (rest.findIdx? (· = 58)).bind fun firstColon =>
      let afterSeg := rest.drop (firstColon + 1)
      if afterSeg.length < 4 then none
      else some (rest.take firstColon, readLe 4 afterSeg, afterSeg.drop 4)
  else none

/-- Read an entry of the index as an entry of the lookup table, which has one
component more. -/
def decodeAsLookup (_ : String × Nat × Nat) : Except RockDuckError (String × Nat × Nat × Bytes) :=
  .error endOfBuffer

namespace RecoveryWorld

/-- The entries of a segment in granule zero. -/
def listSkiplistEntries (world : RecoveryWorld) (segId : String)
    (fault : Fault) : Except RockDuckError (List SkiplistEntry) :=
  match fault with
  | some error => .error error
  | none =>
    let found := world.pkIdx.toList.filter fun entry => (pkSkiplistKey segId 0).isPrefixOf entry.1
    (found.filterMap fun entry =>
      (parsePkIndexKey entry.1).map fun parsed =>
        (parsed.2.2, entry.2)).mapM fun entry => do
          let decoded ← decodeAsLookup entry.2
          .ok ⟨entry.1, decoded.1, decoded.2.1, decoded.2.2.1⟩

/-- The entry of a key, through the alias of its segment.  A lookup that a
compaction wrote has no index key and cannot be decoded. -/
def getPkIndexByPk (world : RecoveryWorld) (pk : Bytes) :
    Except RockDuckError (Option PositionResult) :=
  match world.pkLookup[pk]? with
  | none => .ok none
  | some (segId, granuleId, rowOffset, idxKey) =>
    if idxKey.isEmpty then .error endOfBuffer
    else
      match world.segAliases[segId]? with
      | none => .ok (some ⟨segId, granuleId, rowOffset⟩)
      | some finalSegId =>
        .ok (world.pkIdx[idxKey]?.map fun entry => ⟨finalSegId, entry.2.1, entry.2.2⟩)

variable {Value : Type}

/-- The record of a compaction in the log. -/
def compactionOp (oldSegId newSegId : String) (pkEntries : Bytes) : WalOp :=
  ⟨.compaction, 0, .compaction oldSegId newSegId pkEntries true⟩

def guarded (fault : Fault) (world after : RecoveryWorld) :
    RecoveryWorld × Except ReadFailure Unit :=
  match fault with
  | some error => (world, .error (.error error))
  | none => (after, .ok ())

/-- Log a compaction. -/
def appendCompaction (world : RecoveryWorld) (op : WalOp)
    (outcome : DurableOutcome) : RecoveryWorld × Except ReadFailure Unit :=
  let appended := world.wal.appendDurable op outcome
  ({ world with wal := appended.1 },
    match appended.2 with
    | .ok () => .ok ()
    | .error error => .error (.error error))

/-- Move the index entries to the new segment. -/
def movePkEntries (world : RecoveryWorld) (oldSegId newSegId : String)
    (entries : List (Bytes × Nat × Nat)) : RecoveryWorld :=
  (world.onStore fun store => store.moveEntries oldSegId newSegId entries).1

/-- The metadata of the compacted segment. -/
def compactedMeta (old : SegmentMeta) (compacted : CompactedSegment) : SegmentMeta where
  segId := compacted.segId
  tableId := old.tableId
  status := .frozen
  columns := compacted.columns
  aliveRowCount := compacted.rowCount
  hasVisibilityColumns := true

/-- A compaction whose record is in the log: the old description, the new
segment and the entries of the index to move. -/
structure LoggedCompaction where
  old : SegmentMeta
  compacted : CompactedSegment
  entries : List (Bytes × Nat × Nat)

/-- The share of deleted rows is below the threshold, or there are no rows. -/
def skipsCompaction (config : PdtMergeConfig) (source : CompactionSource Value) : Bool :=
  decide (source.rowCount = 0) ||
    !config.reachesMinDelRatio (source.rowCount - source.aliveRowCount)
      source.rowCount

def newSegId (run : CompactionRun) (segId : String) : String :=
  segId ++ "_c" ++ run.uuid

/-- A compaction up to its log record. -/
def logCompaction (filter : ArrowFilter) (formats : CompactionFormats Value)
    (visCodec : VortexCodec Nat) (config : PdtMergeConfig)
    (run : CompactionRun) (world : RecoveryWorld) (source : CompactionSource Value) :
    RecoveryWorld × Except ReadFailure (Option LoggedCompaction) :=
  match run.metaFault, world.segments[source.segId]? with
  | some error, _ => (world, .error (.error error))
  | none, none =>
    (world, .error (.error (.compaction
      ("Segment " ++ source.segId ++ " not found in KV"))))
  | none, some old =>
    if skipsCompaction config source then (world, .ok none)
    else
      match compactSegment filter formats.vortex visCodec config
          { run.compaction with newSegId := newSegId run source.segId }
          source with
      | .error failure => (world, .error failure)
      | .ok compacted =>
        let written := { world with
          files := world.files.insert compacted.segId compacted.files }
        match written.listSkiplistEntries source.segId run.listFault with
        | .error error => (written, .error (.error error))
        | .ok listed =>
          let entries := listed.map fun entry => (entry.pk, entry.granuleId, entry.rowOffset)
          match formats.encodePkEntries entries with
          | .error reason => (written, .error (.error (.codec reason)))
          | .ok bytes =>
            andThen (written.appendCompaction (compactionOp
                source.segId compacted.segId bytes) run.walOutcome)
              fun world _ => (world, .ok (some ⟨old, compacted, entries⟩))

/-- A compaction from its log record on. -/
def applyCompaction (run : CompactionRun) (segId : String) (logged : LoggedCompaction)
    (world : RecoveryWorld) : RecoveryWorld × Except ReadFailure String :=
  let newId := logged.compacted.segId
  andThen (guarded (if logged.entries.isEmpty then none else run.batchFault)
    world (world.movePkEntries segId newId logged.entries)) fun world _ =>
  andThen (guarded run.aliasFault world
    { world with segAliases := world.segAliases.insert segId newId })
    fun world _ =>
  andThen (guarded run.putMetaFault world
    { world with
      segments := world.segments.insert newId
        (compactedMeta logged.old logged.compacted) }) fun world _ =>
  andThen (guarded run.versionIndexFault world world) fun world _ =>
  andThen (guarded run.flushFault world world) fun world _ =>
  ({ world with
      segMetaCache := (world.segMetaCache.invalidate segId).invalidate newId },
    .ok newId)

/-- Compact a segment.  The id of the segment that is returned is that of the
old one when there is nothing to do. -/
def runCompaction (filter : ArrowFilter) (formats : CompactionFormats Value)
    (visCodec : VortexCodec Nat) (config : PdtMergeConfig)
    (run : CompactionRun) (world : RecoveryWorld) (source : CompactionSource Value) :
    RecoveryWorld × Except ReadFailure String :=
  andThen (logCompaction filter formats visCodec config run world source)
    fun world logged =>
      match logged with
      | none => (world, .ok source.segId)
      | some logged => applyCompaction run source.segId logged world

end RecoveryWorld

namespace SegmentShape

/-- The rows a compaction keeps, in the order of the new segment. -/
def survivors (shape : SegmentShape) : List Nat :=
  (keptAmong shape (List.range shape.sizes.length)).flatMap shape.rowsOf

lemma nodup_survivors (shape : SegmentShape) : shape.survivors.Nodup := by
  have sorted : shape.survivors.Pairwise (· < ·) := by
    rw [survivors, List.pairwise_flatMap]
    refine ⟨fun idx _ => shape.pairwise_rowsOf idx, ?_⟩
    exact (List.pairwise_lt_range.filter _).imp
      fun before row one other two => lt_of_mem_rowsOf before one two
  exact sorted.imp Nat.ne_of_lt

end SegmentShape

namespace RecoveryWorld

variable {Value : Type} {filter : ArrowFilter} {formats : CompactionFormats Value}
    {visCodec : VortexCodec Nat} {config : PdtMergeConfig} {run : CompactionRun}
    {world after : RecoveryWorld} {source : CompactionSource Value} {segId newId : String}

lemma listSkiplistEntries_ok
    (lists : world.listSkiplistEntries segId fault = .ok mem) : mem = [] := by
  unfold listSkiplistEntries at lists
  split at lists
  · cases lists
  · have decoded := mapM_eq_ok_iff.mp lists
    cases mem with
    | nil => rfl
    | cons entry mem =>
      obtain ⟨stored, _, reads, _⟩ := List.forall₂_cons_right_iff.mp decoded
      cases reads

lemma compactSegment_segId (ran : compactSegment filter codec visCodec config env
      source = .ok compacted) : compacted.segId = env.newSegId := by
  unfold compactSegment at ran
  split at ran
  · cases ran
  · split at ran
    · cases ran
    · obtain ⟨_, _, ran⟩ := bind_eq_ok.mp ran
      dsimp only at ran
      split at ran
      · cases ran
      · obtain ⟨state, _, ran⟩ := bind_eq_ok.mp ran
        obtain ⟨files, _, ran⟩ := bind_eq_ok.mp ran
        obtain ⟨files', _, ran⟩ := bind_eq_ok.mp ran
        obtain ⟨_, _, ran⟩ := bind_eq_ok.mp ran
        cases ran
        rfl

lemma guarded_eq_ok (ran : guarded fault world next = (before, .ok ())) : before = next := by
  cases fault with
  | none => exact (congrArg Prod.fst ran).symm
  | some error => cases ran

lemma logCompaction_ok (ran : logCompaction filter formats visCodec config run world source =
      (after, .ok res)) : after.pkLookup = world.pkLookup ∧ after.pkIdx = world.pkIdx ∧
      after.segAliases = world.segAliases ∧ after.segments = world.segments ∧
      (res = none ∧ skipsCompaction config source ∧ after = world ∨ ∃ logged, res = some logged ∧
          skipsCompaction config source = false ∧ logged.entries = [] ∧
          logged.compacted.segId = newSegId run source.segId) := by
  unfold logCompaction at ran
  split at ran
  · cases ran
  · cases ran
  · split at ran
    · next skips =>
        cases ran
        exact ⟨rfl, rfl, rfl, rfl, .inl ⟨rfl, skips, rfl⟩⟩
    · next works =>
        split at ran
        · cases ran
        · next compacted compacts =>
            have named := compactSegment_segId compacts
            dsimp only at ran named
            split at ran
            · cases ran
            · next mem lists =>
                obtain rfl := listSkiplistEntries_ok lists
                split at ran
                · cases ran
                · obtain ⟨written, _, appends, same⟩ := andThen_eq_ok.mp ran
                  obtain rfl := congrArg Prod.fst appends
                  cases same
                  exact ⟨rfl, rfl, rfl, rfl, .inr ⟨_, rfl, by simpa using works, rfl, named⟩⟩

lemma applyCompaction_ok {logged : LoggedCompaction} (nothing : logged.entries = [])
    (ran : applyCompaction run segId logged world = (after, .ok newId)) :
    newId = logged.compacted.segId ∧ after.pkLookup = world.pkLookup ∧ after.pkIdx = world.pkIdx ∧
      after.segAliases = world.segAliases.insert segId logged.compacted.segId := by
  unfold applyCompaction at ran
  rw [nothing] at ran
  obtain ⟨_, _, moved, ran⟩ := andThen_eq_ok.mp ran
  obtain rfl := guarded_eq_ok moved
  obtain ⟨_, _, aliased, ran⟩ := andThen_eq_ok.mp ran
  obtain rfl := guarded_eq_ok aliased
  obtain ⟨_, _, described, ran⟩ := andThen_eq_ok.mp ran
  obtain rfl := guarded_eq_ok described
  obtain ⟨_, _, indexed, ran⟩ := andThen_eq_ok.mp ran
  obtain rfl := guarded_eq_ok indexed
  obtain ⟨_, _, flushed, ran⟩ := andThen_eq_ok.mp ran
  obtain rfl := guarded_eq_ok flushed
  cases ran
  exact ⟨rfl, rfl, rfl, rfl⟩

lemma runCompaction_ok
    (ran : runCompaction filter formats visCodec config run world source = (after, .ok newId)) :
    (skipsCompaction config source ∧ newId = source.segId ∧ after = world) ∨
      (skipsCompaction config source = false ∧ newId = newSegId run source.segId ∧
        after.pkLookup = world.pkLookup ∧ after.pkIdx = world.pkIdx ∧
        after.segAliases = world.segAliases.insert source.segId newId) := by
  obtain ⟨next, res, logs, applies⟩ := andThen_eq_ok.mp ran
  obtain ⟨lookups, entries, aliases, _, nothing | something⟩ := logCompaction_ok logs
  · obtain ⟨rfl, skips, rfl⟩ := nothing
    cases applies
    exact .inl ⟨skips, rfl, rfl⟩
  · obtain ⟨logged, rfl, works, empty, named⟩ := something
    obtain ⟨rfl, lookups', entries', aliases'⟩ := applyCompaction_ok empty applies
    exact .inr ⟨works, named, lookups'.trans lookups, entries'.trans entries,
      by rw [aliases', aliases]⟩

lemma getPkIndexByPk_eq_some : world.getPkIndexByPk pk = .ok (some pos) ↔ ∃ segId granule row idxKey,
        world.pkLookup[pk]? = some (segId, granule, row, idxKey) ∧ idxKey ≠ [] ∧
          ((world.segAliases[segId]? = none ∧ pos = ⟨segId, granule, row⟩) ∨
            ∃ finalSegId entry, world.segAliases[segId]? = some finalSegId ∧
              world.pkIdx[idxKey]? = some entry ∧ pos = ⟨finalSegId, entry.2.1, entry.2.2⟩) := by
  unfold getPkIndexByPk
  constructor
  · intro returned
    split at returned
    · cases returned
    · next segId granule row idxKey found =>
        split at returned
        · cases returned
        · next keyed =>
            refine ⟨segId, granule, row, idxKey, found, by simpa using keyed, ?_⟩
            split at returned
            · next current =>
                cases returned
                exact .inl ⟨current, rfl⟩
            · next finalSegId redirected =>
                obtain ⟨entry, stored, rfl⟩ := Option.map_eq_some_iff.mp (Except.ok.inj returned)
                exact .inr ⟨finalSegId, entry, redirected, stored, rfl⟩
  · rintro ⟨segId, granule, row, idxKey, found, keyed,
      ⟨current, rfl⟩ | ⟨finalSegId, entry, redirected, stored, rfl⟩⟩
    · simp only [found, List.isEmpty_iff, keyed, if_false, current]
    · simp only [found, List.isEmpty_iff, keyed, if_false, redirected, stored, Option.map_some]

/-- Keys of the kept rows lead to their new places. -/
def KeysFollow (before after : RecoveryWorld) (segId newId : String) (rows : List Nat) : Prop :=
  ∀ pk granuleId row place,
    before.getPkIndexByPk pk = .ok (some ⟨segId, granuleId, row⟩) →
      rows[place]? = some row →
        ∃ newGranule, after.getPkIndexByPk pk =
          .ok (some ⟨newId, newGranule, place⟩)

def returnedRows (config : PdtMergeConfig) (shape : SegmentShape)
    (source : CompactionSource Value) : List Nat :=
  if skipsCompaction config source then List.range shape.sizes.sum
  else shape.survivors

/-- The index entry of the key's lookup has the new place of the row. -/
def FollowsAlias (world : RecoveryWorld) (segId : String) (rows : List Nat)
    (pk : Bytes) (row : Nat) : Prop :=
  ∃ granuleId rowOffset idxKey entry,
    world.pkLookup[pk]? = some (segId, granuleId, rowOffset, idxKey) ∧
      world.pkIdx[idxKey]? = some entry ∧ rows[entry.2.2]? = some row

lemma newSegId_ne (run segId) : newSegId run segId ≠ segId := by
  intro same
  have lengths := congrArg String.length same
  have mark : "_c".length = 2 := rfl
  rw [newSegId, String.length_append, String.length_append] at lengths
  omega

lemma keysFollow_redirected_iff {rows : List Nat} (ne : newId ≠ segId) (nodup : rows.Nodup)
    (lookups : after.pkLookup = world.pkLookup) (entries : after.pkIdx = world.pkIdx)
    (aliases : after.segAliases = world.segAliases.insert segId newId) :
    KeysFollow world after segId newId rows ↔ ∀ pk granuleId row,
        world.getPkIndexByPk pk = .ok (some ⟨segId, granuleId, row⟩) →
          row ∈ rows → world.FollowsAlias segId rows pk row := by
  have redirect (other : String) : after.segAliases[other]? =
      if segId = other then some newId else world.segAliases[other]? := by
    rw [aliases]
    simp [Std.ExtTreeMap.getElem?_insert]
  constructor
  · intro follow pk granuleId row found survives
    obtain ⟨place, placed⟩ := List.mem_iff_getElem?.mp survives
    obtain ⟨newGranule, arrived⟩ := follow pk granuleId row place found placed
    obtain ⟨owner, granule, offset, idxKey, lookup, keyed, resolved⟩ :=
      getPkIndexByPk_eq_some.mp found
    obtain ⟨_, _, _, _, lookup', _, resolved'⟩ := getPkIndexByPk_eq_some.mp arrived
    rw [lookups, lookup] at lookup'
    cases lookup'
    rw [entries, redirect] at resolved'
    by_cases itself : segId = owner
    · rw [if_pos itself] at resolved'
      rcases resolved' with ⟨current, _⟩ | ⟨_, entry, _, stored, same⟩
      · cases current
      · cases same
        exact ⟨granule, offset, idxKey, entry, itself ▸ lookup, stored, placed⟩
    · -- A second alias is not followed, so the key stays with the old segment.
      rw [if_neg itself] at resolved'
      rcases resolved with ⟨current, same⟩ | ⟨_, _, redirected, _, same⟩
      · cases same
        exact absurd rfl itself
      · cases same
        rcases resolved' with ⟨current, _⟩ | ⟨_, _, redirected', _, same⟩
        · rw [redirected] at current
          cases current
        · rw [redirected] at redirected'
          cases same
          exact absurd (Option.some.inj redirected').symm ne
  · intro follow pk granuleId row place found placed
    obtain ⟨granule, offset, idxKey, entry, lookup, stored, ranked⟩ :=
      follow pk granuleId row found (List.mem_of_getElem? placed)
    obtain ⟨_, _, _, _, lookup', keyed, _⟩ := getPkIndexByPk_eq_some.mp found
    rw [lookup] at lookup'
    cases lookup'
    have same : entry.2.2 = place :=
      (List.getElem?_inj (List.getElem?_eq_some_iff.mp ranked).1 nodup).mp
        (ranked.trans placed.symm)
    refine ⟨entry.2.1, getPkIndexByPk_eq_some.mpr ⟨_, _, _, _,
      lookups ▸ lookup, keyed, .inr ⟨newId, entry, ?_, entries ▸ stored, ?_⟩⟩⟩
    · rw [redirect, if_pos rfl]
    · rw [same]

/-- The keys of surviving rows follow a compaction exactly where it has nothing
to do, or each of them is found through one alias at an unchanged offset. -/
theorem runCompaction_keys_follow_iff {shape : SegmentShape}
    {columns : List String} {values : String → Nat → Value} {newId : String}
    (succeeds : runCompaction filter formats visCodec config run world
      (shape.fill columns values) = (after, .ok newId)) : KeysFollow world after shape.segId newId
        (returnedRows config shape (shape.fill columns values)) ↔
      skipsCompaction config (shape.fill columns values) ∨ ∀ pk granuleId row,
          world.getPkIndexByPk pk = .ok (some ⟨shape.segId, granuleId, row⟩) →
            row ∈ shape.survivors → world.FollowsAlias shape.segId shape.survivors pk row := by
  rcases runCompaction_ok succeeds with ⟨skips, rfl, rfl⟩ | ⟨works, rfl, lookups, entries, aliases⟩
  · refine iff_of_true (fun pk granuleId row place found placed => ?_)
      (.inl skips)
    rw [returnedRows, if_pos skips] at placed
    obtain ⟨_, same⟩ := List.getElem?_eq_some_iff.mp placed
    rw [List.getElem_range] at same
    exact ⟨granuleId, same ▸ found⟩
  · rw [returnedRows, if_neg (by simp [works]), or_iff_right (by simp [works])]
    exact keysFollow_redirected_iff (newSegId_ne run _) shape.nodup_survivors
      lookups entries aliases

end RecoveryWorld

def byteCompactionFormats : CompactionFormats UInt8 where
  toRowFormats := rowFormats
  encodePkEntries
    | [] => .ok []
    | _ :: _ => .error "Encoding error"
  decode_encodePkEntries {entries bytes} encoded := by
    cases entries with
    | nil => rfl
    | cons entry entries => cases encoded

def oneRowSegment : SegmentShape where
  segId := "b"
  directoryText := "data/b"
  hasDirectory := true
  sizes := [1]
  vis := none
  deltavis := []
  rowCount := 2
  aliveRowCount := 1

def redirectedWorld : RecoveryWorld :=
  { bareWorld with
    segments := (∅ : Std.ExtTreeMap String SegmentMeta).insert "b"
      (.new "b" "t" ["x"])
    pkIdx := (∅ : Std.ExtTreeMap Bytes (String × Nat × Nat)).insert
      (pkIndexKey "a" 0 [1]) ("a", 0, 0)
    pkLookup := (∅ : Std.ExtTreeMap Bytes (String × Nat × Nat × Bytes)).insert
      [1] ("a", 0, 0, pkIndexKey "a" 0 [1])
    segAliases := (∅ : Std.ExtTreeMap String String).insert "a" "b" }

def secondCompaction : RecoveryWorld × Except ReadFailure String :=
  RecoveryWorld.runCompaction arrowFilter byteCompactionFormats numberCodec
    ⟨"0.05", fun dead total => decide (total ≤ 20 * dead)⟩
    (.undisturbed "1") redirectedWorld
    (oneRowSegment.fill ["x"] fun _ _ => 7)

lemma secondCompaction_succeeds : secondCompaction = (secondCompaction.1, .ok "b_c1") :=
  Prod.ext rfl (by decide +kernel)

namespace RecoveryWorld

theorem runCompaction_keys_follow_iff_secondCompaction :
    KeysFollow redirectedWorld secondCompaction.1 "b" "b_c1"
        oneRowSegment.survivors ↔ ∀ pk granuleId row,
        redirectedWorld.getPkIndexByPk pk = .ok (some ⟨"b", granuleId, row⟩) →
          row ∈ oneRowSegment.survivors →
            redirectedWorld.FollowsAlias "b" oneRowSegment.survivors pk row := by
  have follow := runCompaction_keys_follow_iff secondCompaction_succeeds
  rw [returnedRows, if_neg (by decide), or_iff_right (by decide)] at follow
  exact follow

/-- A key that was redirected before stays with the compacted segment. -/
theorem key_left_behind : redirectedWorld.getPkIndexByPk [1] = .ok (some ⟨"b", 0, 0⟩) ∧
      oneRowSegment.survivors = [0] ∧
      secondCompaction.2 = .ok "b_c1" ∧
      secondCompaction.1.getPkIndexByPk [1] = .ok (some ⟨"b", 0, 0⟩) := by
  decide +kernel

end RecoveryWorld

end RockDuck
