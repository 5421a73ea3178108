import RockDuck.StoreReads

/-!
# Values around a compaction

Compaction moves the patches of a few guards to the third layer, whose index
keeps one file for a column.
-/

namespace RockDuck

open List Std.ExtTreeMap PatchCodecs DeltaL2Disk

attribute [local simp] Except.toOption

/-- Both lookups fail, or find the same. -/
def SameValue : Except ReadFailure (Option StoredDeltaCell) →
      Except ReadFailure (Option StoredDeltaCell) → Prop
  | .ok before, .ok after => before.map StoredDeltaCell.after = after.map StoredDeltaCell.after
  | .error _, .error _ => True
  | _, _ => False

lemma SameValue.refl (answer) : SameValue answer answer := by
  cases answer with
  | error err => trivial
  | ok found => rfl

namespace DeltaL2Disk

variable {disk : DeltaL2Disk}

lemma getVisible_of_older (older : ∀ (key : GuardKey) zoneMap, disk.guards[key]? = some zoneMap →
      zoneMap.maxTxn < snap) : disk.getVisible codecs segId snap = .ok [] := by
  have each (key : GuardKey) : disk.guardCells codecs key snap = .ok [] := by
    unfold guardCells
    cases mem : disk.guards[key]? with
    | none => rfl
    | some zoneMap => exact if_pos (older key zoneMap mem)
  refine getVisible_eq_ok_iff.mpr ⟨fun key _ => ⟨[], each key⟩, ?_⟩
  simp [held, each]

lemma readAllPatchesFromGuard_deleteGuardFile (differs : other ≠ key) (fault) :
    (disk.deleteGuardFile key fault).1.readAllPatchesFromGuard other =
      disk.readAllPatchesFromGuard other := by
  unfold deleteGuardFile
  split
  · cases fault with
    | some error => rfl
    | none =>
      have ne : compare key other ≠ .eq := fun cmp =>
        differs (Std.LawfulEqOrd.eq_of_compare cmp).symm
      simp [readAllPatchesFromGuard, contains_erase, getElem?_erase, ne]
  · rfl

lemma getElem?_guards_deleteGuardFile {key other : GuardKey} {fault : Fault}
    {zoneMap : GuardZoneMap} (mem : (disk.deleteGuardFile key fault).1.guards[other]? =
      some zoneMap) : disk.guards[other]? = some zoneMap := by
  unfold deleteGuardFile at mem
  split at mem
  · cases fault with
    | some error => exact mem
    | none =>
      rw [getElem?_erase] at mem
      split at mem
      · cases mem
      · exact mem
  · exact mem

end DeltaL2Disk

abbrev FrozenWrite := String × Nat × DeltaPatchFormat

namespace DeltaL3Frozen

variable {frozen : DeltaL3Frozen}

/-- Write one patch to the third layer. -/
def freeze (segId : String) (frozen : DeltaL3Frozen) (write : FrozenWrite) : DeltaL3Frozen :=
  ⟨frozen.index.insert (toLex (segId, write.1)) (frozenPath segId write.1 write.2.1),
    frozen.files.insert (frozenPath segId write.1 write.2.1)
      write.2.2.toBytes⟩

def freezeAll (segId : String) (frozen : DeltaL3Frozen)
    (writes : List FrozenWrite) : DeltaL3Frozen :=
  writes.foldl (freeze segId) frozen

lemma exists_frozen (segId)
    (written : ∃ write ∈ writes, write.1 = col) : ∃ version bytes, ∀ frozen : DeltaL3Frozen,
      (freezeAll segId frozen writes).index[toLex (segId, col)]? =
          some (frozenPath segId col version) ∧ (freezeAll segId frozen writes).files[
          frozenPath segId col version]? = some bytes := by
  induction writes using List.reverseRecOn with
  | nil => simp at written
  | append_singleton writes last ih =>
    simp only [freezeAll, foldl_append, foldl_cons, foldl_nil, freeze]
    by_cases same : last.1 = col
    · subst same
      exact ⟨last.2.1, last.2.2.toBytes, fun frozen =>
        ⟨getElem?_insert_self, getElem?_insert_self⟩⟩
    · obtain ⟨write, mem, col⟩ := written
      have old : write ∈ writes := by
        refine (mem_append.mp mem).resolve_right fun isLast => ?_
        cases mem_singleton.mp isLast
        exact same col
      obtain ⟨version, bytes, found⟩ := ih ⟨write, old, col⟩
      refine ⟨version, bytes, fun frozen => ?_⟩
      obtain ⟨idx, file⟩ := found frozen
      constructor
      · rw [Std.ExtTreeMap.getElem?_insert, if_neg]
        · exact idx
        · intro cmp
          have pairs := Std.LawfulEqOrd.eq_of_compare cmp
          exact same (congrArg (fun place => (ofLex place).2) pairs)
      · rw [Std.ExtTreeMap.getElem?_insert, if_neg]
        · exact file
        · intro cmp
          have paths := Std.LawfulEqOrd.eq_of_compare cmp
          exact same (congrArg (fun path => (ofLex (ofLex path).2).1) paths)

end DeltaL3Frozen

/-- The transaction that a frozen patch is read with. -/
def DeltaPatchFormat.frozenTxn : DeltaPatchFormat → TxnId
  | sparse _ _ => 0
  | dense _ _ txnId => txnId

lemma patchFormatToDeltas_tells {codecs : PatchCodecs} {segId col format cells}
    (read : codecs.patchFormatToDeltas segId col format = .ok cells)
    {cell} (mem : cell ∈ cells) : cell.column = col ∧ cell.txnId = format.frozenTxn := by
  cases format with
  | sparse positions vals =>
    cases read
    obtain ⟨row, -, rfl⟩ := List.mem_map.mp mem
    exact ⟨rfl, rfl⟩
  | dense vals totalRows txnId =>
    unfold patchFormatToDeltas denseCells at read
    dsimp only at read
    split at read
    · cases read
    · cases read
      obtain ⟨row, -, rfl⟩ := List.mem_map.mp mem
      exact ⟨rfl, rfl⟩

namespace DeltaL3Frozen

variable {codecs : PatchCodecs} {frozen : DeltaL3Frozen}

lemma exists_frozenTxn (codecs bytes) : ∃ txn, ∀ (frozen : DeltaL3Frozen) (segId col) path cells,
      frozen.files[path]? = some bytes → frozen.loadPatch codecs segId col path = .ok cells →
          ∀ cell ∈ cells, cell.txnId = txn := by
  cases read : DeltaPatchFormat.fromBytes bytes with
  | error err =>
    refine ⟨0, fun frozen segId col path cells file loaded => ?_⟩
    simp [loadPatch, file, read] at loaded
  | ok format =>
    cases format with
    | none =>
      refine ⟨0, fun frozen segId col path cells file loaded => ?_⟩
      simp [loadPatch, file, read] at loaded
    | some format =>
      refine ⟨format.frozenTxn, fun frozen segId col path cells file loaded cell mem => ?_⟩
      simp only [loadPatch, file, read] at loaded
      exact (patchFormatToDeltas_tells loaded mem).2

lemma column_of_loadPatch (loaded : frozen.loadPatch codecs segId column path = .ok cells)
    (mem : cell ∈ cells) : cell.column = column := by
  unfold loadPatch at loaded
  split at loaded
  · cases loaded
    simp at mem
  · split at loaded
    · cases loaded
    · cases loaded
    · exact (patchFormatToDeltas_tells loaded mem).1

lemma exists_path_of_mem (read : frozen.getVisible codecs segId = .ok cells)
    (mem : cell ∈ cells) : ∃ path part, frozen.index[toLex (segId, cell.column)]? = some path ∧
      frozen.loadPatch codecs segId cell.column path = .ok part ∧ cell ∈ part := by
  unfold getVisible at read
  cases loaded : (frozen.columnsOf segId).mapM (fun col =>
      frozen.loadPatch codecs segId col.1 col.2) with
  | error err =>
    rw [loaded] at read
    cases read
  | ok parts =>
    rw [loaded] at read
    cases read
    obtain ⟨part, listed, member⟩ := mem_flatten.mp mem
    obtain ⟨⟨col, path⟩, inIndex, held⟩ := exists_mem_of_mapM_eq_ok loaded listed
    obtain ⟨⟨place, stored⟩, entry, same⟩ := List.mem_map.mp inIndex
    obtain ⟨present, ofSegment⟩ := List.mem_filter.mp entry
    cases same
    have sameColumn := column_of_loadPatch held member
    refine ⟨stored, part, ?_, by rwa [sameColumn], member⟩
    rw [sameColumn, ← of_decide_eq_true ofSegment]
    exact Std.ExtTreeMap.mem_toList_iff_getElem?_eq_some.mp present

def oneRow (segId column : String) (values : Bytes) (txnId : TxnId) : DeltaL3Frozen :=
  ⟨(∅ : Std.ExtTreeMap (String ×ₗ String) FrozenPath).insert
      (toLex (segId, column)) (frozenPath segId column 0),
    (∅ : Std.ExtTreeMap FrozenPath Bytes).insert (frozenPath segId column 0)
      (DeltaPatchFormat.dense values 1 txnId).toBytes⟩

lemma getVisible_oneRow {vals val : Bytes} (short : vals.length < 256 ^ 4) (early : txnId < 256 ^ 8)
    (decodes : codecs.decodeArrowArray vals = .ok (.binary [some val])) :
    (oneRow segId col vals txnId).getVisible codecs segId =
      .ok [PatchCodecs.patchCell segId col 0 txnId (some val)] := by
  have cols : (oneRow segId col vals txnId).columnsOf segId = [(col, frozenPath segId col 0)] := by
    have entries : (oneRow segId col vals txnId).index.toList =
      [(toLex (segId, col), frozenPath segId col 0)] := rfl
    simp [columnsOf, entries]
  have file : (oneRow segId col vals txnId).files[frozenPath segId col 0]? =
        some (DeltaPatchFormat.dense vals 1 txnId).toBytes :=
    getElem?_insert_self
  have readBack : DeltaPatchFormat.fromBytes
      (DeltaPatchFormat.dense vals 1 txnId).toBytes =
        .ok (some (.dense vals 1 txnId)) :=
    DeltaPatchFormat.fromBytes_toBytes_dense short (by norm_num) early
  have loaded : (oneRow segId col vals txnId).loadPatch codecs segId col
      (frozenPath segId col 0) =
        .ok [patchCell segId col 0 txnId (some val)] := by
    simp only [loadPatch, file, readBack, patchFormatToDeltas, denseCells, decodes]
    rfl
  simp [getVisible, cols, loaded, Except.map, bind, Except.bind, pure, Except.pure]

end DeltaL3Frozen

namespace DeltaStores

variable {codecs : PatchCodecs} {stores : DeltaStores} {segId : String}

/-- A compaction that succeeds leaves every lookup as it was. -/
def CompactionTransparent (codecs : PatchCodecs) (stores : DeltaStores)
    (environment : FreezeEnvironment) (segId : String) (snapshot : TxnSnapshot) : Prop :=
  ∀ after, stores.compactL2ToL3 environment segId = some (after, .ok ()) →
    ∀ rowOffset column,
      SameValue (stores.queryCell codecs segId rowOffset column snapshot)
        (after.queryCell codecs segId rowOffset column snapshot)

variable {guard : GuardKey × TxnId} {environment : FreezeEnvironment} {after : DeltaStores}
    {guards : List (GuardKey × TxnId)} {txnId snapshotTxn : TxnId}

lemma compactGuard_ok (ran : compactGuard environment segId stores guard = some (after, .ok ())) :
    (∃ patches, stores.l2.readAllPatchesFromGuard guard.1 = some (.ok patches)) ∧
      ∀ other ≠ guard.1, after.l2.readAllPatchesFromGuard other =
        stores.l2.readAllPatchesFromGuard other := by
  unfold compactGuard at ran
  split at ran
  · cases ran
  · cases ran
  · rename_i read
    cases ran
    exact ⟨⟨[], read⟩, fun _ _ => rfl⟩
  · rename_i patches read
    split at ran
    · cases ran
    · cases ran
      exact ⟨⟨_, read⟩, fun other differs =>
        readAllPatchesFromGuard_deleteGuardFile differs _⟩

lemma exists_patches_of_compactGuards (nodup : guards.Pairwise fun one two => one.1 ≠ two.1)
    (ran : compactGuards environment segId stores guards = some (after, .ok ())) :
    ∀ guard ∈ guards, ∃ patches,
      stores.l2.readAllPatchesFromGuard guard.1 = some (.ok patches) := by
  induction guards generalizing stores with
  | nil => simp
  | cons first guards ih =>
    obtain ⟨others, rest⟩ := pairwise_cons.mp nodup
    rw [compactGuards] at ran
    split at ran
    · cases ran
    · cases ran
    · rename_i next step
      obtain ⟨read, kept⟩ := compactGuard_ok step
      refine forall_mem_cons.mpr ⟨read, fun guard mem => ?_⟩
      rw [← kept guard.1 (others guard mem).symm]
      exact ih rest ran guard mem

lemma compactGuards_of_nil (environment segId)
    (empty : ∀ guard ∈ guards, stores.l2.readAllPatchesFromGuard guard.1 = some (.ok [])) :
    compactGuards environment segId stores guards = some (stores, .ok ()) := by
  induction guards with
  | nil => rfl
  | cons first guards ih =>
    obtain ⟨none, rest⟩ := forall_mem_cons.mp empty
    have step : compactGuard environment segId stores first = some (stores, .ok ()) := by
      rw [compactGuard, none]
    rw [compactGuards, step]
    exact ih rest

def quietCompaction : FreezeEnvironment where
  writeFault := fun _ => none
  deleteFault := fun _ => none

def frozenPatches (guard : GuardKey × TxnId)
    (patches : List DeltaL2Disk.MergePatchRef) : List FrozenWrite :=
  patches.zipIdx.map fun entry => (guard.1.column, (guard.2 * 1000 + entry.2) % 2 ^ 64, entry.1.format)

/-- The writes of a compaction of some guards. -/
def frozenWrites (disk : DeltaL2Disk) (guards : List (GuardKey × TxnId)) : List FrozenWrite :=
  guards.flatMap fun guard =>
    match disk.readAllPatchesFromGuard guard.1 with
    | some (.ok patches) => frozenPatches guard patches
    | _ => []

lemma freezePatches_quiet (guard : GuardKey × TxnId) (frozen patches) :
    freezePatches quietCompaction segId guard.1.column guard.2 frozen patches =
      (frozen.freezeAll segId (frozenPatches guard patches), .ok ()) := by
  unfold freezePatches frozenPatches
  generalize patches.zipIdx = entries
  induction entries generalizing frozen with
  | nil => rfl
  | cons entry entries ih =>
    rw [forEach]
    exact ih _

/-- What a compaction leaves that nothing disturbs. -/
structure Compacted (segId : String) (before : DeltaStores)
    (writes : List FrozenWrite) (after : DeltaStores) : Prop where
  l1 : after.l1 = before.l1
  l3 : after.l3 = before.l3.freezeAll segId writes
  guards : ∀ (key : GuardKey) zoneMap, after.l2.guards[key]? = some zoneMap →
    before.l2.guards[key]? = some zoneMap

lemma exists_compactGuard_quiet
    (read : stores.l2.readAllPatchesFromGuard guard.1 = some (.ok patches)) :
    ∃ after, compactGuard quietCompaction segId stores guard = some (after, .ok ()) ∧
      Compacted segId stores (frozenPatches guard patches) after := by
  cases patches with
  | nil => refine ⟨stores, by rw [compactGuard, read], rfl, rfl, fun _ _ => id⟩
  | cons patch patches =>
    refine ⟨{ stores with
        l3 := stores.l3.freezeAll segId (frozenPatches guard (patch :: patches))
        l2 := (stores.l2.deleteGuardFile guard.1 none).1 }, ?_, rfl, rfl,
      fun key zoneMap mem => getElem?_guards_deleteGuardFile mem⟩
    rw [compactGuard, read]
    dsimp only
    rw [freezePatches_quiet]
    rfl

lemma exists_compactGuards_quiet (segId) (stores : DeltaStores)
    (nodup : guards.Pairwise fun one two => one.1 ≠ two.1)
    (readable : ∀ guard ∈ guards, ∃ patches, stores.l2.readAllPatchesFromGuard guard.1 = some (.ok
      patches)) :
    ∃ after, compactGuards quietCompaction segId stores guards = some (after, .ok ()) ∧
      Compacted segId stores (frozenWrites stores.l2 guards) after := by
  induction guards generalizing stores with
  | nil => exact ⟨stores, rfl, rfl, rfl, fun _ _ => id⟩
  | cons first guards ih =>
    obtain ⟨others, rest⟩ := pairwise_cons.mp nodup
    obtain ⟨⟨patches, read⟩, restRead⟩ := forall_mem_cons.mp readable
    obtain ⟨next, step, compacted⟩ : ∃ next,
        compactGuard quietCompaction segId stores first =
            some (next, .ok ()) ∧
          Compacted segId stores (frozenPatches first patches) next :=
      exists_compactGuard_quiet read
    have kept := (compactGuard_ok step).2
    obtain ⟨after, run, later⟩ := ih next rest (fun guard mem => by
      rw [kept guard.1 (others guard mem).symm]
      exact restRead guard mem)
    have sameWrites : frozenWrites next.l2 guards = frozenWrites stores.l2 guards := by
      refine flatMap_congr fun guard mem => ?_
      rw [kept guard.1 (others guard mem).symm]
    have writes : frozenWrites stores.l2 (first :: guards) =
        frozenPatches first patches ++ frozenWrites stores.l2 guards := by
      rw [frozenWrites, flatMap_cons, read]
      rfl
    refine ⟨after, ?_, later.l1.trans compacted.l1, ?_,
      fun key zoneMap present => compacted.guards key zoneMap (later.guards key zoneMap present)⟩
    · rw [compactGuards, step]
      exact run
    · rw [later.l3, compacted.l3, sameWrites, writes]
      exact (foldl_append ..).symm

lemma pairwise_guardsToCompact (stores : DeltaStores) (segId) :
    (stores.guardsToCompact segId).Pairwise fun one two => one.1 ≠ two.1 := by
  refine List.Pairwise.sublist (take_sublist _ _) ?_
  refine (perm_insertionSort _ _).symm.pairwise ?_ fun differs => differs.symm
  unfold guardsBySeg
  rw [pairwise_map]
  refine (List.Pairwise.filter _ distinct_keys_toList).imp ?_
  intro one two differs same
  exact differs (by rw [same]; exact Std.ReflOrd.compare_self)

/-- A snapshot after a transaction that shows nothing but that transaction. -/
def showsOnly (txnId snapshotTxn : TxnId) : TxnSnapshot :=
  ⟨snapshotTxn, ∅, .snapshot, (∅ : Std.ExtTreeMap TxnId Nat).insert txnId 0⟩

lemma isVisibleAtCommit_showsOnly {cell : StoredDeltaCell} (later : txnId ≤ snapshotTxn) :
    cell.isVisibleAtCommit snapshotTxn (showsOnly txnId snapshotTxn).commitTsMap
        (showsOnly txnId snapshotTxn).activeTxns = true ↔ cell.txnId = txnId := by
  unfold StoredDeltaCell.isVisibleAtCommit showsOnly
  by_cases same : cell.txnId = txnId
  · rw [if_neg (by rw [same]; exact Nat.not_lt.mpr later), same]
    simp
  · refine iff_of_false ?_ same
    have absent : ((∅ : Std.ExtTreeMap TxnId Nat).insert txnId 0)[cell.txnId]? = none := by
      rw [Std.ExtTreeMap.getElem?_insert, if_neg fun cmp =>
        same (Std.LawfulEqOrd.eq_of_compare cmp).symm]
      exact getElem?_empty
    simp [absent]

lemma exists_later (disk : DeltaL2Disk) : ∃ snapshotTxn : TxnId, 2 ≤ snapshotTxn ∧
      ∀ (key : GuardKey) zoneMap, disk.guards[key]? = some zoneMap →
        zoneMap.maxTxn < snapshotTxn := by
  refine ⟨(disk.guards.toList.map fun entry => entry.2.maxTxn).sum + 2,
    Nat.le_add_left _ _, fun key zoneMap present => ?_⟩
  have mem : zoneMap.maxTxn ∈ disk.guards.toList.map fun entry => entry.2.maxTxn :=
    List.mem_map.mpr ⟨(key, zoneMap), Std.ExtTreeMap.mem_toList_iff_getElem?_eq_some.mpr present, rfl⟩
  exact (le_sum_of_mem mem).trans_lt (Nat.lt_add_of_pos_right (by decide))

/-- What was frozen before under the one transaction the snapshot shows is
found. -/
lemma queryCell_oneRow {disk : DeltaL2Disk} {vals val : Bytes} (short : vals.length < 256 ^ 4)
    (early : txnId < 256 ^ 8) (decodes : codecs.decodeArrowArray vals = .ok (.binary [some val]))
    (later : txnId ≤ snapshotTxn)
    (older : ∀ (key : GuardKey) zoneMap, disk.guards[key]? = some zoneMap → zoneMap.maxTxn <
      snapshotTxn) : queryCell codecs ⟨.empty, disk, .oneRow segId col vals txnId, ∅⟩ segId 0 col
        (showsOnly txnId snapshotTxn) =
      .ok (some (PatchCodecs.patchCell segId col 0 txnId (some val))) := by
  have second : disk.getVisible codecs segId snapshotTxn = .ok [] :=
    getVisible_of_older older
  have visible : (patchCell segId col 0 txnId (some val)).isVisibleAtCommit snapshotTxn
        (showsOnly txnId snapshotTxn).commitTsMap
        (showsOnly txnId snapshotTxn).activeTxns = true :=
    (isVisibleAtCommit_showsOnly later).mpr rfl
  have merged : kWayMerge [[], [], [patchCell segId col 0 txnId (some val)]] snapshotTxn
        (showsOnly txnId snapshotTxn).commitTsMap
        (showsOnly txnId snapshotTxn).activeTxns =
      [patchCell segId col 0 txnId (some val)] := by
    have shown : ([[], [], [patchCell segId col 0 txnId
        (some val)]].flatten.filter fun cell =>
          cell.isVisibleAtCommit snapshotTxn
            (showsOnly txnId snapshotTxn).commitTsMap
            (showsOnly txnId snapshotTxn).activeTxns) =
        [patchCell segId col 0 txnId (some val)] :=
      filter_eq_self.mpr (by simpa using visible)
    rw [kWayMerge_eq, shown]
    rfl
  have first : (DeltaMemStore.empty.getVisible segId snapshotTxn).2 = [] := rfl
  have asked : (showsOnly txnId snapshotTxn).snapshotId = snapshotTxn := rfl
  simp only [queryCell, query, asked, second,
    DeltaL3Frozen.getVisible_oneRow short early decodes, first, merged]
  simp [Except.map, patchCell, maxByKey]

lemma queryCell_frozen
    (l1 : after.l1 = .empty) (idx : after.l3.index[toLex (segId, column)]? = some path)
    (file : after.l3.files[path]? = some bytes)
    (ofOne : ∀ (frozen : DeltaL3Frozen) (segId column : String) path cells, frozen.files[path]? =
      some bytes → frozen.loadPatch codecs segId column path = .ok cells → ∀ cell ∈ cells,
      cell.txnId = frozenTxn) (differs : frozenTxn ≠ txnId) (later : txnId ≤ snapshotTxn)
    (older : ∀ (key : GuardKey) zoneMap, after.l2.guards[key]? = some zoneMap → zoneMap.maxTxn <
      snapshotTxn)
    (answer : after.queryCell codecs segId 0 column (showsOnly txnId snapshotTxn) = .ok found) :
    found = none := by
  have second : after.l2.getVisible codecs segId
      (showsOnly txnId snapshotTxn).snapshotId = .ok [] :=
    getVisible_of_older older
  have first : (after.l1.getVisible segId (showsOnly txnId snapshotTxn).snapshotId).2 = [] := by
    rw [l1]
    rfl
  unfold queryCell query at answer
  rw [second, first] at answer
  cases third : after.l3.getVisible codecs segId with
  | error err =>
    rw [third] at answer
    cases answer
  | ok cells =>
    rw [third] at answer
    have none : (kWayMerge [[], [], cells] snapshotTxn
        (showsOnly txnId snapshotTxn).commitTsMap
        (showsOnly txnId snapshotTxn).activeTxns).filter (fun cell =>
          decide (cell.rowOffset = 0) && decide (cell.column = column)) =
        [] := by
      refine filter_eq_nil_iff.mpr fun cell listed here => ?_
      rw [kWayMerge_eq] at listed
      obtain ⟨-, rfl⟩ : cell.rowOffset = 0 ∧ cell.column = column := by simpa using here
      obtain ⟨mem, visible⟩ := List.mem_filter.mp (mem_latestVersions.mp listed).isLatest.mem
      obtain ⟨other, part, inIndex, loaded, member⟩ :=
        DeltaL3Frozen.exists_path_of_mem third (by simpa using mem)
      cases Option.some.inj (idx.symm.trans inIndex)
      exact differs ((ofOne _ _ _ _ _ file loaded cell member).symm.trans
        ((isVisibleAtCommit_showsOnly later).mp visible))
    have same := Except.ok.inj answer
    rw [← same]
    exact (congrArg (maxByKey StoredDeltaCell.txnId) none).trans rfl

/-- Over every content of the other layers, a compaction keeps the newest
visible values exactly when its guards have no patches, unless one of them
cannot be read and it fails. -/
theorem compaction_keeps_values_iff (codecs : PatchCodecs)
    {values value : Bytes} (short : values.length < 256 ^ 4)
    (decodes : codecs.decodeArrowArray values = .ok (.binary [some value]))
    (stores : DeltaStores) (segId : String) : (∀ l1 l3 recentFlush environment snapshot,
      CompactionTransparent codecs ⟨l1, stores.l2, l3, recentFlush⟩ environment segId snapshot) ↔
      ((∀ guard ∈ stores.guardsToCompact segId, ∃ patches,
          stores.l2.readAllPatchesFromGuard guard.1 = some (.ok patches)) →
        ∀ guard ∈ stores.guardsToCompact segId,
          stores.l2.readAllPatchesFromGuard guard.1 = some (.ok [])) := by
  constructor
  · intro transparent readable guard mem
    obtain ⟨patches, read⟩ := readable guard mem
    cases patches with
    | nil => exact read
    | cons patch patches =>
      exfalso
      have written : ∃ write ∈ frozenWrites stores.l2
          (stores.guardsToCompact segId), write.1 = guard.1.column := by
        refine ⟨(guard.1.column, (guard.2 * 1000 + 0) % 2 ^ 64, patch.format),
          mem_flatMap.mpr ⟨guard, mem, ?_⟩, rfl⟩
        rw [read]
        simp [frozenPatches]
      obtain ⟨version, bytes, frozen⟩ := DeltaL3Frozen.exists_frozen segId written
      obtain ⟨frozenTxn, ofOne⟩ := DeltaL3Frozen.exists_frozenTxn codecs bytes
      obtain ⟨snapshotTxn, late, older⟩ := exists_later stores.l2
      -- One of two transactions is not that of the patch written last.
      obtain ⟨txnId, differs, early, later⟩ : ∃ txnId : TxnId,
          frozenTxn ≠ txnId ∧ txnId < 256 ^ 8 ∧ txnId ≤ snapshotTxn := by
        by_cases one : frozenTxn = 1
        · exact ⟨2, by rw [one]; decide, by decide, late⟩
        · exact ⟨1, one, by decide, le_trans (by decide) late⟩
      obtain ⟨after, run, compacted⟩ := exists_compactGuards_quiet segId
        ⟨.empty, stores.l2, .oneRow segId guard.1.column values txnId, ∅⟩
        (pairwise_guardsToCompact stores segId) readable
      obtain ⟨index, file⟩ := frozen (.oneRow segId guard.1.column values txnId)
      have same := transparent _ _ _ _ (showsOnly txnId snapshotTxn) after run 0 guard.1.column
      rw [queryCell_oneRow short early decodes later older] at same
      cases answer : after.queryCell codecs segId 0 guard.1.column
          (showsOnly txnId snapshotTxn) with
      | error failure => simp [answer, SameValue] at same
      | ok found =>
        have lost := queryCell_frozen compacted.l1 (by rw [compacted.l3]; exact index)
          (by rw [compacted.l3]; exact file) ofOne differs later
          (fun key zoneMap present =>
            older key zoneMap (compacted.guards key zoneMap present)) answer
        rw [answer, lost] at same
        simp [SameValue] at same
  · intro empty l1 l3 recentFlush environment snapshot after compacted rowOffset column
    have readable := exists_patches_of_compactGuards
      (pairwise_guardsToCompact stores segId) compacted
    have idle : compactGuards environment segId
        ⟨l1, stores.l2, l3, recentFlush⟩ (stores.guardsToCompact segId) =
          some (⟨l1, stores.l2, l3, recentFlush⟩, .ok ()) :=
      compactGuards_of_nil environment segId (empty readable)
    have unchanged : (⟨l1, stores.l2, l3, recentFlush⟩ : DeltaStores) = after := by
      have both := idle.symm.trans compacted
      simpa using both
    rw [← unchanged]
    exact SameValue.refl _

private def byteArrays : PatchCodecs :=
  ⟨fun rows => rows.map UInt8.ofNat, fun bytes => bytes.map UInt8.toNat,
    List.flatten, fun bytes => .ok (some (.binary (bytes.map fun byte => some [byte])))⟩

private def oneGuard (file : Bytes) : DeltaL2Disk :=
  { DeltaL2Disk.empty with
    guards := (∅ : Std.ExtTreeMap GuardKey GuardZoneMap).insert
      (guardKey "seg" "age" 0) ⟨2, 2⟩
    files := (∅ : Std.ExtTreeMap GuardKey Bytes).insert
      (guardKey "seg" "age" 0) file }

/-- The second layer of a guard whose file has nothing behind its header. -/
theorem compaction_keeps_values_iff_noPatch :
    byteArrays.decodeArrowArray [7] = .ok (.binary [some [7]]) ∧
      ∀ l1 l3 recentFlush environment snapshot, CompactionTransparent byteArrays
          ⟨l1, oneGuard DeltaL2Disk.fileHeader, l3, recentFlush⟩ environment
          "seg" snapshot := by
  have short : ([7] : Bytes).length < 256 ^ 4 := by decide
  refine ⟨rfl, (compaction_keeps_values_iff byteArrays short rfl
    ⟨.empty, oneGuard fileHeader, .empty, ∅⟩ "seg").mpr
      fun _ guard mem => ?_⟩
  have chosen : guardsToCompact
      ⟨.empty, oneGuard fileHeader, .empty, ∅⟩ "seg" =
        [(guardKey "seg" "age" 0, 2)] := by
    decide +kernel
  rw [chosen, mem_singleton] at mem
  subst mem
  rfl

private def secondPatch : Bytes :=
  let payload := (DeltaPatchFormat.dense [8] 1 2).toBytes
  DeltaL2Disk.fileHeader ++ leBytes 8 2 ++ leBytes 8 2 ++ leBytes 8 2 ++
    leBytes 4 payload.length ++ leBytes 4 0 ++ payload

/-- Two rows of the first transaction were frozen before. -/
private def beforeCompaction : DeltaStores where
  l1 := .empty
  l2 := oneGuard secondPatch
  l3 := ⟨(∅ : Std.ExtTreeMap (String ×ₗ String) FrozenPath).insert
      (toLex ("seg", "age")) (frozenPath "seg" "age" 1000),
    (∅ : Std.ExtTreeMap FrozenPath Bytes).insert (frozenPath "seg" "age" 1000)
      (DeltaPatchFormat.dense [7, 9] 2 1).toBytes⟩
  recentFlush := ∅

private def bothCommitted : TxnSnapshot := ⟨3, ∅, .snapshot, Std.ExtTreeMap.ofList [(1, 1), (2, 2)]⟩

/-- The second row is lost when a patch of the first row is compacted. -/
theorem compaction_loses_frozen_row : ¬ ∀ (codecs : PatchCodecs) (stores : DeltaStores)
        (environment : FreezeEnvironment) (segId : String) (snapshot : TxnSnapshot),
      CompactionTransparent codecs stores environment segId snapshot := by
  intro transparent
  have first : ((beforeCompaction.queryCell byteArrays "seg" 1 "age"
      bothCommitted).toOption.map fun found =>
        found.map StoredDeltaCell.after) = some (some (some [9])) := by
    decide +kernel
  have second : ((beforeCompaction.compactL2ToL3 quietCompaction "seg").map
      fun result => (result.2.toOption,
        (result.1.queryCell byteArrays "seg" 1 "age"
          bothCommitted).toOption.map fun found =>
            found.map StoredDeltaCell.after)) = some (some (), some none) := by
    decide +kernel
  obtain ⟨⟨after, outcome⟩, compacted, results⟩ := Option.map_eq_some_iff.mp second
  obtain ⟨succeeded, lost⟩ := Prod.mk.inj results
  cases outcome with
  | error failure => simp at succeeded
  | ok value =>
    have same := transparent byteArrays _ _ _ bothCommitted after compacted 1
      "age"
    cases before : beforeCompaction.queryCell byteArrays "seg" 1 "age"
        bothCommitted with
    | error failure => simp [before] at first
    | ok found =>
      cases later : after.queryCell byteArrays "seg" 1 "age"
          bothCommitted with
      | error failure => simp [later] at lost
      | ok missing =>
        have had : found.map StoredDeltaCell.after = some (some [9]) := by
          simpa [before] using first
        have has : missing.map StoredDeltaCell.after = none := by
          simpa [later] using lost
        rw [before, later] at same
        change found.map StoredDeltaCell.after = missing.map StoredDeltaCell.after at same
        rw [had, has] at same
        cases same

end DeltaStores

end RockDuck
