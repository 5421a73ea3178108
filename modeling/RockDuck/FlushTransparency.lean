import RockDuck.StoreReads

/-!
# Reads around a flush

A flush exchanges the two buffers of the memory store, writes what was in them
to the guard files of their columns and forgets what was swapped out before.
-/

namespace RockDuck

open List Std Std.ExtTreeMap DeltaMemStore DeltaL2Disk

namespace StoredDeltaCell

/-- What a reader takes from a cell. -/
def content (cell : StoredDeltaCell) : String × String × Nat × TxnId × Option Bytes :=
  (cell.segId, cell.column, cell.rowOffset, cell.txnId, cell.after)

lemma content_tells {cell other : StoredDeltaCell} (same : cell.content = other.content) :
    cell.place = other.place ∧ cell.txnId = other.txnId := by
  simp only [content, Prod.mk.injEq] at same
  simp [place, same]

end StoredDeltaCell

/-- Both answers fail, or have the same contents. -/
def SameAnswer : Except ReadFailure (List StoredDeltaCell) →
      Except ReadFailure (List StoredDeltaCell) → Prop
  | .ok before, .ok after => ∀ content,
      content ∈ before.map StoredDeltaCell.content ↔
        content ∈ after.map StoredDeltaCell.content
  | .error _, .error _ => True
  | _, _ => False

/-- The cells of a column. -/
def columnCells (column : String ×ₗ String) (cells : List StoredDeltaCell) : List StoredDeltaCell :=
  cells.filter fun cell => decide (toLex (cell.segId, cell.column) = column)

lemma getElem?_groupCells (cells col) : (groupCells cells)[col]? =
      if columnCells col cells = [] then none
      else some (columnCells col cells) := by
  induction cells using List.reverseRecOn with
  | nil => simp [groupCells, columnCells]
  | append_singleton cells cell ih =>
    rw [groupCells, foldl_append]
    change ((groupCells cells).insert (toLex (cell.segId, cell.column))
      ((groupCells cells).getD (toLex (cell.segId, cell.column)) [] ++ [cell]))[col]? = _
    rw [ExtTreeMap.getElem?_insert]
    by_cases same : toLex (cell.segId, cell.column) = col
    · have extended : columnCells col (cells ++ [cell]) = columnCells col cells ++ [cell] := by
        simp [columnCells, same]
      rw [if_pos (by rw [same]; exact ReflOrd.compare_self), extended,
        if_neg (by simp), same, getD_eq_getD_getElem?, ih]
      split
      · rename_i empty
        rw [empty]
        rfl
      · rfl
    · have unchanged : columnCells col (cells ++ [cell]) = columnCells col cells := by
        simp [columnCells, same]
      rw [if_neg fun cmp => same (LawfulEqOrd.eq_of_compare cmp), ih, unchanged]

lemma mem_groupCells (mem : group ∈ (groupCells cells).toList) : ∃ cell ∈ group.2, cell ∈ cells ∧
      toLex (cell.segId, cell.column) = group.1 := by
  have stored := ExtTreeMap.mem_toList_iff_getElem?_eq_some.mp mem
  rw [getElem?_groupCells] at stored
  split at stored
  · cases stored
  · rename_i some
    obtain ⟨cell, member⟩ := exists_mem_of_ne_nil _ some
    obtain ⟨listed, same⟩ := List.mem_filter.mp member
    exact ⟨cell, Option.some.inj stored ▸ member, listed, of_decide_eq_true same⟩

lemma exists_group (mem : cell ∈ cells) :
    ∃ group, (toLex (cell.segId, cell.column), group) ∈ (groupCells cells).toList := by
  refine ⟨columnCells (toLex (cell.segId, cell.column)) cells,
    ExtTreeMap.mem_toList_iff_getElem?_eq_some.mpr ?_⟩
  rw [getElem?_groupCells, if_neg]
  exact ne_nil_of_mem (List.mem_filter.mpr ⟨mem, by simp⟩)

lemma exists_patch (codecs) (mem : cell ∈ cells) :
    ∃ patch, buildPatchFromCells codecs cells = .ok patch := by
  unfold buildPatchFromCells
  split
  · rename_i none
    have listed := (mem_insertionSort
      fun left right : StoredDeltaCell => left.txnId ≤ right.txnId).mpr mem
    simp [none] at listed
  · exact ⟨_, rfl⟩

namespace DeltaL2Disk

variable {codecs : PatchCodecs}

/-- The guard of one column was written to, and nothing else. -/
structure ChangedAt (segId column : String) (before after : DeltaL2Disk) :
    Prop where
  patchCache : after.patchCache = before.patchCache
  guards : ∀ key ≠ guardKey segId column 0,
    after.guards[key]? = before.guards[key]?
  files : ∀ key ≠ guardKey segId column 0,
    after.files[key]? = before.files[key]?
  tmpFiles : ∀ key ≠ guardKey segId column 0,
    after.tmpFiles[key]? = before.tmpFiles[key]?
  segColIndex : ∀ place ≠ toLex (segId, column),
    after.segColIndex[place]? = before.segColIndex[place]?

lemma findOrCreateGuard_changedAt (disk segId col) :
    ChangedAt segId col disk (disk.findOrCreateGuard segId col) := by
  unfold findOrCreateGuard
  dsimp only
  split
  · exact ⟨rfl, fun _ _ => rfl, fun _ _ => rfl, fun _ _ => rfl, fun _ _ => rfl⟩
  · refine ⟨rfl, fun key other => ?_, fun _ _ => rfl, fun _ _ => rfl, fun place other => ?_⟩
    · rw [ExtTreeMap.getElem?_insert, if_neg fun cmp =>
        other (LawfulEqOrd.eq_of_compare cmp).symm]
    · rw [ExtTreeMap.getElem?_insert, if_neg fun cmp =>
        other (LawfulEqOrd.eq_of_compare cmp).symm]

variable {segId column : String} {before after : DeltaL2Disk} {disk : DeltaL2Disk}

lemma appendPatch_changedAt (ran : disk.appendPatch segId column patch fault = (after, .ok ())) :
    ChangedAt segId column disk after := by
  have found := disk.findOrCreateGuard_changedAt segId column
  unfold appendPatch at ran
  cases fault with
  | some error => cases ran
  | none =>
    cases ran
    refine ⟨found.patchCache, fun key other => ?_, fun key other => ?_,
      fun key other => ?_, found.segColIndex⟩
    · rw [ExtTreeMap.getElem?_insert, if_neg fun cmp =>
        other (LawfulEqOrd.eq_of_compare cmp).symm,
        found.guards key other]
    · rw [ExtTreeMap.getElem?_insert, if_neg fun cmp =>
        other (LawfulEqOrd.eq_of_compare cmp).symm,
        found.files key other]
    · rw [getElem?_erase, if_neg fun cmp =>
        other (LawfulEqOrd.eq_of_compare cmp).symm,
        found.tmpFiles key other]

lemma guardKeys_congr
    (same : ∀ column : String, after.segColIndex[toLex (segId, column)]? = before.segColIndex[toLex
      (segId, column)]?) : after.guardKeys segId = before.guardKeys segId := by
  have filtered : (after.segColIndex.filter fun place _ => decide ((ofLex place).1 = segId)) =
      before.segColIndex.filter fun place _ => decide ((ofLex place).1 = segId) := by
    refine ExtTreeMap.ext_getElem? fun place => ?_
    simp only [ExtTreeMap.getElem?_filter, getKey_eq]
    by_cases here : (ofLex place).1 = segId
    · have listed := same (ofLex place).2
      rw [← here] at listed
      change after.segColIndex[place]? = before.segColIndex[place]? at listed
      simp [here, listed]
    · simp [here]
  have listed := congrArg ExtTreeMap.toList filtered
  rw [toList_filter, toList_filter] at listed
  exact congrArg (List.flatMap Prod.snd) listed

lemma ChangedAt.getVisible_eq (changed : ChangedAt other column before after)
    (elsewhere : other ≠ segId) (snapshotTxn) : after.getVisible codecs segId snapshotTxn =
      before.getVisible codecs segId snapshotTxn := by
  have keys : after.guardKeys segId = before.guardKeys segId :=
    guardKeys_congr fun column => changed.segColIndex _ fun same =>
      elsewhere (congrArg (fun place => (ofLex place).1) same).symm
  unfold getVisible
  rw [keys]
  refine congrArg joinGuards (map_congr_left fun key mem => ?_)
  have differs : key ≠ guardKey other column 0 := by
    rintro rfl
    exact elsewhere (segId_of_mem_guardKeys mem)
  unfold guardCells
  rw [changed.guards key differs, changed.patchCache, changed.files key differs]

/-- A file whose first patch claims to be longer than any. -/
def spoiledFile : Bytes := fileHeader ++ List.replicate 32 255

lemma loadPatchesFromGuard_spoiledFile (codecs rest snap) :
    ∃ failure, loadPatchesFromGuard codecs (some (spoiledFile ++ rest)) snap = .error failure := by
  have magic : checkMagic (spoiledFile ++ rest) = .ok () := by
    rw [checkMagic, if_neg]
    rintro ⟨-, wrong⟩
    exact wrong rfl
  have length : (spoiledFile ++ rest).length = (95 + rest.length) + 1 := by
    rw [length_append]
    change 96 + rest.length = _
    omega
  have body : (spoiledFile ++ rest).drop 64 = List.replicate 32 255 ++ rest := rfl
  have long : ¬ (List.replicate 32 (255 : UInt8) ++ rest).length < 32 := by simp
  have head : ∃ error, readHead 64 (List.replicate 32 255 ++ rest) = .error error := by
    have size : readLe 4 ((List.replicate 32 255 ++ rest).drop 24) = 4294967295 := rfl
    unfold readHead
    rw [size, if_pos (by decide)]
    exact ⟨_, rfl⟩
  obtain ⟨error, wrong⟩ := head
  refine ⟨.error error, ?_⟩
  simp only [loadPatchesFromGuard, magic, length, body, loadFrom, if_neg long, wrong]

/-- The guard of a column is read from its file. -/
structure GuardRead (segId column : String) (snapshotTxn : TxnId)
    (disk : DeltaL2Disk) : Prop where
  listed : ∃ keys, disk.segColIndex[toLex (segId, column)]? = some keys ∧
    guardKey segId column 0 ∈ keys
  uncached : disk.patchCache[guardKey segId column 0]? = none
  recent : ∃ zoneMap, disk.guards[guardKey segId column 0]? = some zoneMap ∧
    snapshotTxn ≤ zoneMap.maxTxn

lemma guardKey_inj (same : guardKey segId column 0 = guardKey other otherColumn 0) :
    toLex (segId, column) = toLex (other, otherColumn) := by
  have parts : segId = other ∧ column = otherColumn := by simpa [guardKey] using same
  rw [parts.1, parts.2]

variable {snapshotTxn : TxnId}

lemma ChangedAt.guardRead (changed : ChangedAt other otherColumn before after)
    (differs : toLex (segId, column) ≠ toLex (other, otherColumn))
    (read : GuardRead segId column snapshotTxn before) :
    GuardRead segId column snapshotTxn after where
  listed := by
    rw [changed.segColIndex _ differs]
    exact read.listed
  uncached := by
    rw [changed.patchCache]
    exact read.uncached
  recent := by
    rw [changed.guards _ fun same => differs (guardKey_inj same)]
    exact read.recent

lemma appendPatch_guardRead (read : GuardRead segId column snapshotTxn disk)
    (left : disk.tmpFiles[guardKey segId column 0]? = some spoiledFile)
    (ran : disk.appendPatch segId column patch fault = (after, .ok ())) :
    GuardRead segId column snapshotTxn after ∧ ∃ rest, after.files[guardKey segId column 0]? =
        some (spoiledFile ++ rest) := by
  obtain ⟨zoneMap, mem, recent⟩ := read.recent
  have found : disk.findOrCreateGuard segId column = disk := by
    have known : disk.guards.contains (guardKey segId column 0) = true := by
      rw [contains_eq_isSome_getElem?, mem]
      rfl
    rw [findOrCreateGuard, if_pos known]
  unfold appendPatch at ran
  rw [found] at ran
  cases fault with
  | some error => cases ran
  | none =>
    cases ran
    refine ⟨⟨read.listed, read.uncached, _, getElem?_insert_self, ?_⟩, patchBytes patch, ?_⟩
    · rw [getD_eq_getD_getElem?, mem, Option.getD_some, GuardZoneMap.update]
      dsimp only
      split
      · rename_i replaced
        rcases replaced with zero | newer
        · rw [zero] at recent
          exact recent.trans (Nat.zero_le _)
        · exact recent.trans newer.le
      · exact recent
    · dsimp only
      rw [getElem?_insert_self, getD_eq_getD_getElem?, left, Option.getD_some]
      rfl

lemma GuardRead.unreadable (read : GuardRead segId column snapshotTxn disk)
    (spoiled : disk.files[guardKey segId column 0]? = some (spoiledFile ++ rest)) :
    ∃ key ∈ disk.guardKeys segId,
      ∃ failure, disk.guardCells codecs key snapshotTxn = .error failure := by
  obtain ⟨keys, stored, mem⟩ := read.listed
  obtain ⟨zoneMap, present, recent⟩ := read.recent
  obtain ⟨failure, failed⟩ := loadPatchesFromGuard_spoiledFile codecs rest snapshotTxn
  refine ⟨guardKey segId column 0, mem_flatMap.mpr ⟨(toLex (segId, column), keys), List.mem_filter.mpr
      ⟨ExtTreeMap.mem_toList_iff_getElem?_eq_some.mpr stored, by simp⟩,
      mem⟩, failure, ?_⟩
  simp only [guardCells, present, if_neg recent.not_gt, read.uncached, spoiled, failed]

/-- The first append to a column was broken off, and what it had written to the
temporary file is damaged. -/
def spoiledDisk (segId column : String) (snapshotTxn : TxnId) : DeltaL2Disk where
  guards := (∅ : Std.ExtTreeMap GuardKey GuardZoneMap).insert
    (guardKey segId column 0) ⟨snapshotTxn, snapshotTxn⟩
  segColIndex := (∅ : Std.ExtTreeMap (String ×ₗ String) (List GuardKey)).insert
    (toLex (segId, column)) [guardKey segId column 0]
  patchCache := ∅
  files := ∅
  tmpFiles := (∅ : Std.ExtTreeMap GuardKey Bytes).insert
    (guardKey segId column 0) spoiledFile
  indexed := by
    intro place keys stored key among
    rw [Std.ExtTreeMap.getElem?_insert] at stored
    split at stored
    · rename_i same
      cases Std.LawfulEqOrd.eq_of_compare same
      cases stored
      cases List.mem_singleton.mp among
      rfl
    · simp at stored

lemma spoiledDisk_guardRead (segId column snapshotTxn) :
    GuardRead segId column snapshotTxn (spoiledDisk segId column snapshotTxn) where
  listed := ⟨_, getElem?_insert_self, by simp⟩
  uncached := getElem?_empty
  recent := ⟨_, getElem?_insert_self, le_rfl⟩

/-- Without files and cached cells there is nothing that could not be read. -/
lemma guardCells_spoiledDisk (segId column snapshotTxn key) :
    (spoiledDisk segId column snapshotTxn).guardCells codecs key snapshotTxn = .ok [] := by
  unfold guardCells
  split
  · rfl
  · split
    · rfl
    · simp [spoiledDisk, loadPatchesFromGuard]

end DeltaL2Disk

/-- The cells of a buffer that a snapshot sees. -/
def DeltaBuffer.shown (buffer : DeltaBuffer) (snapshot : TxnSnapshot) : List StoredDeltaCell :=
  buffer.values.filter fun cell => cell.committed &&
    cell.isVisibleAtCommit snapshot.snapshotId snapshot.commitTsMap
      snapshot.activeTxns

namespace DeltaMemStore

/-- The segment has an answer in the cache. -/
def Answered (l1 : DeltaMemStore) (segId : String) (snapshotTxn : TxnId) : Prop :=
  ∃ entry ∈ l1.visibleCache, entry.1 = segId ∧ entry.2.1 = snapshotTxn

/-- What the two live buffers hold is of other segments, and shows as much as
all three buffers do, also when they change places. -/
structure FlushUnseen (l1 : DeltaMemStore) (segId : String)
    (snapshot : TxnSnapshot) : Prop where
  elsewhere : ∀ cell ∈ l1.hot.values ++ l1.cold.values, cell.segId ≠ segId
  kept : l1.Answered segId snapshot.snapshotId ∨
    (∀ cell ∈ l1.snapshot.shown snapshot, ∃ other ∈ l1.hot.shown snapshot ++ l1.cold.shown snapshot,
          other.place = cell.place ∧ cell.txnId ≤ other.txnId) ∧
      ∀ first second,
        IsFirstLatest StoredDeltaCell.place StoredDeltaCell.txnId
            (l1.hot.shown snapshot) first →
          IsFirstLatest StoredDeltaCell.place StoredDeltaCell.txnId
              (l1.cold.shown snapshot) second →
            first.place = second.place → first.txnId = second.txnId →
              first.content = second.content

variable {l1 : DeltaMemStore} {segId : String} {snapshotTxn : TxnId}

lemma getVisible_drained_of_answered (answered : l1.Answered segId snapshotTxn) :
    (l1.drainAfterSwap.1.getVisible segId snapshotTxn).2 = (l1.getVisible segId snapshotTxn).2 := by
  have found : (l1.visibleCache.find? fun entry =>
      decide (entry.1 = segId) && decide (entry.2.1 = snapshotTxn)).isSome := by
    rw [find?_isSome]
    obtain ⟨entry, mem, same⟩ := answered
    exact ⟨entry, mem, by simpa using same⟩
  obtain ⟨entry, first⟩ := Option.isSome_iff_exists.mp found
  simp only [getVisible, drainAfterSwap, swapAndDrain, drainCold, first]

lemma getVisible_of_not_answered (fresh : ¬ l1.Answered segId snapshotTxn) :
    (l1.getVisible segId snapshotTxn).2 = l1.collectVisible snapshotTxn := by
  have none : (l1.visibleCache.find? fun entry =>
      decide (entry.1 = segId) && decide (entry.2.1 = snapshotTxn)) = none := by
    rw [find?_eq_none]
    intro entry mem same
    exact fresh ⟨entry, mem, by simpa using same⟩
  simp only [getVisible, none]

section

variable {snapshot : TxnSnapshot} (fresh : ¬ l1.Answered segId snapshot.snapshotId)
include fresh

lemma filter_getVisible : ((l1.getVisible segId snapshot.snapshotId).2.filter fun cell =>
        cell.isVisibleAtCommit snapshot.snapshotId snapshot.commitTsMap snapshot.activeTxns) =
      l1.hot.shown snapshot ++ l1.cold.shown snapshot ++ l1.snapshot.shown snapshot := by
  have each (buf : DeltaBuffer) :
      (buf.values.filter fun cell =>
        decide (cell.txnId ≤ snapshot.snapshotId) && cell.committed).filter
          (fun cell => cell.isVisibleAtCommit snapshot.snapshotId
            snapshot.commitTsMap snapshot.activeTxns) =
        buf.shown snapshot := by
    rw [filter_filter]
    refine filter_congr fun cell _ => ?_
    by_cases late : cell.txnId > snapshot.snapshotId
    · simp [StoredDeltaCell.isVisibleAtCommit, late]
    · simp [Nat.not_lt.mp late, Bool.and_comm]
  rw [getVisible_of_not_answered fresh, collectVisible, filter_append,
    filter_append, each, each, each]

lemma filter_getVisible_drained :
    ((l1.drainAfterSwap.1.getVisible segId snapshot.snapshotId).2.filter
        fun cell => cell.isVisibleAtCommit snapshot.snapshotId
          snapshot.commitTsMap snapshot.activeTxns) =
      l1.cold.shown snapshot ++ l1.hot.shown snapshot := by
  have emptied : DeltaBuffer.shown ∅ snapshot = [] := by
    simp [DeltaBuffer.shown, DeltaBuffer.values]
  have stillFresh : ¬ l1.drainAfterSwap.1.Answered segId snapshot.snapshotId := fresh
  have shown := filter_getVisible stillFresh
  simpa [drainAfterSwap, swapAndDrain, drainCold, emptied] using shown

end

end DeltaMemStore

namespace DeltaStores

variable {codecs : PatchCodecs} {stores : DeltaStores}

/-- A flush that succeeds leaves the answer of a query as it was. -/
def FlushTransparent (codecs : PatchCodecs) (stores : DeltaStores)
    (environment : FlushEnvironment) (segId : String) (snapshot : TxnSnapshot) : Prop :=
  ∀ after count, stores.flushL1ToL2 codecs environment = (after, .ok count) →
    SameAnswer (stores.query codecs segId snapshot)
      (after.query codecs segId snapshot)

variable {environment : FlushEnvironment}

lemma flushGroup_changedAt {disk after group}
    (ran : flushGroup codecs environment disk group = (after, .ok ())) :
    DeltaL2Disk.ChangedAt (ofLex group.1).1 (ofLex group.1).2 disk after := by
  unfold flushGroup at ran
  split at ran
  · cases ran
  · exact appendPatch_changedAt ran

section

variable {environment : FlushEnvironment} {after : DeltaStores} {count : Nat}

lemma flushL1ToL2_eq_ok_iff :
    stores.flushL1ToL2 codecs environment = (after, .ok count) ↔ environment.walFault = none ∧
        after.l1 = stores.l1.drainAfterSwap.1 ∧ after.l3 = stores.l3 ∧ after.recentFlush = ∅ ∧
        count = (environment.groupOrder.order
          (groupCells stores.l1.drainAfterSwap.2).toList).length ∧
        forEach (flushGroup codecs environment) stores.l2 (environment.groupOrder.order
            (groupCells stores.l1.drainAfterSwap.2).toList) = (after.l2, .ok ()) := by
  unfold flushL1ToL2
  dsimp only
  cases environment.walFault with
  | some error => simp
  | none =>
    cases written : forEach (flushGroup codecs environment) stores.l2
        (environment.groupOrder.order (groupCells stores.l1.drainAfterSwap.2).toList) with
    | mk l2 out =>
      cases out with
      | error error => simp
      | ok val =>
        obtain ⟨l1, l2', l3, recentFlush⟩ := after
        simp only [Prod.mk.injEq, DeltaStores.mk.injEq, Except.ok.injEq, true_and, and_true]
        constructor
        · rintro ⟨⟨rfl, rfl, rfl, rfl⟩, rfl⟩
          exact ⟨rfl, rfl, rfl, rfl, rfl⟩
        · rintro ⟨rfl, rfl, rfl, rfl, rfl⟩
          exact ⟨⟨rfl, rfl, rfl, rfl⟩, rfl⟩

/-- The second layer answers for a segment as before when no cell of it was in
the buffers. -/
lemma getVisible_flushed {segId}
    (elsewhere : ∀ cell ∈ stores.l1.hot.values ++ stores.l1.cold.values, cell.segId ≠ segId)
    (flushed : stores.flushL1ToL2 codecs environment = (after, .ok count)) (snapshotTxn) :
    after.l2.getVisible codecs segId snapshotTxn =
      stores.l2.getVisible codecs segId snapshotTxn := by
  obtain ⟨-, -, -, -, -, written⟩ := flushL1ToL2_eq_ok_iff.mp flushed
  refine forEach_keeps (fun disk => disk.getVisible codecs segId snapshotTxn =
    stores.l2.getVisible codecs segId snapshotTxn) ?_ written rfl
  intro group mem before next holds step
  obtain ⟨cell, -, drained, col⟩ := mem_groupCells ((Traversal.mem_order _).mp mem)
  rw [← holds]
  refine (flushGroup_changedAt step).getVisible_eq ?_ snapshotTxn
  rw [← col]
  refine elsewhere cell ?_
  simpa [drainAfterSwap, swapAndDrain, drainCold, or_comm] using drained

end

def quietFlush : FlushEnvironment where
  walFault := none
  groupOrder := .asStored
  appendFault := fun _ _ => none

lemma exists_flush_quiet (codecs) (stores : DeltaStores) : ∃ after count,
      stores.flushL1ToL2 codecs quietFlush = (after, .ok count) := by
  have each : ∀ group ∈ (groupCells stores.l1.drainAfterSwap.2).toList,
      ∀ disk, ∃ next, flushGroup codecs quietFlush disk group =
        (next, .ok ()) := by
    intro group mem disk
    obtain ⟨cell, member, -⟩ := mem_groupCells mem
    obtain ⟨patch, built⟩ := exists_patch codecs member
    rw [flushGroup, built]
    exact ⟨_, rfl⟩
  obtain ⟨l2, written⟩ := exists_forEach_eq_ok each stores.l2
  exact ⟨⟨_, l2, _, _⟩, _, flushL1ToL2_eq_ok_iff.mpr ⟨rfl, rfl, rfl, rfl, rfl, written⟩⟩

lemma flush_spoils {l1 : DeltaMemStore} {cell} (drained : cell ∈ l1.hot.values ++ l1.cold.values)
    {snap after count} (flushed : DeltaStores.flushL1ToL2 codecs ⟨l1,
      .spoiledDisk cell.segId cell.column snap, .empty, ∅⟩ quietFlush = (after, .ok count)) :
    ∃ key ∈ after.l2.guardKeys cell.segId, ∃ failure,
      after.l2.guardCells codecs key snap = .error failure := by
  obtain ⟨-, -, -, -, -, written⟩ := flushL1ToL2_eq_ok_iff.mp flushed
  have member : cell ∈ l1.drainAfterSwap.2 := by
    simpa [drainAfterSwap, swapAndDrain, drainCold, or_comm] using drained
  obtain ⟨cells, listed⟩ := exists_group member
  obtain ⟨front, rest, split⟩ := append_of_mem listed
  have nodup : (front ++ (toLex (cell.segId, cell.column), cells) ::
      rest).Pairwise fun one two => ¬ compare one.1 two.1 = .eq := by
    rw [← split]
    exact distinct_keys_toList
  obtain ⟨-, behind, before⟩ := pairwise_append.mp nodup
  change forEach _ _ (groupCells l1.drainAfterSwap.2).toList = _ at written
  rw [split] at written
  -- The groups of other columns keep the damaged file, before and after the
  -- rename.
  have spoiled : DeltaL2Disk.GuardRead cell.segId cell.column snap after.l2 ∧
      ∃ more, after.l2.files[guardKey cell.segId cell.column 0]? =
        some (spoiledFile ++ more) := by
    refine forEach_turns
      (fun disk => DeltaL2Disk.GuardRead cell.segId cell.column snap disk ∧
        disk.tmpFiles[guardKey cell.segId cell.column 0]? =
          some spoiledFile)
      (fun disk => DeltaL2Disk.GuardRead cell.segId cell.column snap disk ∧
        ∃ more, disk.files[guardKey cell.segId cell.column 0]? =
          some (spoiledFile ++ more))
      ?_ ?_ ?_ written ⟨spoiledDisk_guardRead _ _ _, getElem?_insert_self⟩
    · rintro group mem disk next ⟨read, left⟩ step
      have changed := flushGroup_changedAt step
      have differs : toLex (cell.segId, cell.column) ≠ group.1 := by
        intro same
        exact before group mem _ mem_cons_self (by rw [same]; exact ReflOrd.compare_self)
      refine ⟨changed.guardRead differs read, ?_⟩
      rw [changed.tmpFiles _ fun same => differs (guardKey_inj same)]
      exact left
    · rintro disk next ⟨read, left⟩ step
      unfold flushGroup at step
      split at step
      · cases step
      · exact appendPatch_guardRead read left step
    · rintro group mem disk next ⟨read, file⟩ step
      have changed := flushGroup_changedAt step
      have differs : toLex (cell.segId, cell.column) ≠ group.1 := by
        intro same
        exact (pairwise_cons.mp behind).1 group mem (by rw [same]; exact ReflOrd.compare_self)
      refine ⟨changed.guardRead differs read, ?_⟩
      rw [changed.files _ fun same => differs (guardKey_inj same)]
      exact file
  obtain ⟨read, more, file⟩ := spoiled
  exact read.unreadable file

lemma sameAnswer_kWayMerge_iff {snap : TxnSnapshot} : SameAnswer
        (.ok (kWayMerge (one :: rest) snap.snapshotId snap.commitTsMap snap.activeTxns))
        (.ok (kWayMerge (two :: rest) snap.snapshotId snap.commitTsMap
          snap.activeTxns)) ↔ SameLatest StoredDeltaCell.place StoredDeltaCell.txnId
        StoredDeltaCell.content (one.filter (fun cell => cell.isVisibleAtCommit snap.snapshotId
          snap.commitTsMap snap.activeTxns) ++
          rest.flatten.filter fun cell => cell.isVisibleAtCommit
            snap.snapshotId snap.commitTsMap snap.activeTxns)
        (two.filter (fun cell => cell.isVisibleAtCommit snap.snapshotId
          snap.commitTsMap snap.activeTxns) ++
          rest.flatten.filter fun cell => cell.isVisibleAtCommit
            snap.snapshotId snap.commitTsMap snap.activeTxns) := by
  simp only [SameAnswer, kWayMerge_eq, flatten_cons, filter_append,
    List.mem_map, mem_latestVersions, SameLatest]

/-- Where the lower layers can be read, the answers around a flush differ by
what the memory store says. -/
lemma sameAnswer_flushed_iff {after count segId}
    (elsewhere : ∀ cell ∈ stores.l1.hot.values ++ stores.l1.cold.values, cell.segId ≠ segId)
    (flushed : stores.flushL1ToL2 codecs environment = (after, .ok count)) (snap) :
    SameAnswer (stores.query codecs segId snap) (after.query codecs segId snap) ↔ ∀ l2 l3,
        stores.l2.getVisible codecs segId snap.snapshotId = .ok l2 →
        stores.l3.getVisible codecs segId = .ok l3 → SameAnswer (.ok (kWayMerge
              [(stores.l1.getVisible segId snap.snapshotId).2, l2, l3]
              snap.snapshotId snap.commitTsMap snap.activeTxns)) (.ok (kWayMerge
              [(stores.l1.drainAfterSwap.1.getVisible segId snap.snapshotId).2, l2, l3]
              snap.snapshotId snap.commitTsMap snap.activeTxns)) := by
  obtain ⟨-, sameL1, sameL3, -⟩ := flushL1ToL2_eq_ok_iff.mp flushed
  unfold query
  rw [getVisible_flushed elsewhere flushed, sameL1, sameL3]
  cases stores.l2.getVisible codecs segId snap.snapshotId with
  | error err => simp [SameAnswer]
  | ok l2 =>
    cases stores.l3.getVisible codecs segId with
    | error err => simp [SameAnswer]
    | ok l3 => simp

/-- Whatever the lower layers hold, a flush does not show in the answers for a
segment exactly when it takes no cell of the segment and the buffers show the
same afterwards. -/
theorem flush_transparent_iff (codecs : PatchCodecs) (l1 : DeltaMemStore)
    (segId : String) (snapshot : TxnSnapshot) : (∀ l2 l3 recentFlush environment,
      FlushTransparent codecs ⟨l1, l2, l3, recentFlush⟩ environment segId
        snapshot) ↔ l1.FlushUnseen segId snapshot := by
  constructor
  · intro transparent
    have elsewhere : ∀ cell ∈ l1.hot.values ++ l1.cold.values, cell.segId ≠ segId := by
      rintro cell drained rfl
      have same := transparent (.spoiledDisk cell.segId cell.column snapshot.snapshotId) .empty ∅
        quietFlush
      obtain ⟨after, count, flushed⟩ := exists_flush_quiet codecs ⟨l1,
        .spoiledDisk cell.segId cell.column snapshot.snapshotId, .empty, ∅⟩
      obtain ⟨key, mem, failure, failed⟩ := flush_spoils drained flushed
      have sameAnswer := same after count flushed
      obtain ⟨cells, first⟩ : ∃ cells, DeltaStores.query codecs ⟨l1,
          .spoiledDisk cell.segId cell.column snapshot.snapshotId, .empty, ∅⟩
          cell.segId snapshot = .ok cells :=
        ⟨_, query_eq_ok_iff.mpr ⟨⟨fun key _ => ⟨[],
          guardCells_spoiledDisk _ _ _ key⟩, [], rfl⟩, rfl⟩⟩
      cases second : after.query codecs cell.segId snapshot with
      | error reported => simp [first, second, SameAnswer] at sameAnswer
      | ok cells =>
        obtain ⟨part, read⟩ := (query_eq_ok_iff.mp second).1.1 key mem
        rw [failed] at read
        cases read
    refine ⟨elsewhere, ?_⟩
    by_cases answered : l1.Answered segId snapshot.snapshotId
    · exact Or.inl answered
    · right
      have same := transparent .empty .empty ∅ quietFlush
      obtain ⟨after, count, flushed⟩ := exists_flush_quiet codecs ⟨l1, .empty, .empty, ∅⟩
      have merged := (sameAnswer_flushed_iff elsewhere flushed snapshot).mp
        (same after count flushed) [] [] rfl rfl
      rw [sameAnswer_kWayMerge_iff, filter_getVisible answered,
        filter_getVisible_drained answered] at merged
      exact (sameLatest_exchange_iff StoredDeltaCell.content_tells).mp (by simpa using merged)
  · rintro ⟨elsewhere, kept⟩ l2 l3 recentFlush environment after count flushed
    refine (sameAnswer_flushed_iff elsewhere flushed snapshot).mpr
      fun second third _ _ => ?_
    by_cases answered : l1.Answered segId snapshot.snapshotId
    · rw [getVisible_drained_of_answered answered]
      exact fun content => Iff.rfl
    · rw [sameAnswer_kWayMerge_iff, filter_getVisible answered, filter_getVisible_drained answered]
      exact ((sameLatest_exchange_iff StoredDeltaCell.content_tells).mpr
        (kept.resolve_left answered)).append StoredDeltaCell.content_tells _

private def flushCodecs : PatchCodecs :=
  ⟨fun rows => rows.map UInt8.ofNat, fun bytes => bytes.map UInt8.toNat,
    List.flatten, fun bytes => .ok (some (.binary [some bytes]))⟩

private def flushedCell : StoredDeltaCell :=
  ⟨"seg", 0, "age", 1, none, some [7], true, 0⟩

private def beforeFlush : DeltaStores where
  l1 := ⟨Std.ExtTreeMap.ofList [(deltaKey flushedCell, flushedCell)], ∅, ∅, []⟩
  l2 := .empty
  l3 := .empty
  recentFlush := ∅

private def firstCommitted : TxnSnapshot := ⟨1, ∅, .snapshot, Std.ExtTreeMap.ofList [(1, 1)]⟩

/-- The first cell that is flushed cannot be read at the snapshot of its
transaction any more. -/
theorem flush_makes_query_fail : ¬ ∀ (codecs : PatchCodecs) (stores : DeltaStores)
        (environment : FlushEnvironment) (segId : String) (snapshot : TxnSnapshot),
      FlushTransparent codecs stores environment segId snapshot := by
  intro transparent
  have first : (beforeFlush.query flushCodecs "seg" firstCommitted).toOption =
      some [flushedCell] := by
    decide +kernel
  have second : ((beforeFlush.flushL1ToL2 flushCodecs quietFlush).1.query
      flushCodecs "seg" firstCommitted).toOption = none := by
    decide +kernel
  obtain ⟨after, count, flushed⟩ := exists_flush_quiet flushCodecs beforeFlush
  have same := transparent _ _ _ "seg" firstCommitted after count flushed
  rw [flushed] at second
  cases before : beforeFlush.query flushCodecs "seg" firstCommitted with
  | error failure => simp [before, Except.toOption] at first
  | ok cells =>
    cases later : after.query flushCodecs "seg" firstCommitted with
    | error failure => simp [before, later, SameAnswer] at same
    | ok cells => simp [later, Except.toOption] at second

end DeltaStores

end RockDuck
