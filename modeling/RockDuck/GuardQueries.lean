import RockDuck.StoreReads

/-!
# Queries of the second delta layer

Guards are passed over by their newest transaction, and what is loaded from a guard
is kept for later queries, whatever their snapshot.
-/

namespace RockDuck

namespace DeltaL2Disk

variable (codecs : PatchCodecs)

/-- Visit a guard in a query, and keep what is loaded. -/
def visitGuard (snapshotTxn : TxnId) (disk : DeltaL2Disk) (key : GuardKey) : DeltaL2Disk :=
  match disk.guards[key]?, disk.patchCache[key]? with
  | some zoneMap, none =>
    if zoneMap.maxTxn < snapshotTxn then disk
    else
      match loadPatchesFromGuard codecs disk.files[key]? snapshotTxn with
      | .ok (cell :: cells) =>
        { disk with patchCache := disk.patchCache.insert key (cell :: cells) }
      | _ => disk
  | _, _ => disk

/-- The disk after a query. -/
def queried (disk : DeltaL2Disk) (query : String × TxnId) : DeltaL2Disk :=
  (disk.guardKeys query.1).foldl (visitGuard codecs query.2) disk

/-- Every patch that the snapshot covers is in the answer, which is the one without
the earlier queries. -/
structure SoundRead (disk : DeltaL2Disk) (segId : String) (snapshotTxn : TxnId)
    (queries : List (String × TxnId)) : Prop where
  complete : ∀ cells,
    (queries.foldl (queried codecs) disk).getVisible codecs segId snapshotTxn = .ok cells →
      ∀ key ∈ disk.guardKeys segId, key ∈ disk.guards → ∀ loaded,
        loadPatchesFromGuard codecs disk.files[key]? snapshotTxn = .ok loaded → loaded ⊆ cells
  independent : (queries.foldl (queried codecs) disk).getVisible codecs segId snapshotTxn =
    disk.getVisible codecs segId snapshotTxn

/-- The same for one guard: its patches are in its own part of the answer. -/
structure SoundGuard (disk : DeltaL2Disk) (snapshotTxn : TxnId) (queries : List (String × TxnId))
    (key : GuardKey) : Prop where
  complete : key ∈ disk.guards → ∀ loaded,
    loadPatchesFromGuard codecs disk.files[key]? snapshotTxn = .ok loaded →
      ∃ part, (queries.foldl (queried codecs) disk).guardCells codecs key snapshotTxn = .ok part ∧
        loaded ⊆ part
  independent : (queries.foldl (queried codecs) disk).guardCells codecs key snapshotTxn =
    disk.guardCells codecs key snapshotTxn

/-- What a query finds in a guard with this newest transaction, if that is something. -/
def foundAt (disk : DeltaL2Disk) (key : GuardKey) (maxTxn : TxnId) (query : String × TxnId) :
    Option (List StoredDeltaCell) :=
  if query.1 = key.segId ∧ query.2 ≤ maxTxn then
    match loadPatchesFromGuard codecs disk.files[key]? query.2 with
    | .ok (cell :: cells) => some (cell :: cells)
    | _ => none
  else none

/-- A snapshot that covers cells of the guard is not after its newest transaction, and
the first query that found cells found those of this snapshot. -/
structure Steady (disk : DeltaL2Disk) (snapshotTxn : TxnId) (queries : List (String × TxnId))
    (key : GuardKey) (maxTxn : TxnId) : Prop where
  recent : ∀ cell cells,
    loadPatchesFromGuard codecs disk.files[key]? snapshotTxn = .ok (cell :: cells) →
      snapshotTxn ≤ maxTxn
  same : snapshotTxn ≤ maxTxn → ∀ cells,
    queries.findSome? (foundAt codecs disk key maxTxn) = some cells →
      loadPatchesFromGuard codecs disk.files[key]? snapshotTxn = .ok cells

variable {codecs} {disk : DeltaL2Disk}

/-- A visit leaves everything but the cache as it is. -/
lemma visitGuard_keeps (codecs : PatchCodecs) (snap : TxnId) (disk : DeltaL2Disk) (key : GuardKey) :
    (disk.visitGuard codecs snap key).guards = disk.guards ∧
      (disk.visitGuard codecs snap key).files = disk.files ∧
      (disk.visitGuard codecs snap key).segColIndex = disk.segColIndex := by
  unfold visitGuard
  split
  · split
    · exact ⟨rfl, rfl, rfl⟩
    · split <;> exact ⟨rfl, rfl, rfl⟩
  · exact ⟨rfl, rfl, rfl⟩

lemma visitGuard_cached (registered : disk.guards[key]? = some zoneMap) (snap first) :
    (disk.visitGuard codecs snap first).patchCache[key]? = disk.patchCache[key]?.or
      (if key = first then foundAt codecs disk key zoneMap.maxTxn (key.segId, snap) else none) := by
  unfold visitGuard foundAt
  by_cases own : key = first
  · subst own
    rw [registered]
    cases cached : disk.patchCache[key]? with
    | some cells => simp [cached]
    | none =>
      by_cases old : zoneMap.maxTxn < snap
      · simp [old, cached, Nat.not_le.mpr old]
      · simp only [old, Nat.le_of_not_lt old, if_true, if_false, and_self, Option.none_or]
        split <;> simp [cached]
  · simp only [own, if_false, Option.or_none]
    split
    · split
      · rfl
      · split
        · simp [Std.ExtTreeMap.getElem?_insert, Ne.symm own]
        · rfl
    · rfl

lemma visitGuards (codecs : PatchCodecs) (snap : TxnId) (keys : List GuardKey) (disk : DeltaL2Disk) :
    let after := keys.foldl (visitGuard codecs snap) disk
    (after.guards = disk.guards ∧ after.files = disk.files ∧
      after.segColIndex = disk.segColIndex) ∧
    ∀ (key : GuardKey) zoneMap, disk.guards[key]? = some zoneMap →
      after.patchCache[key]? = disk.patchCache[key]?.or
        (if key ∈ keys then foundAt codecs disk key zoneMap.maxTxn (key.segId, snap) else none) := by
  induction keys using List.reverseRecOn with
  | nil => simp
  | append_singleton keys last ih =>
    obtain ⟨⟨guards, files, index⟩, cached⟩ := ih
    rw [List.foldl_append, List.foldl_cons, List.foldl_nil]
    generalize keys.foldl (visitGuard codecs snap) disk = visited at *
    obtain ⟨sameGuards, sameFiles, sameIndex⟩ := visitGuard_keeps codecs snap visited last
    refine ⟨⟨sameGuards.trans guards, sameFiles.trans files, sameIndex.trans index⟩,
      fun key zoneMap registered => ?_⟩
    rw [visitGuard_cached (guards ▸ registered), cached key zoneMap registered, Option.or_assoc]
    have found : foundAt codecs visited key zoneMap.maxTxn (key.segId, snap) =
        foundAt codecs disk key zoneMap.maxTxn (key.segId, snap) := by
      simp only [foundAt, files]
    rw [found]
    congr 1
    by_cases own : key = last
    · subst own
      by_cases before : key ∈ keys <;> simp [before]
    · simp [own]

/-- After the queries the cache holds what the first of them found. -/
structure CacheLoaded (codecs : PatchCodecs) (start : DeltaL2Disk)
    (queries : List (String × TxnId)) (disk : DeltaL2Disk) : Prop where
  guards : disk.guards = start.guards
  files : disk.files = start.files
  index : disk.segColIndex = start.segColIndex
  cached : ∀ segId, ∀ key ∈ start.guardKeys segId, ∀ zoneMap, start.guards[key]? = some zoneMap →
    disk.patchCache[key]? = queries.findSome? (foundAt codecs start key zoneMap.maxTxn)

lemma cacheLoaded_queries (codecs : PatchCodecs) (uncached : disk.patchCache = ∅)
    (queries : List (String × TxnId)) :
    CacheLoaded codecs disk queries (queries.foldl (queried codecs) disk) := by
  induction queries using List.reverseRecOn with
  | nil => exact ⟨rfl, rfl, rfl, by simp [uncached]⟩
  | append_singleton queries query ih =>
    rw [List.foldl_append, List.foldl_cons, List.foldl_nil, queried]
    generalize queries.foldl (queried codecs) disk = before at *
    obtain ⟨⟨guards, files, index⟩, cached⟩ :=
      visitGuards codecs query.2 (before.guardKeys query.1) before
    refine ⟨guards.trans ih.guards, files.trans ih.files, index.trans ih.index,
      fun segId key mem zoneMap registered => ?_⟩
    have own := segId_of_mem_guardKeys mem
    have sameKeys : before.guardKeys query.1 = disk.guardKeys query.1 := by
      rw [guardKeys, ih.index, guardKeys]
    rw [cached key zoneMap (ih.guards ▸ registered), ih.cached segId key mem zoneMap registered,
      List.findSome?_append, sameKeys]
    congr 1
    have found : foundAt codecs before = foundAt codecs disk := by
      funext key maxTxn query
      simp only [foundAt, ih.files]
    rw [found]
    by_cases asked : query.1 = key.segId
    · rw [← own, ← asked] at mem
      simp [mem, ← asked]
    · have other : key ∉ disk.guardKeys query.1 := fun mem =>
        asked (segId_of_mem_guardKeys mem).symm
      simp [other, foundAt, asked]

lemma CacheLoaded.guardCells_eq {start : DeltaL2Disk}
    (loaded : CacheLoaded codecs start queries disk) (mem : key ∈ start.guardKeys segId)
    (registered : start.guards[key]? = some zoneMap) (snap) :
    disk.guardCells codecs key snap = if zoneMap.maxTxn < snap then .ok []
      else (queries.findSome? (foundAt codecs start key zoneMap.maxTxn)).elim
        (loadPatchesFromGuard codecs start.files[key]? snap) .ok := by
  rw [guardCells, loaded.guards, registered, loaded.cached segId key mem zoneMap registered,
    loaded.files]
  simp only
  split
  · rfl
  · cases queries.findSome? (foundAt codecs start key zoneMap.maxTxn) <;> rfl

lemma soundGuard_iff (uncached : disk.patchCache = ∅) (mem : key ∈ disk.guardKeys segId)
    (queries : List (String × TxnId)) (snap) : SoundGuard codecs disk snap queries key ↔
      ∀ zoneMap, disk.guards[key]? = some zoneMap →
        Steady codecs disk snap queries key zoneMap.maxTxn := by
  have loaded := cacheLoaded_queries codecs uncached queries
  cases registered : disk.guards[key]? with
  | none =>
    refine iff_of_true ⟨fun known => ?_, ?_⟩ (by simp)
    · simp [← Std.ExtTreeMap.isSome_getElem?_iff_mem, registered] at known
    · rw [guardCells, guardCells, loaded.guards, registered]
  | some zoneMap =>
    have known : key ∈ disk.guards := by
      simp [← Std.ExtTreeMap.isSome_getElem?_iff_mem, registered]
    have queried := loaded.guardCells_eq mem registered snap
    have fresh := (cacheLoaded_queries codecs uncached []).guardCells_eq mem registered snap
    simp only [List.foldl_nil, List.findSome?_nil, Option.elim_none] at fresh
    simp only [Option.some.injEq, forall_eq']
    constructor
    · rintro ⟨complete, independent⟩
      rw [queried] at complete
      rw [queried, fresh] at independent
      refine ⟨fun cell cells read => ?_, fun recent cells first => ?_⟩
      · by_contra late
        obtain ⟨part, answered, among⟩ := complete known _ read
        rw [if_pos (Nat.lt_of_not_le late)] at answered
        cases answered
        simp at among
      · rw [if_neg (Nat.not_lt.mpr recent), if_neg (Nat.not_lt.mpr recent), first] at independent
        exact independent.symm
    · rintro ⟨recent, same⟩
      refine ⟨fun _ part read => ?_, ?_⟩
      · rw [queried]
        cases part with
        | nil =>
          split
          · exact ⟨[], rfl, List.Subset.refl _⟩
          · cases queries.findSome? (foundAt codecs disk key zoneMap.maxTxn) with
            | none => exact ⟨[], read, List.Subset.refl _⟩
            | some cells => exact ⟨cells, rfl, List.nil_subset _⟩
        | cons cell cells =>
          have notLate := recent cell cells read
          rw [if_neg (Nat.not_lt.mpr notLate)]
          cases first : queries.findSome? (foundAt codecs disk key zoneMap.maxTxn) with
          | none => exact ⟨_, read, List.Subset.refl _⟩
          | some found =>
            cases read.symm.trans (same notLate found first)
            exact ⟨_, rfl, List.Subset.refl _⟩
      · rw [queried, fresh]
        split
        · rfl
        · rename_i notLate
          cases first : queries.findSome? (foundAt codecs disk key zoneMap.maxTxn) with
          | none => rfl
          | some cells => exact (same (Nat.le_of_not_lt notLate) cells first).symm

def oneValue : PatchCodecs where
  serializeBitmap _ := []
  deserializeBitmap _ := []
  encodeArrowArray _ := []
  bytesToBatch _ := .ok (some (.binary [some [7]]))

/-- A guard with one patch of the first transaction. -/
def oldGuard : DeltaL2Disk :=
  let key := guardKey "a" "x" 0
  { empty.findOrCreateGuard "a" "x" with
    guards := (∅ : Std.ExtTreeMap GuardKey GuardZoneMap).insert key ⟨1, 1⟩
    files := (∅ : Std.ExtTreeMap GuardKey Bytes).insert key (fileHeader ++ leBytes 8 1 ++
      leBytes 8 1 ++ leBytes 8 1 ++ leBytes 8 29 ++ (DeltaPatchFormat.dense [7] 1 1).toBytes) }

lemma guardKeys_oldGuard : oldGuard.guardKeys "a" = [guardKey "a" "x" 0] := by
  decide +kernel

end DeltaL2Disk

end RockDuck
