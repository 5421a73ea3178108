import RockDuck.StoreReads

/-!
# Batch queries against single ones

A batch keeps the newest cell of every place before it looks at the snapshot,
and takes what cannot be read for empty.
-/

namespace RockDuck

open List Std StoredDeltaCell

namespace DeltaL2Disk

variable (codecs : PatchCodecs) (disk : DeltaL2Disk)

/-- Reading a guard panics. -/
def Panics (key : GuardKey) (snapshotTxn : TxnId) : Prop :=
  ∃ message, disk.guardCells codecs key snapshotTxn = .error (.panicked message)

variable {codecs disk}

lemma batchCells_eq_ok_iff :
    disk.batchCells codecs key snapshotTxn = .ok cells ↔ ¬ disk.Panics codecs key snapshotTxn ∧
        cells = disk.held codecs key snapshotTxn := by
  unfold batchCells Panics held
  cases answer : disk.guardCells codecs key snapshotTxn with
  | ok part => simp [Except.toOption, eq_comm]
  | error err =>
    cases err with
    | error error => simp [Except.toOption, eq_comm]
    | panicked msg => simp

lemma filter_segId_guardKeys (segIds : List String) (segId) :
    (segIds.flatMap disk.guardKeys).filter (fun key =>
        decide (key.segId = segId)) = (segIds.filter fun other => decide (other = segId)).flatMap
        disk.guardKeys := by
  induction segIds with
  | nil => rfl
  | cons other segIds ih =>
    rw [flatMap_cons, filter_append, ih]
    by_cases same : other = segId
    · rw [filter_cons_of_pos (by simpa using same), flatMap_cons, filter_eq_self.mpr]
      exact fun key mem => by
        simpa [same] using segId_of_mem_guardKeys mem
    · rw [filter_cons_of_neg (by simpa using same), filter_eq_nil_iff.mpr, nil_append]
      exact fun key mem => by
        simpa [segId_of_mem_guardKeys mem] using same

lemma getVisibleBatch_cases (codecs) (disk : DeltaL2Disk)
    (segIds snapshotTxn) : (∃ segId ∈ segIds, ∃ key ∈ disk.guardKeys segId,
        disk.Panics codecs key snapshotTxn) ∧
      (∃ err, disk.getVisibleBatch codecs segIds snapshotTxn = .error err) ∨
      (∀ segId ∈ segIds, ∀ key ∈ disk.guardKeys segId, ¬ disk.Panics codecs key snapshotTxn) ∧
      ∃ results, disk.getVisibleBatch codecs segIds snapshotTxn = .ok results ∧
        ∀ segId ∈ segIds, results.getD segId [] =
          (segIds.filter fun other => decide (other = segId)).flatMap
            fun other => (disk.guardKeys other).flatMap fun key =>
              disk.held codecs key snapshotTxn := by
  by_cases panics : ∃ segId ∈ segIds, ∃ key ∈ disk.guardKeys segId,
      disk.Panics codecs key snapshotTxn
  · refine Or.inl ⟨panics, ?_⟩
    obtain ⟨segId, listed, key, mem, panic⟩ := panics
    cases batch : disk.getVisibleBatch codecs segIds snapshotTxn with
    | error err => exact ⟨err, rfl⟩
    | ok results =>
      exfalso
      unfold getVisibleBatch at batch
      cases loaded : (segIds.flatMap disk.guardKeys).mapM (fun key =>
          (disk.batchCells codecs key snapshotTxn).map fun cells => (key, cells)) with
      | error err =>
        rw [loaded] at batch
        cases batch
      | ok entries =>
        obtain ⟨entry, -, read⟩ := exists_value_of_mapM_eq_ok loaded
          (mem_flatMap.mpr ⟨segId, listed, mem⟩)
        cases one : disk.batchCells codecs key snapshotTxn with
        | error err =>
          rw [one] at read
          cases read
        | ok cells => exact (batchCells_eq_ok_iff.mp one).1 panic
  · push Not at panics
    refine Or.inr ⟨panics, ?_⟩
    have loaded : (segIds.flatMap disk.guardKeys).mapM (fun key =>
        (disk.batchCells codecs key snapshotTxn).map fun cells => (key, cells)) =
        .ok ((segIds.flatMap disk.guardKeys).map fun key =>
          (key, disk.held codecs key snapshotTxn)) := by
      rw [mapM_eq_ok_iff, forall₂_map_right_iff, forall₂_same]
      intro key mem
      obtain ⟨segId, listed, member⟩ := mem_flatMap.mp mem
      rw [batchCells_eq_ok_iff.mpr ⟨panics segId listed key member, rfl⟩]
      rfl
    refine ⟨_, by rw [getVisibleBatch, loaded]; rfl, fun segId listed => ?_⟩
    have nodup : (segIds.dedup.map fun segId =>
        (segId, (((segIds.flatMap disk.guardKeys).map fun key =>
          (key, disk.held codecs key snapshotTxn)).filter fun entry =>
            decide (entry.1.segId = segId)).flatMap Prod.snd)).Pairwise
        fun first second => ¬ compare first.1 second.1 = .eq := by
      rw [pairwise_map]
      exact (nodup_dedup segIds).imp fun ne same =>
        ne (LawfulEqOrd.eq_of_compare same)
    rw [ExtTreeMap.getD_eq_getD_getElem?]
    refine (congrArg (Option.getD · []) (ExtTreeMap.getElem?_ofList_of_mem
      ReflCmp.compare_self nodup
      (mem_map.mpr ⟨segId, mem_dedup.mpr listed, rfl⟩))).trans ?_
    rw [Option.getD_some, filter_map, flatMap_map]
    change ((segIds.flatMap disk.guardKeys).filter fun key =>
      decide (key.segId = segId)).flatMap _ = _
    rw [filter_segId_guardKeys, flatMap_assoc]

end DeltaL2Disk

/-- The answer of the memory store for a segment when a list of segments is
asked for one after the other: the one given last, or the one from before. -/
def DeltaMemStore.lastAnswer (snapshotTxn : TxnId) (segId : String) :
    DeltaMemStore → List String → List StoredDeltaCell → List StoredDeltaCell
  | _, [], found => found
  | store, other :: segIds, found =>
    lastAnswer snapshotTxn segId (store.getVisible other snapshotTxn).1 segIds
      (if other = segId then (store.getVisible other snapshotTxn).2 else found)

namespace DeltaStores

variable (codecs : PatchCodecs) (stores : DeltaStores)

/-- Reading the layers of a segment panics. -/
def Panics (segId : String) (snapshotTxn : TxnId) : Prop :=
  (∃ key ∈ stores.l2.guardKeys segId, stores.l2.Panics codecs key snapshotTxn) ∨
    ∃ message, stores.l3.getVisible codecs segId = .error (.panicked message)

/-- The cells that are on the table when a batch gets to a segment: those of
the layers, as far as they can be read, and those flushed last. -/
def batchCells (segIds : List String) (segId : String) (snapshotTxn : TxnId) :
    List StoredDeltaCell :=
  ((stores.l1.lastAnswer snapshotTxn segId segIds []).filter fun cell =>
      decide (cell.txnId ≤ snapshotTxn) && cell.committed) ++
    stores.recentCells segId snapshotTxn ++
    (segIds.filter fun other => decide (other = segId)).flatMap (fun other =>
      (stores.l2.guardKeys other).flatMap fun key => stores.l2.held codecs key snapshotTxn) ++
    stores.heldFrozen codecs segId

variable {codecs stores}

lemma frozenCells_cases (codecs) (stores : DeltaStores) (segId) :
    (∃ msg, stores.l3.getVisible codecs segId = .error (.panicked msg) ∧
        stores.frozenCells codecs segId = .error (.panicked msg)) ∨
      (∀ msg, stores.l3.getVisible codecs segId ≠ .error (.panicked msg)) ∧
        stores.frozenCells codecs segId = .ok (stores.heldFrozen codecs segId) := by
  unfold frozenCells heldFrozen
  cases answer : stores.l3.getVisible codecs segId with
  | ok part => simp [Except.toOption]
  | error err =>
    cases err with
    | error error => simp [Except.toOption]
    | panicked msg => simp

/-- What a batch makes of a segment from an answer of the memory store. -/
def mergedSegment (codecs : PatchCodecs) (stores : DeltaStores)
    (l2 : Std.ExtTreeMap String (List StoredDeltaCell)) (segId : String)
    (snapshotTxn : TxnId) (l1 : List StoredDeltaCell) : List StoredDeltaCell :=
  latestVersions StoredDeltaCell.place StoredDeltaCell.txnId
    ((l1.filter fun cell => decide (cell.txnId ≤ snapshotTxn) && cell.committed) ++
      stores.recentCells segId snapshotTxn ++ l2.getD segId [] ++
      stores.heldFrozen codecs segId)

lemma batchSegments_cases (codecs) (stores : DeltaStores) (l2 snap segIds l1 results) :
    (∃ segId ∈ segIds, ∃ msg, stores.l3.getVisible codecs segId = .error (.panicked msg)) ∧
        (∃ err, stores.batchSegments codecs l2 snap l1 segIds results = .error err) ∨
      (∀ segId ∈ segIds, ∀ msg, stores.l3.getVisible codecs segId ≠ .error (.panicked msg)) ∧
        ∃ final, stores.batchSegments codecs l2 snap l1 segIds results = .ok final ∧
          ∀ segId found, segId ∈ segIds ∨ results[segId]? =
              some (mergedSegment codecs stores l2 segId snap found) →
            final[segId]? = some (mergedSegment codecs stores l2 segId
              snap (l1.lastAnswer snap segId segIds found)) := by
  induction segIds generalizing l1 results with
  | nil =>
    refine Or.inr ⟨by simp, results, rfl, fun segId found stored => ?_⟩
    simpa [DeltaMemStore.lastAnswer] using stored
  | cons other segIds ih =>
    rcases frozenCells_cases codecs stores other with ⟨msg, panicked, failed⟩ | ⟨quiet, read⟩
    · refine Or.inl ⟨⟨other, by simp, msg, panicked⟩, .panicked msg, ?_⟩
      simp only [batchSegments, batchSegment, failed]
      rfl
    · have step : stores.batchSegments codecs l2 snap l1 (other :: segIds) results =
          stores.batchSegments codecs l2 snap
            (l1.getVisible other snap).1 segIds
            (results.insert other (mergedSegment codecs stores l2 other
              snap (l1.getVisible other snap).2)) := by
        simp only [batchSegments, batchSegment, read]
        rfl
      rw [step]
      rcases ih (l1.getVisible other snap).1
        (results.insert other (mergedSegment codecs stores l2 other
          snap (l1.getVisible other snap).2)) with
        ⟨⟨segId, mem, panicked⟩, failed⟩ | ⟨quietRest, final, done, stored⟩
      · exact Or.inl ⟨⟨segId, mem_cons_of_mem _ mem, panicked⟩, failed⟩
      · refine Or.inr ⟨forall_mem_cons.mpr ⟨quiet, quietRest⟩, final, done,
          fun segId found mem => ?_⟩
        rw [DeltaMemStore.lastAnswer]
        refine stored segId _ ?_
        by_cases same : other = segId
        · right
          rw [same, ExtTreeMap.getElem?_insert_self, if_pos rfl]
        · rcases mem with mem | before
          · left
            exact (mem_cons.mp mem).resolve_left (Ne.symm same)
          · right
            rw [ExtTreeMap.getElem?_insert, if_neg (fun cmp =>
              same (LawfulEqOrd.eq_of_compare cmp)), before,
              if_neg same]

lemma queryBatch_cases (codecs) (stores : DeltaStores) (segIds) (snap : TxnSnapshot) :
    (∃ other ∈ segIds, stores.Panics codecs other snap.snapshotId) ∧
        (∃ err, stores.queryBatch codecs segIds snap = .error err) ∨
      (∀ other ∈ segIds, ¬ stores.Panics codecs other snap.snapshotId) ∧
        ∃ results, stores.queryBatch codecs segIds snap = .ok results ∧
          ∀ segId ∈ segIds, results[segId]? = some
            ((latestVersions StoredDeltaCell.place StoredDeltaCell.txnId
              (stores.batchCells codecs segIds segId snap.snapshotId)).filter
                (passesBatch snap)) := by
  unfold queryBatch getVisibleBatch
  rcases DeltaL2Disk.getVisibleBatch_cases codecs stores.l2 segIds snap.snapshotId with
    ⟨⟨other, listed, key, mem, panics⟩, err, failed⟩ |
      ⟨quiet, l2, read, held⟩
  · exact Or.inl ⟨⟨other, listed, Or.inl ⟨key, mem, panics⟩⟩, err, by
      rw [failed]; rfl⟩
  · rw [read]
    rcases batchSegments_cases codecs stores l2 snap.snapshotId segIds stores.l1
      (ExtTreeMap.ofList (segIds.map fun segId => (segId, []))) with
      ⟨⟨other, listed, panics⟩, err, failed⟩ |
        ⟨quietFrozen, final, done, stored⟩
    · exact Or.inl ⟨⟨other, listed, Or.inr panics⟩, err, by
        simp only [failed]; rfl⟩
    · refine Or.inr ⟨?_, _, by simp only [done]; rfl, fun segId listed => ?_⟩
      · rintro other listed (⟨key, mem, panics⟩ | ⟨msg, panics⟩)
        · exact quiet other listed key mem panics
        · exact quietFrozen other listed msg panics
      · rw [ExtTreeMap.getElem?_map, stored segId [] (Or.inl listed),
          Option.map_some, mergedSegment, held segId listed]
        rfl

end DeltaStores

/-- The batch query answers for a segment as the query for it alone does. -/
def BatchAgrees (codecs : PatchCodecs) (stores : DeltaStores)
    (segIds : List String) (segId : String) (snapshot : TxnSnapshot) : Prop :=
  match stores.query codecs segId snapshot,
      stores.queryBatch codecs segIds snapshot with
  | .ok single, .ok results =>
    ∃ cells, results[segId]? = some cells ∧
      ∀ cell, cell ∈ cells ↔ cell ∈ single
  | .error _, .error _ => True
  | _, _ => False

/-- The newest cell of a place is one that the snapshot shows. -/
structure NewestShown (codecs : PatchCodecs) (stores : DeltaStores)
    (segIds : List String) (segId : String) (snapshot : TxnSnapshot) :
    Prop where
  notHidden : ∀ cell ∈ stores.layerCells codecs segId snapshot.snapshotId,
    cell.isVisibleAtCommit snapshot.snapshotId snapshot.commitTsMap
        snapshot.activeTxns = true →
      ∃ newest, newest.place = cell.place ∧
        IsFirstLatest StoredDeltaCell.place StoredDeltaCell.txnId
          (stores.batchCells codecs segIds segId snapshot.snapshotId) newest ∧
        DeltaStores.passesBatch snapshot newest = true
  shownByLayers : ∀ newest,
    IsFirstLatest StoredDeltaCell.place StoredDeltaCell.txnId
        (stores.batchCells codecs segIds segId snapshot.snapshotId) newest →
      DeltaStores.passesBatch snapshot newest = true →
        IsFirstLatest StoredDeltaCell.place StoredDeltaCell.txnId
          ((stores.layerCells codecs segId snapshot.snapshotId).filter
            fun cell => cell.isVisibleAtCommit snapshot.snapshotId
              snapshot.commitTsMap snapshot.activeTxns) newest

lemma newestShown_iff {codecs stores segIds segId snap} :
    NewestShown codecs stores segIds segId snap ↔ ∀ cell,
      cell ∈ (latestVersions StoredDeltaCell.place StoredDeltaCell.txnId
          (stores.batchCells codecs segIds segId snap.snapshotId)).filter
            (DeltaStores.passesBatch snap) ↔
        cell ∈ latestVersions StoredDeltaCell.place StoredDeltaCell.txnId
          ((stores.layerCells codecs segId snap.snapshotId).filter
            fun cell => cell.isVisibleAtCommit snap.snapshotId
              snap.commitTsMap snap.activeTxns) := by
  simp only [mem_filter, mem_latestVersions]
  constructor
  · rintro ⟨notHidden, shownByLayers⟩ cell
    refine ⟨fun shown => shownByLayers cell shown.1 shown.2, fun shown => ?_⟩
    obtain ⟨mem, visible⟩ := mem_filter.mp shown.isLatest.mem
    obtain ⟨newest, place, first, passes⟩ := notHidden cell mem visible
    -- Both are the newest visible cell of the place.
    obtain rfl := (shownByLayers newest first passes).unique shown place
    exact ⟨first, passes⟩
  · intro same
    refine ⟨fun cell mem visible => ?_, fun newest first passes =>
      (same newest).mp ⟨first, passes⟩⟩
    have shown : cell ∈ (stores.layerCells codecs segId snap.snapshotId).filter fun cell =>
          cell.isVisibleAtCommit snap.snapshotId snap.commitTsMap
            snap.activeTxns :=
      mem_filter.mpr ⟨mem, visible⟩
    obtain ⟨kept, kind, place, -⟩ :
        ∃ kept ∈ latestVersions place txnId _,
          kept.place = cell.place ∧ cell.txnId ≤ kept.txnId :=
      exists_mem_latestVersions shown
    obtain ⟨first, passes⟩ := (same kept).mpr (mem_latestVersions.mp kind)
    exact ⟨kept, place, first, passes⟩

/-- A batch agrees with the query of one of its segments exactly when the
segment can be read, no segment of the batch panics and the newest cells are
those the snapshot shows; or when both fail. -/
theorem queryBatch_agrees_iff (codecs : PatchCodecs) (stores : DeltaStores)
    (segIds : List String) (segId : String) (listed : segId ∈ segIds) (snapshot : TxnSnapshot) :
    BatchAgrees codecs stores segIds segId snapshot ↔
      stores.Readable codecs segId snapshot.snapshotId ∧
          (∀ other ∈ segIds, ¬ stores.Panics codecs other snapshot.snapshotId) ∧
          NewestShown codecs stores segIds segId snapshot ∨
        ¬ stores.Readable codecs segId snapshot.snapshotId ∧
          ∃ other ∈ segIds, stores.Panics codecs other snapshot.snapshotId := by
  unfold BatchAgrees
  have unread {failure} (single : stores.query codecs segId snapshot = .error failure) :
      ¬ stores.Readable codecs segId snapshot.snapshotId := by
    intro readable
    rw [DeltaStores.query_eq_ok_iff.mpr ⟨readable, rfl⟩] at single
    cases single
  rcases DeltaStores.queryBatch_cases codecs stores segIds snapshot with
    ⟨⟨other, mem, panics⟩, failure, failed⟩ | ⟨quiet, results, read, stored⟩
  · have noisy : ¬ ∀ other ∈ segIds, ¬ stores.Panics codecs other snapshot.snapshotId :=
      fun quiet => quiet other mem panics
    rw [failed]
    cases single : stores.query codecs segId snapshot with
    | error failure =>
      exact iff_of_true trivial (Or.inr ⟨unread single, other, mem, panics⟩)
    | ok cells =>
      have readable := (DeltaStores.query_eq_ok_iff.mp single).1
      simp [noisy, readable]
  · have silent : ¬ ∃ other ∈ segIds, stores.Panics codecs other snapshot.snapshotId :=
      fun ⟨other, mem, panics⟩ => quiet other mem panics
    rw [read]
    cases single : stores.query codecs segId snapshot with
    | error failure =>
      simp [unread single, silent]
    | ok cells =>
      obtain ⟨readable, same⟩ := DeltaStores.query_eq_ok_iff.mp single
      simp only [stored segId listed, Option.some.injEq, exists_eq_left']
      rw [same, ← newestShown_iff]
      exact ⟨fun shown => Or.inl ⟨readable, quiet, shown⟩, fun agrees =>
        (agrees.resolve_right fun unread => unread.1 readable).2.2⟩

private def noCodecs : PatchCodecs := ⟨fun _ => [], fun _ => [], fun _ => [], fun _ => .ok none⟩

private def version (txnId : TxnId) (value : UInt8) : StoredDeltaCell :=
  ⟨"seg", 0, "age", txnId, none, some [value], true, 0⟩

private def buffered (cells : List StoredDeltaCell) : DeltaStores where
  l1 := ⟨Std.ExtTreeMap.ofList (cells.map fun cell => (deltaKey cell, cell)), ∅, ∅, []⟩
  l2 := .empty
  l3 := .empty
  recentFlush := ∅

private def secondRunning : TxnSnapshot :=
  ⟨2, Std.ExtTreeSet.ofList [2], .snapshot, Std.ExtTreeMap.ofList [(1, 1)]⟩

/-- A segment with one version of a cell, listed twice. -/
theorem queryBatch_agrees_iff_oneVersion :
    BatchAgrees noCodecs (buffered [version 1 7]) ["seg", "seg"] "seg"
      secondRunning := by
  have noGuards : (buffered [version 1 7]).l2.guardKeys "seg" = [] := by
    decide +kernel
  have read : (buffered [version 1 7]).l3.getVisible noCodecs "seg" = .ok [] := by
    have result : ((buffered [version 1 7]).l3.getVisible noCodecs
        "seg").toOption = some [] := by decide +kernel
    cases answer : (buffered [version 1 7]).l3.getVisible noCodecs "seg" with
    | error failure => simp [answer, Except.toOption] at result
    | ok part => simpa [answer, Except.toOption] using result
  refine (queryBatch_agrees_iff noCodecs (buffered [version 1 7])
    ["seg", "seg"] "seg" (by simp) secondRunning).mpr (Or.inl ⟨⟨?_, [], read⟩,
      ?_, newestShown_iff.mpr fun cell => ?_⟩)
  · simp [noGuards]
  · intro other listed
    obtain rfl : other = "seg" := by simpa using listed
    rintro (⟨key, mem, -⟩ | ⟨message, panics⟩)
    · simp [noGuards] at mem
    · rw [read] at panics
      cases panics
  · have same : (latestVersions place txnId
        ((buffered [version 1 7]).batchCells noCodecs ["seg", "seg"] "seg"
          secondRunning.snapshotId)).filter
          (DeltaStores.passesBatch secondRunning) =
        latestVersions place txnId
          (((buffered [version 1 7]).layerCells noCodecs "seg"
            secondRunning.snapshotId).filter fun cell =>
              cell.isVisibleAtCommit secondRunning.snapshotId
                secondRunning.commitTsMap secondRunning.activeTxns) := by
      decide +kernel
    rw [same]

/-- The version of a running transaction hides the committed one from a batch,
and not from a query. -/
theorem queryBatch_hides_committed_version :
    ¬ ∀ (codecs : PatchCodecs) (stores : DeltaStores) (segIds : List String)
        (segId : String) (snapshot : TxnSnapshot), segId ∈ segIds →
      BatchAgrees codecs stores segIds segId snapshot := by
  intro agrees
  have same := agrees noCodecs (buffered [version 1 7, version 2 8]) ["seg"]
    "seg" secondRunning (by simp)
  have single : ((buffered [version 1 7, version 2 8]).query noCodecs "seg"
      secondRunning).toOption = some [version 1 7] := by
    decide +kernel
  have batch : ((buffered [version 1 7, version 2 8]).queryBatch noCodecs ["seg"]
      secondRunning).toOption.map (fun results => results["seg"]?) =
        some (some []) := by
    decide +kernel
  unfold BatchAgrees at same
  cases first : (buffered [version 1 7, version 2 8]).query noCodecs "seg"
      secondRunning with
  | error failure => simp [first, Except.toOption] at single
  | ok cells =>
    cases second : (buffered [version 1 7, version 2 8]).queryBatch noCodecs
        ["seg"] secondRunning with
    | error failure => simp [second, Except.toOption] at batch
    | ok results =>
      rw [first, second] at same
      rw [first] at single
      rw [second] at batch
      obtain ⟨kept, stored, each⟩ := same
      obtain rfl : cells = [version 1 7] := Option.some.inj single
      have none : results["seg"]? = some [] := Option.some.inj batch
      rw [none] at stored
      cases stored
      simpa using (each (version 1 7)).mpr (by simp)

end RockDuck
