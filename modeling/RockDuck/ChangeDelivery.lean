import RockDuck.ChangeStream

/-!
# What a change stream delivers

Over a whole run the transactions a stream returns increase strictly, so no
transaction is returned twice.
-/

namespace RockDuck

open List StreamedDatabase

/-! ## Grouping -/

variable {changes : List CellChange}

lemma mem_groupByTxn (mem : batch ∈ groupByTxn changes) (change) : change ∈ batch.changes ↔
      change ∈ changes ∧ change.txnId = batch.txnId := by
  obtain ⟨txnId, -, rfl⟩ := mem_map.mp mem
  simp [mem_insertionSort]

lemma exists_mem_groupByTxn (mem : change ∈ changes) :
    ∃ batch ∈ groupByTxn changes, change ∈ batch.changes := by
  refine ⟨_, mem_map.mpr ⟨change.txnId, ?_, rfl⟩, ?_⟩
  · simp only [mem_insertionSort, mem_dedup, mem_map]
    exact ⟨change, mem, rfl⟩
  · simp [mem_insertionSort, mem]

lemma txnIds_groupByTxn (changes) : (groupByTxn changes).map ChangeBatch.txnId =
      (changes.map CellChange.txnId).dedup.insertionSort (· ≤ ·) := by
  simp [groupByTxn, Function.comp_def]

lemma pairwise_groupByTxn (changes) :
    ((groupByTxn changes).map ChangeBatch.txnId).Pairwise (· < ·) := by
  rw [txnIds_groupByTxn]
  have sorted := pairwise_insertionSort (· ≤ ·) (changes.map CellChange.txnId).dedup
  have nodup : ((changes.map CellChange.txnId).dedup.insertionSort (· ≤ ·)).Nodup :=
    (perm_insertionSort _ _).nodup_iff.mpr (nodup_dedup _)
  exact (sorted.and nodup).imp fun both => lt_of_le_of_ne both.1 both.2

lemma exists_change_of_mem_groupByTxn (member : batch ∈ groupByTxn changes) :
    ∃ change, change ∈ batch.changes := by
  have listed := mem_map_of_mem (f := ChangeBatch.txnId) member
  rw [txnIds_groupByTxn, mem_insertionSort, mem_dedup] at listed
  obtain ⟨change, mem, same⟩ := mem_map.mp listed
  exact ⟨change, (mem_groupByTxn member change).mpr ⟨mem, same⟩⟩

lemma le_getLast?_of_pairwise {ids : List TxnId} (increasing : ids.Pairwise (· < ·))
    (mem : txnId ∈ ids) (default) : txnId ≤ ids.getLast?.getD default := by
  cases ids using List.reverseRecOn with
  | nil => simp at mem
  | append_singleton front last =>
    rw [getLast?_concat, Option.getD_some]
    rcases mem_append.mp mem with before | now
    · exact ((pairwise_append.mp increasing).2.2 txnId before last (by simp)).le
    · exact (mem_singleton.mp now).le

/-! ## What the layers have -/

lemma DeltaBuffer.mem_values {buf : DeltaBuffer} :
    cell ∈ buf.values ↔ ∃ key : DeltaKey, buf[key]? = some cell := by
  simp [DeltaBuffer.values, Std.ExtTreeMap.mem_toList_iff_getElem?_eq_some]

lemma DeltaBuffer.mem_values_of_insert {buf : DeltaBuffer}
    (mem : other ∈ DeltaBuffer.values (buf.insert key cell)) :
    other = cell ∨ other ∈ buf.values := by
  obtain ⟨place, found⟩ := DeltaBuffer.mem_values.mp mem
  rw [Std.ExtTreeMap.getElem?_insert] at found
  split at found
  · exact .inl (Option.some.inj found).symm
  · exact .inr (DeltaBuffer.mem_values.mpr ⟨place, found⟩)

namespace DeltaMemStore

/-- The cells in the buffers of the store. -/
def buffered (store : DeltaMemStore) : List StoredDeltaCell :=
  store.hot.values ++ store.cold.values ++ store.snapshot.values

/-- The cell is in a buffer or in an answer the store keeps. -/
def Has (store : DeltaMemStore) (cell : StoredDeltaCell) : Prop :=
  cell ∈ store.buffered ∨ ∃ entry ∈ store.visibleCache, cell ∈ entry.2.2

/-- No answer for one of the segments at this transaction is kept. -/
def Unanswered (store : DeltaMemStore) (segIds : List String) (txnId : TxnId) : Prop :=
  ∀ entry ∈ store.visibleCache, entry.2.1 = txnId → entry.1 ∉ segIds

variable {store : DeltaMemStore} {cell : StoredDeltaCell}

lemma mem_collectVisible : cell ∈ store.collectVisible txnId ↔
      cell ∈ store.buffered ∧ cell.txnId ≤ txnId ∧ cell.committed = true := by
  simp only [collectVisible, buffered, mem_append, mem_filter,
    Bool.and_eq_true, decide_eq_true_eq, or_and_right]

/-- An answer is one that was given, or it is made from the buffers and
kept. -/
lemma getVisible_cases (store : DeltaMemStore) (segId txnId) :
    (∃ entry ∈ store.visibleCache, entry.1 = segId ∧ entry.2.1 = txnId ∧
      store.getVisible segId txnId = (store, entry.2.2)) ∨
    ∃ kept, (∀ entry ∈ kept, entry ∈ store.visibleCache) ∧ store.getVisible segId txnId =
        ({ store with visibleCache := kept ++ [(segId, txnId, store.collectVisible txnId)] },
          store.collectVisible txnId) := by
  unfold getVisible
  split
  · rename_i entry found
    have asked := find?_some found
    simp only [Bool.and_eq_true, decide_eq_true_eq] at asked
    exact .inl ⟨entry, mem_of_find?_eq_some found, asked.1, asked.2, rfl⟩
  · refine .inr ⟨_, fun entry mem => ?_, rfl⟩
    split at mem
    · exact mem_of_mem_drop mem
    · exact mem

lemma has_of_mem_getVisible (answered : cell ∈ (store.getVisible segId txnId).2) :
    store.Has cell := by
  rcases store.getVisible_cases segId txnId with ⟨entry, mem, -, -, same⟩ | ⟨kept, -, fresh⟩
  · rw [same] at answered
    exact .inr ⟨entry, mem, answered⟩
  · rw [fresh] at answered
    exact .inl (mem_collectVisible.mp answered).1

lemma has_of_has_getVisible (has : (store.getVisible segId txnId).1.Has cell) : store.Has cell := by
  rcases store.getVisible_cases segId txnId with ⟨entry, member, -, -, same⟩ | ⟨kept, keeps, fresh⟩
  · rw [same] at has
    exact has
  · rw [fresh] at has
    rcases has with buffered | ⟨entry, member, mem⟩
    · exact .inl buffered
    · rcases mem_append.mp member with old | new
      · exact .inr ⟨entry, keeps entry old, mem⟩
      · obtain rfl := mem_singleton.mp new
        exact .inl (mem_collectVisible.mp mem).1

/-- An answer to a question not asked before comes from the buffers, and
leaves the other questions open. -/
lemma getVisible_of_unanswered (unanswered : store.Unanswered (segId :: segIds) txnId)
    (fresh : segId ∉ segIds) : (store.getVisible segId txnId).2 = store.collectVisible txnId ∧
      (store.getVisible segId txnId).1.Unanswered segIds txnId ∧
      (store.getVisible segId txnId).1.buffered = store.buffered := by
  rcases store.getVisible_cases segId txnId with
    ⟨entry, member, sameSeg, sameTxn, -⟩ | ⟨kept, keeps, answer⟩
  · exact absurd (by simp [sameSeg]) (unanswered entry member sameTxn)
  · rw [answer]
    refine ⟨rfl, fun entry member atTxn => ?_, rfl⟩
    rcases mem_append.mp member with old | new
    · have both := unanswered entry (keeps entry old) atTxn
      exact fun mem => both (mem_cons_of_mem _ mem)
    · obtain rfl := mem_singleton.mp new
      exact fresh

lemma has_put (has : (store.put cell walFault).1.Has other) :
    store.Has other ∨ (other = cell ∧ walFault = none) := by
  cases walFault with
  | some error => exact .inl has
  | none =>
    rcases has with buffered | cached
    · simp only [put, DeltaMemStore.buffered, mem_append] at buffered
      rcases buffered with (inHot | inCold) | inSnapshot
      · rcases DeltaBuffer.mem_values_of_insert inHot with rfl | before
        · exact .inr ⟨rfl, rfl⟩
        · exact .inl (.inl (by simp [DeltaMemStore.buffered, before]))
      · exact .inl (.inl (by simp [DeltaMemStore.buffered, inCold]))
      · exact .inl (.inl (by simp [DeltaMemStore.buffered, inSnapshot]))
    · exact .inl (.inr cached)

end DeltaMemStore

namespace DeltaLayerStack

/-- The cells that the lower layers and the flush hold for a transaction. -/
def settledCells (stack : DeltaLayerStack) (segId : String)
    (committed : TxnId) : List StoredDeltaCell :=
  (stack.recentFlush.filter fun cell => decide (cell.segId = segId)) ++
    diskCells stack.l2 segId committed ++ diskCells stack.l3 segId committed

/-- The stacks differ in the memory layer only, which has nothing new. -/
structure KeepsLayers (before after : DeltaLayerStack) : Prop where
  has : ∀ cell, after.l1.Has cell → before.l1.Has cell
  settled : ∀ segId committed,
    after.settledCells segId committed = before.settledCells segId committed

lemma KeepsLayers.refl (stack : DeltaLayerStack) : stack.KeepsLayers stack :=
  ⟨fun _ has => has, fun _ _ => rfl⟩

lemma KeepsLayers.trans {first second third : DeltaLayerStack} (front : first.KeepsLayers second)
    (rest : second.KeepsLayers third) : first.KeepsLayers third :=
  ⟨fun cell has => front.has cell (rest.has cell has),
    fun segId committed => (rest.settled segId committed).trans (front.settled segId committed)⟩

section

variable (stack : DeltaLayerStack) (segId : String)

lemma queryAllLayers_keeps (committed since) :
    stack.KeepsLayers (stack.queryAllLayers segId committed since).1 :=
  ⟨fun _ has => DeltaMemStore.has_of_has_getVisible has, fun _ _ => rfl⟩

lemma queryAllLayers_snd (committed since) : (stack.queryAllLayers segId committed since).2 =
      latestVersions StoredDeltaCell.place StoredDeltaCell.txnId
        (((stack.l1.getVisible segId committed).2 ++ stack.settledCells segId committed).filter
            (wanted committed since)) := by
  simp [queryAllLayers, settledCells]

lemma collectChanges_cons (segIds committed since) :
    (stack.collectChanges committed since (segId :: segIds)).2 =
      (stack.queryAllLayers segId committed since).2.map (CellChange.ofCell segId) ++
        ((stack.queryAllLayers segId committed since).1.collectChanges committed since segIds).2 :=
  rfl

end

lemma collectChanges_keeps (stack : DeltaLayerStack) (segIds committed since) :
    stack.KeepsLayers (stack.collectChanges committed since segIds).1 := by
  induction segIds generalizing stack with
  | nil => exact KeepsLayers.refl stack
  | cons segId segIds ih =>
    exact (stack.queryAllLayers_keeps segId committed since).trans
      (ih (stack.queryAllLayers segId committed since).1)

variable {segIds : List String}

lemma collectChanges_sound {stack : DeltaLayerStack}
    (member : change ∈ (stack.collectChanges committed since segIds).2) :
    ∃ segId ∈ segIds, ∃ cell, change = .ofCell segId cell ∧ wanted committed since cell = true ∧
      (stack.l1.Has cell ∨ cell ∈ stack.settledCells segId committed) := by
  induction segIds generalizing stack with
  | nil => simp [collectChanges] at member
  | cons segId segIds ih =>
    rw [collectChanges_cons] at member
    rcases mem_append.mp member with now | later
    · obtain ⟨cell, latest, rfl⟩ := mem_map.mp now
      rw [queryAllLayers_snd] at latest
      obtain ⟨mem, isWanted⟩ := mem_filter.mp (isLatest_of_mem_latestVersions latest).mem
      refine ⟨segId, by simp, cell, rfl, isWanted, ?_⟩
      exact (mem_append.mp mem).imp_left DeltaMemStore.has_of_mem_getVisible
    · obtain ⟨other, listed, cell, rfl, isWanted, held⟩ := ih later
      have keeps := stack.queryAllLayers_keeps segId committed since
      refine ⟨other, mem_cons_of_mem _ listed, cell, rfl, isWanted, ?_⟩
      rw [keeps.settled] at held
      exact held.imp_left (keeps.has cell)

lemma collectChanges_complete {stack : DeltaLayerStack} (nodup : segIds.Nodup)
    (unanswered : stack.l1.Unanswered segIds committed) (listed : segId ∈ segIds)
    (held : cell ∈ stack.l1.buffered ∨ cell ∈ stack.settledCells segId committed)
    (isWanted : wanted committed since cell = true) :
    ∃ change ∈ (stack.collectChanges committed since segIds).2,
      change.place = cell.place ∧ cell.txnId ≤ change.txnId := by
  induction segIds generalizing stack with
  | nil => simp at listed
  | cons first segIds ih =>
    rw [collectChanges_cons]
    obtain ⟨new, nodup⟩ := nodup_cons.mp nodup
    obtain ⟨answer, stillOpen, buffers⟩ := DeltaMemStore.getVisible_of_unanswered unanswered new
    rcases mem_cons.mp listed with rfl | later
    · have bounds := isWanted
      simp only [wanted, Bool.and_eq_true, decide_eq_true_eq] at bounds
      have mem : cell ∈ ((stack.l1.getVisible segId committed).2 ++
          stack.settledCells segId committed).filter
            (wanted committed since) := by
        rw [answer, mem_filter, mem_append, DeltaMemStore.mem_collectVisible]
        exact ⟨held.imp_left fun inBuffer => ⟨inBuffer, bounds.1.2, bounds.2⟩, isWanted⟩
      obtain ⟨latest, member, samePlace, newer⟩ :
          ∃ latest ∈ latestVersions StoredDeltaCell.place
            StoredDeltaCell.txnId _, _ := exists_mem_latestVersions mem
      rw [← queryAllLayers_snd] at member
      refine ⟨.ofCell segId latest, mem_append_left _ (mem_map_of_mem member), samePlace, newer⟩
    · have keeps := stack.queryAllLayers_keeps first committed since
      obtain ⟨change, member, found⟩ := ih nodup stillOpen later (by
        rw [keeps.settled]
        exact held.imp_left fun inBuffer => buffers ▸ inBuffer)
      exact ⟨change, mem_append_right _ member, found⟩

end DeltaLayerStack

namespace StreamedDatabase

open DeltaLayerStack

variable (state : StreamedDatabase)

/-- What a call of the stream does: nothing when there is nothing newer, and
otherwise it groups the changes and moves the watermark to the last one. -/
lemma readChanges_cases (order : Traversal String) :
    let committed := state.database.mvcc.committedTxn
    (committed ≤ state.sinceTxn ∧ state.readChanges order = (state, [])) ∨
    (state.sinceTxn < committed ∧ ∃ deltas changes,
      state.deltas.collectChanges committed state.sinceTxn
          (order.order state.deltas.getAllSegmentIds) = (deltas, changes) ∧
        state.readChanges order =
          ({ state with
              deltas := deltas
              sinceTxn := ((groupByTxn changes).getLast?.map
                ChangeBatch.txnId).getD state.sinceTxn },
            groupByTxn changes)) := by
  intro committed
  unfold readChanges
  by_cases done : state.database.mvcc.committedTxn ≤ state.sinceTxn
  · exact .inl ⟨done, by simp [done]⟩
  · exact .inr ⟨Nat.lt_of_not_le done, _, _, rfl, by rw [if_neg done]⟩

lemma readChanges_sound {state : StreamedDatabase}
    (member : batch ∈ (state.readChanges order).2) (mem : change ∈ batch.changes) :
    change.txnId = batch.txnId ∧ ∃ segId cell, change = .ofCell segId cell ∧ cell.committed = true ∧
        state.sinceTxn < cell.txnId ∧ cell.txnId ≤ state.database.mvcc.committedTxn ∧
        (state.deltas.l1.Has cell ∨ cell ∈ state.deltas.settledCells segId
          state.database.mvcc.committedTxn) := by
  rcases state.readChanges_cases order with ⟨-, same⟩ | ⟨-, deltas, changes, collected, read⟩
  · simp [same] at member
  · rw [read] at member
    obtain ⟨returned, sameTxn⟩ := (mem_groupByTxn member change).mp mem
    have fromLayers : change ∈ (state.deltas.collectChanges
        state.database.mvcc.committedTxn state.sinceTxn
        (order.order state.deltas.getAllSegmentIds)).2 := by
      rw [collected]
      exact returned
    obtain ⟨segId, -, cell, rfl, isWanted, held⟩ := collectChanges_sound fromLayers
    simp only [wanted, Bool.and_eq_true, decide_eq_true_eq] at isWanted
    exact ⟨sameTxn, segId, cell, rfl, isWanted.2, isWanted.1.1, isWanted.1.2, held⟩

/-- A cell that a call wants is returned by it, or a later one of its place,
unless an earlier answer of the memory layer is in the way. -/
lemma readChanges_complete {state : StreamedDatabase}
    (unanswered : state.deltas.l1.Unanswered state.deltas.getAllSegmentIds
      state.database.mvcc.committedTxn) (listed : segId ∈ state.deltas.getAllSegmentIds)
    (held : cell ∈ state.deltas.l1.buffered ∨ cell ∈ state.deltas.settledCells segId
      state.database.mvcc.committedTxn) (committed : cell.committed = true)
    (newer : state.sinceTxn < cell.txnId) (older : cell.txnId ≤ state.database.mvcc.committedTxn) :
    ∃ batch ∈ (state.readChanges order).2, ∃ change ∈ batch.changes,
      change.place = cell.place ∧ cell.txnId ≤ change.txnId := by
  rcases state.readChanges_cases order with ⟨done, -⟩ | ⟨-, deltas, changes, collected, read⟩
  · exact absurd (newer.trans_le older) (Nat.not_lt.mpr done)
  · have isWanted : wanted state.database.mvcc.committedTxn state.sinceTxn cell = true := by
      simp [wanted, committed, newer, older]
    have nodup : (order.order state.deltas.getAllSegmentIds).Nodup :=
      (order.perm _).nodup_iff.mpr (nodup_dedup _)
    obtain ⟨change, returned, found⟩ := collectChanges_complete nodup
      (fun entry member atTxn => by
        rw [order.mem_order]
        exact unanswered entry member atTxn)
      (order.mem_order.mpr listed) held isWanted
    rw [collected] at returned
    rw [read]
    obtain ⟨batch, member, mem⟩ := exists_mem_groupByTxn returned
    exact ⟨batch, member, change, mem, found⟩

lemma readChanges_watermark (order) : state.sinceTxn ≤ (state.readChanges order).1.sinceTxn ∧
      ((state.readChanges order).2.map ChangeBatch.txnId).Pairwise (· < ·) ∧
      ∀ batch ∈ (state.readChanges order).2, state.sinceTxn < batch.txnId ∧
          batch.txnId ≤ (state.readChanges order).1.sinceTxn := by
  have after : ∀ batch ∈ (state.readChanges order).2,
      (∃ change, change ∈ batch.changes) → state.sinceTxn < batch.txnId := by
    rintro batch member ⟨change, mem⟩
    obtain ⟨sameTxn, segId, cell, rfl, -, newer, -⟩ := readChanges_sound member mem
    exact sameTxn ▸ newer
  rcases state.readChanges_cases order with ⟨-, same⟩ | ⟨-, deltas, changes, -, read⟩
  · simp [same]
  · rw [read] at after ⊢
    have increasing := pairwise_groupByTxn changes
    have bounds : ∀ batch ∈ groupByTxn changes,
        state.sinceTxn < batch.txnId ∧ batch.txnId ≤
          ((groupByTxn changes).getLast?.map ChangeBatch.txnId).getD
            state.sinceTxn := by
      intro batch member
      refine ⟨after batch member (exists_change_of_mem_groupByTxn member), ?_⟩
      rw [← getLast?_map]
      exact le_getLast?_of_pairwise increasing (mem_map_of_mem member) _
    refine ⟨?_, increasing, bounds⟩
    cases last : (groupByTxn changes).getLast? with
    | none => simp
    | some batch => exact (bounds batch (mem_of_getLast? last)).1.le.trans (by simp)

end StreamedDatabase

section Runs

variable (start : StreamedDatabase) (events : List StreamEvent)

/-- What the calls of a run have returned. -/
def returnedBatches : List ChangeBatch :=
  (streamMachine start).collect (streamMachine start).answer events

lemma returnedBatches_increasing :
    ((returnedBatches start events).map ChangeBatch.txnId).Pairwise (· < ·) ∧
      ∀ batch ∈ returnedBatches start events,
        batch.txnId ≤ ((streamMachine start).stateAfter events).sinceTxn := by
  unfold returnedBatches
  induction events using List.reverseRecOn with
  | nil => simp
  | append_singleton events event ih =>
    obtain ⟨increasing, below⟩ := ih
    rw [Machine.collect_concat, Machine.stateAfter_concat]
    cases event with
    | database event =>
      have nothing : (streamMachine start).answer
          ((streamMachine start).stateAfter events) (.database event) =
            [] := rfl
      rw [nothing, append_nil]
      exact ⟨increasing, below⟩
    | put cell walFault =>
      have nothing : (streamMachine start).answer
          ((streamMachine start).stateAfter events) (.put cell walFault) =
            [] := rfl
      rw [nothing, append_nil]
      exact ⟨increasing, below⟩
    | readChanges order =>
      obtain ⟨grows, returned, bounds⟩ := readChanges_watermark
        ((streamMachine start).stateAfter events) order
      refine ⟨?_, fun batch mem => ?_⟩
      · rw [map_append, pairwise_append]
        refine ⟨increasing, returned, fun first before second now => ?_⟩
        obtain ⟨early, old, rfl⟩ := mem_map.mp before
        obtain ⟨late, later, rfl⟩ := mem_map.mp now
        exact (below early old).trans_lt (bounds late later).1
      · rcases mem_append.mp mem with old | now
        · exact (below batch old).trans grows
        · exact (bounds batch now).2

lemma has_of_run : ((streamMachine start).stateAfter events).deltas.l1.Has cell →
      start.deltas.l1.Has cell ∨ .put cell none ∈ events := by
  induction events using List.reverseRecOn with
  | nil => exact fun has => .inl has
  | append_singleton events event ih =>
    rw [Machine.stateAfter_concat]
    intro has
    have before : ((streamMachine start).stateAfter events).deltas.l1.Has
        cell ∨ event = .put cell none := by
      cases event with
      | database event => exact .inl has
      | put other walFault =>
        rcases DeltaMemStore.has_put has with held | ⟨rfl, rfl⟩
        · exact .inl held
        · exact .inr rfl
      | readChanges order =>
        left
        rcases readChanges_cases ((streamMachine start).stateAfter events) order with
          ⟨-, same⟩ | ⟨-, deltas, changes, collected, read⟩
        · have unchanged : (streamMachine start).next ((streamMachine start).stateAfter events)
              (.readChanges order) = _ := congrArg Prod.fst same
          rw [unchanged] at has
          exact has
        · have advanced : (streamMachine start).next ((streamMachine start).stateAfter events)
              (.readChanges order) = _ := congrArg Prod.fst read
          rw [advanced] at has
          have keeps := DeltaLayerStack.collectChanges_keeps
            ((streamMachine start).stateAfter events).deltas
            (order.order ((streamMachine start).stateAfter events).deltas.getAllSegmentIds)
            ((streamMachine start).stateAfter events).database.mvcc.committedTxn
            ((streamMachine start).stateAfter events).sinceTxn
          rw [collected] at keeps
          exact keeps.has cell has
    rcases before with held | rfl
    · exact (ih held).imp_right (mem_append_left _)
    · exact .inr (by simp)

end Runs

private def noCells : DiskLayer := ⟨fun _ _ => .ok [], []⟩

private def freshStream : StreamedDatabase where
  database := .new (.new true .syncEach) 8
  deltas := ⟨.empty, noCells, noCells, []⟩
  sinceTxn := 0

private def cellOf (txnId row : Nat) : StoredDeltaCell :=
  ⟨"seg_1", row, "x", txnId, none, some [7], true, 0⟩

/-- The second of two transactions commits first and is read before the
first one commits. -/
private def commitsOutOfOrder : List StreamEvent :=
  [.database (.beginTxn none), .database (.beginTxn none),
    .put (cellOf 2 0) none, .database (.commitTxn 2 (.at 0)),
    .readChanges .asStored, .put (cellOf 1 1) none,
    .database (.commitTxn 1 (.at 0))]

end RockDuck
