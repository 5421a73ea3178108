import RockDuck.FlushTransparency

/-!
# The buffers of the first delta layer

Cells are put in one buffer, the buffers change places, and one of them is
emptied into a flush.  What was put last for a key stays in a buffer until it is
flushed.
-/

namespace RockDuck

open List

/-- A call of the in-memory store.  Whether a flush is due depends on the sizes of
the cells, which are left open. -/
inductive BufferCall where
  | put (cell : StoredDeltaCell)
  | tryFlush (due : Bool)
  | drainAfterSwap
  | getVisible (segId : String) (snapshotTxn : TxnId)

def BufferCall.updates : BufferCall → Bool
  | .getVisible _ _ => false
  | _ => true

namespace DeltaMemStore

/-- Drain the store when a flush is due. -/
def tryFlush (store : DeltaMemStore) (due : Bool) : DeltaMemStore × Option (List StoredDeltaCell) :=
  if due then (store.swapAndDrain.1, some store.swapAndDrain.2) else (store, none)

/-- The store after a call, and what the call hands over to the flush. -/
def call (store : DeltaMemStore) : BufferCall → DeltaMemStore × List StoredDeltaCell
  | .put cell => ((store.put cell none).1, [])
  | .tryFlush due => ((store.tryFlush due).1, [])
  | .drainAfterSwap => store.drainAfterSwap
  | .getVisible segId snapshotTxn => ((store.getVisible segId snapshotTxn).1, [])

/-- The store after some calls. -/
def afterCalls (calls : List BufferCall) : DeltaMemStore :=
  calls.foldl (fun store buffered => (store.call buffered).1) .empty

lemma afterCalls_concat (calls) (buffered) :
    afterCalls (calls ++ [buffered]) = ((afterCalls calls).call buffered).1 := by
  simp [afterCalls]

/-- The cell is buffered under its key. -/
structure Buffers (store : DeltaMemStore) (cell : StoredDeltaCell) : Prop where
  held : store.hot[deltaKey cell]? = some cell ∨ store.cold[deltaKey cell]? = some cell

lemma mem_values_of_getElem? {buf : DeltaBuffer} {cell : StoredDeltaCell}
    (held : buf[deltaKey cell]? = some cell) : cell ∈ buf.values :=
  mem_map.mpr ⟨(deltaKey cell, cell), Std.ExtTreeMap.mem_toList_iff_getElem?_eq_some.mpr held, rfl⟩

/-- A call that does not put another cell for the key leaves the cell in a buffer
or hands it over. -/
lemma Buffers.call {store : DeltaMemStore} (kept : store.Buffers cell) (buffered)
    (other : ∀ newer, buffered = .put newer → deltaKey newer ≠ deltaKey cell) :
    (store.call buffered).1.Buffers cell ∨
      buffered = .drainAfterSwap ∧ cell ∈ (store.call buffered).2 := by
  cases buffered with
  | put newer =>
    refine Or.inl ⟨kept.held.imp_left fun hot => ?_⟩
    simp only [DeltaMemStore.call, put, Std.ExtTreeMap.getElem?_insert, Std.compare_eq_iff_eq]
    rwa [if_neg (other newer rfl)]
  | tryFlush due =>
    cases due with
    | false => exact Or.inl kept
    | true => exact Or.inl ⟨kept.held.symm⟩
  | drainAfterSwap =>
    refine Or.inr ⟨rfl, ?_⟩
    rcases kept.held with hot | cold
    · exact mem_append_right _ (mem_values_of_getElem? hot)
    · exact mem_append_left _ (mem_values_of_getElem? cold)
  | getVisible segId snap =>
    refine Or.inl ?_
    simp only [DeltaMemStore.call, getVisible]
    split
    · exact kept
    · exact ⟨kept.held⟩

/-- What was put last for a key is in a buffer, or was handed over by a flush after
it was put. -/
theorem put_kept_or_drained (calls later : List BufferCall) (cell : StoredDeltaCell)
    (latest : ∀ newer, .put newer ∈ later → deltaKey newer ≠ deltaKey cell) :
    (afterCalls (calls ++ .put cell :: later)).Buffers cell ∨
      ∃ before after, later = before ++ .drainAfterSwap :: after ∧
        cell ∈ (afterCalls (calls ++ .put cell :: before)).drainAfterSwap.2 := by
  induction later using List.reverseRecOn with
  | nil =>
    refine Or.inl ⟨Or.inl ?_⟩
    simp [afterCalls, foldl_append, DeltaMemStore.call, put]
  | append_singleton later buffered ih =>
    rcases ih fun newer mem => latest newer (by simp [mem]) with
      held | ⟨before, after, rfl, drained⟩
    · have stepped := afterCalls_concat (calls ++ .put cell :: later) buffered
      rw [append_assoc, cons_append] at stepped
      rcases held.call buffered fun newer same => latest newer (by simp [same]) with
        kept | ⟨rfl, handed⟩
      · exact Or.inl (stepped ▸ kept)
      · exact Or.inr ⟨later, [], rfl, handed⟩
    · exact Or.inr ⟨before, after ++ [buffered], by simp, drained⟩

def firstCell : StoredDeltaCell := ⟨"a", 0, "x", 1, none, none, true, 0⟩

theorem put_kept_or_drained_firstCell :
    (afterCalls [.put firstCell, .tryFlush true, .drainAfterSwap]).Buffers firstCell ∨
      ∃ before after, [.tryFlush true, .drainAfterSwap] = before ++ .drainAfterSwap :: after ∧
        firstCell ∈ (afterCalls (.put firstCell :: before)).drainAfterSwap.2 :=
  put_kept_or_drained [] [.tryFlush true, .drainAfterSwap] firstCell (by simp)

/-- The answer has the visible cells of the segment, one for each key. -/
structure Exact (store : DeltaMemStore) (segId : String) (snapshotTxn : TxnId)
    (answer : List StoredDeltaCell) : Prop where
  held : ∀ cell ∈ answer, cell ∈ store.collectVisible snapshotTxn ∧ cell.segId = segId
  complete : ∀ cell ∈ store.collectVisible snapshotTxn, cell.segId = segId →
    ∃ other ∈ answer, deltaKey other = deltaKey cell
  once : (answer.map deltaKey).Nodup

/-- The answer after the calls is exact, and is the one without earlier queries. -/
structure ReadsExactly (calls : List BufferCall) (segId : String) (snapshotTxn : TxnId) :
    Prop where
  exact : (afterCalls calls).Exact segId snapshotTxn
    ((afterCalls calls).getVisible segId snapshotTxn).2
  independent : ((afterCalls calls).getVisible segId snapshotTxn).2 =
    ((afterCalls (calls.filter BufferCall.updates)).getVisible segId snapshotTxn).2

lemma afterCalls_updates (calls : List BufferCall) : afterCalls (calls.filter BufferCall.updates) =
      { afterCalls calls with visibleCache := [] } := by
  induction calls using List.reverseRecOn with
  | nil => rfl
  | append_singleton calls buffered ih =>
    rw [filter_append, afterCalls_concat]
    cases buffered with
    | put cell => exact (afterCalls_concat _ _).trans (by rw [ih]; rfl)
    | tryFlush due =>
      refine (afterCalls_concat _ _).trans ?_
      rw [ih]
      cases due with
      | false | true => rfl
    | drainAfterSwap => exact (afterCalls_concat _ _).trans (by rw [ih]; rfl)
    | getVisible segId snap =>
      refine (congrArg afterCalls (append_nil _)).trans (ih.trans ?_)
      simp only [call, getVisible]
      split <;> rfl

lemma nodup_visibleCache (calls : List BufferCall) :
    ((afterCalls calls).visibleCache.map fun entry => (entry.1, entry.2.1)).Nodup := by
  induction calls using List.reverseRecOn with
  | nil => simp [afterCalls, empty]
  | append_singleton calls buffered ih =>
    rw [afterCalls_concat]
    cases buffered with
    | put cell => exact ih
    | tryFlush due => cases due <;> exact ih
    | drainAfterSwap => exact ih
    | getVisible segId snap =>
      simp only [call, getVisible]
      split
      · exact ih
      · rename_i missing
        have fresh : (segId, snap) ∉
            (afterCalls calls).visibleCache.map fun entry => (entry.1, entry.2.1) := by
          rintro mem
          obtain ⟨entry, mem, same⟩ := mem_map.mp mem
          simpa [Prod.mk.injEq] using find?_eq_none.mp missing entry mem (by simpa using same)
        rw [map_append, map_singleton, ← concat_eq_append]
        split
        · rw [map_drop]
          exact (ih.sublist (drop_sublist _ _)).concat fun mem => fresh (mem_of_mem_drop mem)
        · exact ih.concat fresh

/-- The store answers from its buffers exactly when the answer it keeps, if any, is
still theirs. -/
lemma getVisible_eq_iff (calls : List BufferCall) (segId snap) :
    ((afterCalls calls).getVisible segId snap).2 = (afterCalls calls).collectVisible snap ↔
      ∀ entry ∈ (afterCalls calls).visibleCache, entry.1 = segId → entry.2.1 = snap →
        entry.2.2 = (afterCalls calls).collectVisible snap := by
  rw [getVisible]
  split
  · rename_i kept found
    have asked := find?_some found
    simp only [Bool.and_eq_true, decide_eq_true_eq] at asked
    refine ⟨fun same entry mem ofSegment atTxn => ?_, fun same =>
      same kept (mem_of_find?_eq_some found) asked.1 asked.2⟩
    have key : (entry.1, entry.2.1) = (kept.1, kept.2.1) := by
      rw [ofSegment, atTxn, asked.1, asked.2]
    rw [inj_on_of_nodup_map (nodup_visibleCache calls) mem (mem_of_find?_eq_some found) key]
    exact same
  · rename_i missing
    refine iff_of_true rfl fun entry mem ofSegment atTxn => ?_
    exact absurd (by simp [ofSegment, atTxn]) (find?_eq_none.mp missing entry mem)

/-- A read is exact if no answer is kept that is out of date, the buffers have
nothing visible of another segment, and no key is visible in two of them. -/
theorem readsExactly_iff (calls : List BufferCall) (segId : String) (snapshotTxn : TxnId) :
    ReadsExactly calls segId snapshotTxn ↔
      (∀ entry ∈ (afterCalls calls).visibleCache, entry.1 = segId → entry.2.1 = snapshotTxn →
          entry.2.2 = (afterCalls calls).collectVisible snapshotTxn) ∧
        (∀ cell ∈ (afterCalls calls).collectVisible snapshotTxn, cell.segId = segId) ∧
        (((afterCalls calls).collectVisible snapshotTxn).map deltaKey).Nodup := by
  have fresh : ((afterCalls (calls.filter BufferCall.updates)).getVisible segId snapshotTxn).2 =
      (afterCalls calls).collectVisible snapshotTxn := by
    rw [afterCalls_updates]
    rfl
  rw [← getVisible_eq_iff]
  constructor
  · rintro ⟨exact, independent⟩
    rw [fresh] at independent
    rw [independent] at exact
    exact ⟨independent, fun cell mem => (exact.held cell mem).2, exact.once⟩
  · rintro ⟨answered, ofSegment, once⟩
    refine ⟨?_, answered.trans fresh.symm⟩
    rw [answered]
    exact ⟨fun cell mem => ⟨mem, ofSegment cell mem⟩, fun cell mem _ => ⟨cell, mem, rfl⟩, once⟩

theorem reads_other_segment : ¬ ReadsExactly [.put firstCell] "b" 1 := by
  intro reads
  have mem : firstCell ∈ ((afterCalls [.put firstCell]).getVisible "b" 1).2 := by
    decide +kernel
  exact absurd (reads.exact.held firstCell mem).2 (by decide)

end DeltaMemStore

end RockDuck
