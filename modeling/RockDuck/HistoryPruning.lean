import RockDuck.TransactionRegistry

/-!
# Pruning the history of commits

After a commit the history is pruned twice.
-/

namespace RockDuck

open List Std.ExtTreeMap

section EraseAll

variable {Key Value Item : Type*} [Ord Key] [Std.TransOrd Key] [Std.LawfulEqOrd Key]

lemma getElem?_foldl_erase (key : Item → Key) (items : List Item)
    (table : Std.ExtTreeMap Key Value) (other : Key) :
    (items.foldl (fun table item => table.erase (key item)) table)[other]? = some value ↔
      other ∉ items.map key ∧ table[other]? = some value := by
  induction items generalizing table with
  | nil => simp
  | cons item items ih =>
    rw [foldl_cons, ih, getElem?_erase, map_cons, mem_cons, not_or]
    by_cases same : key item = other
    · subst other
      simp
    · have ne : compare (key item) other ≠ .eq :=
        fun equal => same (Std.LawfulEqCmp.eq_of_compare equal)
      rw [if_neg ne]
      exact ⟨fun both => ⟨⟨Ne.symm same, both.1⟩, both.2⟩, fun both => ⟨both.1.2, both.2⟩⟩

lemma size_foldl_erase (key) {items : List Item} {table : Std.ExtTreeMap Key Value}
    (nodup : (items.map key).Nodup) (present : ∀ item ∈ items, key item ∈ table) :
    (items.foldl (fun table item => table.erase (key item)) table).size +
      items.length = table.size := by
  induction items generalizing table with
  | nil => rfl
  | cons item items ih =>
    obtain ⟨fresh, rest⟩ := nodup_cons.mp nodup
    have here : key item ∈ table := present item mem_cons_self
    have later : ∀ other ∈ items, key other ∈ table.erase (key item) := by
      intro other mem
      refine Std.ExtTreeMap.mem_erase.mpr
        ⟨fun equal => fresh ?_, present other (mem_cons_of_mem _ mem)⟩
      rw [Std.LawfulEqCmp.eq_of_compare equal]
      exact mem_map_of_mem mem
    have ne : table.size ≠ 0 := by
      intro empty
      have contained := Std.ExtTreeMap.contains_iff_mem.mpr here
      rw [Std.ExtTreeMap.eq_empty_iff_size_eq_zero.mpr empty] at contained
      simp at contained
    have smaller := ih rest later
    rw [size_erase, if_pos (Std.ExtTreeMap.contains_iff_mem.mpr here)] at smaller
    rw [foldl_cons, length_cons]
    omega

end EraseAll

namespace VisibilityManager

section Evict

variable {config : VisibilityConfig} {order : Traversal (TxnId × Nat × Nat)}
    {history : CommittedHistory}

/-- The entries by insertion time, as the count bound sorts them. -/
def byInsertion (order : Traversal (TxnId × Nat × Nat))
    (history : CommittedHistory) : List (Nat × TxnId) :=
  ((order.order history.toList).map fun entry => (entry.2.2, entry.1)).mergeSort
    fun first second => decide (first.1 ≤ second.1)

lemma byInsertion_perm (order history) :
    (byInsertion order history).Perm (history.toList.map fun entry => (entry.2.2, entry.1)) :=
  (mergeSort_perm _ _).trans ((order.perm history.toList).map _)

lemma length_byInsertion : (byInsertion order history).length = history.size := by
  rw [(byInsertion_perm order history).length_eq, length_map, length_toList]

lemma map_snd_byInsertion_perm : ((byInsertion order history).map Prod.snd).Perm history.keys := by
  refine ((byInsertion_perm order history).map Prod.snd).trans ?_
  rw [List.map_map, ← map_fst_toList_eq_keys]
  exact List.Perm.refl _

lemma nodup_byInsertion : ((byInsertion order history).map Prod.snd).Nodup :=
  map_snd_byInsertion_perm.nodup_iff.mpr nodup_keys

lemma mem_byInsertion_of_getElem? (order) (found : history[txnId]? = some entry) :
    (entry.2, txnId) ∈ byInsertion order history := by
  rw [(byInsertion_perm order history).mem_iff, List.mem_map]
  exact ⟨(txnId, entry), Std.ExtTreeMap.mem_toList_iff_getElem?_eq_some.mpr found, rfl⟩

lemma pairwise_byInsertion (order history) :
    (byInsertion order history).Pairwise fun first second => first.1 ≤ second.1 := by
  have sorted := @List.pairwise_mergeSort (Nat × TxnId)
    (fun first second => decide (first.1 ≤ second.1))
    (fun first second third => by simpa using le_trans)
    (fun first second => by simpa using le_total first.1 second.1)
    ((order.order history.toList).map fun entry => (entry.2.2, entry.1))
  exact sorted.imp of_decide_eq_true

/-- How many entries a pruning keeps. -/
def keepCount (config : VisibilityConfig) : Nat :=
  config.maxHistoryEntries * 4 % 2 ^ 64 / 5

lemma keepCount_le (config) : keepCount config ≤ config.maxHistoryEntries := by
  have reduced := Nat.mod_le (config.maxHistoryEntries * 4) (2 ^ 64)
  rw [keepCount]
  omega

lemma evictOldest_of_over (full : config.maxHistoryEntries < history.size) :
    evictOldest config order history = ((byInsertion order history).take
          ((byInsertion order history).length - keepCount config)).foldl
        (fun history item => history.erase item.2) history :=
  if_pos full

lemma evictOldest_of_room (room : history.size ≤ config.maxHistoryEntries) :
    evictOldest config order history = history :=
  if_neg (not_lt.mpr room)

lemma size_evictOldest_le (config order history) :
    (evictOldest config order history).size ≤ config.maxHistoryEntries := by
  by_cases full : config.maxHistoryEntries < history.size
  · have taken := take_sublist ((byInsertion order history).length - keepCount config)
      (byInsertion order history)
    have sizes : (evictOldest config order history).size +
        ((byInsertion order history).take
          ((byInsertion order history).length - keepCount config)).length =
          history.size := by
      rw [evictOldest_of_over full]
      refine size_foldl_erase Prod.snd
        (nodup_byInsertion.sublist (taken.map Prod.snd)) fun item mem => ?_
      rw [← Std.ExtTreeMap.mem_keys, ← map_snd_byInsertion_perm.mem_iff]
      exact mem_map_of_mem (taken.subset mem)
    have bound := keepCount_le config
    rw [length_take, length_byInsertion] at sizes
    omega
  · rw [evictOldest_of_room (not_lt.mp full)]
    exact not_lt.mp full

/-- Whatever the count bound leaves was inserted no earlier than what it
takes. -/
lemma evictOldest_oldest {kept evicted : TxnId} {keptEntry evictedEntry : Nat × Nat}
    (left : (evictOldest config order history)[kept]? = some keptEntry)
    (before : history[evicted]? = some evictedEntry)
    (gone : evicted ∉ evictOldest config order history) : evictedEntry.2 ≤ keptEntry.2 := by
  by_cases full : config.maxHistoryEntries < history.size
  · rw [evictOldest_of_over full] at left gone
    set items := byInsertion order history with sorted
    set count := items.length - keepCount config
    obtain ⟨spared, keptBefore⟩ :=
      (getElem?_foldl_erase Prod.snd (items.take count) history kept).mp left
    have taken : evicted ∈ (items.take count).map Prod.snd := by
      by_contra stays
      refine gone ?_
      exact mem_iff_exists_getElem?.mpr ⟨evictedEntry, (getElem?_foldl_erase Prod.snd (items.take
        count) history evicted).mpr ⟨stays, before⟩⟩
    -- Both are among the sorted items, one in front of the cut and one behind.
    have split : items = items.take count ++ items.drop count := (take_append_drop count items).symm
    have keptListed : (keptEntry.2, kept) ∈ items.drop count := by
      have listed := mem_byInsertion_of_getElem? order keptBefore
      rw [← sorted, split, mem_append] at listed
      exact listed.resolve_left fun early => spared (mem_map_of_mem (f := Prod.snd) early)
    have evictedListed : (evictedEntry.2, evicted) ∈ items.take count := by
      have listed := mem_byInsertion_of_getElem? order before
      rw [← sorted, split, mem_append] at listed
      refine listed.resolve_right fun late => ?_
      have nodup : ((items.take count ++ items.drop count).map Prod.snd).Nodup := by
        rw [← split]
        exact nodup_byInsertion
      rw [map_append, nodup_append] at nodup
      exact nodup.2.2 evicted taken evicted (mem_map_of_mem (f := Prod.snd) late) rfl
    have ordered := pairwise_byInsertion order history
    rw [← sorted, split, pairwise_append] at ordered
    exact ordered.2.2 _ evictedListed _ keptListed
  · rw [evictOldest_of_room (not_lt.mp full)] at gone
    exact absurd (mem_iff_exists_getElem?.mpr ⟨_, before⟩) gone

end Evict

/-- The insertion time from which on entries stay. -/
def pruneCutoff (config : VisibilityConfig) (replayWatermark now : Nat) : Nat :=
  max (now - config.historyTtlSecs * 1000 % 2 ^ 64) replayWatermark

section

variable {cfg : VisibilityConfig} {replayWatermark now : Nat} {hist : CommittedHistory}

lemma retainRecent_getElem? {txnId : TxnId} {entry : Nat × Nat} :
    (retainRecent cfg replayWatermark now hist)[txnId]? = some entry ↔
      hist[txnId]? = some entry ∧ pruneCutoff cfg replayWatermark now ≤ entry.2 := by
  unfold retainRecent pruneCutoff
  cases found : hist[txnId]? with
  | none => simp [found]
  | some val =>
    simp only [Std.ExtTreeMap.getElem?_filter, found]
    grind

lemma retainRecent_oldest {kept evicted : TxnId} {keptEntry evictedEntry : Nat × Nat}
    (left : (retainRecent cfg replayWatermark now hist)[kept]? = some keptEntry)
    (before : hist[evicted]? = some evictedEntry)
    (gone : evicted ∉ retainRecent cfg replayWatermark now hist) :
    evictedEntry.2 ≤ keptEntry.2 := by
  have recent := (retainRecent_getElem?.mp left).2
  by_contra later
  refine gone ?_
  have stays : (retainRecent cfg replayWatermark now hist)[evicted]? = some evictedEntry :=
    retainRecent_getElem?.mpr ⟨before, recent.trans (not_le.mp later).le⟩
  exact mem_iff_exists_getElem?.mpr ⟨_, stays⟩

end

/-- The history with the new commit. -/
def recordedHistory (manager : VisibilityManager) (txnId insertedAt : Nat)
    (environment : CommitEnvironment) : CommittedHistory :=
  manager.committedHistory.insert txnId (environment.commitTs, insertedAt)

lemma publishCommit_history (mgr : VisibilityManager) (txnId insertedAt : Nat) (env) :
    (mgr.publishCommit txnId insertedAt env).committedHistory =
      retainRecent mgr.config mgr.replayWatermark env.pruneNow
        (evictOldest mgr.config env.historyOrder (mgr.recordedHistory txnId insertedAt env)) :=
  rfl

/-- After a successful commit the history is within its bound, and everything
left in it was inserted no earlier than anything that the commit evicted. -/
theorem commit_prunes_oldest_first (manager : VisibilityManager) (kv : MvccBucket)
    (txnId insertedAt : Nat) (environment : CommitEnvironment) (snapshot : TxnSnapshot)
    (committed : (manager.commitTxn kv txnId insertedAt environment).2 = .ok snapshot) :
    let after := (manager.commitTxn kv txnId insertedAt environment).1.1
    after.committedHistory.size ≤ manager.config.maxHistoryEntries ∧
      ∀ (kept : TxnId) (keptEntry : Nat × Nat) (evicted : TxnId)
          (evictedEntry : Nat × Nat),
        after.committedHistory[kept]? = some keptEntry →
        (manager.recordedHistory txnId insertedAt environment)[evicted]? =
          some evictedEntry →
        evicted ∉ after.committedHistory → evictedEntry.2 ≤ keptEntry.2 := by
  intro after
  obtain ⟨-, -, -, published⟩ := commitTxn_of_ok committed
  have pruned : after.committedHistory =
      retainRecent manager.config manager.replayWatermark environment.pruneNow
        (evictOldest manager.config environment.historyOrder
          (manager.recordedHistory txnId insertedAt environment)) :=
    congrArg committedHistory published
  rw [pruned]
  refine ⟨Std.ExtTreeMap.size_filter_le_size.trans (size_evictOldest_le _ _ _), ?_⟩
  intro kept keptEntry evicted evictedEntry left before gone
  by_cases counted : evicted ∈ evictOldest manager.config environment.historyOrder
      (manager.recordedHistory txnId insertedAt environment)
  · obtain ⟨entry, present⟩ := mem_iff_exists_getElem?.mp counted
    have same := evictOldest_getElem? present
    rw [before, Option.some.injEq] at same
    subst same
    exact retainRecent_oldest left present gone
  · exact evictOldest_oldest (retainRecent_getElem?.mp left).1 before counted

/-- A full history, with room for five entries and a second of age. -/
private def crowded : VisibilityManager :=
  { VisibilityManager.new with
    committedHistory := Std.ExtTreeMap.ofList
      [(1, 1, 10), (2, 2, 500), (3, 3, 5000), (4, 4, 5001), (5, 5, 5002)]
    config := ⟨5, 1⟩ }

private def crowdedAfterBegin : VisibilityManager := (crowded.beginTxn .empty 6 none).1.1

/-- The count bound takes the two oldest entries of six. -/
private lemma evictOldest_crowded :
    evictOldest crowdedAfterBegin.config .asStored
        (crowdedAfterBegin.recordedHistory 6 5003 (.at 6001)) =
      ((crowdedAfterBegin.recordedHistory 6 5003 (.at 6001)).erase 1).erase 2 := by
  have sorted : byInsertion .asStored (crowdedAfterBegin.recordedHistory 6 5003 (.at 6001)) =
      [(10, 1), (500, 2), (5000, 3), (5001, 4), (5002, 5), (5003, 6)] :=
    mergeSort_of_pairwise (by decide +kernel)
  rw [evictOldest_of_over (by decide +kernel), sorted]
  rfl

/-- Age takes the next entry. -/
theorem commit_prunes_oldest_first_crowded :
    let after := (crowdedAfterBegin.commitTxn .empty 6 5003 (.at 6001)).1.1
    after.committedHistory.keys = [4, 5, 6] ∧ after.committedHistory.size ≤ 5 ∧
      ∀ (kept : TxnId) (keptEntry : Nat × Nat), after.committedHistory[kept]? = some keptEntry →
        500 ≤ keptEntry.2 ∧ 5000 ≤ keptEntry.2 := by
  intro after
  obtain ⟨snapshot, committed⟩ : ∃ snapshot,
      (crowdedAfterBegin.commitTxn .empty 6 5003 (.at 6001)).2 = .ok snapshot := ⟨_, rfl⟩
  have left : after.committedHistory.keys = [4, 5, 6] := by
    have pruned : after.committedHistory = retainRecent crowdedAfterBegin.config 0 6001
        (evictOldest crowdedAfterBegin.config .asStored
          (crowdedAfterBegin.recordedHistory 6 5003 (.at 6001))) := rfl
    rw [pruned, evictOldest_crowded]
    decide +kernel
  have gone (txnId : TxnId) (other : txnId ∉ [4, 5, 6]) : txnId ∉ after.committedHistory := by
    rwa [← Std.ExtTreeMap.mem_keys, left]
  obtain ⟨bounded, oldest⟩ :=
    commit_prunes_oldest_first crowdedAfterBegin .empty 6 5003 (.at 6001) snapshot committed
  refine ⟨left, bounded, fun kept keptEntry found => ?_⟩
  exact ⟨oldest kept keptEntry 2 (2, 500) found (by decide +kernel) (gone 2 (by decide)),
    oldest kept keptEntry 3 (3, 5000) found (by decide +kernel) (gone 3 (by decide))⟩

@[simp]
lemma updateActive_config (mgr : VisibilityManager) (txnId change) :
    (mgr.updateActive txnId change).config = mgr.config ∧
      (mgr.updateActive txnId change).replayWatermark = mgr.replayWatermark := by
  unfold updateActive
  split <;> exact ⟨rfl, rfl⟩

/-- The pruning by age keeps the entries below the watermark. -/
def SparesRecovered (manager : VisibilityManager) (txnId insertedAt : Nat)
    (environment : CommitEnvironment) : Prop :=
  let counted := evictOldest manager.config environment.historyOrder
    (manager.recordedHistory txnId insertedAt environment)
  ∀ (other : TxnId) (entry : Nat × Nat), counted[other]? = some entry →
    entry.2 < manager.replayWatermark →
      (retainRecent manager.config manager.replayWatermark environment.pruneNow
        counted)[other]? = some entry

lemma sparesRecovered_iff {mgr : VisibilityManager}
    (room : (mgr.recordedHistory txnId insertedAt env).size ≤
      mgr.config.maxHistoryEntries) : mgr.SparesRecovered txnId insertedAt env ↔
      mgr.replayWatermark ≤ insertedAt ∧ ∀ (other) (entry), other ≠ txnId →
          mgr.committedHistory[other]? = some entry → mgr.replayWatermark ≤ entry.2 := by
  have cutoff : mgr.replayWatermark ≤ pruneCutoff mgr.config mgr.replayWatermark env.pruneNow :=
    le_max_right _ _
  rw [SparesRecovered, evictOldest_of_room room]
  constructor
  · intro spares
    have late : ∀ (other : TxnId) (entry : Nat × Nat),
        (mgr.recordedHistory txnId insertedAt env)[other]? =
          some entry → mgr.replayWatermark ≤ entry.2 := by
      intro other entry found
      by_contra early
      have kept := spares other entry found (not_le.mp early)
      exact early (cutoff.trans (retainRecent_getElem?.mp kept).2)
    refine ⟨late txnId (env.commitTs, insertedAt) ?_,
      fun other entry differs found => late other entry ?_⟩
    · exact getElem?_insert_self
    · have ne : compare txnId other ≠ .eq :=
        fun equal => differs (Std.LawfulEqCmp.eq_of_compare equal).symm
      rw [recordedHistory, Std.ExtTreeMap.getElem?_insert, if_neg ne, found]
  · rintro ⟨new, old⟩ other entry found early
    rw [recordedHistory, Std.ExtTreeMap.getElem?_insert] at found
    split at found
    · cases found
      exact absurd new (not_le.mpr early)
    · next ne =>
        refine absurd (old other entry (fun same => ne ?_) found)
          (not_le.mpr early)
        rw [same]
        exact Std.ReflCmp.compare_self

end VisibilityManager

/-- The manager machine, from another start. -/
def recoveredMachine (start : ManagerState) : Machine ManagerState ManagerEvent ManagerAnswer :=
  { managerMachine start.2 with initial := start }

section Recovered

open ManagerEvent VisibilityManager

variable {start : ManagerState} {events : List ManagerEvent}

/-- The event at the index commits the transaction. -/
structure CommitsAt (start : ManagerState) (events : List ManagerEvent)
    (index : Nat) (txnId insertedAt : Nat) (environment : CommitEnvironment) :
    Prop where
  event : events[index]? = some (commitTxn txnId insertedAt environment)
  step : CommitStep ((recoveredMachine start).stateAt events index)
    (commitTxn txnId insertedAt environment) txnId

lemma config_next (start state : ManagerState) (event : ManagerEvent) :
    let after := ((recoveredMachine start).next state event).1
    after.config = state.1.config ∧
      after.replayWatermark = state.1.replayWatermark := by
  simp only [Machine.next, recoveredMachine, managerMachine]
  cases event with
  | beginTxn target fault =>
    rcases state.1.beginTxn_cases state.2 target fault with ⟨error, refused⟩ | ⟨-, -, started⟩
    · simp [refused]
    · simp [started]
  | recordRead target key => simp [VisibilityManager.recordRead]
  | recordWrite target key => simp [VisibilityManager.recordWrite]
  | commitTxn target insertedAt env =>
    rcases state.1.commitTxn_cases state.2 target insertedAt env with ⟨-, refused⟩ |
      ⟨info, -, ⟨conflict, error, -, -, rejected⟩ | ⟨-, accepted⟩⟩
    · simp [refused]
    · simp [rejected, removeActive]
    · simp [accepted, publishCommit, pruneHistory, removeActive]
  | rollbackTxn target fault => exact ⟨rfl, rfl⟩

lemma config_at (start events) (idx : Nat) :
    ((recoveredMachine start).stateAt events idx).1.config = start.1.config ∧
      ((recoveredMachine start).stateAt events idx).1.replayWatermark =
        start.1.replayWatermark := by
  refine (recoveredMachine start).stateInvariant (fun state =>
    state.1.config = start.1.config ∧
      state.1.replayWatermark = start.1.replayWatermark) ⟨rfl, rfl⟩ ?_ _
  intro state event before
  obtain ⟨cfg, watermark⟩ := config_next start state event
  exact ⟨cfg.trans before.1, watermark.trans before.2⟩

lemma history_before_commit (noneEarlier : ∀ old < idx, ∀ txnId insertedAt env,
      ¬ CommitsAt start events old txnId insertedAt env) :
    ((recoveredMachine start).stateAt events idx).1.committedHistory =
      start.1.committedHistory := by
  refine (recoveredMachine start).stateAt_persists (fun state =>
    state.1.committedHistory = start.1.committedHistory) (Nat.zero_le _) rfl ?_
  intro old event _ before atEarlier same
  rcases registry_next start.2 ((recoveredMachine start).stateAt events old)
      event with ⟨-, kept, -⟩ | ⟨begun, -, -, kept, -⟩ | ⟨txnId, step⟩
  · exact kept.trans same
  · exact kept.trans same
  · obtain ⟨insertedAt, env, info, rfl, -⟩ := id step
    exact absurd ⟨atEarlier, step⟩ (noneEarlier old before txnId insertedAt env)

lemma watermark_le_after_commit (before : old < idx)
    (commits : CommitsAt start events old txnId insertedAt env) :
    ∀ (other : TxnId) (entry : Nat × Nat),
      ((recoveredMachine start).stateAt events idx).1.committedHistory[other]? =
        some entry → start.1.replayWatermark ≤ entry.2 := by
  have published (pos : Nat) {event : ManagerEvent} {committed : TxnId}
      (step : CommitStep ((recoveredMachine start).stateAt events pos) event
        committed) (other : TxnId) (entry : Nat × Nat)
      (found : ((recoveredMachine start).next ((recoveredMachine start).stateAt events pos)
          event).1.committedHistory[other]? = some entry) :
      start.1.replayWatermark ≤ entry.2 := by
    obtain ⟨-, insertedAt, env, published⟩ := step.published start.2
    have after : ((recoveredMachine start).next
        ((recoveredMachine start).stateAt events pos) event).1 = _ := published
    rw [after, publishCommit_history, retainRecent_getElem?,
      (config_at start events pos).2] at found
    exact (le_max_right _ _).trans found.2
  refine (recoveredMachine start).stateAt_persists (fun state =>
    ∀ (other : TxnId) (entry : Nat × Nat),
      state.1.committedHistory[other]? = some entry →
        start.1.replayWatermark ≤ entry.2) (Nat.succ_le_of_lt before) ?_ ?_
  · rw [Machine.stateAt_succ _ commits.event]
    exact published old commits.step
  · intro pos event _ _ _ all other entry found
    rcases registry_next start.2 ((recoveredMachine start).stateAt events pos) event with
      ⟨-, kept, -⟩ | ⟨begun, -, -, kept, -⟩ | ⟨committed, step⟩
    · exact all other entry (kept ▸ found)
    · exact all other entry (kept ▸ found)
    · exact published pos step other entry found

/-- With room for all entries, the age bound spares what is from before the
watermark exactly when there is no such thing: the recovered entries that the
first commit finds, and everything inserted later, are from the watermark on. -/
theorem watermark_protects_iff (start : ManagerState) (events : List ManagerEvent)
    (room : ∀ index txnId insertedAt environment,
      CommitsAt start events index txnId insertedAt environment →
        (((recoveredMachine start).stateAt events index).1.recordedHistory
          txnId insertedAt environment).size ≤ start.1.config.maxHistoryEntries) :
    (∀ index txnId insertedAt environment,
      CommitsAt start events index txnId insertedAt environment →
        ((recoveredMachine start).stateAt events index).1.SparesRecovered
          txnId insertedAt environment) ↔
      ∀ index txnId insertedAt environment,
        CommitsAt start events index txnId insertedAt environment →
          start.1.replayWatermark ≤ insertedAt ∧
            ((∀ earlier < index, ∀ txnId insertedAt environment,
                ¬ CommitsAt start events earlier txnId insertedAt environment) →
              ∀ (other : TxnId) (entry : Nat × Nat), other ≠ txnId →
                start.1.committedHistory[other]? = some entry →
                  start.1.replayWatermark ≤ entry.2) := by
  refine forall_congr' fun index => forall_congr' fun txnId =>
    forall_congr' fun insertedAt => forall_congr' fun environment => forall_congr' fun commits => ?_
  have constant := config_at start events index
  rw [sparesRecovered_iff (by
    rw [constant.1]
    exact room index txnId insertedAt environment commits), constant.2]
  refine and_congr_right fun _ => ⟨fun all noneEarlier => ?_, fun first => ?_⟩
  · rw [← history_before_commit noneEarlier]
    exact all
  · by_cases noneEarlier : ∀ earlier < index, ∀ txnId insertedAt environment,
        ¬ CommitsAt start events earlier txnId insertedAt environment
    · rw [history_before_commit noneEarlier]
      exact first noneEarlier
    · push Not at noneEarlier
      obtain ⟨earlier, before, other, otherAt, otherEnvironment, committed⟩ := noneEarlier
      intro kept entry _ found
      exact watermark_le_after_commit before committed kept entry found

def recoveredPair : ManagerState :=
  (((VisibilityManager.new.setCommittedTxn 2).setReplayWatermark
    20).recoverCommittedHistoryWithConfig [(1, 1), (2, 2)] none
      ((∅ : Std.ExtTreeMap TxnId Nat).insert 1 10 |>.insert 2 20) 25, .empty)

def commitAfterRecovery : List ManagerEvent :=
  [beginTxn 3 none, commitTxn 3 30 (.at 30)]

private lemma eq_of_commitsAt
    (commits : CommitsAt recoveredPair commitAfterRecovery index txnId insertedAt env) :
    index = 1 ∧ txnId = 3 ∧ insertedAt = 30 ∧ env = .at 30 := by
  have event := commits.event
  rcases index with _ | _ | index
  · cases event
  · simpa [commitAfterRecovery, eq_comm] using event
  · cases event

private lemma commitsAt_end : CommitsAt recoveredPair commitAfterRecovery 1 3 30 (.at 30) where
  event := rfl
  step := by
    have mem : (((recoveredMachine recoveredPair).stateAt commitAfterRecovery
        1).1.activeTxns[3]?).isSome = true := by decide +kernel
    obtain ⟨info, active⟩ := Option.isSome_iff_exists.mp mem
    refine ⟨30, .at 30, info, rfl, active, VisibilityManager.detectConflict_eq_none.mpr ?_⟩
    intro other otherMeta otherActive differs
    have alone : ((recoveredMachine recoveredPair).stateAt commitAfterRecovery
        1).1.activeTxns.keys = [3] := by decide +kernel
    have listed := Std.ExtTreeMap.mem_keys.mpr
      (VisibilityManager.mem_activeTxns_of_getElem? otherActive)
    rw [alone, mem_singleton] at listed
    exact absurd listed differs

theorem watermark_protects_iff_recoveredPair :
    (∀ index txnId insertedAt environment,
      CommitsAt recoveredPair commitAfterRecovery index txnId insertedAt environment →
        ((recoveredMachine recoveredPair).stateAt commitAfterRecovery index).1.SparesRecovered
          txnId insertedAt environment) ↔
      ∀ index txnId insertedAt environment,
        CommitsAt recoveredPair commitAfterRecovery index txnId insertedAt environment →
          20 ≤ insertedAt ∧
            ((∀ earlier < index, ∀ txnId insertedAt environment,
                ¬ CommitsAt recoveredPair commitAfterRecovery earlier txnId
                  insertedAt environment) →
              ∀ (other : TxnId) (entry : Nat × Nat), other ≠ txnId →
                recoveredPair.1.committedHistory[other]? = some entry → 20 ≤ entry.2) :=
  watermark_protects_iff recoveredPair commitAfterRecovery
    fun index txnId insertedAt environment commits => by
      obtain ⟨rfl, rfl, rfl, rfl⟩ := eq_of_commitsAt commits
      decide +kernel

/-- The commit of transaction 3 takes the recovered entry of transaction 1, which
is from before the watermark and far from the age bound. -/
theorem watermark_evicts_recovered :
    recoveredPair.1.committedHistory[1]? = some (1, 10) ∧
      recoveredPair.1.replayWatermark = 20 ∧
      CommitsAt recoveredPair commitAfterRecovery 1 3 30 (.at 30) ∧
      ¬ ((recoveredMachine recoveredPair).stateAt commitAfterRecovery 1).1.SparesRecovered
        3 30 (.at 30) ∧
      1 ∉ ((recoveredMachine recoveredPair).stateAfter
        commitAfterRecovery).1.committedHistory := by
  refine ⟨by decide +kernel, rfl, commitsAt_end, fun spares => ?_, by decide +kernel⟩
  have kept := spares 1 (1, 10) (by decide +kernel) (by decide +kernel)
  revert kept
  decide +kernel

end Recovered

end RockDuck
