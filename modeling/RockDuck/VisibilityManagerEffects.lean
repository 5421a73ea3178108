import RockDuck.VisibilityManager

/-!
# What the operations of the visibility manager do

One specification per operation: the visibility rules as a statement about the
snapshot, the conflict check as a statement about key sets, pruning as the
removal of history entries, and the outcomes a begin or a commit can have.
-/

namespace RockDuck

open List Std.ExtTreeMap

namespace TxnSnapshot

/-- The snapshot counts the transaction as committed. -/
def Counts (snapshot : TxnSnapshot) (txnId : TxnId) : Prop :=
  txnId ∉ snapshot.activeTxns ∧
    ∃ ts, snapshot.commitTsMap[txnId]? = some ts ∧ ts ≤ snapshot.snapshotId

end TxnSnapshot

namespace VisibilityManager

/-- Both implementations of the visibility filter decide alike. -/
lemma isRowVisible_eq_snapshot (snapshotId createdTxn deletedTxn activeTxns commitTsMap) :
    isRowVisible snapshotId createdTxn deletedTxn activeTxns commitTsMap =
      TxnSnapshot.isRowVisible snapshotId createdTxn deletedTxn activeTxns commitTsMap := by
  unfold isRowVisible TxnSnapshot.isRowVisible
  cases entry : commitTsMap[createdTxn]? with
  | none =>
    have absent : commitTsMap.contains createdTxn = false := by
      rw [contains_eq_isSome_getElem?, entry]
      rfl
    simp [absent]
  | some commitTs =>
    have mem : commitTsMap.contains createdTxn = true := by
      rw [contains_eq_isSome_getElem?, entry]
      rfl
    simp [mem]

lemma isVisible_iff (snap createdTxn deletedTxn) : isVisible snap createdTxn deletedTxn = true ↔
      createdTxn ≤ snap.snapshotId ∧ snap.Counts createdTxn ∧
        ∀ del, deletedTxn = some del → ¬ snap.Counts del := by
  unfold isVisible isRowVisible TxnSnapshot.Counts
  cases created : snap.commitTsMap[createdTxn]? with
  | none => simp
  | some commitTs =>
    cases deletedTxn with
    | none => simp
    | some del =>
      cases deleted : snap.commitTsMap[del]? with
      | none => simp [deleted]
      | some delCommitTs =>
        simp only [deleted]
        grind

lemma counts_of_isVisible {snap created deleted}
    (visible : isVisible snap created deleted = true) : snap.Counts created :=
  ((isVisible_iff snap created deleted).mp visible).2.1

/-- A delete by a transaction that does not count hides nothing. -/
lemma isVisible_of_deleter_not_counts {snap : TxnSnapshot} (ignored : ¬ snap.Counts deleted)
    (created) : isVisible snap created (some deleted) = isVisible snap created none := by
  rw [Bool.eq_iff_iff, isVisible_iff, isVisible_iff]
  simp [ignored]

variable {mgr : VisibilityManager} {txnId : TxnId}

lemma mem_activeTxns_of_getElem?
    (active : mgr.activeTxns[txnId]? = some info) : txnId ∈ mgr.activeTxns :=
  mem_iff_exists_getElem?.mpr ⟨_, active⟩

@[simp]
lemma mem_activeIds : txnId ∈ mgr.activeIds ↔ txnId ∈ mgr.activeTxns := by
  simp [activeIds]

lemma commitTsUpTo_getElem? : (mgr.commitTsUpTo bound)[txnId]? = some ts ↔
      ∃ insertedAt, mgr.committedHistory[txnId]? = some (ts, insertedAt) ∧ ts ≤ bound := by
  unfold commitTsUpTo
  cases entry : mgr.committedHistory[txnId]? with
  | none => simp [entry]
  | some val =>
    obtain ⟨commitTs, insertedAt⟩ := val
    simp [entry, Option.filter]
    grind

lemma snapshot_counts :
    (mgr.snapshot isolation).Counts txnId ↔ txnId ∉ mgr.activeTxns ∧ ∃ ts insertedAt,
          mgr.committedHistory[txnId]? = some (ts, insertedAt) ∧ ts ≤ mgr.committedTxn := by
  unfold TxnSnapshot.Counts snapshot snapshotWithCommitTsMap snapshotWithActiveOnly
  simp only [mem_activeIds, commitTsUpTo_getElem?]
  grind

end VisibilityManager

namespace KeyIndex

lemma first?_push {idx : KeyIndex} :
    ((idx.push txnId key).first? other).isSome ↔ other = key ∨ (idx.first? other).isSome := by
  by_cases same : key = other
  · subst other
    simp [push, first?]
  · have cmp : compare key other ≠ .eq := by simpa using same
    simp [push, first?, Std.ExtTreeMap.getElem?_insert, cmp, Ne.symm same]

lemma first?_pushAll {idx : KeyIndex} {txnId keys other} :
    ((idx.pushAll txnId keys).first? other).isSome ↔ other ∈ keys ∨ (idx.first? other).isSome := by
  induction keys generalizing idx with
  | nil => simp [pushAll]
  | cons key keys ih =>
    have rest := @ih (idx.push txnId key)
    rw [first?_push] at rest
    simp only [pushAll, foldl_cons, mem_cons] at rest ⊢
    rw [rest]
    tauto

end KeyIndex

namespace VisibilityManager

private lemma keyIndex_from {keysOf : TxnMeta → List Key}
    {rest : List (TxnId × TxnMeta)} {idx : KeyIndex} {key : Key} : ((rest.foldl
        (fun idx other => idx.pushAll other.1 (keysOf other.2)) idx).first? key).isSome ↔
      (∃ other ∈ rest, key ∈ keysOf other.2) ∨ (idx.first? key).isSome := by
  induction rest generalizing idx with
  | nil => simp
  | cons other rest ih =>
    rw [foldl_cons, ih, KeyIndex.first?_pushAll]
    simp only [mem_cons, exists_eq_or_imp]
    rw [or_left_comm, or_assoc]

lemma keyIndex_first? {keysOf : TxnMeta → List Key}
    {rest : List (TxnId × TxnMeta)} {key : Key} : ((keyIndex keysOf rest).first? key).isSome ↔
      ∃ other ∈ rest, key ∈ keysOf other.2 := by
  unfold keyIndex
  rw [keyIndex_from]
  simp [KeyIndex.first?]

lemma mem_checkedTxns {mgr : VisibilityManager} : other ∈ mgr.checkedTxns txnId order ↔
      mgr.activeTxns[other.1]? = some other.2 ∧ other.1 ≠ txnId ∧ other.2.isRecovered = false := by
  obtain ⟨otherId, otherMeta⟩ := other
  simp [checkedTxns]

end VisibilityManager

/-- The transactions conflict on the key. -/
def TxnMeta.ConflictsOn (first second : TxnMeta) (key : Key) : Prop :=
  (key ∈ first.writtenKeys ∧ (key ∈ second.readKeys ∨ key ∈ second.writtenKeys)) ∨
    (key ∈ first.readKeys ∧ key ∈ second.writtenKeys)

namespace VisibilityManager

lemma firstConflict_eq_none : firstConflict readKeys writtenKeys keyWriters keyReaders = none ↔
      (∀ key ∈ readKeys, keyWriters.first? key = none) ∧ ∀ key ∈ writtenKeys,
          keyReaders.first? key = none ∧ keyWriters.first? key = none := by
  unfold firstConflict
  cases reads : readKeys.findSome? keyWriters.first? with
  | some writer =>
    obtain ⟨key, mem, found⟩ := exists_of_findSome?_eq_some reads
    simp only [reduceCtorEq, false_iff]
    intro passes
    simp [passes.1 key mem] at found
  | none =>
    have readsPass := findSome?_eq_none_iff.mp reads
    cases writes : writtenKeys.findSome? fun key =>
        keyReaders.first? key <|> keyWriters.first? key with
    | some other =>
      obtain ⟨key, mem, found⟩ := exists_of_findSome?_eq_some writes
      simp only [reduceCtorEq, false_iff]
      intro passes
      simp [passes.2 key mem] at found
    | none =>
      have writesPass : ∀ key ∈ writtenKeys,
          keyReaders.first? key = none ∧ keyWriters.first? key = none := by
        simpa using findSome?_eq_none_iff.mp writes
      simpa using ⟨readsPass, writesPass⟩

variable {txnId : TxnId} {environment : CommitEnvironment} (mgr : VisibilityManager)

lemma detectConflict_eq_none {mgr : VisibilityManager} :
    mgr.detectConflict txnId info environment = none ↔
      ∀ otherId otherMeta, mgr.activeTxns[otherId]? = some otherMeta →
        otherId ≠ txnId → otherMeta.isRecovered = false →
          ∀ key, ¬ info.ConflictsOn otherMeta key := by
  have touched (keysOf : TxnMeta → List Key) (key : Key) :
      (keyIndex keysOf (mgr.checkedTxns txnId environment.activeOrder)).first? key =
          none ↔
        ∀ otherId otherMeta, mgr.activeTxns[otherId]? = some otherMeta →
          otherId ≠ txnId → otherMeta.isRecovered = false →
            key ∉ keysOf otherMeta := by
    rw [← Option.not_isSome_iff_eq_none, keyIndex_first?]
    simp only [mem_checkedTxns, Prod.exists]
    grind
  unfold detectConflict
  simp only [firstConflict_eq_none, touched, Traversal.mem_order, Std.ExtTreeSet.mem_toList]
  unfold TxnMeta.ConflictsOn
  grind

lemma evictOldest_getElem? {cfg order hist entry}
    (kept : (evictOldest cfg order hist)[txnId]? = some entry) : hist[txnId]? = some entry := by
  have erased (items : List (Nat × TxnId)) (start : CommittedHistory)
      (kept : (items.foldl (fun hist item => hist.erase item.2)
        start)[txnId]? = some entry) : start[txnId]? = some entry := by
    induction items generalizing start with
    | nil => exact kept
    | cons item items ih =>
      have rest := ih _ kept
      rw [getElem?_erase] at rest
      split at rest
      · simp at rest
      · exact rest
  unfold evictOldest at kept
  split at kept
  · exact erased _ _ kept
  · exact kept

lemma pruneHistory_getElem? {mgr : VisibilityManager} {entry}
    (kept : (mgr.pruneHistory environment).committedHistory[txnId]? = some entry) :
    mgr.committedHistory[txnId]? = some entry := by
  have retained : (evictOldest mgr.config environment.historyOrder
      mgr.committedHistory)[txnId]? = some entry := by
    simp only [pruneHistory, retainRecent] at kept
    grind
  exact evictOldest_getElem? retained

@[simp]
lemma removeActive_committedTxn (txnId) :
    (mgr.removeActive txnId).committedTxn = mgr.committedTxn :=
  rfl

@[simp]
lemma removeActive_committedHistory (txnId) :
    (mgr.removeActive txnId).committedHistory = mgr.committedHistory :=
  rfl

lemma removeActive_activeTxns (txnId other) : (mgr.removeActive txnId).activeTxns[other]? =
      if other = txnId then none else mgr.activeTxns[other]? := by
  unfold removeActive
  grind

@[simp]
lemma mem_removeActive {mgr : VisibilityManager} : other ∈ (mgr.removeActive txnId).activeTxns ↔
      other ≠ txnId ∧ other ∈ mgr.activeTxns := by
  rw [← isSome_getElem?_iff_mem, removeActive_activeTxns, ← isSome_getElem?_iff_mem]
  grind

section

variable (mgr : VisibilityManager) (txnId insertedAt : Nat) (environment : CommitEnvironment)

@[simp]
lemma publishCommit_committedTxn : (mgr.publishCommit txnId insertedAt environment).committedTxn =
      max mgr.committedTxn txnId := by
  simp only [publishCommit, removeActive_committedTxn, pruneHistory]
  grind

lemma publishCommit_activeTxns (other) :
    (mgr.publishCommit txnId insertedAt environment).activeTxns[other]? =
      if other = txnId then none else mgr.activeTxns[other]? := by
  simp only [publishCommit, removeActive_activeTxns, pruneHistory]
  grind

end

section

variable {mgr : VisibilityManager} {txnId insertedAt : Nat} {environment : CommitEnvironment}

@[simp]
lemma mem_publishCommit : other ∈ (mgr.publishCommit txnId insertedAt environment).activeTxns ↔
      other ≠ txnId ∧ other ∈ mgr.activeTxns := by
  rw [← isSome_getElem?_iff_mem, publishCommit_activeTxns, ← isSome_getElem?_iff_mem]
  grind

lemma publishCommit_committedHistory
    (kept : (mgr.publishCommit txnId insertedAt environment).committedHistory[other]? = some
      entry) : (other = txnId ∧ entry = (environment.commitTs, insertedAt)) ∨
      (other ≠ txnId ∧ mgr.committedHistory[other]? = some entry) := by
  unfold publishCommit at kept
  rw [removeActive_committedHistory] at kept
  have inserted := pruneHistory_getElem? kept
  simp only at inserted
  grind

end

/-- What a begin can do: refuse the id and change nothing, or make it active,
whatever becomes of the write to the metadata store. -/
lemma beginTxn_cases (kv txnId fault) :
    (∃ error, mgr.beginTxn kv txnId fault = ((mgr, kv), .error (.mvccConflict error))) ∨
      (txnId ∉ mgr.activeTxns ∧ mgr.committedTxn < txnId ∧ mgr.beginTxn kv txnId fault =
          (({ mgr with
              activeTxns := mgr.activeTxns.insert txnId (.new txnId) },
            (kv.addActiveTxn txnId txnId fault).1),
            (kv.addActiveTxn txnId txnId fault).2)) := by
  unfold beginTxn
  by_cases active : txnId ∈ mgr.activeTxns
  · exact Or.inl ⟨_, by simp [active]; rfl⟩
  · by_cases old : txnId ≤ mgr.committedTxn
    · exact Or.inl ⟨_, by simp [active, old]; rfl⟩
    · exact Or.inr ⟨active, not_le.mp old, by simp [active, old]⟩

@[simp]
lemma updateActive_committedTxn (txnId change) :
    (mgr.updateActive txnId change).committedTxn = mgr.committedTxn := by
  unfold updateActive
  split <;> rfl

@[simp]
lemma updateActive_committedHistory (txnId change) :
    (mgr.updateActive txnId change).committedHistory = mgr.committedHistory := by
  unfold updateActive
  split <;> rfl

lemma updateActive_activeTxns (txnId other change) :
    (mgr.updateActive txnId change).activeTxns[other]? = mgr.activeTxns[other]?.map fun txnMeta =>
        if other = txnId then change txnMeta else txnMeta := by
  unfold updateActive
  cases active : mgr.activeTxns[txnId]? <;> grind

lemma before_updateActive {mgr : VisibilityManager} {other after}
    (active : (mgr.updateActive txnId change).activeTxns[other]? = some after) :
    ∃ before, mgr.activeTxns[other]? = some before ∧
      (after = before ∨ (other = txnId ∧ after = change before)) := by
  rw [updateActive_activeTxns, Option.map_eq_some_iff] at active
  obtain ⟨before, found, rfl⟩ := active
  refine ⟨before, found, ?_⟩
  by_cases same : other = txnId
  · exact Or.inr ⟨same, if_pos same⟩
  · exact Or.inl (if_neg same)

@[simp]
lemma mem_updateActive {mgr : VisibilityManager} :
    other ∈ (mgr.updateActive txnId change).activeTxns ↔ other ∈ mgr.activeTxns := by
  rw [← isSome_getElem?_iff_mem, updateActive_activeTxns,
    Option.isSome_map, isSome_getElem?_iff_mem]

lemma commitTxn_cases (mgr : VisibilityManager) (kv) (txnId insertedAt : Nat) (environment) :
    (mgr.activeTxns[txnId]? = none ∧ mgr.commitTxn kv txnId insertedAt environment = ((mgr, kv),
            .error (.mvccConflict s!"transaction {txnId} not active"))) ∨
      ∃ info, mgr.activeTxns[txnId]? = some info ∧ ((∃ conflict error,
            mgr.detectConflict txnId info environment = some conflict ∧
            error = environment.removeFault.getD (.mvccConflict (conflict.message txnId)) ∧
            mgr.commitTxn kv txnId insertedAt environment = ((mgr.removeActive txnId,
                (kv.removeActiveTxn txnId environment.removeFault).1), .error error)) ∨
          (mgr.detectConflict txnId info environment = none ∧
            mgr.commitTxn kv txnId insertedAt environment =
              ((mgr.publishCommit txnId insertedAt environment,
                (kv.removeActiveTxn txnId environment.removeFault).1),
                match environment.removeFault with
                | some error => .error error
                | none =>
                  .ok ((mgr.publishCommit txnId insertedAt environment).snapshot .snapshot)))) := by
  unfold commitTxn
  cases active : mgr.activeTxns[txnId]? with
  | none => simp
  | some info =>
    refine Or.inr ⟨info, rfl, ?_⟩
    cases detected : mgr.detectConflict txnId info environment with
    | some conflict =>
      refine Or.inl ⟨conflict, _, rfl, rfl, ?_⟩
      cases environment.removeFault <;>
        simp [abortTxn, MvccBucket.removeActiveTxn, detected]
    | none =>
      refine Or.inr ⟨rfl, ?_⟩
      cases environment.removeFault <;>
        simp [MvccBucket.removeActiveTxn, detected]

lemma commitTxn_of_ok {mgr : VisibilityManager} {kv txnId insertedAt snap}
    (ok : (mgr.commitTxn kv txnId insertedAt environment).2 = .ok snap) :
    ∃ info, mgr.activeTxns[txnId]? = some info ∧ mgr.detectConflict txnId info environment = none ∧
      (mgr.commitTxn kv txnId insertedAt environment).1.1 =
        mgr.publishCommit txnId insertedAt environment := by
  rcases mgr.commitTxn_cases kv txnId insertedAt environment with ⟨-, refused⟩ |
    ⟨info, active, ⟨conflict, error, -, -, rejected⟩ | ⟨passed, accepted⟩⟩
  · rw [refused] at ok
    cases ok
  · rw [rejected] at ok
    cases ok
  · exact ⟨info, active, passed, by rw [accepted]⟩

end VisibilityManager

end RockDuck
