import RockDuck.VisibilityRuns

/-!
# Conflicts between concurrent transactions

A commit is checked against the transactions that are active at that moment and
the keys they recorded so far.
-/

namespace RockDuck

open ManagerEvent VisibilityManager

/-- What a transaction did with a key. -/
inductive Access where
  | read
  | write
  deriving DecidableEq

namespace Access

/-- The keys that the transaction is known to have read or written. -/
def keys : Access → TxnMeta → Std.ExtTreeSet Key
  | read, txnMeta => txnMeta.readKeys
  | write, txnMeta => txnMeta.writtenKeys

def recordEvent : Access → TxnId → Key → ManagerEvent
  | read, txnId, key => recordRead txnId key
  | write, txnId, key => recordWrite txnId key

def recordIn : Access → TxnMeta → Key → TxnMeta
  | read, txnMeta, key => txnMeta.recordRead key
  | write, txnMeta, key => txnMeta.recordWrite key

lemma mem_keys_recordIn {access recorded : Access} :
    other ∈ access.keys (recorded.recordIn txnMeta key) ↔
      (access = recorded ∧ other = key) ∨ other ∈ access.keys txnMeta := by
  have sameKey : compare key other = .eq ↔ other = key := by
    rw [Std.LawfulEqCmp.compare_eq_iff_eq, eq_comm]
  cases access <;> cases recorded <;>
    simp [keys, recordIn, TxnMeta.recordRead, TxnMeta.recordWrite, sameKey]

@[simp]
lemma isRecovered_recordIn (access : Access) (info) (key : Key) :
    (access.recordIn info key).isRecovered = info.isRecovered := by
  cases access <;> rfl

end Access

variable {key : Key}

lemma TxnMeta.conflictsOn_of_accesses {first second : TxnMeta} {firstAccess secondAccess : Access}
    (writes : firstAccess = .write ∨ secondAccess = .write)
    (firstKey : key ∈ firstAccess.keys first) (secondKey : key ∈ secondAccess.keys second) :
    first.ConflictsOn second key := by
  cases firstAccess <;> cases secondAccess <;>
    simp_all [TxnMeta.ConflictsOn, Access.keys]

variable {kv : MvccBucket} {txnId : TxnId}

lemma activeTxns_next
    (active : ((managerMachine kv).next state event).1.activeTxns[txnId]? = some after) :
    (∃ before, state.1.activeTxns[txnId]? = some before ∧ (after = before ∨ ∃ access key, event =
          Access.recordEvent access txnId key ∧ after = access.recordIn before key)) ∨
      (state.1.activeTxns[txnId]? = none ∧ after = .new txnId) := by
  obtain ⟨mgr, bucket⟩ := state
  simp only [Machine.next, managerMachine] at active
  cases event with
  | beginTxn target fault =>
    rcases mgr.beginTxn_cases bucket target fault with ⟨error, refused⟩ | ⟨fresh, -, started⟩
    · exact Or.inl ⟨after, by simpa [refused] using active, Or.inl rfl⟩
    · simp only [started, Std.ExtTreeMap.getElem?_insert] at active
      split at active
      · rename_i same
        have equal : target = txnId := by simpa using same
        subst txnId
        right
        exact ⟨by simpa using fresh, (Option.some.inj active).symm⟩
      · exact Or.inl ⟨after, active, Or.inl rfl⟩
  | recordRead target key =>
    left
    obtain ⟨before, found, same | ⟨rfl, recorded⟩⟩ := before_updateActive active
    · exact ⟨before, found, Or.inl same⟩
    · exact ⟨before, found, Or.inr ⟨.read, key, rfl, recorded⟩⟩
  | recordWrite target key =>
    left
    obtain ⟨before, found, same | ⟨rfl, recorded⟩⟩ := before_updateActive active
    · exact ⟨before, found, Or.inl same⟩
    · exact ⟨before, found, Or.inr ⟨.write, key, rfl, recorded⟩⟩
  | commitTxn target insertedAt env =>
    refine Or.inl ⟨after, ?_, Or.inl rfl⟩
    rcases mgr.commitTxn_cases bucket target insertedAt env with ⟨-, refused⟩ |
      ⟨info, -, ⟨conflict, error, -, -, rejected⟩ | ⟨-, accepted⟩⟩
    · simpa [refused] using active
    · simp only [rejected, removeActive_activeTxns] at active
      exact (Option.ite_none_left_eq_some.mp active).2
    · simp only [accepted, publishCommit_activeTxns] at active
      exact (Option.ite_none_left_eq_some.mp active).2
  | rollbackTxn target fault =>
    refine Or.inl ⟨after, ?_, Or.inl rfl⟩
    simp only [VisibilityManager.rollbackTxn, VisibilityManager.abortTxn,
      removeActive_activeTxns] at active
    exact (Option.ite_none_left_eq_some.mp active).2

variable {access : Access} {events : List ManagerEvent}

lemma activeTxns_recordEvent :
    ((managerMachine kv).next state (access.recordEvent txnId key)).1.activeTxns[txnId]? =
      state.1.activeTxns[txnId]?.map fun info => access.recordIn info key := by
  cases access with
  | read =>
    simp [Machine.next, managerMachine, Access.recordEvent, Access.recordIn,
      VisibilityManager.recordRead, updateActive_activeTxns]
  | write =>
    simp [Machine.next, managerMachine, Access.recordEvent, Access.recordIn,
      VisibilityManager.recordWrite, updateActive_activeTxns]

lemma isRecovered_run (kv : MvccBucket) (events : List ManagerEvent) (txnId : TxnId)
    (info : TxnMeta) (active : (managerAfter kv events).activeTxns[txnId]? = some info) :
    info.isRecovered = false := by
  refine (managerMachine kv).stateInvariant
    (fun state => ∀ txnId info, state.1.activeTxns[txnId]? = some info → info.isRecovered = false)
    ?_ ?_ events txnId info active
  · intro txnId info active
    simp [managerMachine, VisibilityManager.new, VisibilityManager.newWithConfig] at active
  · intro state event live txnId after active
    rcases activeTxns_next active with ⟨before, found, rfl | ⟨access, key, -, rfl⟩⟩ | ⟨-, rfl⟩
    · exact live txnId after found
    · simpa using live txnId before found
    · rfl

/-- The transaction is active before an event. -/
def ActiveAt (kv : MvccBucket) (events : List ManagerEvent) (txnId : TxnId) (index : Nat) : Prop :=
  txnId ∈ ((managerMachine kv).stateAt events index).1.activeTxns

/-- A stretch of the run in which the transaction is active throughout and at
whose end its commit returns `Ok`. -/
structure CommittedSpan (kv : MvccBucket) (events : List ManagerEvent)
    (txnId : TxnId) (start stop : Nat) : Prop where
  ordered : start ≤ stop
  active : ∀ index, start ≤ index → index ≤ stop →
    ActiveAt kv events txnId index
  committed : ∃ insertedAt environment snapshot,
    ((managerMachine kv).trace events)[stop]? =
      some (commitTxn txnId insertedAt environment, .committed (.ok snapshot))

/-- The transaction reads or writes the key between two events. -/
def AccessesIn (events : List ManagerEvent) (access : Access)
    (txnId : TxnId) (start stop : Nat) (key : Key) : Prop :=
  ∃ index, start ≤ index ∧ index < stop ∧
    events[index]? = some (access.recordEvent txnId key)

lemma accessed_at_stop (active : ∀ idx, start ≤ idx → idx ≤ stop → ActiveAt kv events txnId idx)
    (accesses : AccessesIn events access txnId start stop key) : ∃ txnMeta,
      ((managerMachine kv).stateAt events stop).1.activeTxns[txnId]? =
        some txnMeta ∧ key ∈ access.keys txnMeta := by
  obtain ⟨idx, afterStart, beforeStop, recorded⟩ := accesses
  have activeMeta (pos : Nat) (within : start ≤ pos) (upTo : pos ≤ stop) :
      ∃ txnMeta, ((managerMachine kv).stateAt events pos).1.activeTxns[txnId]? = some txnMeta :=
    mem_iff_exists_getElem?.mp (active pos within upTo)
  refine (managerMachine kv).stateAt_persists
    (fun state => ∃ txnMeta, state.1.activeTxns[txnId]? = some txnMeta ∧ key ∈ access.keys txnMeta)
    (Nat.succ_le_of_lt beforeStop) ?_ ?_
  · obtain ⟨before, found⟩ := activeMeta idx afterStart beforeStop.le
    refine ⟨access.recordIn before key, ?_, Access.mem_keys_recordIn.mpr (Or.inl ⟨rfl, rfl⟩)⟩
    rw [Machine.stateAt_succ _ recorded, activeTxns_recordEvent, found]
    rfl
  · rintro pos event late early atPosition ⟨before, found, mem⟩
    obtain ⟨after, foundAfter⟩ := activeMeta (pos + 1) (by omega) (by omega)
    rw [Machine.stateAt_succ _ atPosition] at foundAfter
    refine ⟨after, foundAfter, ?_⟩
    rcases activeTxns_next foundAfter with ⟨old, same, kept⟩ | ⟨absent, -⟩
    · rw [found, Option.some.injEq] at same
      subst old
      rcases kept with rfl | ⟨other, otherKey, -, rfl⟩
      · exact mem
      · exact Access.mem_keys_recordIn.mpr (Or.inr mem)
    · rw [found] at absent
      cases absent

lemma no_conflict_at_commit (nodup : other ≠ txnId)
    (span : CommittedSpan kv events txnId start stop)
    (found : ((managerMachine kv).stateAt events stop).1.activeTxns[txnId]? = some info)
    (foundOther : ((managerMachine kv).stateAt events stop).1.activeTxns[other]? = some otherMeta)
    (key : Key) : ¬ info.ConflictsOn otherMeta key := by
  obtain ⟨insertedAt, env, snap, answered⟩ := span.committed
  rw [Machine.trace_getElem?, Option.map_eq_some_iff] at answered
  obtain ⟨event, -, answer⟩ := answered
  obtain ⟨rfl, answer⟩ := Prod.mk.inj answer
  have live := isRecovered_run kv (events.take stop) other otherMeta foundOther
  generalize (managerMachine kv).stateAt events stop = state at *
  obtain ⟨foundMeta, active, passed, -⟩ := commitTxn_of_ok (ManagerAnswer.committed.inj answer)
  rw [found, Option.some.injEq] at active
  subst foundMeta
  exact detectConflict_eq_none.mp passed other otherMeta foundOther nodup live key

private lemma no_conflict_before_earlier_commit (nodup : first ≠ second)
    (firstSpan : CommittedSpan kv events first firstStart firstStop)
    (secondSpan : CommittedSpan kv events second secondStart secondStop)
    (old : firstStop ≤ secondStop) (writes : firstAccess = .write ∨ secondAccess = .write)
    (firstAccesses : AccessesIn events firstAccess first firstStart firstStop key)
    (secondAccesses : AccessesIn events secondAccess second secondStart firstStop key) : False := by
  obtain ⟨firstMeta, firstFound, firstKey⟩ := accessed_at_stop firstSpan.active firstAccesses
  obtain ⟨secondMeta, secondFound, secondKey⟩ :=
    accessed_at_stop
      (fun idx within upTo => secondSpan.active idx within (upTo.trans old))
      secondAccesses
  exact no_conflict_at_commit nodup.symm firstSpan firstFound secondFound
    key (TxnMeta.conflictsOn_of_accesses writes firstKey secondKey)

/-- Of two transactions that both commit, no key is written by one and
touched by the other while both are active, that is before the first of the
two commits.  Transactions that do not overlap have no such accesses. -/
theorem overlapping_commits_compatible (kv : MvccBucket) (events : List ManagerEvent)
    (first second : TxnId) (distinct : first ≠ second)
    (firstStart firstStop secondStart secondStop : Nat)
    (firstSpan : CommittedSpan kv events first firstStart firstStop)
    (secondSpan : CommittedSpan kv events second secondStart secondStop)
    (firstAccess secondAccess : Access) (writes : firstAccess = .write ∨ secondAccess = .write)
    (key : Key) : let cutoff := min firstStop secondStop
    ¬ (AccessesIn events firstAccess first firstStart cutoff key ∧
      AccessesIn events secondAccess second secondStart cutoff key) := by
  intro cutoff
  rintro ⟨firstAccesses, secondAccesses⟩
  rcases le_total firstStop secondStop with earlier | later
  · rw [show cutoff = firstStop from min_eq_left earlier] at *
    exact no_conflict_before_earlier_commit distinct firstSpan secondSpan
      earlier writes firstAccesses secondAccesses
  · rw [show cutoff = secondStop from min_eq_right later] at *
    exact no_conflict_before_earlier_commit distinct.symm secondSpan firstSpan
      later writes.symm secondAccesses firstAccesses

/-- Transactions 1 and 2 overlap; 2 writes key `[7]` only after 1, which wrote
it too, has committed. -/
private def lateWrite : List ManagerEvent :=
  [beginTxn 1 none, beginTxn 2 none, recordWrite 1 [7], commitTxn 1 0 (.at 0),
    recordWrite 2 [7], commitTxn 2 0 (.at 0)]

private lemma lateWrite_committedSpan (ordered : start ≤ stop)
    (active : ∀ idx ∈ List.range' start (stop + 1 - start),
      txnId ∈ ((managerMachine .empty).stateAt lateWrite idx).1.activeTxns)
    (event : lateWrite[stop]? = some (commitTxn txnId insertedAt env))
    (ok : ((managerMachine .empty).answer ((managerMachine .empty).stateAt lateWrite stop)
      (commitTxn txnId insertedAt env)).isCommitOk = true) :
    CommittedSpan .empty lateWrite txnId start stop where
  ordered := ordered
  active idx within upTo := active idx (List.mem_range'_1.mpr ⟨within, by omega⟩)
  committed := by
    cases answer : (managerMachine .empty).answer ((managerMachine .empty).stateAt lateWrite stop)
        (commitTxn txnId insertedAt env) with
    | committed res =>
      cases res with
      | ok snap =>
        refine ⟨insertedAt, env, snap, ?_⟩
        rw [Machine.trace_getElem?, event, Option.map_some, answer]
      | error error => simp [answer, ManagerAnswer.isCommitOk] at ok
    | finished res | recorded => simp [answer, ManagerAnswer.isCommitOk] at ok

private lemma lateWrite_first : CommittedSpan .empty lateWrite 1 1 3 :=
  lateWrite_committedSpan (by decide) (by decide +kernel) rfl
    (by decide +kernel)

private lemma lateWrite_second : CommittedSpan .empty lateWrite 2 2 5 :=
  lateWrite_committedSpan (by decide) (by decide +kernel) rfl
    (by decide +kernel)

theorem overlapping_commits_compatible_lateWrite : ¬ (AccessesIn lateWrite .write 1 1 3 [7] ∧
      AccessesIn lateWrite .write 2 2 3 [7]) :=
  overlapping_commits_compatible .empty lateWrite 1 2 (by decide) 1 3 2 5
    lateWrite_first lateWrite_second .write .write (Or.inl rfl) [7]

/-- The whole lifetime is not covered: both transactions commit although they
overlapped and wrote the same key. -/
theorem late_write_undetected :
    ¬ ∀ (kv : MvccBucket) (events : List ManagerEvent) (first second : TxnId)
        (firstStart firstStop secondStart secondStop moment : Nat)
        (firstAccess secondAccess : Access) (key : Key), first ≠ second →
      CommittedSpan kv events first firstStart firstStop →
      CommittedSpan kv events second secondStart secondStop →
      (firstStart ≤ moment ∧ moment ≤ firstStop) → (secondStart ≤ moment ∧ moment ≤ secondStop) →
      (firstAccess = .write ∨ secondAccess = .write) →
        ¬ (AccessesIn events firstAccess first firstStart firstStop key ∧
          AccessesIn events secondAccess second secondStart secondStop key) := by
  intro covered
  refine covered .empty lateWrite 1 2 1 3 2 5 2 .write .write [7] (by decide)
    lateWrite_first lateWrite_second (by decide) (by decide) (Or.inl rfl)
    ⟨⟨2, ?_⟩, ⟨4, ?_⟩⟩
  all_goals exact ⟨by decide, by decide, rfl⟩

end RockDuck
