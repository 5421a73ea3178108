import RockDuck.CheckpointRecovery

/-!
# Transaction ids across a restart

The id counter lives in memory.
-/

namespace RockDuck

open DatabaseEvent List

/-- The transaction was begun in the run. -/
def Begun (start : Database) (events : List DatabaseEvent) (txnId : TxnId) : Prop :=
  ∃ fault, (beginTxn fault, .began (.ok txnId)) ∈
    (databaseMachine start).trace events

def OpenedDatabase.running (opened : OpenedDatabase) (wal : WriteAheadLog)
    (cdcBufferSize : Nat) : Database where
  mvcc := opened.mvcc
  kv := opened.kv
  wal := wal
  pendingCdcEntries := ∅
  cdcLogBuffer := .new cdcBufferSize
  txnCounter := opened.nextTxn

namespace Database

lemma nextTxnId_of_room {db : Database} (room : db.txnCounter ≠ 2 ^ 64 - 1) : db.nextTxnId =
      ({ db with txnCounter := db.txnCounter + 1 }, .ok db.txnCounter) :=
  if_neg room

lemma beginTxn_effect (db : Database) (fault : Fault) : let after := (db.beginTxn fault).1
    after.mvcc.committedTxn = db.mvcc.committedTxn ∧
      after.txnCounter =
        (if db.txnCounter = 2 ^ 64 - 1 then db.txnCounter
          else db.txnCounter + 1) ∧
      ∀ other, other ≠ db.txnCounter →
        (other ∈ after.mvcc.activeTxns ↔ other ∈ db.mvcc.activeTxns) := by
  intro after
  by_cases exhausted : db.txnCounter = 2 ^ 64 - 1
  · have same : after = db := by simp [after, beginTxn, nextTxnId, exhausted]
    rw [same, if_pos exhausted]
    exact ⟨rfl, rfl, fun _ _ => Iff.rfl⟩
  · rw [if_neg exhausted]
    rcases db.mvcc.beginTxn_cases db.kv db.txnCounter fault with ⟨error, refused⟩ | ⟨-, -, begun⟩
    · have advanced : after = { db with txnCounter := db.txnCounter + 1 } := by
        simp only [after, beginTxn, nextTxnId_of_room exhausted, refused]
      rw [advanced]
      exact ⟨rfl, rfl, fun _ _ => Iff.rfl⟩
    · have advanced : after.mvcc =
            { db.mvcc with activeTxns :=
              db.mvcc.activeTxns.insert db.txnCounter (.new db.txnCounter) } ∧
          after.txnCounter = db.txnCounter + 1 := by
        simp only [after, beginTxn, nextTxnId_of_room exhausted, begun]
        split <;> exact ⟨rfl, rfl⟩
      rw [advanced.1, advanced.2]
      refine ⟨rfl, rfl, fun other ne => ?_⟩
      simp [Std.ExtTreeMap.mem_insert, Ne.symm ne]

lemma beginTxn_ok {db : Database}
    (ok : (db.beginTxn fault).2 = .ok txnId) : txnId = db.txnCounter ∧ db.txnCounter ≠ 2 ^ 64 - 1 ∧
      db.mvcc.committedTxn < txnId := by
  by_cases exhausted : db.txnCounter = 2 ^ 64 - 1
  · simp [beginTxn, nextTxnId, exhausted] at ok
  · rcases db.mvcc.beginTxn_cases db.kv db.txnCounter fault with
      ⟨error, refused⟩ | ⟨-, above, begun⟩
    · simp only [beginTxn, nextTxnId_of_room exhausted, refused] at ok
      cases ok
    · simp only [beginTxn, nextTxnId_of_room exhausted, begun] at ok
      split at ok
      · cases ok
      · obtain rfl := Except.ok.inj ok
        exact ⟨rfl, exhausted, above⟩

lemma beginTxn_of_free {db : Database} (room : db.txnCounter ≠ 2 ^ 64 - 1)
    (inactive : db.txnCounter ∉ db.mvcc.activeTxns) (above : db.mvcc.committedTxn < db.txnCounter) :
    (db.beginTxn none).2 = .ok db.txnCounter := by
  have free : ¬ db.txnCounter ≤ db.mvcc.committedTxn := Nat.not_le.mpr above
  simp only [beginTxn, nextTxnId_of_room room, VisibilityManager.beginTxn]
  simp [inactive, free, MvccBucket.addActiveTxn]

section

variable (db : Database) (txnId : TxnId) (env : DatabaseCommitEnvironment)

lemma commitTxn_committedTxn_le : db.mvcc.committedTxn ≤
      (db.commitTxn txnId env).1.mvcc.committedTxn := by
  rcases db.commitTxn_cases txnId env with
    ⟨-, same, -⟩ | ⟨info, -, -, ⟨msg, -, same, -⟩ | ⟨conflict, -, -, aborted, -⟩ |
      ⟨-, -, published, -⟩⟩
  · rw [same]
  · rw [same]
  · rw [aborted, VisibilityManager.removeActive_committedTxn]
  · rw [published, VisibilityManager.publishCommit_committedTxn]
    exact le_max_left _ _

lemma commitTxn_txnCounter : (db.commitTxn txnId env).1.txnCounter = db.txnCounter := by
  unfold commitTxn persistCommit flushCdc
  split
  · rfl
  · split
    · rfl
    · split
      · rfl
      · split
        · rfl
        · split <;> rfl

end

lemma rollbackTxn_mvcc (db : Database) (txnId fault walFault) :
    (db.rollbackTxn txnId fault walFault).1.mvcc = db.mvcc.removeActive txnId ∧
      (db.rollbackTxn txnId fault walFault).1.txnCounter = db.txnCounter := by
  unfold rollbackTxn VisibilityManager.rollbackTxn VisibilityManager.abortTxn
  split
  · rename_i found
    obtain ⟨state, -⟩ := Prod.mk.inj found
    obtain ⟨rfl, -⟩ := Prod.mk.inj state
    exact ⟨rfl, rfl⟩
  · rename_i found
    obtain ⟨state, -⟩ := Prod.mk.inj found
    obtain ⟨rfl, -⟩ := Prod.mk.inj state
    simp only
    split <;> exact ⟨rfl, rfl⟩

end Database

/-- No step takes the committed id back, and the counter stays in its
type. -/
lemma databaseMachine_next_committedTxn (start db : Database) (event) :
    db.mvcc.committedTxn ≤ ((databaseMachine start).next db event).mvcc.committedTxn ∧
      (db.txnCounter < 2 ^ 64 → ((databaseMachine start).next db event).txnCounter < 2 ^ 64) := by
  cases event with
  | beginTxn fault =>
    obtain ⟨committed, ctr, -⟩ := db.beginTxn_effect fault
    refine ⟨committed.ge, fun le => ?_⟩
    refine ctr.trans_lt ?_
    split <;> grind
  | recordRead txnId key => exact ⟨(VisibilityManager.updateActive_committedTxn _ _ _).ge, id⟩
  | recordWrite txnId key => exact ⟨(VisibilityManager.updateActive_committedTxn _ _ _).ge, id⟩
  | commitTxn txnId env =>
    exact ⟨db.commitTxn_committedTxn_le txnId env, fun le =>
      (db.commitTxn_txnCounter txnId env).trans_lt le⟩
  | rollbackTxn txnId fault walFault =>
    obtain ⟨mvcc, ctr⟩ := db.rollbackTxn_mvcc txnId fault walFault
    refine ⟨?_, ctr.trans_lt⟩
    exact (congrArg VisibilityManager.committedTxn mvcc).ge
  | logOperation | pushCdcEntry | flushBatch | checkpoint => exact ⟨le_rfl, id⟩

lemma Begun.bounds (begun : Begun start events txnId) (le : start.txnCounter < 2 ^ 64) :
    start.mvcc.committedTxn < txnId ∧ txnId < 2 ^ 64 - 1 := by
  obtain ⟨fault, mem⟩ := begun
  obtain ⟨idx, found⟩ := mem_iff_getElem?.mp mem
  rw [Machine.trace_getElem?] at found
  obtain ⟨event, -, handled⟩ := Option.map_eq_some_iff.mp found
  obtain ⟨rfl, answer⟩ := Prod.mk.inj handled
  have invariant := (databaseMachine start).stateInvariant
    (fun db => start.mvcc.committedTxn ≤ db.mvcc.committedTxn ∧ db.txnCounter < 2 ^ 64)
    ⟨le_rfl, le⟩
    (fun db event holds =>
      have kept := databaseMachine_next_committedTxn start db event
      ⟨holds.1.trans kept.1, kept.2 holds.2⟩)
    (events.take idx)
  obtain ⟨rfl, room, above⟩ := Database.beginTxn_ok (DatabaseAnswer.began.inj answer)
  exact ⟨invariant.1.trans_lt above, Nat.lt_of_le_of_ne (Nat.le_sub_one_of_lt invariant.2) room⟩

lemma mem_traceFrom_begins (start db : Database)
    (free : txnId ∉ db.mvcc.activeTxns) (above : db.mvcc.committedTxn < txnId)
    (last : txnId < 2 ^ 64 - 1) (skipped : Nat) (distance : db.txnCounter + skipped = txnId) :
    (beginTxn none, DatabaseAnswer.began (.ok txnId)) ∈ (databaseMachine start).traceFrom db
        (List.replicate (skipped + 1) (beginTxn none)) := by
  induction skipped generalizing db with
  | zero =>
    obtain rfl : db.txnCounter = txnId := distance
    have ok := Database.beginTxn_of_free last.ne free above
    refine mem_cons.mpr (Or.inl ?_)
    exact congrArg (fun res => (beginTxn none, DatabaseAnswer.began res))
      ok.symm
  | succ skipped ih =>
    obtain ⟨committed, ctr, active⟩ := db.beginTxn_effect none
    rw [if_neg (by grind)] at ctr
    refine mem_cons.mpr (Or.inr (ih (db.beginTxn none).1 ?_ ?_ ?_))
    · rwa [active txnId (by grind)]
    · rwa [committed]
    · rw [ctr]
      grind

section Restart

variable {World : Type*} (apply : World → WalOp → World × Except RockDuckError Unit) (world : World)
    (log : List WalOp) (checkpoint : Option CheckpointMvccState) (kv : MvccBucket)
    (environment : OpenEnvironment)

/-- Recovery knows of a commit at or above the transaction. -/
def KnownCommitted (txnId : TxnId) : Prop :=
  txnId ≤ environment.committedTxnRead.readOr kv.getCommittedTxn 0 ∨
    (∃ later, txnId ≤ later ∧ CommitRecorded log later) ∨
    ∃ later, txnId ≤ later ∧ later ∈ savedHistory checkpoint kv environment

lemma knownCommitted_iff (txnId) : KnownCommitted log checkpoint kv environment txnId ↔
      txnId ≤ (openedOver apply world log checkpoint kv environment).mvcc.committedTxn := by
  have bounds := committedTxn_openedOver_le_iff apply world log checkpoint kv environment
  simp only [← Std.ExtTreeMap.isSome_getElem?_iff_mem, history_openedOver, Option.isSome_map,
    Option.isSome_or, Bool.or_eq_true, isSome_lastCommitStamp_iff] at bounds
  constructor
  · obtain ⟨stored, recovered⟩ := (bounds _).mp le_rfl
    rintro (known | ⟨later, known, logged⟩ | ⟨later, known, saved⟩)
    · exact known.trans stored
    · exact known.trans (recovered later (Or.inl logged))
    · exact known.trans (recovered later (Or.inr (Std.ExtTreeMap.isSome_getElem?_iff_mem.mpr saved)))
  · intro committed
    by_contra unknown
    simp only [KnownCommitted, not_or, not_exists, not_and, not_le] at unknown
    obtain ⟨stored, logged, saved⟩ := unknown
    -- All recovered ids are below this one, so the committed id is as well.
    have below := (bounds (txnId - 1)).mpr ⟨Nat.le_sub_one_of_lt stored,
      fun later recovered => Nat.le_sub_one_of_lt (not_le.mp fun above =>
        recovered.elim (logged later above) fun stored =>
          saved later above (Std.ExtTreeMap.isSome_getElem?_iff_mem.mp stored))⟩
    exact absurd (committed.trans below) (Nat.not_le.mpr (Nat.sub_one_lt_of_lt stored))

lemma nextTxn_openedOver (opened)
    (recovered : opened = openedOver apply world log checkpoint kv environment) :
    opened.nextTxn ≤ opened.mvcc.committedTxn + 1 ∧ opened.nextTxn < 2 ^ 64 := by
  subst recovered
  simp only [openedOver, openAfterReplay, VisibilityManager.recoverActiveTxns_committedTxn]
  constructor
  · refine (min_le_left _ _).trans (Nat.succ_le_succ ?_)
    refine le_trans ?_
      ((VisibilityManager.recoverCommittedHistory_committedTxn_le_iff _ _
        (environment.historyOrder.perm _) _ _ _ _).mp le_rfl).1
    exact le_rfl
  · exact (min_le_right _ _).trans_lt (by decide)

/-- After a crash the begins of the reopened database return none of the ids
begun before it exactly when each of those is at or below an id that survives
as committed. -/
theorem ids_not_reused_iff (start : Database) (started : start.txnCounter < 2 ^ 64)
    (events : List DatabaseEvent) (written : Nat) (wal : WriteAheadLog) (cdcBufferSize : Nat) :
    let crashed := (databaseMachine start).stateAfter events
    let survived := crashed.wal.crashImage written
    let opened := openedOver apply world survived checkpoint crashed.kv environment
    (∀ later txnId, Begun (opened.running wal cdcBufferSize) later txnId →
        ¬ Begun start events txnId) ↔
      ∀ txnId, Begun start events txnId →
        KnownCommitted survived checkpoint crashed.kv environment txnId := by
  intro crashed survived opened
  simp only [knownCommitted_iff apply world]
  obtain ⟨next, inRange⟩ := nextTxn_openedOver apply world survived checkpoint
    crashed.kv environment opened rfl
  constructor
  · intro fresh txnId begun
    by_contra above
    rw [not_le] at above
    -- Once rolled back the id is free, and the counter gets to it.
    obtain ⟨mvcc, counter⟩ := (opened.running wal cdcBufferSize).rollbackTxn_mvcc txnId none none
    have again := mem_traceFrom_begins (opened.running wal cdcBufferSize)
      ((opened.running wal cdcBufferSize).rollbackTxn txnId none none).1
      (by rw [mvcc, VisibilityManager.mem_removeActive]; simp)
      (by rwa [mvcc, VisibilityManager.removeActive_committedTxn])
      (begun.bounds started).2 (txnId - opened.nextTxn)
      (counter ▸ Nat.add_sub_cancel' (next.trans above))
    exact fresh (rollbackTxn txnId none none :: List.replicate _ (beginTxn none)) txnId
      ⟨none, mem_cons.mpr (Or.inr again)⟩ begun
  · intro known later txnId again begun
    exact absurd (known txnId begun) (not_le.mpr (again.bounds inRange).1)

end Restart

private def freshLog : WriteAheadLog := .new true .syncEach

/-- A committed id is not handed out again. -/
theorem ids_not_reused_iff_committed : let start := Database.new freshLog 8
    let events := [beginTxn none, commitTxn 1 (.at 0)]
    let crashed := (databaseMachine start).stateAfter events
    let opened := openedOver (fun (world : Unit) _ => (world, .ok ())) ()
      (crashed.wal.crashImage 0) none crashed.kv (.at 0)
    ∀ later, Begun (opened.running freshLog 8) later 1 →
      ¬ Begun start events 1 := by
  intro start events crashed opened later
  refine (ids_not_reused_iff (fun (world : Unit) _ => (world, .ok ())) ()
    none (.at 0) start (by decide) events 0 freshLog 8).mpr ?_ later 1
  rintro txnId ⟨fault, mem⟩
  rcases mem_cons.mp mem with first | second
  · obtain ⟨⟨⟩⟩ : DatabaseAnswer.began (.ok txnId) = .began (.ok 1) := (Prod.mk.inj first).2
    exact Or.inl (by decide +kernel)
  · cases (Prod.mk.inj (mem_singleton.mp second)).1

/-- An id that was begun and rolled back is the first one the reopened
database returns. -/
theorem rolled_back_id_reused : ¬ ∀ (events : List DatabaseEvent) (written : Nat)
        (later : List DatabaseEvent) (txnId : TxnId),
      let start := Database.new freshLog 8
      let crashed := (databaseMachine start).stateAfter events
      let opened := openedOver (fun (world : Unit) _ => (world, .ok ())) ()
        (crashed.wal.crashImage written) none crashed.kv (.at 0)
      Begun (opened.running freshLog 8) later txnId →
        ¬ Begun start events txnId := by
  intro fresh
  let events := [beginTxn none, rollbackTxn 1 none none]
  let crashed := (databaseMachine (.new freshLog 8)).stateAfter events
  let reopened := (openedOver (fun (world : Unit) _ => (world, .ok ())) ()
    (crashed.wal.crashImage 1) none crashed.kv (.at 0)).running freshLog 8
  have returned : (reopened.beginTxn none).2 = .ok reopened.txnCounter :=
    Database.beginTxn_of_free (by decide +kernel) (by decide +kernel)
      (by decide +kernel)
  have counter : reopened.txnCounter = 1 := by decide +kernel
  rw [counter] at returned
  refine fresh events 1 [beginTxn none] 1 ⟨none, mem_singleton.mpr ?_⟩ ⟨none, mem_cons_self⟩
  exact congrArg (fun result => (beginTxn none, DatabaseAnswer.began result))
    returned.symm

end RockDuck
