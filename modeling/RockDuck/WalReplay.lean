import RockDuck.WalRecords

/-!
# Replay of the write-ahead log

Recovery scans the log once, keeping the operations of every open transaction
in a table of pending operations, and applies them when it meets the commit of
the transaction.
-/

namespace RockDuck

open List LogView

/-- How bad a failed operation is for the replay. -/
inductive ReplayErrorKind where
  | recoverable (message : String)
  | ambiguous (message : String)
  | corruption (message : String)
  | fatal (message : String)
  deriving DecidableEq

structure ReplayError where
  kind : ReplayErrorKind
  txnId : TxnId
  deriving DecidableEq

def containsAny (haystack : String) (needles : List String) : Bool :=
  needles.any fun needle => decide (needle.toList <:+: haystack.toList)

/-- The kind of a failure, by words of its text. -/
def classifyApplyError (error : RockDuckError) (txnId : TxnId) : ReplayErrorKind :=
  let msg := error.display
  let corruption := ReplayErrorKind.corruption
    s!"Arrow IPC parse error for txn {txnId}: {msg}"
  let ambiguous := ReplayErrorKind.ambiguous
    s!"apply classification unclear for txn {txnId}: {msg}"
  match error with
  | .codec _ => corruption
  | .deserialize _ => corruption
  | .io ioError =>
    if ioError.kind = .alreadyExists ∨ ioError.kind = .permissionDenied ∨
        containsAny msg ["exists", "already"] then
      .recoverable
        s!"IO conflict for txn {txnId} (likely already applied): {msg}"
    else ambiguous
  | .internal inner =>
    if containsAny inner
        ["Arrow", "IPC", "decode", "parse", "execute_arrow"] then
      corruption
    else ambiguous
  | _ => ambiguous

/-- What a replay reports. -/
structure RecoveryResult where
  lastCommittedTxn : TxnId
  maxSeenCommittedTxn : TxnId
  committedCount : Nat
  discardedCount : Nat
  activeTxns : List (TxnId × Nat)
  commitTsMap : Std.ExtTreeMap TxnId Nat
  insertedAtMap : Std.ExtTreeMap TxnId Nat
  committedOps : List WalOp
  replayWatermark : Nat

/-- The bookkeeping of the scan, with the world that `apply` acts on and the
lines written to the `replay_failure` file. -/
structure ReplayState (World : Type*) where
  pending : Std.ExtTreeMap TxnId (List WalOp)
  lastCommitted : TxnId
  maxSeenCommitted : TxnId
  committedCount : Nat
  failedCount : Nat
  corruptionCount : Nat
  activeTxns : List (TxnId × Nat)
  commitTsMap : Std.ExtTreeMap TxnId Nat
  insertedAtMap : Std.ExtTreeMap TxnId Nat
  maxInsertedAt : Nat
  committedOps : List WalOp
  replayFailures : List (TxnId × String)
  fatalError : Option ReplayError
  world : World

namespace ReplayState

variable {World : Type*}

def start (world : World) : ReplayState World where
  pending := ∅
  lastCommitted := 0
  maxSeenCommitted := 0
  committedCount := 0
  failedCount := 0
  corruptionCount := 0
  activeTxns := []
  commitTsMap := ∅
  insertedAtMap := ∅
  maxInsertedAt := 0
  committedOps := []
  replayFailures := []
  fatalError := none
  world := world

/-- The begin timestamp, which is also the commit timestamp, and the
insertion time a commit record carries. -/
def commitStamps (op : WalOp) : Nat × Option Nat :=
  match op.payload with
  | .commit beginTs insertedAt => (beginTs, insertedAt)
  | _ => (op.txnId, none)

/-- Note a commit. -/
def noteCommit (state : ReplayState World) (op : WalOp) : ReplayState World :=
  let (beginTs, insertedAt) := commitStamps op
  { state with
    maxSeenCommitted :=
      if op.txnId > state.maxSeenCommitted then op.txnId
      else state.maxSeenCommitted
    pending := state.pending.erase op.txnId
    commitTsMap := state.commitTsMap.insert op.txnId beginTs
    activeTxns := state.activeTxns ++ [(op.txnId, beginTs)]
    insertedAtMap :=
      match insertedAt with
      | some time => state.insertedAtMap.insert op.txnId time
      | none => state.insertedAtMap
    maxInsertedAt :=
      match insertedAt with
      | some time =>
        if time > state.maxInsertedAt then time else state.maxInsertedAt
      | none => state.maxInsertedAt }

section

variable (classify : RockDuckError → TxnId → ReplayErrorKind)

/-- The outcome of a commit, with the classification of errors left open. -/
def noteOutcomeWith (state : ReplayState World) (txnId : TxnId)
    (ops : List WalOp) : Option RockDuckError → ReplayState World
  | none =>
    { state with
      lastCommitted := if txnId > state.lastCommitted then txnId else state.lastCommitted
      committedCount := state.committedCount + 1
      committedOps := state.committedOps ++ ops }
  | some error =>
    match classify error txnId with
    -- The closure keeps the error and returns, and the reader goes on.
    | .fatal message => { state with fatalError := some ⟨.fatal message, txnId⟩ }
    | .corruption message =>
      { state with
        replayFailures := state.replayFailures ++ [(txnId, message)]
        corruptionCount := state.corruptionCount + 1
        failedCount := state.failedCount + 1 }
    | .recoverable _ => { state with failedCount := state.failedCount + 1 }
    | .ambiguous _ => { state with failedCount := state.failedCount + 1 }

variable (apply : World → WalOp → World × Except RockDuckError Unit)

/-- Apply a commit with its pending operations. -/
def replayCommitWith (state : ReplayState World) (op : WalOp) : ReplayState World :=
  let ops := state.pending.getD op.txnId []
  let noted := state.noteCommit op
  if ops.isEmpty then noted
  else
    let (world, failure) := applyUntilFailure apply state.world ops
    { noted with world := world }.noteOutcomeWith classify op.txnId ops failure

/-- What the closure does with one record of the log. -/
def replayRecordWith (state : ReplayState World) (op : WalOp) : ReplayState World :=
  match op.opType with
  | .insert | .delete | .update =>
    { state with
      pending := state.pending.insert op.txnId
        (state.pending.getD op.txnId [] ++ [op]) }
  | .begin =>
    { state with
      pending := state.pending.insert op.txnId
        (state.pending.getD op.txnId []) }
  | .commit => state.replayCommitWith classify apply op
  | .rollback => { state with pending := state.pending.erase op.txnId }
  | .checkpoint | .compaction => state

/-- Replay records. -/
def replayRecordsWith (world : World) (records : List WalOp) : ReplayState World :=
  records.foldl (replayRecordWith classify apply) (start world)

end

/-- The scan with the classification of the source. -/
abbrev replayRecords (apply : World → WalOp → World × Except RockDuckError Unit)
    (world : World) (records : List WalOp) : ReplayState World :=
  replayRecordsWith classifyApplyError apply world records

/-- The report of a replay. -/
def result (state : ReplayState World) : RecoveryResult where
  lastCommittedTxn := state.lastCommitted
  maxSeenCommittedTxn := state.maxSeenCommitted
  committedCount := state.committedCount
  discardedCount := state.pending.size
  activeTxns := state.activeTxns
  commitTsMap := state.commitTsMap
  insertedAtMap := state.insertedAtMap
  committedOps := state.committedOps
  replayWatermark := state.maxInsertedAt

end ReplayState

/-- Replay the log. -/
def replayCommittedOpsWith {World : Type*} (classify : RockDuckError → TxnId → ReplayErrorKind)
    (apply : World → WalOp → World × Except RockDuckError Unit)
    (world : World) (records : List WalOp) (readerError : Option String) :
    World × Except ReplayError RecoveryResult :=
  let state := ReplayState.replayRecordsWith classify apply world records
  match readerError with
  | some error => (state.world, .error ⟨.fatal s!"WAL reader error: {error}", 0⟩)
  | none =>
    match state.fatalError with
    | some error => (state.world, .error error)
    | none => (state.world, .ok state.result)

def replayCommittedOps {World : Type*} (apply : World → WalOp → World × Except RockDuckError Unit)
    (world : World) (records : List WalOp) (readerError : Option String) :
    World × Except ReplayError RecoveryResult :=
  replayCommittedOpsWith classifyApplyError apply world records readerError

lemma classifyApplyError_ne_fatal (error) (txnId)
    (message) : classifyApplyError error txnId ≠ .fatal message := by
  unfold classifyApplyError
  cases error <;> simp <;> split <;> simp

namespace ReplayState

variable {World : Type*} {apply : World → WalOp → World × Except RockDuckError Unit}

section

variable (state : ReplayState World) (op : WalOp)

lemma commitTsMap_noteCommit :
    (state.noteCommit op).commitTsMap = state.commitTsMap.insert op.txnId (commitStamps op).1 :=
  rfl

lemma activeTxns_noteCommit :
    (state.noteCommit op).activeTxns = state.activeTxns ++ [(op.txnId, (commitStamps op).1)] :=
  rfl

lemma maxSeenCommitted_noteCommit :
    (state.noteCommit op).maxSeenCommitted = max state.maxSeenCommitted op.txnId := by
  simp only [noteCommit]
  grind

end

/-- The states differ in the counters and the report only, the last committed
id at most by being raised to `txnId`. -/
structure AgreesUpToReport (before after : ReplayState World)
    (txnId : TxnId) : Prop where
  pending : after.pending = before.pending
  maxSeenCommitted : after.maxSeenCommitted = before.maxSeenCommitted
  activeTxns : after.activeTxns = before.activeTxns
  commitTsMap : after.commitTsMap = before.commitTsMap
  insertedAtMap : after.insertedAtMap = before.insertedAtMap
  world : after.world = before.world
  lastCommitted : after.lastCommitted ≤ max before.lastCommitted txnId

variable (state : ReplayState World) {log : List WalOp}

lemma AgreesUpToReport.refl (txnId) : AgreesUpToReport state state txnId :=
  ⟨rfl, rfl, rfl, rfl, rfl, rfl, le_max_left _ _⟩

section

variable (classify : RockDuckError → TxnId → ReplayErrorKind)

lemma noteOutcomeWith_agrees (txnId) (ops) (err) :
    AgreesUpToReport state (state.noteOutcomeWith classify txnId ops err) txnId := by
  cases err with
  | none =>
    refine ⟨rfl, rfl, rfl, rfl, rfl, rfl, ?_⟩
    simp only [noteOutcomeWith]
    grind
  | some error =>
    unfold noteOutcomeWith
    simp only
    split
    all_goals exact ⟨rfl, rfl, rfl, rfl, rfl, rfl, le_max_left _ _⟩

lemma replayCommitWith_agrees (apply : World → WalOp → World × Except RockDuckError Unit)
    (state : ReplayState World) (op) : AgreesUpToReport { state.noteCommit op with
        world := (applyUntilFailure apply state.world (state.pending.getD op.txnId [])).1 }
      (state.replayCommitWith classify apply op) op.txnId := by
  unfold replayCommitWith
  cases state.pending.getD op.txnId [] with
  | nil => exact AgreesUpToReport.refl _ _
  | cons first rest => exact noteOutcomeWith_agrees _ _ _ _ _

end

/-- The greatest id of a commit record. -/
def maxCommitId (log : List WalOp) : TxnId :=
  ((log.filter fun op => decide (op.opType = .commit)).map WalOp.txnId).foldl
    max 0

lemma maxCommitId_le_iff {bound} : maxCommitId log ≤ bound ↔
      ∀ op ∈ log, op.opType = .commit → op.txnId ≤ bound := by
  induction log using List.reverseRecOn with
  | nil => simp [maxCommitId]
  | append_singleton log last ih =>
    simp only [forall_mem_append, ← ih]
    by_cases commit : last.opType = .commit <;>
      simp [maxCommitId, commit]

lemma le_maxCommitId {op} (mem : op ∈ log) (commit : op.opType = .commit) :
    op.txnId ≤ maxCommitId log :=
  maxCommitId_le_iff.mp le_rfl op mem commit

/-- The bookkeeping of the scan says what the log says. -/
structure Reflects (apply : World → WalOp → World × Except RockDuckError Unit)
    (world : World) (log : List WalOp) (state : ReplayState World) :
    Prop where
  pending : ∀ txnId, state.pending[txnId]? = walView.openPart txnId log
  world : state.world =
    applyBatches apply world (walView.committedBatches log)
  maxSeen : state.maxSeenCommitted = maxCommitId log
  last_le : state.lastCommitted ≤ state.maxSeenCommitted
  commitTsMap : ∀ txnId, txnId ∈ state.commitTsMap ↔
    ∃ op ∈ log, op.opType = .commit ∧ op.txnId = txnId
  activeTxns : ∀ txnId, txnId ∈ state.activeTxns.map Prod.fst ↔
    ∃ op ∈ log, op.opType = .commit ∧ op.txnId = txnId

lemma reflects_start (world) : Reflects apply world [] (start world) where
  pending := by simp [start, openPart, isOpen, openTail]
  world := rfl
  maxSeen := rfl
  last_le := le_refl _
  commitTsMap := by simp [start]
  activeTxns := by simp [start]

section

variable {world : World} {log : List WalOp} {state : ReplayState World}
    (reflects : Reflects apply world log state)
include reflects

lemma Reflects.getD_pending (txnId) :
    state.pending.getD txnId [] = walView.openOperations txnId log := by
  rw [Std.ExtTreeMap.getD_eq_getD_getElem?, reflects.pending, getD_openPart]

lemma Reflects.keep {op : WalOp} (uncommitted : op.opType ≠ .commit) {table}
    (pending : ∀ txnId, table[txnId]? = walView.openPart txnId (log ++ [op])) :
    Reflects apply world (log ++ [op]) { state with pending := table } where
  pending := pending
  world := by
    have role : walView.role op ≠ .commit := by
      change op.opType.role ≠ .commit
      cases type : op.opType <;> simp_all [OpType.role]
    rw [committedBatches_concat, if_neg role, append_nil]
    exact reflects.world
  maxSeen := by simpa [maxCommitId, uncommitted] using reflects.maxSeen
  last_le := reflects.last_le
  commitTsMap := by simpa [or_and_right, exists_or, uncommitted] using reflects.commitTsMap
  activeTxns := by simpa [or_and_right, exists_or, uncommitted] using reflects.activeTxns

lemma Reflects.commit {op : WalOp} (committed : op.opType = .commit) :
    Reflects apply world (log ++ [op]) (state.replayCommitWith classify apply op) := by
  have agrees := replayCommitWith_agrees classify apply state op
  have role : walView.role op = .commit := by simp [committed, OpType.role]
  refine ⟨fun txnId => ?_, ?_, ?_, ?_, fun txnId => ?_, fun txnId => ?_⟩
  · rw [agrees.pending]
    by_cases own : walView.owner op = txnId
    · subst own
      rw [openPart_concat, role]
      simp [noteCommit]
    · rw [openPart_concat_of_ne own, ← reflects.pending]
      have other : op.txnId ≠ txnId := own
      simp [noteCommit, Std.ExtTreeMap.getElem?_erase, other]
  · rw [agrees.world, committedBatches_concat, if_pos role]
    simp [applyBatches, reflects.world, reflects.getD_pending]
  · rw [agrees.maxSeenCommitted, maxSeenCommitted_noteCommit]
    simp [maxCommitId, reflects.maxSeen, committed]
  · rw [agrees.maxSeenCommitted, maxSeenCommitted_noteCommit]
    exact agrees.lastCommitted.trans (max_le_max_right _ reflects.last_le)
  · rw [agrees.commitTsMap, commitTsMap_noteCommit]
    have before := reflects.commitTsMap txnId
    simp [before, or_and_right, exists_or, committed, or_comm]
  · rw [agrees.activeTxns, activeTxns_noteCommit]
    have before := reflects.activeTxns txnId
    rw [map_append, mem_append, before]
    simp [or_and_right, exists_or, committed, eq_comm]

lemma Reflects.step (classify) (op) :
    Reflects apply world (log ++ [op]) (replayRecordWith classify apply state op) := by
  -- It is enough to look at the entry of the record's own transaction.
  have table {pending : Std.ExtTreeMap TxnId (List WalOp)}
      (own : pending[op.txnId]? = walView.openPart op.txnId (log ++ [op]))
      (rest : ∀ txnId, op.txnId ≠ txnId → pending[txnId]? = state.pending[txnId]?) (txnId : TxnId) :
      pending[txnId]? = walView.openPart txnId (log ++ [op]) := by
    by_cases same : op.txnId = txnId
    · rw [← same]
      exact own
    · rw [rest txnId same, reflects.pending, openPart_concat_of_ne same]
  have own : walView.openPart op.txnId (log ++ [op]) = _ := openPart_concat log op
  rw [walView_role, walView_owner] at own
  unfold replayRecordWith
  cases type : op.opType with
  | insert | delete | update | begin =>
    refine reflects.keep (by simp [type]) (table ?_ ?_)
    · simp [own, type, OpType.role, reflects.getD_pending]
    · intro txnId other
      simp [Std.ExtTreeMap.getElem?_insert, other]
  | commit => exact reflects.commit type
  | rollback =>
    refine reflects.keep (by simp [type]) (table ?_ ?_)
    · simp [own, type, OpType.role]
    · intro txnId other
      simp [Std.ExtTreeMap.getElem?_erase, other]
  | checkpoint | compaction =>
    refine reflects.keep (by simp [type]) (table ?_ fun _ _ => rfl)
    rw [own, type, reflects.pending]
    rfl

end

lemma replayRecordsWith_concat (classify) (apply : World → WalOp → World × Except RockDuckError Unit)
    (world : World) (log : List WalOp) (op) :
    replayRecordsWith classify apply world (log ++ [op]) =
      replayRecordWith classify apply (replayRecordsWith classify apply world log) op := by
  rw [replayRecordsWith, foldl_append]
  rfl

lemma reflects_run_with (classify) (apply : World → WalOp → World × Except RockDuckError Unit)
    (world : World) (log : List WalOp) :
    Reflects apply world log (replayRecordsWith classify apply world log) := by
  induction log using List.reverseRecOn with
  | nil => exact reflects_start world
  | append_singleton log op ih =>
    rw [replayRecordsWith_concat]
    exact ih.step classify op

lemma reflects_run (apply : World → WalOp → World × Except RockDuckError Unit) (world : World)
    (log : List WalOp) : Reflects apply world log (replayRecords apply world log) :=
  reflects_run_with classifyApplyError apply world log

/-- The batch of a commit fails with an error that is classified as fatal. -/
def FailsFatally (classify : RockDuckError → TxnId → ReplayErrorKind)
    (apply : World → WalOp → World × Except RockDuckError Unit) (world : World)
    (batch : TxnId × List WalOp) : Prop :=
  ∃ error message, (applyUntilFailure apply world batch.2).2 = some error ∧
    classify error batch.1 = .fatal message

lemma replayCommitWith_fatalError (classify)
    (apply : World → WalOp → World × Except RockDuckError Unit) (state : ReplayState World) (op) :
    (state.replayCommitWith classify apply op).fatalError.isSome = true ↔
      state.fatalError.isSome = true ∨ FailsFatally classify apply state.world
        (op.txnId, state.pending.getD op.txnId []) := by
  unfold FailsFatally replayCommitWith
  cases state.pending.getD op.txnId [] with
  | nil => simp [applyUntilFailure, noteCommit]
  | cons first rest =>
    cases failed : (applyUntilFailure apply state.world (first :: rest)).2 with
    | none => simp [failed, noteOutcomeWith, noteCommit]
    | some error =>
      cases kind : classify error op.txnId <;>
        simp [failed, noteOutcomeWith, noteCommit, kind]

/-- A fatal error is kept exactly when the batch of some commit fails
fatally. -/
lemma fatalError_replayRecordsWith (classify)
    (apply : World → WalOp → World × Except RockDuckError Unit) (world : World)
    (log : List WalOp) : (replayRecordsWith classify apply world log).fatalError.isSome = true ↔
      ∃ front batch rest, walView.committedBatches log = front ++ batch :: rest ∧
        FailsFatally classify apply (applyBatches apply world front) batch := by
  induction log using List.reverseRecOn with
  | nil => simp [replayRecordsWith, start, committedBatches]
  | append_singleton log op ih =>
    have reflects := reflects_run_with classify apply world log
    rw [replayRecordsWith_concat, committedBatches_concat]
    by_cases commit : op.opType = .commit
    · simp only [replayRecordWith, commit, replayCommitWith_fatalError, ih,
        reflects.getD_pending, reflects.world, walView_role, walView_owner, OpType.role, if_true]
      constructor
      · rintro (⟨front, batch, rest, split, fails⟩ | fails)
        · exact ⟨front, batch, rest ++ [(op.txnId, walView.openOperations op.txnId log)],
            by simp [split], fails⟩
        · exact ⟨_, _, [], rfl, fails⟩
      · rintro ⟨front, batch, rest, split, fails⟩
        rcases rest.eq_nil_or_concat with rfl | ⟨rest, last, rfl⟩
        · obtain ⟨rfl, same⟩ := append_inj' split rfl
          obtain ⟨rfl⟩ := same
          exact Or.inr fails
        · refine Or.inl ⟨front, batch, rest, ?_, fails⟩
          rw [concat_eq_append, ← cons_append, ← append_assoc] at split
          exact (append_inj' split rfl).1
    · have role : op.opType.role ≠ .commit := mt op.opType.role_eq_commit.mp commit
      have kept : (replayRecordWith classify apply (replayRecordsWith classify apply world log)
          op).fatalError = (replayRecordsWith classify apply world log).fatalError := by
        unfold replayRecordWith
        cases type : op.opType <;> simp_all
      rw [kept, walView_role, if_neg role, append_nil, ih]

lemma fatalError_replayRecords (apply : World → WalOp → World × Except RockDuckError Unit)
    (world : World) (log : List WalOp) : (replayRecords apply world log).fatalError = none := by
  rw [← Option.not_isSome_iff_eq_none, fatalError_replayRecordsWith]
  rintro ⟨-, batch, -, -, error, message, -, fatal⟩
  exact classifyApplyError_ne_fatal error batch.1 message fatal

/-- The time of the last commit record. -/
def lastCommitStamp (log : List WalOp) (txnId : TxnId) : Option Nat :=
  (log.filter fun op =>
    decide (op.opType = .commit ∧ op.txnId = txnId)).getLast?.map
      fun op => (commitStamps op).1

lemma lastCommitStamp_append (front rest) (txnId) : lastCommitStamp (front ++ rest) txnId =
      (lastCommitStamp rest txnId).or (lastCommitStamp front txnId) := by
  simp only [lastCommitStamp, filter_append, getLast?_append]
  exact Option.map_or

lemma lastCommitStamp_singleton (op) (txnId) : lastCommitStamp [op] txnId =
      if op.opType = .commit ∧ op.txnId = txnId then some (commitStamps op).1
      else none := by
  unfold lastCommitStamp
  by_cases own : op.opType = .commit ∧ op.txnId = txnId <;> simp [own]

lemma getElem?_commitTsMap_replayRecords (apply : World → WalOp → World × Except RockDuckError Unit)
    (world : World) (log : List WalOp) (txnId : TxnId) :
    (replayRecords apply world log).commitTsMap[txnId]? = lastCommitStamp log txnId := by
  unfold replayRecords
  induction log using List.reverseRecOn with
  | nil => simp [replayRecordsWith, start, lastCommitStamp]
  | append_singleton log op ih =>
    rw [lastCommitStamp_append, lastCommitStamp_singleton, ← ih, replayRecordsWith_concat]
    unfold replayRecordWith
    cases type : op.opType with
    | commit =>
      rw [(replayCommitWith_agrees _ _ _ _).commitTsMap]
      simp only [commitTsMap_noteCommit, Std.ExtTreeMap.getElem?_insert]
      by_cases own : op.txnId = txnId <;> simp [own]
    | insert | delete | update | begin | rollback | checkpoint
    | compaction => simp

/-- The insertion time of the last commit record of the transaction that has
one. -/
def lastInsertedAt (log : List WalOp) (txnId : TxnId) : Option Nat :=
  (log.filterMap fun op =>
    if op.opType = .commit ∧ op.txnId = txnId then (commitStamps op).2 else none).getLast?

lemma lastInsertedAt_append (front rest) (txnId) : lastInsertedAt (front ++ rest) txnId =
      (lastInsertedAt rest txnId).or (lastInsertedAt front txnId) := by
  simp only [lastInsertedAt, filterMap_append, getLast?_append]

lemma lastInsertedAt_singleton (op) (txnId) : lastInsertedAt [op] txnId =
      if op.opType = .commit ∧ op.txnId = txnId then (commitStamps op).2 else none := by
  unfold lastInsertedAt
  by_cases own : op.opType = .commit ∧ op.txnId = txnId
  · cases time : (commitStamps op).2 <;> simp [own, time]
  · simp [own]

lemma getElem?_insertedAtMap_replayRecords
    (apply : World → WalOp → World × Except RockDuckError Unit) (world : World)
    (log : List WalOp) (txnId : TxnId) :
    (replayRecords apply world log).insertedAtMap[txnId]? = lastInsertedAt log txnId := by
  unfold replayRecords
  induction log using List.reverseRecOn with
  | nil => simp [replayRecordsWith, start, lastInsertedAt]
  | append_singleton log op ih =>
    rw [lastInsertedAt_append, lastInsertedAt_singleton, ← ih, replayRecordsWith_concat]
    unfold replayRecordWith
    cases type : op.opType with
    | commit =>
      rw [(replayCommitWith_agrees _ _ _ _).insertedAtMap]
      by_cases own : op.txnId = txnId <;> cases time : (commitStamps op).2 <;>
        simp [noteCommit, own, time, Std.ExtTreeMap.getElem?_insert]
    | insert | delete | update | begin | rollback | checkpoint
    | compaction => simp

lemma Reflects.pending_size {world} {state}
    (reflects : Reflects apply world log state) : state.pending.size =
      ((log.map WalOp.txnId).toFinset.filter fun txnId =>
        walView.isOpen txnId log = true).card := by
  have nodup : state.pending.keys.Nodup :=
    Std.ExtTreeMap.distinct_keys.imp fun ne same => by
      simp [same] at ne
  have sameIds : state.pending.keys.toFinset =
      (log.map WalOp.txnId).toFinset.filter fun txnId => walView.isOpen txnId log = true := by
    ext txnId
    have opened : txnId ∈ state.pending ↔ walView.isOpen txnId log = true := by
      rw [← Std.ExtTreeMap.isSome_getElem?_iff_mem, reflects.pending, openPart]
      split <;> simp_all
    rw [mem_toFinset, Std.ExtTreeMap.mem_keys, opened, Finset.mem_filter, mem_toFinset]
    exact ⟨fun isOpen => ⟨owner_mem_of_isOpen isOpen, isOpen⟩, fun both => both.2⟩
  rw [← sameIds, toFinset_card_of_nodup nodup, Std.ExtTreeMap.length_keys]

end ReplayState

lemma world_replayCommittedOpsWith {World : Type*} (classify)
    (apply : World → WalOp → World × Except RockDuckError Unit) (world : World)
    (log : List WalOp) (readerError) :
    (replayCommittedOpsWith classify apply world log readerError).1 =
      applyBatches apply world (walView.committedBatches log) := by
  rw [← (ReplayState.reflects_run_with classify apply world log).world]
  unfold replayCommittedOpsWith
  cases readerError with
  | some error => rfl
  | none =>
    simp only
    split <;> rfl

lemma replayCommittedOps_eq {World : Type*}
    (apply : World → WalOp → World × Except RockDuckError Unit) (world : World)
    (log : List WalOp) : replayCommittedOps apply world log none =
      ((ReplayState.replayRecords apply world log).world,
        .ok (ReplayState.replayRecords apply world log).result) := by
  rw [replayCommittedOps, replayCommittedOpsWith, ReplayState.fatalError_replayRecords]

/-- The replay is exact.  For every log and every way the operations may
succeed or fail, `apply` is called on the committed batches in the order of
their commits, on each batch in log order and up to its first failure; every
operation it is called on stands in the log before a commit of its own
transaction, with no commit or rollback of that transaction in between.  The
last committed id stays below the largest commit id, and the discarded
transactions are those with a begin or an operation after their last commit
or rollback. -/
theorem replay_applies_exactly_committed {World : Type*}
    (apply : World → WalOp → World × Except RockDuckError Unit) (world : World) (log : List WalOp) :
    let batches := walView.committedBatches log
    let calls := attemptedBatches apply world batches
    ∃ result,
      replayCommittedOps (traced apply) (world, []) log none =
          ((applyBatches apply world batches, calls), .ok result) ∧
        (∀ op ∈ calls, ∃ (index position : Nat) (commit : WalOp), index < position ∧ log[index]? =
          some op ∧ op.opType.role = .operation ∧ log[position]? = some commit ∧ commit.txnId =
          op.txnId ∧ commit.opType = .commit ∧ ∀ (between : Nat) (other : WalOp), index ≤ between →
          between < position → log[between]? = some other → other.txnId = op.txnId → other.opType ≠
          .commit ∧ other.opType ≠ .rollback) ∧
        result.lastCommittedTxn ≤ ReplayState.maxCommitId log ∧
        result.maxSeenCommittedTxn = ReplayState.maxCommitId log ∧
        result.discardedCount =
          ((log.map WalOp.txnId).toFinset.filter fun txnId =>
            walView.isOpen txnId log = true).card := by
  intro batches calls
  have reflects := ReplayState.reflects_run (traced apply) (world, []) log
  refine ⟨(ReplayState.replayRecords (traced apply) (world, []) log).result,
    ?_, fun op called => ?_, ?_, reflects.maxSeen, reflects.pending_size⟩
  · rw [replayCommittedOps_eq, reflects.world, applyBatches_traced, nil_append]
  · obtain ⟨batch, committed, mem⟩ := mem_batch_of_attempted called
    obtain ⟨index, position, commit, before, atIndex, operates, atPosition,
      owner, role, unclosed⟩ :=
      position_of_mem_committedBatches committed mem
    obtain ⟨ownOp, isOperation⟩ := operates_iff.mp operates
    refine ⟨index, position, commit, before, atIndex, isOperation, atPosition,
      owner.trans ownOp.symm, commit.opType.role_eq_commit.mp role,
      fun between other after prior atBetween same => ?_⟩
    have notClosing := closes_eq_false_iff.mp
      (unclosed between other after prior atBetween) (same.trans ownOp)
    constructor <;> intro type <;> simp [type, OpType.role] at notClosing
  · exact reflects.last_le.trans_eq reflects.maxSeen

end RockDuck
