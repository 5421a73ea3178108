import RockDuck.ChangeStream
import RockDuck.WalApply

/-!
# Changes read from the log

When the delta layers are gone, the changes are read from the log again: a scan
collects the operations of every transaction and converts them at its commit.
-/

namespace RockDuck

open List Std.ExtTreeMap LogView

/-- The scan of the log, with the operations that were converted. -/
structure ChangeReplay where
  pending : Std.ExtTreeMap TxnId (List WalOp)
  txnOps : Std.ExtTreeMap TxnId (List CellChange)
  committedTxns : Std.ExtTreeSet TxnId
  converted : List WalOp

namespace ChangeReplay

def start : ChangeReplay where
  pending := ∅
  txnOps := ∅
  committedTxns := ∅
  converted := []

variable (convert : WalOp → Except RockDuckError (Option (List CellChange)))

/-- Convert the operations of a transaction that commits. -/
def convertOps (txnId : TxnId) : ChangeReplay → List WalOp → Except RockDuckError ChangeReplay
  | state, [] => .ok state
  | state, op :: ops =>
    match convert op with
    | .error error => .error error
    | .ok changes =>
      convertOps txnId
        { state with
          txnOps := match changes with
            | some changes => state.txnOps.insert txnId (state.txnOps.getD txnId [] ++ changes)
            | none => state.txnOps
          converted := state.converted ++ [op] } ops

variable (since committed : TxnId)

/-- A transaction the scan looks at. -/
def InRange (txnId : TxnId) : Prop :=
  since < txnId ∧ txnId ≤ committed

instance (txnId : TxnId) : Decidable (InRange since committed txnId) :=
  inferInstanceAs (Decidable (_ ∧ _))

/-- Take one record. -/
def replayRecord (state : ChangeReplay) (op : WalOp) : Except RockDuckError ChangeReplay :=
  match op.opType with
  | .insert | .update | .delete =>
    if InRange since committed op.txnId then
      .ok { state with
        pending := state.pending.insert op.txnId (state.pending.getD op.txnId [] ++ [op]) }
    else .ok state
  | .commit =>
    if InRange since committed op.txnId then
      convertOps convert op.txnId
        { state with
          committedTxns := state.committedTxns.insert op.txnId
          pending := state.pending.erase op.txnId }
        (state.pending.getD op.txnId [])
    else .ok state
  | .rollback => .ok { state with pending := state.pending.erase op.txnId }
  | .begin | .checkpoint | .compaction => .ok state

def replayRecords (records : List WalOp) : Except RockDuckError ChangeReplay :=
  records.foldlM (replayRecord convert since committed) start

/-- The changes since a transaction, as the log has them, by transaction. -/
def replayWalSince (records : List WalOp) : Except RockDuckError (List ChangeBatch) :=
  (replayRecords convert since committed records).map fun state =>
    (state.txnOps.toList.filter fun entry => state.committedTxns.contains entry.1).map
      fun entry => ⟨entry.1, entry.2⟩

/-- The operations that the commits in the range commit. -/
def selected (log : List WalOp) : List WalOp :=
  ((walView.committedBatches log).filter fun batch =>
    decide (InRange since committed batch.1)).flatMap Prod.snd

/-- The changes of an operation that can be converted. -/
def changesOf (op : WalOp) : List CellChange :=
  match convert op with
  | .ok (some changes) => changes
  | _ => []

/-- The state after a log has been scanned, as the transactions of the log have it. -/
structure Scanned (log : List WalOp) (state : ChangeReplay) : Prop where
  pending : ∀ txnId, InRange since committed txnId →
    state.pending.getD txnId [] = walView.openOperations txnId log
  converted : state.converted = selected since committed log
  txnOps : ∀ txnId, state.txnOps.getD txnId [] =
    (state.converted.filter fun op => decide (op.txnId = txnId)).flatMap (changesOf convert)
  committedTxns : ∀ op ∈ state.converted, op.txnId ∈ state.committedTxns

variable {convert since committed} {log : List WalOp} {state after : ChangeReplay} {op : WalOp}

variable {txnId : TxnId}

lemma txnId_of_mem_openOperations (mem : op ∈ walView.openOperations txnId log) :
    op.txnId = txnId :=
  (operates_iff.mp (List.mem_filter.mp mem).2).1

lemma openOperations_own (log) (op : WalOp) : walView.openOperations op.txnId (log ++ [op]) =
      match op.opType.role with
      | .begin | .neutral => walView.openOperations op.txnId log
      | .operation => walView.openOperations op.txnId log ++ [op]
      | .commit | .rollback => [] := by
  have own : walView.openPart op.txnId (log ++ [op]) = _ := openPart_concat log op
  rw [← getD_openPart, own, walView_role, walView_owner]
  cases op.opType.role <;> simp

lemma openOperations_other (other : op.txnId ≠ txnId) :
    walView.openOperations txnId (log ++ [op]) = walView.openOperations txnId log := by
  rw [← getD_openPart, openPart_concat_of_ne other, getD_openPart]

lemma selected_concat (log op) :
    selected since committed (log ++ [op]) = selected since committed log ++
      if op.opType = .commit ∧ InRange since committed op.txnId then
        walView.openOperations op.txnId log
      else [] := by
  rw [selected, committedBatches_concat, filter_append, flatMap_append, selected]
  simp only [walView_role, walView_owner, OpType.role_eq_commit]
  by_cases commit : op.opType = .commit <;>
    by_cases lt : InRange since committed op.txnId <;> simp [commit, lt]

lemma Scanned.keep (scanned : Scanned convert since committed log state)
    (uncommitted : ¬ (op.opType = .commit ∧ InRange since committed op.txnId))
    {pending : Std.ExtTreeMap TxnId (List WalOp)} (own : InRange since committed op.txnId →
      pending.getD op.txnId [] = walView.openOperations op.txnId (log ++ [op]))
    (rest : ∀ txnId, op.txnId ≠ txnId → pending.getD txnId [] = state.pending.getD txnId []) :
    Scanned convert since committed (log ++ [op]) { state with pending := pending } where
  pending txnId inRange := by
    by_cases same : op.txnId = txnId
    · subst same
      exact own inRange
    · rw [openOperations_other same, ← scanned.pending txnId inRange]
      exact rest txnId same
  converted := by
    rw [selected_concat, if_neg uncommitted, append_nil]
    exact scanned.converted
  txnOps := scanned.txnOps
  committedTxns := scanned.committedTxns

variable {ops : List WalOp}

lemma exists_convertOps_iff : (∃ after, convertOps convert txnId state ops = .ok after) ↔
      ∀ op ∈ ops, ∃ changes, convert op = .ok changes := by
  induction ops generalizing state with
  | nil => simp [convertOps]
  | cons op ops ih =>
    cases made : convert op with
    | error error => simp [convertOps, made]
    | ok changes => simp [convertOps, made, ih]

lemma convertOps_spec (converts : convertOps convert txnId state ops = .ok after) :
    after.pending = state.pending ∧ after.committedTxns = state.committedTxns ∧
      after.converted = state.converted ++ ops ∧ ∀ other, after.txnOps.getD other [] =
        state.txnOps.getD other [] ++
          if txnId = other then ops.flatMap (changesOf convert) else [] := by
  induction ops generalizing state with
  | nil =>
    cases converts
    simp
  | cons op ops ih =>
    rw [convertOps] at converts
    split at converts
    · cases converts
    · rename_i changes made
      obtain ⟨pending, committedTxns, converted, txnOps⟩ := ih converts
      refine ⟨pending, committedTxns, by simp [converted], fun other => ?_⟩
      rw [txnOps]
      cases changes with
      | none => simp [changesOf, made]
      | some changes =>
        simp only [getD_insert, Std.compare_eq_iff_eq]
        by_cases same : txnId = other
        · subst same
          simp [changesOf, made]
        · simp [same]

lemma Scanned.commit (scanned : Scanned convert since committed log state)
    (isCommit : op.opType = .commit) (lt : InRange since committed op.txnId)
    (converts : convertOps convert op.txnId { state with
        committedTxns := state.committedTxns.insert op.txnId
        pending := state.pending.erase op.txnId }
      (walView.openOperations op.txnId log) = .ok after) :
    Scanned convert since committed (log ++ [op]) after := by
  obtain ⟨pending, committedTxns, converted, txnOps⟩ := convertOps_spec converts
  refine ⟨fun txnId ranged => ?_, ?_, fun txnId => ?_, fun other mem => ?_⟩
  · rw [pending, getD_erase]
    by_cases same : op.txnId = txnId
    · subst same
      simp [openOperations_own, isCommit, OpType.role]
    · rw [if_neg (by simpa using same), openOperations_other same, scanned.pending txnId ranged]
  · rw [converted, selected_concat, if_pos ⟨isCommit, lt⟩, scanned.converted]
  · rw [txnOps, converted, filter_append, flatMap_append, ← scanned.txnOps]
    congr 1
    split
    · rename_i same
      subst same
      rw [filter_eq_self.mpr fun other mem => by
        simpa using txnId_of_mem_openOperations mem]
    · rename_i ne
      rw [filter_eq_nil_iff.mpr fun other mem => by
        simpa [txnId_of_mem_openOperations mem] using ne]
      rfl
  · rw [committedTxns]
    rw [converted, mem_append] at mem
    rcases mem with old | own
    · simp [scanned.committedTxns other old]
    · simp [txnId_of_mem_openOperations own]

lemma Scanned.step (scanned : Scanned convert since committed log state) (op) :
    (∀ after, replayRecord convert since committed state op = .ok after →
        Scanned convert since committed (log ++ [op]) after) ∧
      ((∃ after, replayRecord convert since committed state op = .ok after) ↔
        (op.opType = .commit ∧ InRange since committed op.txnId →
          ∀ other ∈ walView.openOperations op.txnId log, ∃ changes, convert other = .ok changes)) :=
      by
  have own := openOperations_own log op
  cases type : op.opType with
  | insert | update | delete =>
    simp only [replayRecord, type]
    split
    · rename_i lt
      refine ⟨?_, by simp⟩
      rintro after ⟨⟩
      refine scanned.keep (by simp [type]) (fun _ => ?_) fun txnId other => ?_
      · rw [own, type, ← scanned.pending _ lt]
        simp [OpType.role]
      · simp [getD_insert, other]
    · rename_i outside
      refine ⟨?_, by simp⟩
      rintro after ⟨⟩
      exact scanned.keep (by simp [type]) (fun lt => absurd lt outside) fun _ _ => rfl
  | begin | checkpoint | compaction =>
    simp only [replayRecord, type]
    refine ⟨?_, by simp⟩
    rintro after ⟨⟩
    refine scanned.keep (by simp [type]) (fun lt => ?_) fun _ _ => rfl
    rw [own, type]
    exact scanned.pending _ lt
  | rollback =>
    simp only [replayRecord, type]
    refine ⟨?_, by simp⟩
    rintro after ⟨⟩
    refine scanned.keep (by simp [type]) (fun _ => ?_) fun txnId other => ?_
    · rw [own, type]
      simp [OpType.role]
    · simp [getD_erase, other]
  | commit =>
    simp only [replayRecord, type]
    split
    · rename_i lt
      rw [scanned.pending _ lt]
      refine ⟨fun after converts => scanned.commit type lt converts, ?_⟩
      rw [exists_convertOps_iff]
      simp [lt]
    · rename_i outside
      refine ⟨?_, by simp [outside]⟩
      rintro after ⟨⟩
      exact scanned.keep (by simp [outside]) (fun lt => absurd lt outside) fun _ _ => rfl

lemma scanned_run (log) : (∀ after, replayRecords convert since committed log = .ok after →
        Scanned convert since committed log after) ∧
      ((∃ after, replayRecords convert since committed log = .ok after) ↔
        ∀ op ∈ selected since committed log, ∃ changes, convert op = .ok changes) := by
  induction log using List.reverseRecOn with
  | nil =>
    refine ⟨?_, by simp [replayRecords, pure, Except.pure, selected, committedBatches]⟩
    rintro after ⟨⟩
    refine ⟨fun txnId _ => ?_, rfl, fun txnId => ?_, by simp [start]⟩ <;>
      simp [start, openOperations, openTail]
  | append_singleton log op ih =>
    obtain ⟨scan, reads⟩ := ih
    have split : ∀ after, replayRecords convert since committed (log ++ [op]) = .ok after ↔
        ∃ state, replayRecords convert since committed log = .ok state ∧
          replayRecord convert since committed state op = .ok after := by
      intro after
      rw [replayRecords, foldlM_append, bind_eq_ok]
      simp [replayRecords]
    refine ⟨fun after read => ?_, ?_⟩
    · obtain ⟨state, before, step⟩ := (split after).mp read
      exact ((scan state before).step op).1 after step
    · rw [selected_concat, forall_mem_append, ← reads]
      simp only [split]
      constructor
      · rintro ⟨after, state, before, step⟩
        have whole := ((scan state before).step op).2.mp ⟨after, step⟩
        refine ⟨⟨state, before⟩, fun other mem => ?_⟩
        split at mem
        · rename_i commits
          exact whole commits other mem
        · cases mem
      · rintro ⟨⟨state, before⟩, convertible⟩
        obtain ⟨after, step⟩ := ((scan state before).step op).2.mpr fun commits other mem =>
          convertible other (by rwa [if_pos commits])
        exact ⟨after, state, before, step⟩

section Recovery

variable {World : Type*} {apply : World → WalOp → World × Except RockDuckError Unit}

/-- Without a failure, the operations of a commit were all handed on. -/
lemma attempted_of_not_failed (ran : (applyUntilFailure apply world ops).2 = none) :
    attempted apply world ops = ops := by
  induction ops generalizing world with
  | nil => rfl
  | cons op ops ih =>
    rcases out : apply world op with ⟨after, err | done⟩
    · simp [applyUntilFailure, out] at ran
    · simp only [applyUntilFailure, out] at ran
      simp [attempted, out, ih ran]

lemma not_failed_of_failedCount {state : ReplayState World}
    (ran : (state.replayRecordWith classifyApplyError apply op).failedCount = 0) :
    state.failedCount = 0 ∧ (op.opType = .commit →
      (applyUntilFailure apply state.world (state.pending.getD op.txnId [])).2 = none) := by
  cases type : op.opType with
  | commit =>
    simp only [ReplayState.replayRecordWith, type, ReplayState.replayCommitWith] at ran
    split at ran
    · rename_i nothing
      exact ⟨ran, fun _ => by simp [List.isEmpty_iff.mp nothing, applyUntilFailure]⟩
    · cases err : (applyUntilFailure apply state.world (state.pending.getD op.txnId [])).2 with
      | none =>
        simp only [err, ReplayState.noteOutcomeWith] at ran
        exact ⟨ran, fun _ => rfl⟩
      | some error =>
        simp only [err, ReplayState.noteOutcomeWith] at ran
        split at ran
        · rename_i msg fatal
          exact absurd fatal (classifyApplyError_ne_fatal error op.txnId msg)
        all_goals simp at ran
  | _ => simpa [ReplayState.replayRecordWith, type] using ran

lemma applied_eq
    (applies : (ReplayState.replayRecords (traced apply) (world, []) recs).failedCount = 0) :
    (ReplayState.replayRecords (traced apply) (world, []) recs).world.2 =
      (walView.committedBatches recs).flatMap Prod.snd := by
  induction recs using List.reverseRecOn with
  | nil => rfl
  | append_singleton recs op ih =>
    have reflects := ReplayState.reflects_run (traced apply) (world, []) recs
    rw [ReplayState.replayRecords, ReplayState.replayRecordsWith_concat] at applies ⊢
    obtain ⟨old, last⟩ := not_failed_of_failedCount applies
    have before := ih old
    rw [committedBatches_concat, flatMap_append, ← before]
    simp only [walView_role, walView_owner, OpType.role_eq_commit]
    split
    · rename_i commit
      have applied := last commit
      have agrees := ReplayState.replayCommitWith_agrees classifyApplyError (traced apply)
        (ReplayState.replayRecords (traced apply) (world, []) recs) op
      rw [ReplayState.replayRecordWith, commit]
      refine (congrArg Prod.snd agrees.world).trans ?_
      rw [applyUntilFailure_traced] at applied ⊢
      rw [attempted_of_not_failed applied, reflects.getD_pending]
      simp
    · rename_i other
      rw [flatMap_nil, append_nil]
      cases type : op.opType <;> simp_all [ReplayState.replayRecordWith]

/-- The change stream converts the operations of a transaction that recovery
applies, in the same order. -/
theorem converted_eq_applied {apply : World → WalOp → World × Except RockDuckError Unit}
    {world : World} {records : List WalOp} {final : ChangeReplay}
    (converts : replayRecords convert since committed records = .ok final)
    (applies : (ReplayState.replayRecords (traced apply) (world, []) records).failedCount = 0)
    {txnId : TxnId} (later : since < txnId) (stable : txnId ≤ committed) :
    final.converted.filter (fun op => decide (op.txnId = txnId)) =
      (ReplayState.replayRecords (traced apply) (world, []) records).world.2.filter
        fun op => decide (op.txnId = txnId) := by
  rw [((scanned_run records).1 final converts).converted, applied_eq applies, selected]
  have owned : ∀ batch ∈ walView.committedBatches records, ∀ op ∈ batch.2, op.txnId = batch.1 := by
    intro batch mem op member
    obtain ⟨_, _, _, _, _, operates, _⟩ := position_of_mem_committedBatches mem member
    exact (operates_iff.mp operates).1
  generalize walView.committedBatches records = batches at owned ⊢
  induction batches with
  | nil => rfl
  | cons batch batches ih =>
    have rest := ih fun other mem => owned other (mem_cons_of_mem _ mem)
    rw [flatMap_cons, filter_append, ← rest, filter_cons]
    split
    · rw [flatMap_cons, filter_append]
    · rename_i outside
      have none : batch.2.filter (fun op => decide (op.txnId = txnId)) = [] := by
        refine filter_eq_nil_iff.mpr fun op member => ?_
        rw [owned batch mem_cons_self op member, decide_eq_true_eq]
        rintro rfl
        simp [InRange, later, stable] at outside
      rw [none, nil_append]

def insertAndCommit : List WalOp :=
  [⟨.insert, 1, .insert "t" [1] ["x", createdTxnCol, deletedTxnCol] [7, 1, 255] [] "seg_1" 0 0⟩,
    ⟨.commit, 1, .commit 0 none⟩]

theorem converted_insertAndCommit :
    ∃ final, replayRecords (fun _ => .ok none) 0 1 insertAndCommit = .ok final ∧
      final.converted.filter (fun op => decide (op.txnId = 1)) =
        (ReplayState.replayRecords (traced fun (world : Unit) _ => (world, .ok ())) ((), [])
          insertAndCommit).world.2.filter fun op => decide (op.txnId = 1) := by
  obtain ⟨final, read⟩ : ∃ final, replayRecords (fun _ => .ok none) 0 1 insertAndCommit = .ok final :=
    (scanned_run insertAndCommit).2.mpr fun op _ => ⟨none, rfl⟩
  exact ⟨final, read, converted_eq_applied read rfl (by decide) (by decide)⟩

end Recovery

end ChangeReplay

/-- What reads the batches of the log. -/
structure ChangeReader (Value : Type*) where
  tryNew : Bytes → Except String (List String × List (Except String (RecordBatch Value)))
  scalarToBytes : Value → Except RockDuckError Bytes

namespace ChangeReader

variable {Value : Type*} (reader : ChangeReader Value)

def firstRow : Except String (RecordBatch Value) → Except RockDuckError (List Bytes)
  | .error error => .error (.internal ("Arrow IPC batch: " ++ error))
  | .ok batch => (batch.filterMap fun column => column.2.head?).mapM reader.scalarToBytes

/-- The values of the first row of every batch. -/
def extractColumnValuesFromIpc (walBatch : Bytes) : Except RockDuckError (List Bytes) :=
  match reader.tryNew walBatch with
  | .error error => .error (.internal ("Arrow IPC reader: " ++ error))
  | .ok (_, batches) => (batches.mapM reader.firstRow).map List.flatten

/-- The names in a schema that can be read. -/
def schemaNames (bytes : Bytes) : Option (List String) :=
  if bytes.isEmpty then none else (reader.tryNew bytes).toOption.map Prod.fst

def extractSchemaColumnNamesFromIpc (walBatch schemaBytes : Bytes) : List String :=
  match reader.schemaNames walBatch with
  | some (name :: names) => name :: names
  | _ => (reader.schemaNames schemaBytes).getD []

def nonemptyChanges (changes : List CellChange) : Option (List CellChange) :=
  if changes.isEmpty then none else some changes

/-- The changes of one operation, one for each column. -/
def walOpToCellChange (op : WalOp) : Except RockDuckError (Option (List CellChange)) :=
  match op.payload with
  | .insert table _ columns walBatch schemaBytes segId _ offset =>
    let names := if columns.isEmpty then
      reader.extractSchemaColumnNamesFromIpc walBatch schemaBytes else columns
    if walBatch.isEmpty || names.isEmpty then .ok none
    else
      (reader.extractColumnValuesFromIpc walBatch).map fun values =>
        nonemptyChanges ((names.zip values).map fun cell =>
          ⟨table, segId, cell.1, offset, .insert, none, some cell.2, op.txnId⟩)
  | .update table _ columns walBatch schemaBytes oldColumns oldSegId _ oldOffset _ _ _ =>
    let names := if columns.isEmpty then
      reader.extractSchemaColumnNamesFromIpc walBatch schemaBytes else columns
    if columns.isEmpty && walBatch.isEmpty then .ok none
    else
      (reader.extractColumnValuesFromIpc walBatch).map fun values =>
        nonemptyChanges ((names.zip values).map fun cell =>
          ⟨table, oldSegId, cell.1, oldOffset, .update, oldColumns.reverse.lookup cell.1,
            some cell.2, op.txnId⟩)
  | .delete table _ beforeRow segId _ offset =>
    .ok (nonemptyChanges (beforeRow.map fun cell =>
      ⟨table, segId, cell.1, offset, .delete, some cell.2, none, op.txnId⟩))
  | _ => .ok none

/-- A reader of the stream format, which the write path uses. -/
def ofStreams (formats : RowFormats Value) (scalarToBytes : Value → Except RockDuckError Bytes) :
    ChangeReader Value where
  tryNew bytes := match formats.ipcStreamToBatch bytes with
    | .ok batch => .ok (batch.map Prod.fst, [.ok batch])
    | .error error => .error error.display
  scalarToBytes := scalarToBytes

/-- The reader accepts nothing that the stream writer wrote. -/
def RejectsStreams (formats : RowFormats Value) : Prop :=
  ∀ batch bytes, formats.batchToIpcStream batch = .ok bytes →
    bytes ≠ [] ∧ ∃ error, reader.tryNew bytes = .error error

end ChangeReader

/-- A record as inserts, updates and deletes and the calls around them write
it. -/
def WalOp.Written {Value : Type*} (formats : RowFormats Value) (op : WalOp) : Prop :=
  match op.opType, op.payload with
  | .insert, .insert _ _ columns walBatch _ _ _ _ =>
    columns ≠ [] ∧ ∃ batch, formats.batchToIpcStream batch = .ok walBatch
  | .update, .update _ _ columns walBatch _ _ _ _ _ _ _ _ =>
    columns ≠ [] ∧ ∃ batch, formats.batchToIpcStream batch = .ok walBatch
  | .delete, .delete _ _ _ _ _ _ => True
  | .begin, .begin | .commit, .commit _ _ | .rollback, .rollback => True
  | _, _ => False

namespace ChangeReplay

variable {Value : Type*} {formats : RowFormats Value} {file : ChangeReader Value}

/-- A logged batch cannot be converted, and a deleted row is converted without
a reader. -/
lemma walOpToCellChange_written {op : WalOp} (rejects : file.RejectsStreams formats)
    (written : op.Written formats) (operation : op.opType.role = .operation) :
    ((∃ changes, file.walOpToCellChange op = .ok changes) ↔ op.opType = .delete) ∧
      (op.opType = .delete → ∀ reader : ChangeReader Value,
        reader.walOpToCellChange op = file.walOpToCellChange op) := by
  unfold WalOp.Written at written
  split at written
  · rename_i cols wal _ _ _ _ type payload
    obtain ⟨named, batch, encoded⟩ := written
    obtain ⟨ne, error, rejected⟩ := rejects batch _ encoded
    simp [ChangeReader.walOpToCellChange, payload, type, named, ne,
      ChangeReader.extractColumnValuesFromIpc, rejected, Except.map]
  · rename_i cols wal _ _ _ _ _ _ _ _ type payload
    obtain ⟨named, batch, encoded⟩ := written
    obtain ⟨-, error, rejected⟩ := rejects batch _ encoded
    simp [ChangeReader.walOpToCellChange, payload, type, named,
      ChangeReader.extractColumnValuesFromIpc, rejected, Except.map]
  · rename_i type payload
    simp [ChangeReader.walOpToCellChange, payload, type]
  all_goals simp_all [OpType.role]

/-- The changes can be read back from the log exactly when nothing but deletes
was committed: batches are logged as streams and read as files. -/
theorem replayWalSince_complete_iff (rejects : file.RejectsStreams formats) {log : List WalOp}
    (written : ∀ op ∈ log, op.Written formats) (since committed : TxnId) :
    (∃ batches, replayWalSince file.walOpToCellChange since committed log = .ok batches ∧
        ∀ op ∈ selected since committed log, ∀ changes,
          (ChangeReader.ofStreams formats file.scalarToBytes).walOpToCellChange op =
              .ok (some changes) →
            ∀ change ∈ changes, ∃ batch ∈ batches,
              batch.txnId = op.txnId ∧ change ∈ batch.changes) ↔
      ∀ op ∈ selected since committed log, op.opType = .delete := by
  have converts : ∀ op ∈ selected since committed log,
      ((∃ changes, file.walOpToCellChange op = .ok changes) ↔ op.opType = .delete) ∧
        (op.opType = .delete → ∀ reader : ChangeReader Value,
          reader.walOpToCellChange op = file.walOpToCellChange op) := by
    intro op mem
    obtain ⟨batch, chosen, member⟩ := mem_flatMap.mp mem
    obtain ⟨_, _, _, _, logged, operates, _⟩ := position_of_mem_committedBatches
      (List.mem_filter.mp chosen).1 member
    exact walOpToCellChange_written rejects (written op (mem_of_getElem? logged))
      (operates_iff.mp operates).2
  obtain ⟨scan, reads⟩ := @scanned_run file.walOpToCellChange since committed log
  constructor
  · rintro ⟨batches, read, -⟩ op mem
    refine (converts op mem).1.mp (reads.mp ?_ op mem)
    cases replayed : replayRecords file.walOpToCellChange since committed log with
    | error error => simp [replayWalSince, replayed, Except.map] at read
    | ok state => exact ⟨state, rfl⟩
  · intro deletes
    obtain ⟨state, replayed⟩ := reads.mpr fun op mem => (converts op mem).1.mpr (deletes op mem)
    have scanned := scan state replayed
    refine ⟨_, congrArg _ replayed, fun op mem changes made change member => ?_⟩
    rw [(converts op mem).2 (deletes op mem)] at made
    rw [← scanned.converted] at mem
    have inside : change ∈ state.txnOps.getD op.txnId [] := by
      rw [scanned.txnOps, mem_flatMap]
      refine ⟨op, List.mem_filter.mpr ⟨mem, by simp⟩, ?_⟩
      rwa [changesOf, made]
    rw [getD_eq_getD_getElem?] at inside
    cases found : state.txnOps[op.txnId]? with
    | none => simp [found] at inside
    | some all =>
      refine ⟨⟨op.txnId, all⟩, List.mem_map.mpr ⟨(op.txnId, all), ?_, rfl⟩, rfl, ?_⟩
      · rw [List.mem_filter, mem_toList_iff_getElem?_eq_some]
        exact ⟨found, scanned.committedTxns op mem⟩
      · simpa [found] using inside

/-- Arrow's reader of files, on streams. -/
def fileReader : ChangeReader UInt8 where
  tryNew _ := .error "Parser error: Arrow file does not contain correct footer"
  scalarToBytes value := .ok [value]

lemma fileReader_rejects : fileReader.RejectsStreams rowFormats := by
  intro batch bytes encoded
  refine ⟨?_, _, rfl⟩
  rintro rfl
  cases rowFormats.ipcStreamToBatch_batchToIpcStream encoded

def deleteAndCommit : List WalOp :=
  [⟨.delete, 2, .delete "t" [1] [("x", [7])] "seg_1" 0 0⟩, ⟨.commit, 2, .commit 0 none⟩]

theorem replayWalSince_deleteAndCommit :
    ∃ batches, replayWalSince fileReader.walOpToCellChange 0 2 deleteAndCommit = .ok batches := by
  have written : ∀ op ∈ deleteAndCommit, op.Written rowFormats := by
    simp [deleteAndCommit, WalOp.Written]
  obtain ⟨batches, read, -⟩ :=
    (replayWalSince_complete_iff fileReader_rejects written 0 2).mpr (by decide +kernel)
  exact ⟨batches, read⟩

theorem replayWalSince_insertAndCommit : (∀ op ∈ insertAndCommit, op.Written rowFormats) ∧
      replayWalSince fileReader.walOpToCellChange 0 1 insertAndCommit = .error (.internal
        "Arrow IPC reader: Parser error: Arrow file does not contain correct footer") := by
  refine ⟨?_, rfl⟩
  simp only [insertAndCommit, forall_mem_cons, not_mem_nil, false_implies, implies_true, and_true]
  exact ⟨⟨by simp, [("x", [7]), (createdTxnCol, [1]), (deletedTxnCol, [255])], rfl⟩, trivial⟩

end ChangeReplay

end RockDuck
