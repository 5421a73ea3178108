import RockDuck.WalRecords

/-!
# The writer of the write-ahead log

Records appended without durability wait in the buffer of the writer; commits
grouped for one flush wait in a queue in front of it.
-/

namespace RockDuck

/-- When the log is synced. -/
inductive SyncPolicy where
  | syncEach
  | groupCommitStrict
  | flushOnly
  deriving DecidableEq

/-- How an append with durability ends.  Under group commit the append may
also return on the success of an earlier flush, with its own record still
queued. -/
inductive DurableOutcome where
  | synced
  | deferred
  | appendFailed (reason : String)
  | flushFailed (reason : String)

/-- The log: its file, buffer and queue. -/
structure WriteAheadLog where
  enabled : Bool
  policy : SyncPolicy
  file : List WalOp
  buffer : List WalOp
  queue : List WalOp

namespace WriteAheadLog

def new (enabled : Bool) (policy : SyncPolicy) : WriteAheadLog where
  enabled := enabled
  policy := policy
  file := []
  buffer := []
  queue := []

/-- Append to the buffer. -/
def append (wal : WriteAheadLog) (op : WalOp) (fault : Option String) :
    WriteAheadLog × Except RockDuckError Unit :=
  if !wal.enabled then (wal, .ok ())
  else
    match fault with
    | some reason => (wal, .error (.write s!"WAL append: {reason}"))
    | none => ({ wal with buffer := wal.buffer ++ [op] }, .ok ())

/-- Append and sync. -/
def appendAndSync (wal : WriteAheadLog) (op : WalOp) :
    DurableOutcome → WriteAheadLog × Except RockDuckError Unit
  | .appendFailed reason => (wal, .error (.write s!"WAL append: {reason}"))
  | .flushFailed reason =>
    ({ wal with buffer := wal.buffer ++ [op] },
      .error (.write s!"WAL flush_and_sync: {reason}"))
  | .synced | .deferred =>
    ({ wal with file := wal.file ++ (wal.buffer ++ [op]), buffer := [] }, .ok ())

/-- Write out the queue. -/
def flushBatch (wal : WriteAheadLog) : DurableOutcome → WriteAheadLog
  | .synced =>
    { wal with
      file := wal.file ++ (wal.buffer ++ wal.queue)
      buffer := []
      queue := [] }
  | .deferred => wal
  | .appendFailed _ => wal
  | .flushFailed _ => { wal with buffer := wal.buffer ++ wal.queue }

/-- Queue a record and wait for the flush. -/
def queueAndWait (wal : WriteAheadLog) (op : WalOp)
    (outcome : DurableOutcome) : WriteAheadLog × Except RockDuckError Unit :=
  let queued := { wal with queue := wal.queue ++ [op] }
  (queued.flushBatch outcome,
    match outcome with
    | .synced | .deferred => .ok ()
    | .appendFailed _ | .flushFailed _ => .error (.write
        "GroupCommitStrict: WAL flush failed, data may not be durable"))

/-- Append durably, as the policy asks. -/
def appendDurable (wal : WriteAheadLog) (op : WalOp)
    (outcome : DurableOutcome) : WriteAheadLog × Except RockDuckError Unit :=
  if !wal.enabled && decide (op.opType ≠ .commit) then (wal, .ok ())
  else
    match wal.policy with
    | .syncEach | .flushOnly => wal.appendAndSync op outcome
    | .groupCommitStrict => wal.queueAndWait op outcome

/-- A checkpoint flushes the writer with its own record and drops the oldest
records of the file. -/
def checkpoint (wal : WriteAheadLog) (checkpointId dropped : Nat) : WriteAheadLog :=
  let op : WalOp := ⟨.checkpoint, 0, .checkpoint checkpointId⟩
  { wal with
    file := (wal.file ++ (wal.buffer ++ [op])).drop dropped
    buffer := [] }

/-- The file after a crash. -/
def crashImage (wal : WriteAheadLog) (written : Nat) : List WalOp :=
  wal.file ++ wal.buffer.take written

/-- Nothing that is in the file, or on its way there, gets lost. -/
structure Keeps (before after : WriteAheadLog) : Prop where
  file : ∀ op ∈ before.file, op ∈ after.file
  queue : ∀ op ∈ before.queue, op ∈ after.file ∨ op ∈ after.queue

namespace Keeps

lemma refl (wal) : Keeps wal wal :=
  ⟨fun _ mem => mem, fun _ mem => Or.inr mem⟩

lemma trans (old : Keeps first second) (later : Keeps second third) : Keeps first third where
  file op member := later.file op (old.file op member)
  queue op member :=
    (old.queue op member).elim (fun inFile => Or.inl (later.file op inFile))
      (later.queue op)

end Keeps

lemma append_keeps (wal op fault) : Keeps wal (wal.append op fault).1 := by
  unfold append
  split
  · exact Keeps.refl wal
  · split <;>
      exact ⟨fun _ mem => mem, fun _ mem => Or.inr mem⟩

lemma flushBatch_keeps (wal out) : Keeps wal (wal.flushBatch out) := by
  cases out with
  | synced =>
    exact ⟨fun _ mem => List.mem_append_left _ mem,
      fun _ mem => Or.inl
        (List.mem_append_right _ (List.mem_append_right _ mem))⟩
  | deferred | appendFailed reason => exact Keeps.refl wal
  | flushFailed reason => exact ⟨fun _ mem => mem, fun _ mem => Or.inr mem⟩

section

variable (wal : WriteAheadLog) (op : WalOp) (out : DurableOutcome)

lemma queueAndWait_keeps : Keeps wal (wal.queueAndWait op out).1 := by
  have queued : Keeps wal { wal with queue := wal.queue ++ [op] } :=
    ⟨fun _ mem => mem, fun _ mem => Or.inr (List.mem_append_left _ mem)⟩
  exact queued.trans (flushBatch_keeps _ out)

lemma appendAndSync_keeps : Keeps wal (wal.appendAndSync op out).1 := by
  cases out with
  | synced | deferred =>
    exact ⟨fun _ mem => List.mem_append_left _ mem, fun _ mem => Or.inr mem⟩
  | appendFailed reason => exact Keeps.refl wal
  | flushFailed reason => exact ⟨fun _ mem => mem, fun _ mem => Or.inr mem⟩

lemma appendDurable_keeps : Keeps wal (wal.appendDurable op out).1 := by
  unfold appendDurable
  split
  · exact Keeps.refl wal
  · split
    · exact appendAndSync_keeps wal op out
    · exact appendAndSync_keeps wal op out
    · exact queueAndWait_keeps wal op out

end

lemma mem_of_appendDurable_ok {wal : WriteAheadLog} {op : WalOp} (committed : op.opType = .commit)
    (ok : (wal.appendDurable op out).2 = .ok ()) : op ∈ (wal.appendDurable op out).1.file ∨
      op ∈ (wal.appendDurable op out).1.queue := by
  have logged : (!wal.enabled && decide (op.opType ≠ .commit)) = false := by simp [committed]
  unfold appendDurable at ok ⊢
  simp only [logged, Bool.false_eq_true, if_false] at ok ⊢
  split
  · cases out <;> simp_all [appendAndSync]
  · cases out <;> simp_all [appendAndSync]
  · exact (flushBatch_keeps _ out).queue op (by simp)

lemma appendDurable_error {wal : WriteAheadLog}
    (failed : (wal.appendDurable op out).2 = .error error) : ∃ message, error = .write message := by
  unfold appendDurable at failed
  split at failed
  · cases failed
  · split at failed <;> cases out <;>
      simp [appendAndSync, queueAndWait] at failed <;> exact ⟨_, failed.symm⟩

end WriteAheadLog

end RockDuck
