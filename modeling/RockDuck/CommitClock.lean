import RockDuck.VisibilityRuns

/-!
# The clock behind the commit timestamps

A commit records what `current_timestamp_millis` gives: the time of the system
clock or, while the clock stands before the epoch, the last time that was
given.
-/

namespace RockDuck

open ManagerEvent List

/-- What the clock shows, if it can be read. -/
abbrev ClockReading := Option Nat

/-- The time in milliseconds, or the last one that could be read. -/
def currentTimestampMillis (lastValidTsMillis : Nat) : ClockReading → Nat
  | some millis => millis % 2 ^ 64
  | none => lastValidTsMillis

def lastGiven (lastValidTsMillis : Nat) (readings : List ClockReading) : Nat :=
  readings.foldl currentTimestampMillis lastValidTsMillis

/-- A reading of the clock, and whether its time becomes a commit timestamp. -/
structure ClockMark where
  reading : ClockReading
  recorded : Bool

namespace ClockMark

def lastGiven (start : Nat) (marks : List ClockMark) : Nat :=
  RockDuck.lastGiven start (marks.map reading)

variable (start : Nat)

@[simp]
lemma lastGiven_nil : lastGiven start [] = start := rfl

@[simp]
lemma lastGiven_cons (mark marks) :
    lastGiven start (mark :: marks) = lastGiven (currentTimestampMillis start mark.reading) marks :=
  rfl

/-- The commit timestamps of some readings. -/
def stamps (start : Nat) : List ClockMark → List Nat
  | [] => []
  | mark :: marks =>
    let given := currentTimestampMillis start mark.reading
    if mark.recorded then given :: stamps given marks else stamps given marks

lemma stamps_append (marks rest) : stamps start (marks ++ rest) =
      stamps start marks ++ stamps (lastGiven start marks) rest := by
  induction marks generalizing start with
  | nil => rfl
  | cons mark marks ih => cases recorded : mark.recorded <;> simp [stamps, recorded, ih]

lemma mem_stamps_iff {start stamp marks} : stamp ∈ stamps start marks ↔ ∃ before mark after,
      marks = before ++ mark :: after ∧ mark.recorded = true ∧
        stamp = lastGiven start (before ++ [mark]) := by
  induction marks generalizing start with
  | nil => simp [stamps]
  | cons mark marks ih =>
    have later : stamp ∈ stamps (currentTimestampMillis start mark.reading) marks ↔
        ∃ before other after,
          mark :: marks = mark :: before ++ other :: after ∧
            other.recorded = true ∧
            stamp = lastGiven start (mark :: before ++ [other]) := by
      rw [ih]
      simp
    constructor
    · intro among
      by_cases recorded : mark.recorded = true
      · simp only [stamps, recorded, if_true, mem_cons] at among
        rcases among with rfl | among
        · exact ⟨[], mark, marks, rfl, recorded, rfl⟩
        · obtain ⟨before, other, after, split, both⟩ := later.mp among
          exact ⟨mark :: before, other, after, split, both⟩
      · simp only [stamps, recorded] at among
        obtain ⟨before, other, after, split, both⟩ := later.mp among
        exact ⟨mark :: before, other, after, split, both⟩
    · rintro ⟨before, other, after, split, recorded, rfl⟩
      cases before with
      | nil =>
        obtain ⟨rfl, rfl⟩ := List.cons.inj split
        simp [stamps, recorded]
      | cons first before =>
        obtain ⟨rfl, rest⟩ := List.cons.inj split
        have among := later.mpr ⟨before, other, after, split, recorded, rfl⟩
        simp only [stamps]
        split
        · exact mem_cons_of_mem _ among
        · exact among

/-- No recorded reading is before an earlier one. -/
def NeverBack (start : Nat) (marks : List ClockMark) : Prop :=
  ∀ before first between second after,
    marks = before ++ first :: (between ++ second :: after) →
      first.recorded = true → second.recorded = true →
        lastGiven start (before ++ [first]) ≤
          lastGiven start (before ++ first :: (between ++ [second]))

lemma neverBack_cons_iff {start mark marks} :
    NeverBack start (mark :: marks) ↔ (mark.recorded = true → ∀ stamp ∈ stamps
        (currentTimestampMillis start mark.reading) marks, currentTimestampMillis start mark.reading
        ≤ stamp) ∧ NeverBack (currentTimestampMillis start mark.reading) marks := by
  constructor
  · intro holds
    refine ⟨fun recorded stamp mem => ?_, fun before first between second after
      split firstRecorded secondRecorded => ?_⟩
    · obtain ⟨between, second, after, rfl, secondRecorded, rfl⟩ := mem_stamps_iff.mp mem
      exact holds [] mark between second after rfl recorded secondRecorded
    · exact holds (mark :: before) first between second after
        (by rw [split, cons_append]) firstRecorded secondRecorded
  · rintro ⟨fromHere, later⟩ before first between second after split firstRecorded secondRecorded
    cases before with
    | nil =>
      obtain ⟨rfl, rfl⟩ := List.cons.inj split
      exact fromHere firstRecorded _ (mem_stamps_iff.mpr
        ⟨between, second, after, rfl, secondRecorded, rfl⟩)
    | cons other before =>
      obtain ⟨rfl, rest⟩ := List.cons.inj split
      exact later before first between second after rest firstRecorded secondRecorded

lemma pairwise_stamps_iff {start marks} :
    (stamps start marks).Pairwise (· ≤ ·) ↔ NeverBack start marks := by
  induction marks generalizing start with
  | nil => simp [stamps, NeverBack]
  | cons mark marks ih =>
    rw [neverBack_cons_iff, ← ih]
    cases recorded : mark.recorded <;> simp [stamps, recorded]

end ClockMark

/-- A manager and the last time its clock could be read. -/
structure ClockedManager where
  state : ManagerState
  lastValidTsMillis : Nat

/-- A call of the manager with the readings a commit takes, or a reading of the
clock somewhere else in the process. -/
inductive ClockedEvent where
  | manager (event : ManagerEvent) (commitReading pruneReading : ClockReading)
  | elsewhere (reading : ClockReading)

namespace ManagerEvent

/-- The event takes the time of the clock. -/
def readsClock (manager : VisibilityManager) : ManagerEvent → Bool
  | commitTxn txnId _ environment =>
    manager.activeTxns[txnId]?.any fun txnMeta =>
      (manager.detectConflict txnId txnMeta environment).isNone
  | _ => false

def withClock (commitTs pruneNow : Nat) : ManagerEvent → ManagerEvent
  | commitTxn txnId insertedAt environment =>
    commitTxn txnId insertedAt
      { environment with commitTs := commitTs, pruneNow := pruneNow }
  | event => event

end ManagerEvent

namespace ClockedManager

def commitTs (clocked : ClockedManager) (commitReading : ClockReading) : Nat :=
  currentTimestampMillis clocked.lastValidTsMillis commitReading

/-- What it gives when the history is pruned, after that. -/
def pruneNow (clocked : ClockedManager) (commitReading pruneReading : ClockReading) : Nat :=
  currentTimestampMillis (clocked.commitTs commitReading) pruneReading

end ClockedManager

/-- Runs of the manager with the readings of its clock. -/
def clockedMachine (start : ClockedManager) :
    Machine ClockedManager ClockedEvent ManagerAnswer where
  initial := start
  step clocked event :=
    match event with
    | .manager event commitReading pruneReading =>
      let now := clocked.pruneNow commitReading pruneReading
      let (state, answer) := (managerMachine start.state.2).step clocked.state
        (event.withClock (clocked.commitTs commitReading) now)
      ({ state := state
         lastValidTsMillis :=
          if event.readsClock clocked.state.1 then now
          else clocked.lastValidTsMillis }, answer)
    | .elsewhere reading =>
      ({ clocked with lastValidTsMillis :=
          currentTimestampMillis clocked.lastValidTsMillis reading }, .recorded)

namespace ClockedManager

variable (start : ClockedManager)

/-- The timestamp that an event records. -/
def recordedTs (clocked : ClockedManager) (event : ClockedEvent) : List Nat :=
  match event with
  | .manager _ commitReading _ =>
    if ((clockedMachine start).answer clocked event).isCommitOk then
      [clocked.commitTs commitReading]
    else []
  | .elsewhere _ => []

def clockMarks (clocked : ClockedManager) (event : ClockedEvent) : List ClockMark :=
  match event with
  | .manager call commitReading pruneReading =>
    if call.readsClock clocked.state.1 then
      [⟨commitReading, ((clockedMachine start).answer clocked event).isCommitOk⟩,
        ⟨pruneReading, false⟩]
    else []
  | .elsewhere reading => [⟨reading, false⟩]

lemma readsClock_of_isCommitOk (ok : ((clockedMachine start).answer clocked
      (.manager event commitReading pruneReading)).isCommitOk = true) :
    event.readsClock clocked.state.1 = true := by
  cases event with
  | commitTxn txnId insertedAt env =>
    simp only [Machine.answer, clockedMachine, managerMachine, ManagerEvent.withClock] at ok
    cases out : (clocked.state.1.commitTxn clocked.state.2 txnId insertedAt
        { env with
          commitTs := clocked.commitTs commitReading
          pruneNow := clocked.pruneNow commitReading pruneReading }).2 with
    | error error => simp [out, ManagerAnswer.isCommitOk] at ok
    | ok snap =>
      obtain ⟨info, active, passed, -⟩ := VisibilityManager.commitTxn_of_ok out
      -- The check does not depend on the clock.
      have unclocked : clocked.state.1.detectConflict txnId info env = none := passed
      simp [ManagerEvent.readsClock, active, unclocked]
  | beginTxn txnId fault | recordRead txnId key | recordWrite txnId key
  | rollbackTxn txnId fault =>
    simp [Machine.answer, clockedMachine, managerMachine, ManagerEvent.withClock,
      ManagerAnswer.isCommitOk] at ok

variable (clocked : ClockedManager)

lemma recordedTs_step (event) : recordedTs start clocked event =
        ClockMark.stamps clocked.lastValidTsMillis (clockMarks start clocked event) ∧
      ((clockedMachine start).next clocked event).lastValidTsMillis =
        ClockMark.lastGiven clocked.lastValidTsMillis (clockMarks start clocked event) := by
  cases event with
  | elsewhere reading => exact ⟨rfl, rfl⟩
  | manager event commitReading pruneReading =>
    by_cases reads : event.readsClock clocked.state.1 = true
    · refine ⟨?_, ?_⟩
      · simp only [recordedTs, clockMarks, reads, if_true, ClockMark.stamps]
        rfl
      · simp [clockMarks, reads, Machine.next, clockedMachine, pruneNow, commitTs]
    · have refused : ((clockedMachine start).answer clocked
          (.manager event commitReading pruneReading)).isCommitOk = false :=
        Bool.eq_false_iff.mpr fun ok => reads (readsClock_of_isCommitOk start ok)
      refine ⟨?_, ?_⟩
      · simp [recordedTs, clockMarks, reads, refused, ClockMark.stamps]
      · simp [clockMarks, reads, Machine.next, clockedMachine]

lemma collect_recordedTs (events) :
    (clockedMachine start).collectFrom (recordedTs start) clocked events =
      ClockMark.stamps clocked.lastValidTsMillis
        ((clockedMachine start).collectFrom (clockMarks start) clocked events) := by
  induction events generalizing clocked with
  | nil => rfl
  | cons event events ih =>
    obtain ⟨recorded, given⟩ := recordedTs_step start clocked event
    rw [Machine.collectFrom, Machine.collectFrom, ClockMark.stamps_append, ih, recorded, given]

end ClockedManager

/-- The recorded commit timestamps never decrease exactly when the clock never
goes back between two commits that succeed. -/
theorem commit_timestamps_monotone_iff (start : ClockedManager) (events : List ClockedEvent) :
    ((clockedMachine start).collect (ClockedManager.recordedTs start) events).Pairwise (· ≤ ·) ↔
      ClockMark.NeverBack start.lastValidTsMillis
        ((clockedMachine start).collect (ClockedManager.clockMarks start) events) := by
  rw [Machine.collect, ClockedManager.collect_recordedTs]
  exact ClockMark.pairwise_stamps_iff

/-- The clock is set back from 10 to 3 between two commits. -/
theorem later_commit_smaller_timestamp : (clockedMachine ⟨(.new, .empty), 0⟩).collect
        (ClockedManager.recordedTs ⟨(.new, .empty), 0⟩)
        [.manager (beginTxn 1 none) none none, .manager (beginTxn 2 none) none none,
          .manager (commitTxn 1 10 (.at 0)) (some 10) (some 10),
          .manager (commitTxn 2 3 (.at 0)) (some 3) (some 3)] = [10, 3] ∧
      ¬ [10, 3].Pairwise (· ≤ ·) := by
  decide +kernel

end RockDuck
