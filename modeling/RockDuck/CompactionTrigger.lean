import Mathlib

/-!
# Triggering compactions

A call checks that its segment is not being merged, notes that it is, and asks
the scheduler for a task, with the steps of other calls in between.  The scheduler runs the tasks
on a compactor of its own, which has its own notes.
-/

namespace RockDuck

open List Function

/-- The segments noted as merging, by the compactor that is called and by the one of the scheduler,
the calls in progress and the tasks in flight.  A call has its segment and whether it has noted
it. -/
structure NonBlockingCompactor where
  merging : String → Bool
  executorMerging : String → Bool
  calls : Nat → Option (String × Bool)
  tasks : List String

/-- A step of a call, or the end of a task. -/
inductive TriggerStep where
  | check (call : Nat) (segId : String) (belowThreshold : Bool)
  | note (call : Nat)
  | enqueue (call : Nat) (admitted : Bool)
  | complete (segId : String) (merged : Bool)

namespace NonBlockingCompactor

def new : NonBlockingCompactor := ⟨fun _ => false, fun _ => false, fun _ => none, []⟩

/-- A rejected call takes its note back.  A merge that ends removes the segment from the notes of
the scheduler's compactor, a query-driven task from none. -/
def step (state : NonBlockingCompactor) : TriggerStep → NonBlockingCompactor
  | .check call segId belowThreshold =>
    if state.calls call ≠ none ∨ state.merging segId ∨ belowThreshold then state
    else { state with calls := update state.calls call (some (segId, false)) }
  | .note call =>
    match state.calls call with
    | some (segId, false) =>
      { state with
        merging := update state.merging segId true
        calls := update state.calls call (some (segId, true)) }
    | _ => state
  | .enqueue call admitted =>
    match state.calls call with
    | some (segId, true) =>
      { state with
        calls := update state.calls call none
        merging := update state.merging segId (admitted && state.merging segId)
        tasks := if admitted then segId :: state.tasks else state.tasks }
    | _ => state
  | .complete segId merged =>
    if segId ∈ state.tasks then
      { state with
        executorMerging :=
          update state.executorMerging segId (state.executorMerging segId && !merged)
        tasks := state.tasks.erase segId }
    else state

def run (steps : List TriggerStep) : NonBlockingCompactor :=
  steps.foldl step new

/-- A check finds no other call for its segment that has yet to note it. -/
def Clear (state : NonBlockingCompactor) : TriggerStep → Prop
  | .check _ segId _ => ∀ call, state.calls call ≠ some (segId, false)
  | _ => True

/-- The checks of the steps are clear, one after the other. -/
def Apart (state : NonBlockingCompactor) : List TriggerStep → Prop
  | [] => True
  | event :: steps => state.Clear event ∧ (state.step event).Apart steps

/-- No segment has two tasks, and what the calls have to do with that. -/
structure Exclusive (state : NonBlockingCompactor) : Prop where
  nodup : state.tasks.Nodup
  tasks : ∀ segId ∈ state.tasks, state.merging segId
  calls : ∀ call segId noted, state.calls call = some (segId, noted) →
    segId ∉ state.tasks ∧ (noted → state.merging segId)
  apart : ∀ call other segId noted noted', state.calls call = some (segId, noted) →
    state.calls other = some (segId, noted') → call = other

lemma Exclusive.step (exclusive : Exclusive state) (clear : state.Clear event) :
    Exclusive (state.step event) := by
  obtain ⟨nodup, tasks, calls, apart⟩ := id exclusive
  -- A step that does nothing keeps the state; the others change one entry of each map.
  cases event <;> dsimp only [NonBlockingCompactor.step] <;> split
  case check.isFalse => constructor <;> grind [update_apply, Clear]
  case h_1 | h_1 => constructor <;> grind [update_apply]
  case complete.isTrue => constructor <;> grind [update_apply, Nodup.mem_erase_iff, Nodup.erase]
  all_goals exact exclusive

/-- Calls for a segment that do not overlap start one task for it at a time. -/
theorem nodup_tasks_of_apart (steps : List TriggerStep) (apart : new.Apart steps) :
    (run steps).tasks.Nodup := by
  have start : Exclusive new := by constructor <;> simp [new]
  unfold run
  generalize new = state at apart start
  induction steps generalizing state with
  | nil => exact start.nodup
  | cons event steps ih => exact ih _ apart.2 (start.step apart.1)

theorem nodup_tasks_after_complete :
    (run [.check 0 "a" false, .note 0, .enqueue 0 true, .complete "a" true,
      .check 1 "a" false, .note 1, .enqueue 1 true]).tasks.Nodup :=
  nodup_tasks_of_apart _ (by simp [Apart, Clear, step, new])

theorem two_checks_two_tasks :
    ¬ (run [.check 0 "a" false, .check 1 "a" false, .note 0, .note 1, .enqueue 0 true,
      .enqueue 1 true]).tasks.Nodup := by
  decide +kernel

/-- The segment is noted, and no call for it is in progress. -/
structure Settled (state : NonBlockingCompactor) (segId : String) : Prop where
  merging : state.merging segId
  calls : ∀ call noted, state.calls call ≠ some (segId, noted)

/-- No step takes the note back or puts a further task in flight. -/
lemma Settled.step (settled : Settled state segId) (event) :
    Settled (state.step event) segId ∧
      (state.step event).tasks.count segId ≤ state.tasks.count segId := by
  cases event with
  | check call other below =>
    dsimp only [NonBlockingCompactor.step]
    split
    · exact ⟨settled, le_rfl⟩
    · next passed =>
        have differ : other ≠ segId := by
          rintro rfl
          simp [settled.merging] at passed
        refine ⟨⟨settled.merging, fun caller noted => ?_⟩, le_rfl⟩
        grind [update_apply, settled.calls caller noted]
  | note call =>
    dsimp only [NonBlockingCompactor.step]
    split
    · next other called =>
        have differ : other ≠ segId := fun same => settled.calls call false (same ▸ called)
        refine ⟨⟨?_, fun caller noted => ?_⟩, le_rfl⟩
        · simpa [differ.symm] using settled.merging
        · grind [update_apply, settled.calls caller noted]
    · exact ⟨settled, le_rfl⟩
  | enqueue call admitted =>
    dsimp only [NonBlockingCompactor.step]
    split
    · next other called =>
        have differ : other ≠ segId := fun same => settled.calls call true (same ▸ called)
        refine ⟨⟨?_, fun caller noted => ?_⟩, ?_⟩
        · simpa [differ.symm] using settled.merging
        · grind [update_apply, settled.calls caller noted]
        · cases admitted <;> simp [differ]
    · exact ⟨settled, le_rfl⟩
  | complete other merged =>
    dsimp only [NonBlockingCompactor.step]
    split
    · exact ⟨⟨settled.merging, settled.calls⟩, (erase_sublist ..).count_le segId⟩
    · exact ⟨settled, le_rfl⟩

/-- A segment that is noted when no call for it is in progress stays noted, and no further task
for it is put in flight, whatever became of the one it was noted for. -/
theorem noted_for_good (steps later : List TriggerStep) (segId : String)
    (settled : (run steps).Settled segId) :
    (run (steps ++ later)).Settled segId ∧
      (run (steps ++ later)).tasks.count segId ≤ (run steps).tasks.count segId := by
  rw [show run (steps ++ later) = later.foldl NonBlockingCompactor.step (run steps) from
    foldl_append]
  generalize run steps = state at settled
  induction later generalizing state with
  | nil => exact ⟨settled, le_rfl⟩
  | cons event later ih =>
    obtain ⟨still, fewer⟩ := settled.step event
    obtain ⟨stays, bound⟩ := ih _ still
    exact ⟨stays, bound.trans fewer⟩

/-- After a merge of the segment a new call for it starts no task. -/
theorem noted_for_good_merged :
    (run [.check 0 "a" false, .note 0, .enqueue 0 true, .complete "a" true,
      .check 1 "a" false, .note 1, .enqueue 1 true]).tasks.count "a" ≤ 0 := by
  have settled : (run [.check 0 "a" false, .note 0, .enqueue 0 true,
      .complete "a" true]).Settled "a" :=
    ⟨by decide +kernel, by simp [run, step, new]⟩
  exact (noted_for_good _ [.check 1 "a" false, .note 1, .enqueue 1 true] _ settled).2

end NonBlockingCompactor

end RockDuck
