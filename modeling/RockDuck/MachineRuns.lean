import Mathlib

/-!
# Runs of an event-driven machine

A machine consumes a list of events, answering each one with an outcome.
-/

namespace RockDuck

/-- A state machine with outcomes. -/
structure Machine (State Event Outcome : Type*) where
  initial : State
  step : State → Event → State × Outcome

namespace Machine

variable {State Event Outcome : Type*} (machine : Machine State Event Outcome)

def next (state : State) (event : Event) : State :=
  (machine.step state event).1

def answer (state : State) (event : Event) : Outcome :=
  (machine.step state event).2

/-- The state after some events. -/
def stateAfter (events : List Event) : State :=
  events.foldl machine.next machine.initial

/-- The state before the event at an index. -/
def stateAt (events : List Event) (index : Nat) : State :=
  machine.stateAfter (events.take index)

def traceFrom : State → List Event → List (Event × Outcome)
  | _, [] => []
  | state, event :: events =>
    (event, machine.answer state event) ::
      traceFrom (machine.next state event) events

/-- The events with their outcomes. -/
def trace (events : List Event) : List (Event × Outcome) :=
  machine.traceFrom machine.initial events

/-- What the steps of a run from a state on give off, in order. -/
def collectFrom {Item : Type*} (given : State → Event → List Item) : State → List Event → List Item
  | _, [] => []
  | state, event :: events =>
    given state event ++ collectFrom given (machine.next state event) events

/-- What the events give, put together. -/
def collect {Item : Type*} (given : State → Event → List Item) (events : List Event) : List Item :=
  machine.collectFrom given machine.initial events

/-- Fold over the trace. -/
def observe {Note : Type*} (note : Note → Event × Outcome → Note)
    (start : Note) (events : List Event) : Note :=
  (machine.trace events).foldl note start

@[simp]
lemma stateAfter_concat (events event) :
    machine.stateAfter (events ++ [event]) = machine.next (machine.stateAfter events) event := by
  simp [stateAfter]

variable {index : Nat} (invariant : State → Prop)

lemma stateAt_of_length_le (events : List Event) (beyond : events.length ≤ index) :
    machine.stateAt events index = machine.stateAfter events := by
  rw [stateAt, List.take_of_length_le beyond]

variable {events : List Event}

lemma stateAt_succ (atIndex : events[index]? = some event) :
    machine.stateAt events (index + 1) = machine.next (machine.stateAt events index) event := by
  rw [stateAt, List.take_add_one, atIndex]
  simp [stateAt]

lemma stateAt_succ_of_none (beyond : events[index]? = none) :
    machine.stateAt events (index + 1) = machine.stateAt events index := by
  simp [stateAt, List.take_add_one, beyond]

private lemma traceFrom_concat (state events event) :
    machine.traceFrom state (events ++ [event]) = machine.traceFrom state events ++
        [(event, machine.answer (events.foldl machine.next state) event)] := by
  induction events generalizing state with
  | nil => rfl
  | cons first events ih => simp [traceFrom, ih]

@[simp]
lemma trace_nil : machine.trace [] = [] := rfl

@[simp]
lemma trace_concat (events event) : machine.trace (events ++ [event]) =
      machine.trace events ++ [(event, machine.answer (machine.stateAfter events) event)] :=
  machine.traceFrom_concat machine.initial events event

private lemma traceFrom_getElem? (state events) (index : Nat) :
    (machine.traceFrom state events)[index]? = events[index]?.map fun event =>
        (event, machine.answer ((events.take index).foldl machine.next state) event) := by
  induction events generalizing state index with
  | nil => simp [traceFrom]
  | cons first events ih =>
    cases index with
    | zero => simp [traceFrom]
    | succ index => simp [traceFrom, ih]

lemma trace_getElem? (events) (index : Nat) : (machine.trace events)[index]? =
      events[index]?.map fun event =>
        (event, machine.answer (machine.stateAt events index) event) :=
  machine.traceFrom_getElem? machine.initial events index

private lemma collectFrom_concat
    (given : State → Event → List Item) (state : State) (events : List Event) (event : Event) :
    machine.collectFrom given state (events ++ [event]) = machine.collectFrom given state events ++
        given (events.foldl machine.next state) event := by
  induction events generalizing state with
  | nil => simp [collectFrom]
  | cons first events ih => simp [collectFrom, ih]

@[simp]
lemma collect_nil (given : State → Event → List Item) : machine.collect given [] = [] :=
  rfl

@[simp]
lemma collect_concat (given : State → Event → List Item)
    (events : List Event) (event : Event) : machine.collect given (events ++ [event]) =
      machine.collect given events ++ given (machine.stateAfter events) event :=
  machine.collectFrom_concat given machine.initial events event

lemma observe_inStep {Note : Type*} {note : Note → Event × Outcome → Note}
    {start : Note} {admissible : Event → Prop} {inStep : State → Note → Prop}
    (initially : inStep machine.initial start)
    (keeps : ∀ state noted event, admissible event → inStep state noted →
      inStep (machine.next state event) (note noted (event, machine.answer state event)))
    (events) (allowed : ∀ event ∈ events, admissible event) :
    inStep (machine.stateAfter events) (machine.observe note start events) := by
  induction events using List.reverseRecOn with
  | nil => exact initially
  | append_singleton events event ih =>
    have before := ih fun old mem => allowed old (by simp [mem])
    have after := keeps _ _ event (allowed event (by simp)) before
    simpa [observe] using after

lemma stateInvariant (start : invariant machine.initial)
    (advance : ∀ state event, invariant state → invariant (machine.next state event))
    (events) : invariant (machine.stateAfter events) := by
  induction events using List.reverseRecOn with
  | nil => exact start
  | append_singleton events event ih =>
    rw [stateAfter_concat]
    exact advance _ event ih

lemma stateAt_persists (prop : State → Prop) (ordered : start ≤ stop)
    (holds : prop (machine.stateAt events start))
    (keeps : ∀ index event, start ≤ index → index < stop → events[index]? = some event → prop
      (machine.stateAt events index) → prop (machine.next (machine.stateAt events index) event)) :
    prop (machine.stateAt events stop) := by
  induction stop, ordered using Nat.le_induction with
  | base => exact holds
  | succ index startLe ih =>
    have before := ih fun pos event afterStart beforeIndex =>
      keeps pos event afterStart (by omega)
    cases found : events[index]? with
    | none =>
      rw [stateAt_succ_of_none machine found]
      exact before
    | some event =>
      rw [stateAt_succ machine found]
      exact keeps index event startLe (by omega) found before

lemma stateInvariant_of_allowed (allowed : State → Event → Prop) (start : invariant machine.initial)
    (advance : ∀ state event, allowed state event → invariant state → invariant (machine.next state
      event)) (events : List Event)
    (each : ∀ index event, events[index]? = some event → allowed (machine.stateAt events index)
      event) : invariant (machine.stateAfter events) := by
  rw [← machine.stateAt_of_length_le events le_rfl]
  refine machine.stateAt_persists invariant (Nat.zero_le _) start ?_
  intro index event _ _ found before
  exact advance _ event (each index event found) before

end Machine

end RockDuck
