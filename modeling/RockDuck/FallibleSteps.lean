import Mathlib

/-!
# Steps that change a state and may fail

A fallible step returns the state it leaves together with its result.
-/

namespace RockDuck

open List

/-- Take the next step unless the attempt failed. -/
def andThen {State Error Value Result : Type*} (attempt : State × Except Error Value)
    (next : State → Value → State × Except Error Result) : State × Except Error Result :=
  match attempt with
  | (state, .error error) => (state, .error error)
  | (state, .ok value) => next state value

variable {State Error Value Result : Type*} {attempt : State × Except Error Value}
    {next : State → Value → State × Except Error Result}

lemma andThen_eq_ok {after res} :
    andThen attempt next = (after, .ok res) ↔ ∃ state val, attempt = (state, .ok val) ∧
        next state val = (after, .ok res) := by
  obtain ⟨state, out⟩ := attempt
  cases out with
  | error error | ok val => simp [andThen]

lemma andThen_assoc (attempt : State × Except Error Value)
    (next : State → Value → State × Except Error Result)
    (last : State → Result → State × Except Error Last) : andThen (andThen attempt next) last =
      andThen attempt fun state value => andThen (next state value) last := by
  obtain ⟨state, error | value⟩ := attempt <;> rfl

lemma andThen_fst_keeps (prop : State → Prop) (first : prop attempt.1)
    (rest : ∀ state val, prop state → prop (next state val).1) : prop (andThen attempt next).1 := by
  obtain ⟨state, out⟩ := attempt
  cases out with
  | error error => exact first
  | ok val => exact rest state val first

/-- Run the step on each item, until one fails. -/
def forEach {Item : Type*} (step : State → Item → State × Except Error Unit) :
    State → List Item → State × Except Error Unit
  | state, [] => (state, .ok ())
  | state, item :: items => andThen (step state item) fun state _ => forEach step state items

variable {Item : Type*} {items : List Item}

section

variable {step : State → Item → State × Except Error Unit} (prop : State → Prop)
    {state after : State}

lemma forEach_keeps
    (keeps : ∀ item ∈ items, ∀ before next, prop before → step before item = (next, .ok ()) →
      prop next) (ran : forEach step state items = (after, .ok ()))
    (holds : prop state) : prop after := by
  induction items generalizing state with
  | nil =>
    cases ran
    exact holds
  | cons item items ih =>
    obtain ⟨next, val, first, rest⟩ := andThen_eq_ok.mp ran
    exact ih (fun other mem => keeps other (mem_cons_of_mem _ mem))
      rest (keeps item mem_cons_self state next holds first)

lemma forEach_fst_keeps (keeps : ∀ item ∈ items, ∀ before, prop before → prop (step before item).1)
    (holds : prop state) : prop (forEach step state items).1 := by
  induction items generalizing state with
  | nil => exact holds
  | cons item items ih =>
    exact andThen_fst_keeps prop
      (keeps item mem_cons_self state holds) fun next _ kept =>
        ih (fun other mem => keeps other (mem_cons_of_mem _ mem))
          kept

lemma forEach_turns (awaiting prop : State → Prop) {front rest item}
    (awaits : ∀ other ∈ front, ∀ before next, awaiting before → step before other = (next, .ok ()) →
      awaiting next)
    (turns : ∀ before next, awaiting before → step before item = (next, .ok ()) → prop next)
    (keeps : ∀ other ∈ rest, ∀ before next, prop before → step before other = (next, .ok ()) →
      prop next) (ran : forEach step state (front ++ item :: rest) = (after, .ok ()))
    (holds : awaiting state) : prop after := by
  induction front generalizing state with
  | nil =>
    obtain ⟨next, val, first, later⟩ := andThen_eq_ok.mp ran
    exact forEach_keeps prop keeps later (turns state next holds first)
  | cons old front ih =>
    obtain ⟨next, val, first, later⟩ := andThen_eq_ok.mp ran
    exact ih (fun other mem => awaits other (mem_cons_of_mem _ mem))
      later (awaits old mem_cons_self state next holds first)

lemma forEach_establishes
    (establishes : ∀ before next, step before item = (next, .ok ()) → prop next)
    (keeps : ∀ other ∈ rest, ∀ before next, prop before → step before other = (next, .ok ()) →
      prop next) (ran : forEach step state (front ++ item :: rest) = (after, .ok ())) :
    prop after :=
  forEach_turns (fun _ => True) prop (fun _ _ _ _ _ _ => trivial)
    (fun before next _ => establishes before next) keeps ran trivial

lemma exists_forEach_eq_ok
    (each : ∀ item ∈ items, ∀ state, ∃ next, step state item = (next, .ok ())) (state) :
    ∃ after, forEach step state items = (after, .ok ()) := by
  induction items generalizing state with
  | nil => exact ⟨state, rfl⟩
  | cons item items ih =>
    obtain ⟨next, taken⟩ := each item mem_cons_self state
    obtain ⟨after, rest⟩ := ih (fun other mem => each other (mem_cons_of_mem _ mem)) next
    exact ⟨after, by rw [forEach, taken]; exact rest⟩

end

lemma mapM_eq_ok_iff {attempt : Item → Except Error Value}
    {values : List Value} : items.mapM attempt = .ok values ↔
      List.Forall₂ (fun item val => attempt item = .ok val) items values := by
  induction items generalizing values with
  | nil =>
    rw [forall₂_nil_left_iff]
    exact ⟨fun same => by cases same; rfl, fun same => by rw [same]; rfl⟩
  | cons item items ih =>
    rw [mapM_cons, forall₂_cons_left_iff]
    cases first : attempt item with
    | error error => simp [bind, Except.bind]
    | ok val =>
      cases rest : items.mapM attempt with
      | error error => simp [bind, Except.bind, ← ih, rest]
      | ok others => simp [bind, Except.bind, pure, Except.pure, ← ih, rest, eq_comm]

variable {Left Right : Type*} {lefts : List Left} {rights : List Right}

lemma exists_mem_of_forall₂ {related} (each : List.Forall₂ related lefts rights) {right}
    (mem : right ∈ rights) : ∃ left ∈ lefts, related left right := by
  induction each with
  | nil => simp at mem
  | cons first _ ih =>
    rcases mem_cons.mp mem with rfl | later
    · exact ⟨_, mem_cons_self, first⟩
    · obtain ⟨left, listed, holds⟩ := ih later
      exact ⟨left, mem_cons_of_mem _ listed, holds⟩

/-- What two relations say of the partner of an item. -/
lemma exists_partner_of_forall₂
    (each : List.Forall₂ first lefts rights) (also : List.Forall₂ second lefts rights)
    (mem : left ∈ lefts) : ∃ right ∈ rights, first left right ∧ second left right := by
  induction each with
  | nil => simp at mem
  | cons head _ ih =>
    obtain ⟨alsoHead, alsoRest⟩ := forall₂_cons.mp also
    rcases mem_cons.mp mem with rfl | later
    · exact ⟨_, mem_cons_self, head, alsoHead⟩
    · obtain ⟨right, listed, holds⟩ := ih alsoRest later
      exact ⟨right, mem_cons_of_mem _ listed, holds⟩

section

variable {attempt : Item → Except Error Value} {vals : List Value}
    (made : items.mapM attempt = .ok vals)
include made

lemma exists_mem_of_mapM_eq_ok {value} (mem : value ∈ vals) :
    ∃ item ∈ items, attempt item = .ok value :=
  exists_mem_of_forall₂ (mapM_eq_ok_iff.mp made) mem

lemma exists_value_of_mapM_eq_ok (mem : item ∈ items) : ∃ value ∈ vals, attempt item = .ok value :=
  exists_mem_of_forall₂ (mapM_eq_ok_iff.mp made).flip mem

end

lemma bind_eq_ok.{u, v} {Error : Type u} {Value Result : Type v} {attempt : Except Error Value}
    {next : Value → Except Error Result} {result : Result} : attempt >>= next = .ok result ↔
      ∃ val, attempt = .ok val ∧ next val = .ok result := by
  cases attempt with
  | error error | ok val => simp [bind, Except.bind]

lemma map_eq_ok {attempt : Except Error Value} {change : Value → Result} {result : Result} :
    attempt.map change = .ok result ↔ ∃ val, attempt = .ok val ∧ change val = result := by
  cases attempt with
  | error error | ok val => simp [Except.map]

lemma foldlM_establishes {step : State → Item → Except Error State}
    (invariant : List Item → State → Prop) {state after : State}
    (keeps : ∀ done item rest before next, items = done ++ item :: rest →
      invariant done before → step before item = .ok next → invariant (done ++
      [item]) next) (ran : items.foldlM step state = .ok after)
    (starts : invariant [] state) : invariant items after := by
  suffices from_here : ∀ (rest done : List Item) (before : State),
      items = done ++ rest → invariant done before →
      rest.foldlM step before = .ok after → invariant items after from
    from_here items [] state rfl starts ran
  intro rest
  induction rest with
  | nil =>
    intro done before whole holds ended
    cases ended
    rwa [whole, append_nil]
  | cons item rest ih =>
    intro done before whole holds continues
    rw [foldlM_cons, bind_eq_ok] at continues
    obtain ⟨next, taken, continues⟩ := continues
    exact ih (done ++ [item]) next (by rw [whole]; simp)
      (keeps done item rest before next whole holds taken) continues

end RockDuck
