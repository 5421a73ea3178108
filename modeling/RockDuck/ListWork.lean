import RockDuck.FallibleSteps

/-!
# Fallible work on lists

Items are chosen by a test that may fail, passed through two stages, or worked
on slice by slice.
-/

namespace RockDuck

open List

variable {Item Value Error : Type*}

/-- Filter by a test that may fail. -/
def chooseM (test : Item → Except Error Bool) : List Item → Except Error (List Item)
  | [] => .ok []
  | item :: items =>
    match test item with
    | .error error => .error error
    | .ok chosen => (chooseM test items).map fun rest => if chosen then item :: rest else rest

variable {test : Item → Except Error Bool} {items chosen : List Item}

lemma chooseM_cons_eq_ok (made : chooseM test (first :: items) = .ok chosen) :
    ∃ passes rest, test first = .ok passes ∧ chooseM test items = .ok rest ∧
      chosen = if passes then first :: rest else rest := by
  rw [chooseM] at made
  cases tested : test first with
  | error error => simp [tested] at made
  | ok passes =>
    cases others : chooseM test items with
    | error error => simp [tested, others, Except.map] at made
    | ok rest =>
      simp only [tested, others, Except.map, Except.ok.injEq] at made
      exact ⟨passes, rest, rfl, rfl, made.symm⟩

lemma exists_test_of_chooseM (made : chooseM test items = .ok chosen) (mem : item ∈ items) :
    ∃ passes, test item = .ok passes := by
  induction items generalizing chosen with
  | nil => simp at mem
  | cons first items ih =>
    obtain ⟨passes, rest, tested, others, -⟩ := chooseM_cons_eq_ok made
    rcases mem_cons.mp mem with rfl | later
    · exact ⟨passes, tested⟩
    · exact ih others later

lemma sublist_of_chooseM (made : chooseM test items = .ok chosen) : chosen.Sublist items := by
  induction items generalizing chosen with
  | nil =>
    cases made
    exact List.Sublist.refl _
  | cons first items ih =>
    obtain ⟨passes, rest, -, others, rfl⟩ := chooseM_cons_eq_ok made
    cases passes with
    | true => exact (ih others).cons_cons first
    | false => exact (ih others).cons first

lemma mem_chooseM_iff (made : chooseM test items = .ok chosen) :
    item ∈ chosen ↔ item ∈ items ∧ test item = .ok true := by
  induction items generalizing chosen with
  | nil =>
    cases made
    simp
  | cons first items ih =>
    obtain ⟨passes, rest, tested, others, rfl⟩ := chooseM_cons_eq_ok made
    cases passes with
    | true =>
      rw [if_pos rfl, mem_cons, mem_cons, ih others]
      constructor
      · rintro (rfl | ⟨among, passed⟩)
        · exact ⟨Or.inl rfl, tested⟩
        · exact ⟨Or.inr among, passed⟩
      · rintro ⟨rfl | among, passed⟩
        · exact Or.inl rfl
        · exact Or.inr ⟨among, passed⟩
    | false =>
      rw [if_neg (by simp), mem_cons, ih others]
      refine and_congr_left fun passed => ⟨Or.inr, ?_⟩
      rintro (rfl | among)
      · rw [tested] at passed
        cases passed
      · exact among

lemma exists_mapM_eq_ok_iff {attempt : Item → Except Error Value} :
    (∃ vals, items.mapM attempt = .ok vals) ↔
      ∀ item ∈ items, ∃ value, attempt item = .ok value := by
  constructor
  · rintro ⟨vals, made⟩ item mem
    obtain ⟨value, -, found⟩ := exists_value_of_mapM_eq_ok made mem
    exact ⟨value, found⟩
  · intro each
    induction items with
    | nil => exact ⟨[], rfl⟩
    | cons item items ih =>
      obtain ⟨value, found⟩ := each item mem_cons_self
      obtain ⟨vals, made⟩ := ih fun other mem => each other (mem_cons_of_mem _ mem)
      exact ⟨value :: vals, by rw [mapM_cons, found, made]; rfl⟩

lemma mapM_flatten_mapM_iff.{u} {Value Result : Type u} {first : Item → Except Error (List Value)}
    {second : Value → Except Error Result} {items : List Item} {results : List Result} :
    (∃ lists, items.mapM first = .ok lists ∧ lists.flatten.mapM second = .ok results) ↔
      ∃ parts, items.mapM (fun item => do (← first item).mapM second) =
        .ok parts ∧ parts.flatten = results := by
  induction items generalizing results with
  | nil =>
    constructor
    · rintro ⟨lists, made, staged⟩
      cases made
      cases staged
      exact ⟨[], rfl, rfl⟩
    · rintro ⟨parts, made, rfl⟩
      cases made
      exact ⟨[], rfl, rfl⟩
  | cons item items ih =>
    simp only [mapM_cons, bind_eq_ok]
    constructor
    · rintro ⟨lists, ⟨vals, made, rest, others, same⟩, staged⟩
      cases same
      rw [flatten_cons, mapM_append, bind_eq_ok] at staged
      obtain ⟨front, frontStaged, staged⟩ := staged
      obtain ⟨back, backStaged, same⟩ := bind_eq_ok.mp staged
      cases same
      obtain ⟨parts, restMade, rfl⟩ := ih.mp ⟨rest, others, backStaged⟩
      exact ⟨front :: parts, ⟨front, ⟨vals, made, frontStaged⟩, parts, restMade, rfl⟩, rfl⟩
    · rintro ⟨all, ⟨front, ⟨vals, made, frontStaged⟩, parts, restMade, same⟩, rfl⟩
      cases same
      obtain ⟨rest, others, backStaged⟩ := ih.mpr ⟨parts, restMade, rfl⟩
      refine ⟨vals :: rest, ⟨vals, made, rest, others, rfl⟩, ?_⟩
      rw [flatten_cons, mapM_append, frontStaged, flatten_cons]
      exact bind_eq_ok.mpr ⟨front, rfl, bind_eq_ok.mpr ⟨_, backStaged, rfl⟩⟩

/-- The items in slices of a size. -/
def slices (size : Nat) (items : List Item) : List (List Item) :=
  (List.range ((items.length + size - 1) / size)).map fun index =>
    (items.drop (index * size)).take size

/-- Work on the slices until told to stop. -/
def workInSlices (work : Item → Except Error Value) (stops : Nat → Bool) :
    Nat → List (List Item) → Except Error (List Value)
  | _, [] => .ok []
  | number, slice :: rest =>
    match slice.mapM work with
    | .error error => .error error
    | .ok values =>
      if stops number then .ok values
      else (workInSlices work stops (number + 1) rest).map (values ++ ·)

/-- The place comes after a slice that stopped. -/
def CutOff (size : Nat) (stops : Nat → Bool) (index : Nat) : Prop :=
  ∃ number, (number + 1) * size ≤ index ∧ stops number = true

section

variable (work : Item → Except Error Value) (stops : Nat → Bool)

lemma exists_workInSlices_from (items : List Item) (count num : Nat)
    (all : items.length ≤ (num + count) * size) : ∃ reached,
      workInSlices work stops num ((List.range' num count).map fun idx =>
          (items.drop (idx * size)).take size) =
        ((items.drop (num * size)).take reached).mapM work ∧
      ∀ idx < items.length, num * size ≤ idx → (idx < num * size + reached ↔
          ¬ ∃ later, num ≤ later ∧ (later + 1) * size ≤ idx ∧ stops later = true) := by
  induction count generalizing num with
  | zero =>
    refine ⟨0, by rw [take_zero]; rfl, ?_⟩
    intro idx mem onward
    rw [Nat.add_zero] at all
    omega
  | succ count ih =>
    obtain ⟨reached, rest, cut⟩ := ih (num + 1)
      (by rw [Nat.add_right_comm, Nat.add_assoc]; exact all)
    have next : (num + 1) * size = num * size + size := Nat.succ_mul _ _
    rw [range'_succ, map_cons, workInSlices]
    by_cases stopped : stops num = true
    · refine ⟨size, ?_, ?_⟩
      · cases (items.drop (num * size)).take size |>.mapM work <;>
          simp [stopped]
      · intro idx mem onward
        constructor
        · rintro before ⟨later, since, passed, -⟩
          have := Nat.mul_le_mul_right size (Nat.succ_le_succ since)
          simp only [Nat.succ_eq_add_one] at this
          omega
        · intro uncut
          by_contra after
          exact uncut ⟨num, le_rfl, by omega, stopped⟩
    · refine ⟨size + reached, ?_, ?_⟩
      · rw [rest, take_add, mapM_append, drop_drop, next]
        cases (items.drop (num * size)).take size |>.mapM work with
        | error error => rfl
        | ok vals =>
          simp only [stopped]
          cases (items.drop (num * size + size)).take reached |>.mapM work <;>
            rfl
      · intro idx mem onward
        by_cases later : (num + 1) * size ≤ idx
        · rw [← Nat.add_assoc, ← next, cut idx mem later]
          refine not_congr ⟨?_, ?_⟩
          · rintro ⟨slice, since, passed⟩
            exact ⟨slice, by omega, passed⟩
          · rintro ⟨slice, since, passed, stop⟩
            refine ⟨slice, ?_, passed, stop⟩
            rcases since.eq_or_lt with rfl | further
            · exact absurd stop stopped
            · exact further
        · refine iff_of_true (by omega) ?_
          rintro ⟨slice, since, passed, -⟩
          have := Nat.mul_le_mul_right size (Nat.succ_le_succ since)
          simp only [Nat.succ_eq_add_one] at this
          omega

lemma exists_workInSlices_eq (pos : 0 < size) (items) :
    ∃ reached, workInSlices work stops 0 (slices size items) = (items.take reached).mapM work ∧
      ∀ index < items.length, index < reached ↔ ¬ CutOff size stops index := by
  have all : items.length ≤ (0 + (items.length + size - 1) / size) * size := by
    have := Nat.div_add_mod (items.length + size - 1) size
    have := Nat.mod_lt (items.length + size - 1) pos
    rw [Nat.zero_add, Nat.mul_comm]
    omega
  obtain ⟨reached, worked, cut⟩ := exists_workInSlices_from work stops items _ 0 all
  refine ⟨reached, ?_, ?_⟩
  · rw [slices, range_eq_range', worked]
    simp
  · intro index mem
    simpa [CutOff] using cut index mem (by simp)

end

end RockDuck
