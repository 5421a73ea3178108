import Mathlib

/-!
# Pruning by ranges

A block of values is summarised by its least and its greatest element, and a
range of wanted values is compared with the two.
-/

namespace RockDuck

open List

variable {α β κ : Type*}

/-- Look for an item that passes a check.  A check that cannot be made ends the
search. -/
def scanUntil (check : α → Option Bool) : List α → Option Bool
  | [] => some false
  | item :: items =>
    match check item with
    | none => none
    | some true => some true
    | some false => scanUntil check items

lemma scanUntil_append (check : α → Option Bool) (old later : List α) :
    scanUntil check (old ++ later) =
      match scanUntil check old with
      | none => none
      | some true => some true
      | some false => scanUntil check later := by
  induction old with
  | nil => rfl
  | cons item items ih =>
    rw [cons_append, scanUntil, scanUntil]
    cases check item with
    | none => rfl
    | some passed =>
      cases passed with
      | true => rfl
      | false => exact ih

lemma scanUntil_map (check : β → Option Bool) (f : α → β) (items : List α) :
    scanUntil check (items.map f) = scanUntil (check ∘ f) items := by
  induction items with
  | nil => rfl
  | cons item items ih => simp [scanUntil, ih]

/-- A search whose checks are searches themselves is one long search. -/
lemma scanUntil_flatMap (check : β → Option Bool) (parts : α → List β) (items : List α) :
    scanUntil check (items.flatMap parts) =
      scanUntil (fun item => scanUntil check (parts item)) items := by
  induction items with
  | nil => rfl
  | cons item items ih => rw [flatMap_cons, scanUntil_append, scanUntil, ih]

lemma scanUntil_congr (same : ∀ item ∈ items, first item = second item) :
    scanUntil first items = scanUntil second items := by
  induction items with
  | nil => rfl
  | cons item items ih =>
    rw [scanUntil, scanUntil, same item (by simp), ih fun later mem => same later (by simp [mem])]

lemma scanUntil_eq_true_iff :
    scanUntil check items = some true ↔ ∃ old item later, items = old ++ item :: later ∧
        (∀ passed ∈ old, check passed = some false) ∧ check item = some true := by
  induction items with
  | nil => simp [scanUntil]
  | cons first items ih =>
    rw [scanUntil]
    constructor
    · intro found
      cases checked : check first with
      | none => simp [checked] at found
      | some passed =>
        cases passed with
        | true => exact ⟨[], first, items, rfl, by simp, checked⟩
        | false =>
          rw [checked] at found
          obtain ⟨old, item, later, split, failed, meets⟩ := ih.mp found
          refine ⟨first :: old, item, later, by simp [split], ?_, meets⟩
          simpa [checked] using failed
    · rintro ⟨old, item, later, split, failed, meets⟩
      cases old with
      | nil =>
        obtain ⟨rfl, rfl⟩ : first = item ∧ items = later := by simpa using split
        rw [meets]
      | cons other old =>
        obtain ⟨rfl, rest⟩ : first = other ∧ items = old ++ item :: later := by
          simpa using split
        rw [failed first (by simp)]
        exact ih.mpr ⟨old, item, later, rest,
          fun passed mem => failed passed (by simp [mem]), meets⟩

lemma scanUntil_eq_true_of_mem (checked : ∀ item ∈ items, check item ≠ none) {item : α}
    (member : item ∈ items) (meets : check item = some true) :
    scanUntil check items = some true := by
  induction items with
  | nil => simp at member
  | cons first items ih =>
    rw [scanUntil]
    cases answer : check first with
    | none => exact absurd answer (checked first (by simp))
    | some passed =>
      cases passed with
      | true => rfl
      | false =>
        have later : item ∈ items := by
          rcases mem_cons.mp member with rfl | later
          · rw [meets] at answer
            simp at answer
          · exact later
        exact ih (fun other mem => checked other (by simp [mem])) later

section Extremes

variable (lt : α → α → Bool)

/-- The least value so far, the earlier one of two that are alike. -/
def runningMin (values : List α) : Option α :=
  values.foldl (fun best value => some (best.elim value fun least =>
    if lt value least then value else least)) none

/-- The greatest value, as a loop finds it. -/
def runningMax (values : List α) : Option α :=
  values.foldl (fun best value => some (best.elim value fun greatest =>
    if lt greatest value then value else greatest)) none

end Extremes

/-- One of the values, with none before it. -/
def LeastOf (lt : α → α → Bool) (values : List α) (value : α) : Prop :=
  value ∈ values ∧ ∀ other ∈ values, lt other value = false

def GreatestOf (lt : α → α → Bool) (values : List α) (value : α) : Prop :=
  value ∈ values ∧ ∀ other ∈ values, lt value other = false

section Bounds

variable [LinearOrder κ] {lt : α → α → Bool} {key : α → κ}

private lemma foldl_runningMin {best least : α}
    (ordered : ∀ a ∈ best :: values, ∀ b ∈ best :: values, lt a b = decide (key a < key b))
    (found : values.foldl (fun best value => some (best.elim value fun least =>
      if lt value least then value else least)) (some best) = some least) :
    least ∈ best :: values ∧ ∀ value ∈ best :: values, key least ≤ key value := by
  induction values generalizing best with
  | nil =>
    obtain rfl : best = least := by simpa using found
    simp
  | cons value values ih =>
    have compared := ordered value (by simp) best (by simp)
    simp only [foldl_cons, Option.elim_some, compared, decide_eq_true_eq] at found
    split at found
    case isTrue smaller =>
        obtain ⟨mem, bound⟩ := ih (fun a ha b hb =>
          ordered a (mem_cons_of_mem _ ha) b (mem_cons_of_mem _ hb))
          found
        refine ⟨mem_cons_of_mem _ mem, ?_⟩
        intro other among
        rcases mem_cons.mp among with rfl | among
        · exact (bound value (by simp)).trans smaller.le
        · exact bound other among
    case isFalse larger =>
        have kept : ∀ a ∈ best :: values, a ∈ best :: value :: values := by simp +contextual
        obtain ⟨mem, bound⟩ := ih (fun a ha b hb => ordered a (kept a ha) b (kept b hb)) found
        refine ⟨kept least mem, ?_⟩
        intro other among
        rcases mem_cons.mp among with rfl | among
        · exact bound other (by simp)
        · rcases mem_cons.mp among with rfl | among
          · exact (bound best (by simp)).trans (not_lt.mp larger)
          · exact bound other (by simp [among])

lemma runningMin_bound (ordered : ∀ a ∈ vals, ∀ b ∈ vals, lt a b = decide (key a < key b))
    {least : α} (found : runningMin lt vals = some least) :
    least ∈ vals ∧ ∀ value ∈ vals, key least ≤ key value := by
  cases vals with
  | nil => simp [runningMin] at found
  | cons first vals => exact foldl_runningMin ordered found

lemma runningMax_eq_runningMin (lt : α → α → Bool) (values : List α) :
    runningMax lt values = runningMin (fun a b => lt b a) values :=
  rfl

lemma runningMax_bound {vals : List α}
    (ordered : ∀ a ∈ vals, ∀ b ∈ vals, lt a b = decide (key a < key b))
    {greatest : α} (found : runningMax lt vals = some greatest) :
    greatest ∈ vals ∧ ∀ val ∈ vals, key val ≤ key greatest := by
  rw [runningMax_eq_runningMin] at found
  have opposite : ∀ a ∈ vals, ∀ b ∈ vals, lt b a =
      decide (OrderDual.toDual (key a) < OrderDual.toDual (key b)) := by
    intro a ha b hb
    rw [ordered b hb a ha]
    rfl
  exact runningMin_bound (κ := κᵒᵈ) opposite found

end Bounds

variable (lt : α → α → Bool) {values : List α} {missing lower upper : Option α}

lemma exists_runningMin (ne : values ≠ []) : ∃ least, runningMin lt values = some least := by
  obtain ⟨initial, last, rfl⟩ := eq_nil_or_concat values |>.resolve_left ne
  simp [runningMin]

lemma runningMin_eq_none_iff {lt} : runningMin lt values = none ↔ values = [] := by
  constructor
  · intro none
    by_contra ne
    obtain ⟨least, found⟩ := exists_runningMin lt ne
    simp [none] at found
  · rintro rfl
    rfl

section Encoded

variable [LinearOrder κ] {lt : α → α → Bool} {key : α → κ}

lemma ordered_toDual (ordered : ∀ a b, lt a b = decide (key a < key b)) (a b : α) :
    lt b a = decide (OrderDual.toDual (key a) < OrderDual.toDual (key b)) :=
  ordered b a

lemma runningMin_eq_some_iff (ordered : ∀ a b, lt a b = decide (key a < key b))
    (injective : Function.Injective key) {least : α} : runningMin lt values = some least ↔
      least ∈ values ∧ ∀ value ∈ values, key least ≤ key value := by
  constructor
  · exact runningMin_bound fun a _ b _ => ordered a b
  · rintro ⟨mem, bound⟩
    obtain ⟨found, isFound⟩ := exists_runningMin lt (ne_nil_of_mem mem)
    obtain ⟨foundMember, foundBound⟩ := runningMin_bound (fun a _ b _ => ordered a b) isFound
    rw [isFound, injective (le_antisymm (foundBound least mem) (bound found foundMember))]

variable {encode : α → β}

section

variable (ordered : ∀ a b, lt a b = decide (key a < key b))
    (encodes : ∀ a b, key a = key b → encode a = encode b) {values : List α} {code : β}
include ordered encodes

lemma map_runningMin_eq_some_iff : (runningMin lt values).map encode = some code ↔
      ∃ least, LeastOf lt values least ∧ encode least = code := by
  rw [Option.map_eq_some_iff]
  constructor
  · rintro ⟨least, found, rfl⟩
    obtain ⟨member, bound⟩ := runningMin_bound (fun a _ b _ => ordered a b) found
    refine ⟨least, ⟨member, fun other mem => ?_⟩, rfl⟩
    simpa [ordered] using bound other mem
  · rintro ⟨least, ⟨member, bound⟩, rfl⟩
    obtain ⟨found, isFound⟩ := exists_runningMin lt (ne_nil_of_mem member)
    obtain ⟨foundMember, foundBound⟩ := runningMin_bound (fun a _ b _ => ordered a b) isFound
    have notBefore : key least ≤ key found := by simpa [ordered] using bound found foundMember
    exact ⟨found, isFound, encodes found least (le_antisymm (foundBound least member) notBefore)⟩

lemma map_runningMax_eq_some_iff : (runningMax lt values).map encode = some code ↔
      ∃ greatest, GreatestOf lt values greatest ∧ encode greatest = code := by
  exact map_runningMin_eq_some_iff (κ := κᵒᵈ) (ordered_toDual ordered) encodes

end

variable {ι : Type*} [LinearOrder ι] {encodedLt : β → β → Bool} {encodedKey : β → ι}
    {parts : List (List α)}

section

variable (encode : α → β) (ordered : ∀ a b, lt a b = decide (key a < key b))
    (encodedOrdered : ∀ a b, encodedLt a b = decide (encodedKey a < encodedKey b))
    (nonempty : parts.flatten ≠ [])
include ordered encodedOrdered nonempty

lemma exists_runningMin_encoded : ∃ val ∈ parts.flatten, runningMin encodedLt
      (parts.filterMap fun part => (runningMin lt part).map encode) = some (encode val) := by
  obtain ⟨part, mem, ne⟩ : ∃ part ∈ parts, part ≠ [] := by
    simpa [flatten_eq_nil_iff] using nonempty
  obtain ⟨least, isLeast⟩ := exists_runningMin lt ne
  have listed : encode least ∈ parts.filterMap fun part => (runningMin lt part).map encode :=
    mem_filterMap.mpr ⟨part, mem, by simp [isLeast]⟩
  obtain ⟨code, isCode⟩ := exists_runningMin encodedLt (ne_nil_of_mem listed)
  have member := (runningMin_bound (fun a _ b _ => encodedOrdered a b) isCode).1
  obtain ⟨home, amongParts, found⟩ := mem_filterMap.mp member
  obtain ⟨val, isValue, rfl⟩ := Option.map_eq_some_iff.mp found
  have inHome := (runningMin_bound (fun a _ b _ => ordered a b) isValue).1
  exact ⟨val, mem_flatten.mpr ⟨home, amongParts, inHome⟩, isCode⟩

lemma exists_runningMax_encoded : ∃ val ∈ parts.flatten, runningMax encodedLt
      (parts.filterMap fun part => (runningMax lt part).map encode) = some (encode val) := by
  exact exists_runningMin_encoded (κ := κᵒᵈ) (ι := ιᵒᵈ) encode (ordered_toDual ordered)
    (ordered_toDual encodedOrdered) nonempty

end

section

variable (ordered : ∀ a b, lt a b = decide (key a < key b))
    (encodedOrdered : ∀ a b, encodedLt a b = decide (encodedKey a < encodedKey b))
    (injective : Function.Injective encodedKey)
    (encodes : ∀ a b, key a = key b → encode a = encode b) (parts : List (List α))
include ordered encodedOrdered injective encodes

lemma runningMin_encoded_iff :
    runningMin encodedLt (parts.filterMap fun part => (runningMin lt part).map encode) =
        (runningMin lt parts.flatten).map encode ↔ ∀ part ∈ parts, ∀ least, LeastOf lt part least →
        ∀ whole, LeastOf lt parts.flatten whole →
          encodedLt (encode least) (encode whole) = false := by
  have minimum : ∀ part code, (runningMin lt part).map encode = some code ↔
      ∃ least, LeastOf lt part least ∧ encode least = code :=
    fun _ _ => map_runningMin_eq_some_iff ordered encodes
  cases found : (runningMin lt parts.flatten).map encode with
  | none =>
    have noMinimum : ∀ whole, ¬LeastOf lt parts.flatten whole := by
      intro whole isWhole
      have some := (minimum parts.flatten (encode whole)).mpr ⟨whole, isWhole, rfl⟩
      simp [found] at some
    have empty : parts.flatten = [] := runningMin_eq_none_iff.mp (Option.map_eq_none_iff.mp found)
    have noMinima : parts.filterMap (fun part => (runningMin lt part).map encode) = [] := by
      rw [filterMap_eq_nil_iff]
      intro part mem
      rw [flatten_eq_nil_iff.mp empty part mem]
      rfl
    rw [noMinima]
    simp [runningMin, noMinimum]
  | some code =>
    obtain ⟨whole, isWhole, rfl⟩ := (minimum parts.flatten code).mp found
    have unique : ∀ other, LeastOf lt parts.flatten other → encode other = encode whole := by
      intro other isOther
      have same := (minimum parts.flatten (encode other)).mpr ⟨other, isOther, rfl⟩
      simpa [found] using same.symm
    -- The part that holds the minimum has it as its own.
    obtain ⟨home, amongParts, inHome⟩ := mem_flatten.mp isWhole.1
    have ownMinimum : LeastOf lt home whole :=
      ⟨inHome, fun other mem => isWhole.2 other (mem_flatten.mpr ⟨home, amongParts, mem⟩)⟩
    have listed : encode whole ∈ parts.filterMap fun part => (runningMin lt part).map encode :=
      mem_filterMap.mpr ⟨home, amongParts, (minimum home _).mpr ⟨whole, ownMinimum, rfl⟩⟩
    rw [runningMin_eq_some_iff encodedOrdered injective, and_iff_right listed]
    constructor
    · intro all part mem least isLeast other isOther
      rw [unique other isOther, encodedOrdered, decide_eq_false_iff_not, not_lt]
      exact all _ (mem_filterMap.mpr ⟨part, mem, (minimum part _).mpr ⟨least, isLeast, rfl⟩⟩)
    · intro all code inCodes
      obtain ⟨part, mem, isMinimum⟩ := mem_filterMap.mp inCodes
      obtain ⟨least, isLeast, rfl⟩ := (minimum part code).mp isMinimum
      simpa [encodedOrdered] using all part mem least isLeast whole isWhole

lemma runningMax_encoded_iff :
    runningMax encodedLt (parts.filterMap fun part => (runningMax lt part).map encode) =
        (runningMax lt parts.flatten).map encode ↔
      ∀ part ∈ parts, ∀ greatest, GreatestOf lt part greatest →
        ∀ whole, GreatestOf lt parts.flatten whole →
          encodedLt (encode whole) (encode greatest) = false := by
  exact runningMin_encoded_iff (κ := κᵒᵈ) (ι := ιᵒᵈ) (ordered_toDual ordered)
    (ordered_toDual encodedOrdered) injective encodes parts

end

end Encoded

def extremes (lt : α → α → Bool) (values : List α) : Option (α × α) :=
  (runningMin lt values).bind fun least =>
    (runningMax lt values).map fun greatest => (least, greatest)

lemma exists_extremes (ne : values ≠ []) :
    ∃ least greatest, runningMin lt values = some least ∧ runningMax lt values = some greatest ∧
      extremes lt values = some (least, greatest) := by
  obtain ⟨least, isLeast⟩ := exists_runningMin lt ne
  obtain ⟨greatest, isGreatest⟩ := exists_runningMin (fun a b => lt b a) ne
  rw [← runningMax_eq_runningMin] at isGreatest
  exact ⟨least, greatest, isLeast, isGreatest, by
    simp [extremes, isLeast, isGreatest]⟩

/-- Whether a range meets the values between two extremes.  A bound that is not
there is replaced by `missing`, and without a replacement it cannot be compared;
the lower bound is looked at first. -/
def rangeMeets (lt : α → α → Bool) (missing lower upper : Option α) : Option (α × α) → Option Bool
  | none => some true
  | some (least, greatest) =>
    (lower.or missing).bind fun lower =>
      if lt greatest lower then some false
      else (upper.or missing).map fun upper => !lt upper least

lemma rangeMeets_ne_none {lt} {low high : α} (isLow : lower.or missing = some low)
    (isHigh : upper.or missing = some high) (bounds) :
    rangeMeets lt missing lower upper bounds ≠ none := by
  cases bounds with
  | none => simp [rangeMeets]
  | some bounds =>
    rw [rangeMeets, isLow, isHigh]
    cases below : lt bounds.2 low <;> simp [below]

lemma rangeMeets_of_mem [LinearOrder κ] (key : α → κ)
    (ordered : ∀ a ∈ values, ∀ b ∈ values, lt a b = decide (key a < key b)) {val : α}
    (mem : val ∈ values) {low high : α} (isLow : lower.or missing = some low)
    (isHigh : upper.or missing = some high)
    (aboveLow : ∀ other, key val ≤ key other → lt other low = false)
    (belowHigh : ∀ other, key other ≤ key val → lt high other = false) :
    rangeMeets lt missing lower upper (extremes lt values) = some true := by
  obtain ⟨least, greatest, isLeast, isGreatest, both⟩ := exists_extremes lt (ne_nil_of_mem mem)
  have above := (runningMax_bound ordered isGreatest).2 val mem
  have below := (runningMin_bound ordered isLeast).2 val mem
  simp [both, rangeMeets, isLow, isHigh, aboveLow greatest above, belowHigh least below]

end RockDuck
