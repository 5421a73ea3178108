import Mathlib

/-!
# Three-valued logic

Truth values with an unknown, written as optional Booleans, and their strong
connectives: a conjunction is false as soon as one operand is, and a
disjunction is true as soon as one operand is.
-/

namespace RockDuck

namespace ThreeValued

def and : Option Bool → Option Bool → Option Bool
  | some false, _ => some false
  | _, some false => some false
  | some true, some true => some true
  | _, _ => none

def or : Option Bool → Option Bool → Option Bool
  | some true, _ => some true
  | _, some true => some true
  | some false, some false => some false
  | _, _ => none

def not (value : Option Bool) : Option Bool :=
  value.map fun known => !known

/-- The operands on which the shortcuts below differ from `and` and `or`. -/
def Misjudged (left right : Option Bool) : Prop :=
  (left = some false ∧ right ≠ some false) ∨
    (left = none ∧ right = some false)

instance (left right : Option Bool) : Decidable (Misjudged left right) :=
  inferInstanceAs (Decidable (_ ∨ _))

section

variable (left right : Option Bool)

lemma bind_eq_and_iff : (left.bind fun _ => right) = and left right ↔ ¬ Misjudged left right := by
  revert left right
  decide

/-- Taking the first known value is disjunction outside the misjudged
operands. -/
lemma or_eq_or_iff : left.or right = or left right ↔ ¬ Misjudged left right := by
  revert left right
  decide

lemma and_eq_true_iff : and left right = some true ↔ left = some true ∧ right = some true := by
  revert left right
  decide

lemma or_eq_true_iff : or left right = some true ↔ left = some true ∨ right = some true := by
  revert left right
  decide

end

end ThreeValued

end RockDuck
