import Mathlib

/-!
# Numbers in fixed-width fields

A number is stored in a field of some bytes, least significant byte first, and
read back modulo what the field can hold.
-/

namespace RockDuck

/-- The lowest bytes of a number, least significant first. -/
def leBytes : Nat → Nat → List UInt8
  | 0, _ => []
  | width + 1, number => UInt8.ofNat number :: leBytes width (number / 256)

/-- A little-endian number of some bytes, if there are so many. -/
def readBytes : Nat → List UInt8 → Option Nat
  | 0, _ => some 0
  | _ + 1, [] => none
  | width + 1, byte :: bytes => (readBytes width bytes).map fun rest => byte.toNat + 256 * rest

variable (width number : Nat)

lemma readBytes_leBytes_append (rest) :
    readBytes width (leBytes width number ++ rest) = some (number % 256 ^ width) := by
  induction width generalizing number with
  | zero => simp [readBytes, Nat.mod_one]
  | succ width ih =>
    rw [leBytes, List.cons_append, readBytes, ih, Option.map_some,
      Nat.pow_succ, Nat.mul_comm _ 256, Nat.mod_mul]
    simp

@[simp]
lemma readBytes_leBytes : readBytes width (leBytes width number) = some (number % 256 ^ width) := by
  simpa using readBytes_leBytes_append width number []

@[simp]
lemma readBytes_nil {width} (wide : 0 < width) : readBytes width [] = none := by
  cases width with
  | zero => simp at wide
  | succ width => rfl

@[simp]
lemma length_leBytes : (leBytes width number).length = width := by
  induction width generalizing number with
  | zero => rfl
  | succ width ih => rw [leBytes, List.length_cons, ih]

lemma readBytes_append {width} {bytes : List UInt8} (enough : width ≤ bytes.length) (rest) :
    readBytes width (bytes ++ rest) = readBytes width bytes := by
  induction width generalizing bytes with
  | zero => rfl
  | succ width ih =>
    cases bytes with
    | nil => simp at enough
    | cons byte bytes =>
      rw [List.cons_append, readBytes, readBytes, ih (Nat.le_of_succ_le_succ enough)]

def readLe (width : Nat) (bytes : List UInt8) : Nat :=
  (readBytes width bytes).getD 0

lemma readLe_leBytes_append (rest) :
    readLe width (leBytes width number ++ rest) = number % 256 ^ width := by
  rw [readLe, readBytes_leBytes_append, Option.getD_some]

lemma readLe_append {width} {bytes : List UInt8} (enough : width ≤ bytes.length) (rest) :
    readLe width (bytes ++ rest) = readLe width bytes := by
  rw [readLe, readBytes_append enough, readLe]

lemma leBytes_add (first rest number : Nat) : leBytes (first + rest) number =
    leBytes first number ++ leBytes rest (number / 256 ^ first) := by
  induction first generalizing number with
  | zero => simp [leBytes]
  | succ first ih =>
    rw [Nat.add_right_comm, leBytes, ih, leBytes, List.cons_append, Nat.pow_succ,
      Nat.mul_comm, Nat.div_div_eq_div_mul]

lemma leBytes_mod : leBytes width (number % 256 ^ width) = leBytes width number := by
  induction width generalizing number with
  | zero => rfl
  | succ width ih =>
    have low : UInt8.ofNat (number % 256 ^ (width + 1)) = UInt8.ofNat number := by
      rw [← UInt8.toNat_inj]
      simp [Nat.pow_succ]
    rw [leBytes, leBytes, low, Nat.pow_succ, Nat.mul_comm, Nat.mod_mul_right_div_self, ih]

lemma leBytes_readLe {width} {bytes : List UInt8} (enough : width ≤ bytes.length) :
    leBytes width (readLe width bytes) = bytes.take width := by
  induction width generalizing bytes with
  | zero => rfl
  | succ width ih =>
    cases bytes with
    | nil => simp at enough
    | cons byte bytes =>
      have rest := ih (Nat.le_of_succ_le_succ enough)
      have read : readLe (width + 1) (byte :: bytes) = byte.toNat + 256 * readLe width bytes := by
        have held : (readBytes width bytes).isSome = true := by
          have whole := readBytes_leBytes_append width (readLe width bytes) (bytes.drop width)
          rw [rest, List.take_append_drop] at whole
          simp [whole]
        obtain ⟨number, held⟩ := Option.isSome_iff_exists.mp held
        simp [readLe, readBytes, held]
      have high : (byte.toNat + 256 * readLe width bytes) / 256 = readLe width bytes := by
        have := byte.toNat_lt
        omega
      rw [leBytes, read, high, rest, List.take_succ_cons]
      congr 1
      rw [← UInt8.toNat_inj]
      simp

instance countableString : Countable String := by
  have chars : Countable Char :=
    Function.Injective.countable (f := Char.toNat) fun _ _ same => Char.toNat_inj.mp same
  exact Function.Injective.countable (f := String.toList) fun _ _ same => String.toList_inj.mp same

/-- Values of which there are countably many can be numbered, from any of them
on. -/
lemma exists_injective_number [Countable Value] (first) :
    ∃ number : Value → Nat, Function.Injective number ∧ number first = 0 := by
  classical
  obtain ⟨code, injective⟩ := exists_injective_nat Value
  refine ⟨fun val => if val = first then 0 else code val + 1, ?_, by simp⟩
  intro left right same
  by_cases isLeft : left = first <;> by_cases isRight : right = first
  · rw [isLeft, isRight]
  · simp [isLeft, isRight] at same
  · simp [isLeft, isRight] at same
  · exact injective (by simpa [isLeft, isRight] using same)

end RockDuck
