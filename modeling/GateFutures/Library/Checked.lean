/-
This file develops signed arithmetic in a fixed number of bits, in which overflow is noticed.

A computation leaves a value, computed modulo a power of two, and says whether an operation on the
way overflowed. What a computation ensures is that none did, and a condition on its value. The
rules below reduce this to integers.
-/

import Mathlib.Algebra.Order.Ring.Int

namespace GateFutures.Library

/-! ### Ranges -/

/-- A number that a signed integer of this width can have. -/
def InRange (width : ℕ) (number : ℤ) : Prop :=
  -2 ^ (width - 1) ≤ number ∧ number < 2 ^ (width - 1)

instance (width : ℕ) (number : ℤ) : Decidable (InRange width number) :=
  inferInstanceAs (Decidable (_ ∧ _))

/-! ### Computations -/

/-- The value a computation leaves, and whether an operation on the way overflowed. -/
structure Checked (Value : Type) where
  value : Value
  overflowed : Bool

namespace Checked

variable {Value Other : Type} {width : ℕ}

instance : Monad Checked where
  pure value := ⟨value, false⟩
  bind first later :=
    ⟨(later first.value).value, first.overflowed || (later first.value).overflowed⟩

/-- Signed addition. -/
def add (first second : BitVec width) : Checked (BitVec width) :=
  ⟨first + second, first.saddOverflow second⟩

/-- Signed subtraction. -/
def sub (first second : BitVec width) : Checked (BitVec width) :=
  ⟨first - second, first.ssubOverflow second⟩

/-- Signed multiplication. -/
def mul (first second : BitVec width) : Checked (BitVec width) :=
  ⟨first * second, first.smulOverflow second⟩

/-- No operation overflows, and the value meets a condition. -/
def Ensures (computation : Checked Value) (condition : Value → Prop) : Prop :=
  computation.overflowed = false ∧ condition computation.value

/-- An operation on the way overflowed: nothing is said of the value. -/
inductive Overflow
  | overflow

/-- The value, unless an operation on the way overflowed. -/
def run (computation : Checked Value) : Except Overflow Value :=
  if computation.overflowed then .error .overflow else .ok computation.value

/-! ### Rules -/

theorem run_ok {computation : Checked Value} {value : Value} :
    computation.run = .ok value ↔ computation.Ensures (· = value) := by
  rw [run, Ensures]
  cases computation.overflowed with
  | false =>
    exact ⟨fun same => ⟨rfl, Except.ok.inj same⟩, fun ensures => congrArg Except.ok ensures.2⟩
  | true => exact ⟨nofun, nofun⟩

theorem ensures_pure (value : Value) (condition : Value → Prop) :
    (pure value : Checked Value).Ensures condition ↔ condition value :=
  and_iff_right rfl

/-- A sequence leaves what its second part leaves, whatever the first left. -/
theorem value_of_forall (condition : Value → Prop) (first : Checked Other)
    (later : Other → Checked Value) (each : ∀ value, condition (later value).value) :
    condition (first >>= later).value := each first.value

/-- A sequence ensures what its second part ensures of the value of the first. -/
theorem ensures_bind (first : Checked Value) (later : Value → Checked Other)
    (condition : Other → Prop) :
    (first >>= later).Ensures condition ↔
      first.Ensures fun value => (later value).Ensures condition := by
  show (first.overflowed || (later first.value).overflowed) = false ∧ _ ↔ _
  rw [Bool.or_eq_false_iff, and_assoc]
  rfl

theorem Ensures.imp {computation : Checked Value} {first second : Value → Prop}
    (ensures : computation.Ensures first) (implies : ∀ value, first value → second value) :
    computation.Ensures second :=
  ⟨ensures.1, implies _ ensures.2⟩

/-- An operation that overflows exactly if its number is out of range, and has that number as its
value otherwise. -/
theorem ensures_operation {operation : Checked (BitVec width)} {number : ℤ}
    (overflows : operation.overflowed =
      (decide (number ≥ 2 ^ (width - 1)) || decide (number < -2 ^ (width - 1))))
    (exact : ¬ operation.overflowed → operation.value.toInt = number) (condition : ℤ → Prop) :
    (operation.Ensures fun value => condition value.toInt) ↔
      InRange width number ∧ condition number := by
  have inRange : operation.overflowed = false ↔ InRange width number := by
    rw [overflows, Bool.or_eq_false_iff, decide_eq_false_iff_not, decide_eq_false_iff_not, not_le,
      not_lt]
    exact and_comm
  rw [Ensures, inRange]
  refine and_congr_right fun within => ?_
  rw [exact (ne_true_of_eq_false (inRange.mpr within))]

theorem ensures_add (first second : BitVec width) (condition : ℤ → Prop) :
    ((add first second).Ensures fun value => condition value.toInt) ↔
      InRange width (first.toInt + second.toInt) ∧ condition (first.toInt + second.toInt) :=
  ensures_operation rfl BitVec.toInt_add_of_not_saddOverflow condition

theorem ensures_sub (first second : BitVec width) (condition : ℤ → Prop) :
    ((sub first second).Ensures fun value => condition value.toInt) ↔
      InRange width (first.toInt - second.toInt) ∧ condition (first.toInt - second.toInt) :=
  ensures_operation rfl BitVec.toInt_sub_of_not_ssubOverflow condition

theorem ensures_mul (first second : BitVec width) (condition : ℤ → Prop) :
    ((mul first second).Ensures fun value => condition value.toInt) ↔
      InRange width (first.toInt * second.toInt) ∧ condition (first.toInt * second.toInt) :=
  ensures_operation rfl BitVec.toInt_mul_of_not_smulOverflow condition

end Checked

/-! ### The larger of two values -/

/-- The larger of two signed integers. -/
def signedMax {width : ℕ} (first second : BitVec width) : BitVec width :=
  if first.slt second then second else first

@[simp]
theorem toInt_signedMax {width : ℕ} (first second : BitVec width) :
    (signedMax first second).toInt = max first.toInt second.toInt := by
  rw [signedMax]
  split
  next less => exact (max_eq_right (BitVec.slt_iff_toInt_lt.mp less).le).symm
  next notLess => exact (max_eq_left (not_lt.mp (mt BitVec.slt_iff_toInt_lt.mpr notLess))).symm

end GateFutures.Library
