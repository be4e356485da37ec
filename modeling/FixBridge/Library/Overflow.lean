import Mathlib.Algebra.Group.Int.Defs

/-! Signed 64-bit arithmetic that remembers whether it ever left its range. -/

/-- A 64-bit result: the value that two's complement leaves, and whether a step overflowed. -/
structure Tracked where
  /-- The value, which is only meaningful when no step overflowed. -/
  value : Int64
  /-- Whether the exact result of some step did not fit. -/
  overflow : Bool
  deriving DecidableEq, Repr

namespace Tracked

/-- A value that no arithmetic has touched. -/
def exact (value : Int64) : Tracked :=
  ⟨value, false⟩

/-- A signed product. -/
def mul (first second : Tracked) : Tracked where
  value := first.value * second.value
  overflow := first.overflow || second.overflow ||
    first.value.toBitVec.smulOverflow second.value.toBitVec

/-- A signed difference. -/
def sub (first second : Tracked) : Tracked where
  value := first.value - second.value
  overflow := first.overflow || second.overflow ||
    first.value.toBitVec.ssubOverflow second.value.toBitVec

/-- Whether an integer is a value of the signed 64-bit type. -/
def Fits (number : Int) : Prop :=
  -2 ^ 63 ≤ number ∧ number < 2 ^ 63

/-- An untouched value has not overflowed. -/
@[simp] theorem overflow_exact (value : Int64) : (exact value).overflow = false :=
  rfl

/-- An untouched value is itself. -/
@[simp] theorem value_exact (value : Int64) : (exact value).value = value :=
  rfl

/-- A product stays in range when its factors did and the exact product fits. -/
theorem overflow_mul {first second : Tracked} : (first.mul second).overflow = false ↔
    first.overflow = false ∧ second.overflow = false ∧
      Fits (first.value.toInt * second.value.toInt) := by
  simp only [mul, Fits, BitVec.smulOverflow, Bool.or_eq_false_iff, decide_eq_false_iff_not,
    Int64.toInt_toBitVec, and_assoc]
  -- The operands are tracked alike on both sides, which leaves the bounds of the product.
  refine and_congr_right fun _ => and_congr_right fun _ => ?_
  omega

/-- A difference stays in range when its terms did and the exact difference fits. -/
theorem overflow_sub {first second : Tracked} : (first.sub second).overflow = false ↔
    first.overflow = false ∧ second.overflow = false ∧
      Fits (first.value.toInt - second.value.toInt) := by
  simp only [sub, Fits, BitVec.ssubOverflow, Bool.or_eq_false_iff, decide_eq_false_iff_not,
    Int64.toInt_toBitVec, and_assoc]
  -- The operands are tracked alike on both sides, which leaves the bounds of the difference.
  refine and_congr_right fun _ => and_congr_right fun _ => ?_
  omega

/-- A product in range is the exact one. -/
theorem toInt_mul {first second : Tracked} (inRange : (first.mul second).overflow = false) :
    (first.mul second).value.toInt = first.value.toInt * second.value.toInt := by
  -- The flag of the result keeps the overflow of this step and of both operands.
  simp only [mul, Bool.or_eq_false_iff] at inRange
  exact BitVec.toInt_mul_of_not_smulOverflow (by simp [inRange.2])

/-- A difference in range is the exact one. -/
theorem toInt_sub {first second : Tracked} (inRange : (first.sub second).overflow = false) :
    (first.sub second).value.toInt = first.value.toInt - second.value.toInt := by
  -- The flag of the result keeps the overflow of this step and of both operands.
  simp only [sub, Bool.or_eq_false_iff] at inRange
  exact BitVec.toInt_sub_of_not_ssubOverflow (by simp [inRange.2])

end Tracked
