import Mathlib.Algebra.Order.Field.Rat
import Mathlib.Tactic.Linarith
import Mathlib.Tactic.NormNum
import RootFinding.Bisection

/-!
# Exact arithmetic

The rational numbers are an `Arithmetic` that rounds nothing, and so is every other
ordered field.  In it, every number has one of three signs, `larger` is the maximum, and
the computed midpoint and half width of a bracket are those of the interval.
-/

namespace RootFinding

/-- The rational numbers, without rounding. -/
instance : Arithmetic ℚ where
  abs x := |x|
  ltDecidable := inferInstance
  leDecidable := inferInstance

/-- Every ordered field, without rounding. -/
instance (priority := low) Arithmetic.ofField
    (K : Type) [Field K] [LinearOrder K] : Arithmetic K where
  abs x := |x|
  ltDecidable := inferInstance
  leDecidable := inferInstance

/-- Natural numbers are exact in every ordered field. -/
@[simp] theorem Arithmetic.ofNat_eq_natCast
    {K : Type} [Field K] [LinearOrder K] [IsStrictOrderedRing K]
    (n : Nat) :
    (Arithmetic.ofNat n : K) = n := by
  rw [Arithmetic.ofNat]
  exact (NNRatCast.ofScientific_eq_ite n false 0).trans (by simp)

@[simp] theorem Arithmetic.larger_eq_max (x y : ℚ) : Arithmetic.larger x y = max x y := by
  unfold Arithmetic.larger
  split
  case isTrue less => exact (max_eq_right less.le).symm
  case isFalse notLess =>
    rw [if_pos (beq_self_eq_true x), max_eq_left (not_lt.mp notLess)]

/-! ## Signs -/

theorem sign_of_lt_zero
    {x : ℚ}
    (negative : x < 0) :
    sign x = -1 :=
  sign_of_neg (by norm_num [negative])

theorem sign_of_zero_lt
    {x : ℚ}
    (positive : 0 < x) :
    sign x = 1 := by
  rw [sign, if_neg (by norm_num [positive.le]), if_pos (by norm_num [positive])]

@[simp] theorem sign_zero : sign (0 : ℚ) = 0 :=
  sign_of_not_lt (by norm_num) (by norm_num)

/-- Only zero has the sign `0`. -/
theorem sign_eq_zero_iff (x : ℚ) : sign x = 0 ↔ x = 0 := by
  rcases lt_trichotomy x 0 with negative | rfl | positive
  · simp [sign_of_lt_zero negative, negative.ne]
  · simp [sign_zero]
  · simp [sign_of_zero_lt positive, positive.ne']

theorem sign_le_zero_iff (x : ℚ) : sign x ≤ 0 ↔ x ≤ 0 := by
  rcases lt_trichotomy x 0 with negative | rfl | positive
  · simp [sign_of_lt_zero negative, negative.le]
  · simp [sign_zero]
  · simp [sign_of_zero_lt positive, positive]

/-! ## Brackets -/

namespace Bracket

@[simp] theorem midpoint_eq (bracket : Bracket ℚ) :
    bracket.midpoint = (bracket.lower + bracket.upper) / 2 := by
  unfold midpoint
  norm_num

@[simp] theorem halfWidth_eq (bracket : Bracket ℚ) :
    bracket.halfWidth = (bracket.upper - bracket.lower) / 2 := by
  unfold halfWidth
  norm_num

end Bracket
end RootFinding
