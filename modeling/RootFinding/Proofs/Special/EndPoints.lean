import RootFinding.Proofs.FloatingPoint.Mirror
import RootFinding.Proofs.Special.HalfSteps
import RootFinding.Proofs.Special.Parameters
import RootFinding.Special.Beta

/-!
# The incomplete beta function at the end points

At the ends of the unit interval, the factor in front of the fraction is zero, and the
loop runs at the argument zero.  All terms of the fraction are multiples of the argument.
As long as what the argument is multiplied by is finite, they are zeros and leave the
fraction at one (`evaluate_eq_one`), and the function is exactly zero or one.

The second term of the first pair multiplies the argument by `-(a + 1) * (a + b + 1)`.  If
this product is too large for the format, then that term is NaN, and so is the function,
whichever way the threshold decides (`isNaN_of_unbounded`).  The first product that
overflows is this one: if `a + b` does, then so does its second factor.  It takes
extremely large parameters (`IsParameter.isFinite_product`).
-/

namespace RootFinding

open FloatingPoint BinaryFormat PackedFormat RoundedFormat Unpacked
open Float.Model (Format UnpackedFloat)

namespace BetaFraction

/-- The state of the loop that no term has changed. -/
def unit : Convergent Float :=
  ⟨1.0, 1.0, 1.0, 1.0⟩

theorem append_unit
    {term : Float}
    (zero : (term == 0.0) = true) :
    unit.append Special.betaBasis.smallest term = unit := by
  rcases eq_or_eq_of_beq_zero zero with rfl | rfl <;>
    (rw [Convergent.append, unit, Convergent.mk.injEq]; decide +kernel)

theorem first_eq_unit
    {x a b : Float}
    (zero : (firstTerm x a b == 0.0) = true) :
    first Special.betaBasis.smallest x a b = unit := by
  rw [first, unit, Convergent.mk.injEq]
  rcases eq_or_eq_of_beq_zero zero with term_eq | term_eq <;>
    (rw [term_eq]; decide +kernel)

section Terms

variable {x a b : Float}

/-- A product is as large as that with a negative. -/
theorem isFinite_neg_mul (x y : Float) : isFinite (-x * y) = isFinite (x * y) := by
  have isFinite_neg (number : UnpackedFloat) : number.neg.isFinite = number.isFinite := by
    cases number <;> rfl
  rw [Bool.eq_iff_iff, isFinite_iff_unpack, isFinite_iff_unpack, unpack_mul, unpack_mul,
    SignedFormat.unpack_neg_eq, Unpacked.product_comm, mul_neg_right, repack_neg,
    isFinite_neg, Unpacked.product_comm]

/-- If the first product of the second term of the first pair is too large, then what the
loop returns is NaN. -/
theorem isNaN_of_unbounded
    (unbounded : isFinite ((a + 1.0) * (a + b + 1.0)) = false)
    {value : Float}
    (returned : evaluate Special.betaBasis.smallest x a b = some value) :
    isNaN value = true := by
  have finite : isFinite Special.betaBasis.smallest = true := by decide +kernel
  have term : isFinite (oddTerm x a b (Arithmetic.ofNat 1)) = false := by
    have index_eq : (Arithmetic.ofNat 1 : Float) = 1.0 := by decide +kernel
    rw [← isFinite_neg_mul, Bool.eq_false_iff] at unbounded
    rw [index_eq, Bool.eq_false_iff]
    exact fun finite => unbounded (isFinite_of_mul (isFinite_of_div finite)).1
  exact isNaN_of_evaluate (Convergent.isNaN_append_of_term finite _ term) returned

/-- If it is not, then all terms of the first pair are zeros, and the loop returns one. -/
theorem evaluate_eq_one
    (zero : (x == 0.0) = true)
    (parameter : IsParameter a)
    (parameter' : IsParameter b)
    (finite : isFinite ((a + 1.0) * (a + b + 1.0)) = true) :
    evaluate Special.betaBasis.smallest x a b = some 1.0 := by
  have index_eq : (Arithmetic.ofNat 1 : Float) = 1.0 := by decide +kernel
  have twice_eq : (2.0 : Float) * 1.0 = 2.0 := by decide +kernel
  have sum : isFinite (a + b) = true := (isFinite_of_add (isFinite_of_mul finite).2).1
  have first_zero : (firstTerm x a b == 0.0) = true :=
    IsParameter.zero_div_beq (mul_zero_beq sum zero) parameter.atLeast_add_one one_pos
  have even_zero : (evenTerm x a b (Arithmetic.ofNat 1) == 0.0) = true := by
    rw [index_eq, evenTerm, twice_eq]
    exact IsParameter.zero_div_beq (mul_zero_beq parameter'.finite_sub_one zero)
      parameter.atLeast_even one_pos
  have odd_zero : (oddTerm x a b (Arithmetic.ofNat 1) == 0.0) = true := by
    rw [index_eq, oddTerm, twice_eq]
    rw [← isFinite_neg_mul] at finite
    exact IsParameter.zero_div_beq (mul_zero_beq finite zero) parameter.atLeast_odd one_pos
  have convergent_eq : convergent Special.betaBasis.smallest x a b 1 = unit := by
    change (first Special.betaBasis.smallest x a b).appendPair _ x a b 1 = unit
    rw [first_eq_unit first_zero, Convergent.appendPair, append_unit even_zero,
      append_unit odd_zero]
  have settled : unit.isSettled = true := by decide +kernel
  rw [evaluate_of_isSettled le_rfl (by decide) (by rwa [convergent_eq])
    (fun earlier positive less => absurd less (by omega)), convergent_eq]
  rfl

end Terms
end BetaFraction

/-- A positive zero divided by a parameter is a positive zero. -/
theorem IsParameter.zero_div {a : Float} (parameter : IsParameter a) : 0.0 / a = 0.0 := by
  have zero : ((0.0 : Float) == 0.0) = true := by decide +kernel
  have atLeast : AtLeast .binary64 (value (unpack a)) (unpack a) :=
    Or.inr ⟨parameter.isCanonical, le_rfl⟩
  rcases eq_or_eq_of_beq_zero (zero_div_beq zero atLeast parameter.value_pos) with
    same | opposite
  · exact same
  · obtain ⟨mantissa, exponent, positive, unpacked⟩ :=
      exists_of_value_pos parameter.value_pos
    have quotient := unpack_div 0.0 a
    have quotient_eq :
        (unpack (0.0 : Float)).div (format Float)
          (.finite .positive mantissa exponent positive) = .zero .positive := rfl
    have opposite_eq : unpack (-0.0 : Float) = .zero .negative := rfl
    rw [unpacked, opposite, quotient_eq, repack_zero, opposite_eq] at quotient
    cases quotient

namespace Special

open BetaFraction

/-- What the incomplete beta function is at the end points. -/
structure EndPointLaw (a b : Float) : Prop where
  /-- It is zero at both zeros, unless a product overflows. -/
  atZero (x : Float) :
    (x == 0.0) = true ->
      betaRegularized x a b =
        if isFinite ((a + 1.0) * (a + b + 1.0)) then 0.0 else nan
  /-- It is one at one, unless the product of the reflected arguments overflows. -/
  atOne :
    betaRegularized 1.0 a b =
      if isFinite ((b + 1.0) * (b + a + 1.0)) then 1.0 else nan
  /-- Parameters that are not extremely large have both values. -/
  moderate :
    a ≤ 1e150 -> b ≤ 1e150 ->
      betaRegularized 0.0 a b = 0.0 ∧ betaRegularized 1.0 a b = 1.0

section Branches

variable {x a b : Float}

/-- At the end points, the factor in front of the fraction is zero. -/
theorem betaRegularized_eq
    (ends : (x == 0.0) = true ∨ x = 1.0) :
    betaRegularized x a b =
      if x < (a + 1.0) / (a + b + 2.0) then
        ((evaluate betaBasis.smallest x a b).map
          fun fraction => 0.0 * fraction / a).getD nan
      else
        ((evaluate betaBasis.smallest (1.0 - x) b a).map
          fun fraction => 1.0 - 0.0 * fraction / b).getD nan := by
  have cases : x = 0.0 ∨ x = -0.0 ∨ x = 1.0 :=
    ends.elim (fun zero => (eq_or_eq_of_beq_zero zero).imp_right Or.inl)
      fun one => Or.inr (Or.inr one)
  have inside : (decide (0.0 ≤ x) && decide (x ≤ 1.0)) = true := by
    rcases cases with rfl | rfl | rfl <;> decide +kernel
  have outside : ¬(decide (0.0 < x) && decide (x < 1.0)) = true := by
    rcases cases with rfl | rfl | rfl <;> decide +kernel
  have front : betaBasis.front x a b = 0.0 := if_neg outside
  rw [betaRegularized, BetaBasis.regularized?, if_pos inside, front]
  split <;> rfl

/-- What is computed from the fraction is NaN where the fraction is, or has no value. -/
theorem getD_map_eq_nan
    {result : Float -> Float}
    (propagates : ∀ {value}, isNaN value = true -> isNaN (result value) = true)
    (undefined :
      ∀ value, evaluate betaBasis.smallest x a b = some value -> isNaN value = true) :
    ((evaluate betaBasis.smallest x a b).map result).getD nan = nan := by
  cases returned : evaluate betaBasis.smallest x a b with
  | none => rfl
  | some value => exact eq_nan_of_isNaN (propagates (undefined value returned))

theorem isNaN_quotient
    {value : Float}
    (undefined : isNaN value = true)
    (y : Float) :
    isNaN (0.0 * value / y) = true :=
  LawfulQuotient.isNaN_div (isNaN_mul_right 0.0 undefined)

/-- Zeros are below the threshold, and one is not, so both ends lead to a zero. -/
theorem betaRegularized_zero
    (zero : (x == 0.0) = true)
    (parameter : IsParameter a)
    (parameter' : IsParameter b) :
    betaRegularized x a b =
      if isFinite ((a + 1.0) * (a + b + 1.0)) then 0.0 else nan := by
  have below_of_finite (finite : isFinite (a + b) = true) :
      x < (a + 1.0) / (a + b + 2.0) :=
    LawfulFloatingPoint.lt_of_le_of_lt (LawfulFloatingPoint.beq_iff.mp zero).1
      (parameter.zero_lt_threshold parameter' finite)
  rw [betaRegularized_eq (Or.inl zero)]
  cases finite : isFinite ((a + 1.0) * (a + b + 1.0)) with
  | true =>
      have sum : isFinite (a + b) = true :=
        (isFinite_of_add (isFinite_of_mul finite).2).1
      have one_mul : (0.0 : Float) * 1.0 = 0.0 := by decide +kernel
      rw [if_pos (below_of_finite sum), evaluate_eq_one zero parameter parameter' finite,
        Option.map_some, Option.getD_some, one_mul]
      exact parameter.zero_div
  | false =>
      split
      case isTrue below =>
        exact getD_map_eq_nan (isNaN_quotient · a) fun value => isNaN_of_unbounded finite
      case isFalse notBelow =>
        -- The sum of the parameters overflows in either order.
        have sum : ¬isFinite (b + a) = true := fun finite' =>
          notBelow (below_of_finite (by rwa [isFinite_add_comm]))
        have reflected : isFinite ((b + 1.0) * (b + a + 1.0)) = false :=
          Bool.eq_false_iff.mpr fun finite' =>
            sum (isFinite_of_add (isFinite_of_mul finite').2).1
        exact getD_map_eq_nan
          (fun undefined => LawfulFloatingPoint.isNaN_sub (isNaN_quotient undefined b))
          fun value => isNaN_of_unbounded reflected

theorem betaRegularized_one
    (parameter : IsParameter a)
    (parameter' : IsParameter b) :
    betaRegularized 1.0 a b =
      if isFinite ((b + 1.0) * (b + a + 1.0)) then 1.0 else nan := by
  have zero : ((1.0 - 1.0 : Float) == 0.0) = true := by decide +kernel
  rw [betaRegularized_eq (Or.inr rfl), if_neg (parameter.not_one_lt_threshold parameter')]
  cases finite : isFinite ((b + 1.0) * (b + a + 1.0)) with
  | true =>
      have one_mul : (0.0 : Float) * 1.0 = 0.0 := by decide +kernel
      rw [evaluate_eq_one zero parameter' parameter finite, Option.map_some,
        Option.getD_some, one_mul, parameter'.zero_div]
      decide +kernel
  | false =>
      exact getD_map_eq_nan
        (fun undefined => LawfulFloatingPoint.isNaN_sub (isNaN_quotient undefined b))
        fun value => isNaN_of_unbounded finite

end Branches

/-- The incomplete beta function obeys the law of the end points for all parameters that
are finite and positive. -/
theorem betaRegularized_endPointLaw
    (a b : Float)
    (finite : isFinite a = true)
    (finite' : isFinite b = true)
    (positive : 0.0 < a)
    (positive' : 0.0 < b) :
    EndPointLaw a b := by
  have parameter : IsParameter a := ⟨finite, positive⟩
  have parameter' : IsParameter b := ⟨finite', positive'⟩
  refine
    { atZero := fun x zero => betaRegularized_zero zero parameter parameter'
      atOne := betaRegularized_one parameter parameter'
      moderate := fun small small' => ⟨?_, ?_⟩ }
  · have zero : ((0.0 : Float) == 0.0) = true := by decide +kernel
    rw [betaRegularized_zero zero parameter parameter',
      if_pos (parameter.isFinite_product parameter' small small')]
  · rw [betaRegularized_one parameter parameter',
      if_pos (parameter'.isFinite_product parameter small' small)]

/-- Parameters of which the product stays in the range, but not the reflected one. -/
theorem betaRegularized_endPointLaw_large :
    isFinite (2.5 : Float) = true ∧
      isFinite (1e200 : Float) = true ∧
      0.0 < (2.5 : Float) ∧
      0.0 < (1e200 : Float) ∧
      isFinite ((2.5 + 1.0) * (2.5 + 1e200 + 1.0) : Float) = true ∧
      isFinite ((1e200 + 1.0) * (1e200 + 2.5 + 1.0) : Float) = false ∧
      EndPointLaw 2.5 1e200 := by
  have finite : isFinite (2.5 : Float) = true := by decide +kernel
  have finite' : isFinite (1e200 : Float) = true := by decide +kernel
  have positive : 0.0 < (2.5 : Float) := by decide +kernel
  have positive' : 0.0 < (1e200 : Float) := by decide +kernel
  exact ⟨finite, finite', positive, positive', by decide +kernel, by decide +kernel,
    betaRegularized_endPointLaw 2.5 1e200 finite finite' positive positive'⟩

/-- At parameters that are finite and positive, the function is not zero at zero, nor one
at one. -/
theorem betaRegularized_undefined :
    isFinite (1e200 : Float) = true ∧
      0.0 < (1e200 : Float) ∧
      betaRegularized 0.0 1e200 1e200 = nan ∧
      betaRegularized 0.0 1e200 1e200 ≠ 0.0 ∧
      betaRegularized 1.0 1e200 1e200 = nan ∧
      betaRegularized 1.0 1e200 1e200 ≠ 1.0 := by
  have finite : isFinite (1e200 : Float) = true := by decide +kernel
  have positive : 0.0 < (1e200 : Float) := by decide +kernel
  have zero : ((0.0 : Float) == 0.0) = true := by decide +kernel
  have unbounded : ¬isFinite ((1e200 + 1.0) * (1e200 + 1e200 + 1.0) : Float) = true := by
    decide +kernel
  have parameter : IsParameter 1e200 := ⟨finite, positive⟩
  have atZero := betaRegularized_zero zero parameter parameter
  have atOne := betaRegularized_one parameter parameter
  rw [if_neg unbounded] at atZero atOne
  rw [atZero, atOne]
  exact ⟨finite, positive, rfl, by decide +kernel, rfl, by decide +kernel⟩

end Special
end RootFinding
