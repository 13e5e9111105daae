import RootFinding.Proofs.FloatingPoint.Spacing
import RootFinding.Proofs.Special.HalfSteps
import RootFinding.Special.Beta

/-!
# The guard against vanishing ratios

The loop of the incomplete beta fraction replaces a ratio that is smaller than the smallest
positive number by that number before it divides by it.  A ratio is one plus something, so
in the format of 64 bits it is either zero or at least `2 ^ -53` (`beq_zero_or_le_abs`).
A ratio that is not zero is therefore not replaced and has a finite reciprocal
(`isFinite_inverted`).  The only ratio that is replaced is zero, and the reciprocal of the
smallest positive number is infinite (`isInfinite_inverted`).

So a divisor never vanishes, but a ratio of denominators that does becomes an infinity all
the same, and the value of the fraction is NaN from the next step on (`guardLaw`).
-/

namespace RootFinding
namespace BetaFraction

open FloatingPoint BinaryFormat PackedFormat RoundedFormat Unpacked
open Float.Model (Format)

/-- The distance from one to the next smaller number, `2 ^ -53`. -/
def leastRatio : Float := 1.1102230246251565e-16

theorem unpack_leastRatio :
    (unpack leastRatio).isFinite = true ∧ value (unpack leastRatio) = 2 ^ (-53 : Int) := by
  have bits : leastRatio = Float.ofBits 0x3CA0000000000000 := by decide +kernel
  have unpacked : (Float.ofBits 0x3CA0000000000000).toModel.unpack =
      .finite .positive (2 ^ 52) (-105) (Nat.two_pow_pos 52) := by rfl
  change leastRatio.toModel.unpack.isFinite = true ∧
    value leastRatio.toModel.unpack = 2 ^ (-53 : Int)
  rw [bits, unpacked, value, signed]
  exact ⟨rfl, by norm_num⟩

/-! ## Ratios -/

/-- The magnitude of a finite value, as a number. -/
theorem leastRatio_le_abs_iff
    {ratio : Float}
    (finite : (unpack ratio).isFinite = true) :
    leastRatio ≤ Arithmetic.abs ratio ↔ 2 ^ (-53 : Int) ≤ |value (unpack ratio)| := by
  obtain ⟨finite_least, least_eq⟩ := unpack_leastRatio
  obtain ⟨finite_abs, abs_eq⟩ := value_unpack_abs finite
  rw [le_iff_value_le finite_least finite_abs, least_eq, abs_eq]

/-- What is rounded from one plus a number of the format is zero or not small. -/
theorem beq_zero_or_le_abs
    {ratio : Float}
    {x : ℚ}
    (finite : (unpack ratio).isFinite = true)
    (representable : Representable .binary64 x)
    (rounds : Rounds .binary64 (1 + x) (unpack ratio)) :
    (ratio == 0.0) = true ∨ leastRatio ≤ Arithmetic.abs ratio := by
  have bits : Format.binary64.mantissaBits = 53 := by decide
  have above : Format.binary64.minExponent ≤ -(Format.binary64.mantissaBits : Int) := by
    decide
  rcases rounds.eq_zero_or_le_abs representable above with zero | large
  · have finite_zero : (unpack (0.0 : Float)).isFinite = true := rfl
    have value_zero : value (unpack (0.0 : Float)) = 0 := rfl
    refine Or.inl (LawfulFloatingPoint.beq_iff.mpr ⟨?_, ?_⟩)
    · rw [le_iff_value_le finite finite_zero, zero, value_zero]
    · rw [le_iff_value_le finite_zero finite, zero, value_zero]
  · rw [bits] at large
    exact Or.inr ((leastRatio_le_abs_iff finite).mpr large)

/-- A ratio of denominators is zero or not small. -/
theorem denominatorRatio_cases
    {smallest x a b : Float}
    {step : Nat}
    (finite : isFinite (denominatorRatio smallest x a b step) = true) :
    (denominatorRatio smallest x a b step == 0.0) = true ∨
      leastRatio ≤ Arithmetic.abs (denominatorRatio smallest x a b step) := by
  have one_eq := unpack_one.2
  cases step with
  | zero =>
      have finite' := unpack_isFinite finite
      have rounds := rounds_sub_of_isFinite finite'
      have canonical := isCanonical_unpack _ (unpack_isFinite_of_sub finite').2
      rw [one_eq, sub_eq_add_neg] at rounds
      exact beq_zero_or_le_abs finite' canonical.representable.neg rounds
  | succ step =>
      have finite' := unpack_isFinite finite
      have rounds := rounds_add_of_isFinite finite'
      have canonical := isCanonical_unpack _ (unpack_isFinite_of_add finite').2
      rw [one_eq] at rounds
      exact beq_zero_or_le_abs finite' canonical.representable rounds

/-- A ratio that is not small is not replaced, and its reciprocal is finite. -/
theorem isFinite_inverted
    {ratio : Float}
    (finite : isFinite ratio = true)
    (large : leastRatio ≤ Arithmetic.abs ratio) :
    isFinite (1.0 / nonZero Special.betaBasis.smallest ratio) = true := by
  have smallest_le : Special.betaBasis.smallest ≤ leastRatio := by decide +kernel
  have kept : nonZero Special.betaBasis.smallest ratio = ratio :=
    if_neg (LawfulFloatingPoint.not_lt_of_le
      (LawfulFloatingPoint.le_trans smallest_le large))
  obtain ⟨finite_one, one_eq⟩ := unpack_one
  rw [isFinite_iff_unpack] at finite
  rw [leastRatio_le_abs_iff finite] at large
  have positive : (0 : ℚ) < 2 ^ (-53 : Int) := zpow_pos two_pos _
  have notZero : value (unpack ratio) ≠ 0 := abs_pos.mp (positive.trans_le large)
  have within : (2 : ℚ) ^ (53 : Int) < overflow .binary64 := zpow_lt_overflow (by decide)
  have representable : Representable .binary64 (2 ^ (53 : Int)) :=
    representable_zpow (by decide)
  have le : |value (unpack (1.0 : Float)) / value (unpack ratio)| ≤ 2 ^ (53 : Int) := by
    rw [one_eq, abs_div, abs_one, div_le_iff₀ (positive.trans_le large)]
    calc (1 : ℚ) = 2 ^ (53 : Int) * 2 ^ (-53 : Int) := by norm_num
      _ ≤ 2 ^ (53 : Int) * |value (unpack ratio)| :=
        mul_le_mul_of_nonneg_left large (zpow_nonneg two_pos.le _)
  have rounds := rounds_unpack_div finite_one finite notZero representable within le
  rw [kept, isFinite_iff_unpack]
  exact rounds.canonical.isFinite

/-- The number that replaces zero has no finite reciprocal. -/
theorem isInfinite_inverted
    {ratio : Float}
    (zero : (ratio == 0.0) = true) :
    isInfinite (1.0 / nonZero Special.betaBasis.smallest ratio) = true := by
  rcases eq_or_eq_of_beq_zero zero with rfl | rfl <;> decide +kernel

/-- What is divided by does not vanish. -/
theorem nonZero_ne_zero (ratio : Float) :
    (nonZero Special.betaBasis.smallest ratio == 0.0) = false := by
  rw [← Bool.not_eq_true]
  unfold nonZero
  split
  case isTrue less => decide +kernel
  case isFalse notLess =>
    intro zero
    rcases eq_or_eq_of_beq_zero zero with rfl | rfl <;>
      exact notLess (by decide +kernel)

/-! ## The law of the guard -/

/-- What the guard does for the fraction, with no assumption about its arguments. -/
structure GuardLaw (smallest x a b : Float) : Prop where
  /-- No ratio of numerators that is divided by vanishes. -/
  numerators (step : Nat) : ((halfStep smallest x a b step).numerators == 0.0) = false
  /-- A finite ratio of denominators is zero or far larger than the smallest number. -/
  ratio (step : Nat) :
    isFinite (denominatorRatio smallest x a b step) = true ->
      (denominatorRatio smallest x a b step == 0.0) = true ∨
        leastRatio ≤ Arithmetic.abs (denominatorRatio smallest x a b step)
  /-- Of the finite ratios, all have a finite reciprocal but those that are zero. -/
  reciprocal (step : Nat) :
    isFinite (denominatorRatio smallest x a b step) = true ->
      (isFinite (halfStep smallest x a b step).denominators = true ↔
        (denominatorRatio smallest x a b step == 0.0) = false)
  /-- The reciprocal that stands for that of zero is infinite, and the value is NaN from
  the next step on. -/
  vanishing (step : Nat) :
    (denominatorRatio smallest x a b step == 0.0) = true ->
      isInfinite (halfStep smallest x a b step).denominators = true ∧
        ∀ later, step < later -> isNaN (halfStep smallest x a b later).value = true
  /-- The loop then returns NaN if it returns at all, unless an earlier round is settled. -/
  returned (step : Nat) (value : Float) :
    (denominatorRatio smallest x a b step == 0.0) = true ->
      evaluate smallest x a b = some value ->
      isNaN value = true ∨
        ∃ pairs, 2 * pairs < step ∧
          (convergent smallest x a b pairs).isSettled = true ∧
          value = (convergent smallest x a b pairs).value

/-- The loop obeys the law of the guard at all arguments, finite or not. -/
theorem guardLaw (x a b : Float) : GuardLaw Special.betaBasis.smallest x a b := by
  have finite : isFinite Special.betaBasis.smallest = true := by decide +kernel
  have finite' : isFinite (tolerance : Float) = true := by decide +kernel
  have infinite (step : Nat)
      (zero : (denominatorRatio Special.betaBasis.smallest x a b step == 0.0) = true) :
      isInfinite (halfStep Special.betaBasis.smallest x a b step).denominators = true := by
    rw [denominators_halfStep]
    exact isInfinite_inverted zero
  have unbounded (step : Nat)
      (zero : (denominatorRatio Special.betaBasis.smallest x a b step == 0.0) = true) :
      isFinite (halfStep Special.betaBasis.smallest x a b step).denominators = false :=
    (LawfulFloatingPoint.isFinite_eq_false_iff _).mpr (Or.inr (infinite step zero))
  refine
    { numerators := fun step => ?_
      ratio := fun step => denominatorRatio_cases
      reciprocal := fun step finite => ⟨fun reciprocal => ?_, fun notZero => ?_⟩
      vanishing := fun step zero =>
        ⟨infinite step zero, fun later => isNaN_halfStep_of_lt finite (unbounded step zero)⟩
      returned := fun step value zero returned => ?_ }
  · cases step with
    | zero =>
        have one : ((1.0 : Float) == 0.0) = false := by decide +kernel
        exact one
    | succ step =>
        rw [numerators_halfStep_succ]
        exact nonZero_ne_zero _
  · rw [← Bool.not_eq_true]
    intro zero
    rw [unbounded step zero] at reciprocal
    cases reciprocal
  · rw [denominators_halfStep]
    refine isFinite_inverted finite ((denominatorRatio_cases finite).resolve_left ?_)
    rw [notZero]
    exact Bool.false_ne_true
  · obtain ⟨pairs, -, -, rfl, settled, -⟩ := exists_isSettled_of_evaluate returned
    rcases le_or_gt step (2 * pairs) with le | less
    · exact Or.inl
        (isNaN_convergent_of_isSettled finite finite' (unbounded step zero) le settled)
    · exact Or.inr ⟨pairs, less, settled, rfl⟩

/-- At finite arguments, a reciprocal that is infinite: the first ratio of denominators is
`1 - 1`, and what the loop returns is NaN. -/
theorem guard_inverts_zero :
    let smallest := Special.betaBasis.smallest
    isFinite (0.6 : Float) = true ∧
      isFinite (-2.5 : Float) = true ∧
      isFinite (0.0 : Float) = true ∧
      isFinite (denominatorRatio smallest 0.6 (-2.5) 0.0 0) = true ∧
      isInfinite (1.0 /
        nonZero smallest (denominatorRatio smallest 0.6 (-2.5) 0.0 0)) = true ∧
      isNaN (halfStep smallest 0.6 (-2.5) 0.0 1).value = true ∧
      ∀ value, evaluate smallest 0.6 (-2.5) 0.0 = some value -> isNaN value = true := by
  intro smallest
  have undefined : isNaN (convergent smallest 0.6 (-2.5) 0.0 1).value = true := by
    decide +kernel
  exact ⟨by decide +kernel, by decide +kernel, by decide +kernel, by decide +kernel,
    by decide +kernel, by decide +kernel, fun value => isNaN_of_evaluate undefined⟩

end BetaFraction
end RootFinding
