import RootFinding.Proofs.FloatingPoint.Rounding

/-!
# The spacing of representable numbers

A number that is made of few units of a power of two lies between two representable
numbers that are one unit apart (`exists_unit`).  So rounding is off by less than a
unit (`Rounds.abs_sub_lt`), and what is more than a unit away is on the other side of
a representable number (`exists_between_of_lt_abs_sub`): adding that much does not
lead back to where it began (`Rounds.value_add_ne`).
-/

namespace RootFinding
namespace Unpacked

open Float.Model (Format UnpackedFloat)

/-- A mantissa may also be the least one that is too long. -/
theorem representable_of_abs_le
    {format : Format}
    {mantissa exponent : Int}
    (le : |mantissa| ≤ 2 ^ format.mantissaBits)
    (above : format.minExponent ≤ exponent) :
    Representable format (mantissa * 2 ^ exponent) := by
  rcases le.lt_or_eq with less | limit
  · exact ⟨mantissa, exponent, less, above, rfl⟩
  · have bits := mantissaBits_eq format
    have half : |(2 : Int) ^ format.mantissaBitsWithoutImplicit| <
        2 ^ format.mantissaBits := by
      rw [abs_of_pos (pow_pos two_pos _)]
      exact pow_lt_pow_right₀ one_lt_two (by omega)
    have longest : Representable format (2 ^ format.mantissaBits * 2 ^ exponent) := by
      refine ⟨_, exponent + 1, half, by omega, ?_⟩
      rw [bits, pow_succ, zpow_add_one₀ two_ne_zero]
      push_cast
      ring
    rcases (abs_eq (pow_nonneg two_pos.le _)).mp limit with rfl | rfl
    · exact_mod_cast longest
    · have opposite := longest.neg
      rw [← neg_mul] at opposite
      exact_mod_cast opposite

/-- The numbers of few units lie between representable ones that are one unit
apart. -/
theorem exists_unit
    {format : Format}
    {exponent : Int}
    {x : ℚ}
    (above : format.minExponent ≤ exponent)
    (small : |x| < 2 ^ format.mantissaBits * 2 ^ exponent) :
    ∃ lower, Representable format lower ∧
      Representable format (lower + 2 ^ exponent) ∧
      lower ≤ x ∧ x < lower + 2 ^ exponent := by
  have unit_pos : (0 : ℚ) < 2 ^ exponent := zpow_pos two_pos exponent
  obtain ⟨units, rfl⟩ : ∃ units, x = units * 2 ^ exponent :=
    ⟨x / 2 ^ exponent, (div_mul_cancel₀ x unit_pos.ne').symm⟩
  rw [abs_mul, abs_of_pos unit_pos] at small
  obtain ⟨lower, upper⟩ := abs_lt.mp (lt_of_mul_lt_mul_right small unit_pos.le)
  have floor_le := Int.floor_le units
  have lt_floor := Int.lt_floor_add_one units
  have le_floor : -2 ^ format.mantissaBits ≤ ⌊units⌋ := by
    rw [Int.le_floor]
    exact_mod_cast lower.le
  have floor_lt : ⌊units⌋ < 2 ^ format.mantissaBits := by
    exact_mod_cast floor_le.trans_lt upper
  have next_eq : (⌊units⌋ : ℚ) * 2 ^ exponent + 2 ^ exponent =
      (⌊units⌋ + 1 : Int) * 2 ^ exponent := by
    push_cast
    ring
  refine ⟨⌊units⌋ * 2 ^ exponent,
    representable_of_abs_le (abs_le.mpr ⟨le_floor, floor_lt.le⟩) above, ?_,
    mul_le_mul_of_nonneg_right floor_le unit_pos.le, ?_⟩
  · rw [next_eq]
    exact representable_of_abs_le (abs_le.mpr ⟨by omega, floor_lt⟩) above
  · rw [next_eq]
    push_cast
    exact mul_lt_mul_of_pos_right lt_floor unit_pos

/-- Rounding a number of few units is off by less than one unit. -/
theorem Rounds.abs_sub_lt
    {format : Format}
    {exact : ℚ}
    {rounded : UnpackedFloat}
    (rounds : Rounds format exact rounded)
    {exponent : Int}
    (above : format.minExponent ≤ exponent)
    (small : |exact| < 2 ^ format.mantissaBits * 2 ^ exponent) :
    |value rounded - exact| < 2 ^ exponent := by
  obtain ⟨lower, representable, representable', le, less⟩ :=
    exists_unit above small
  have kept := rounds.le_value representable le
  have kept' := rounds.value_le representable' less.le
  rcases le.lt_or_eq with strict | rfl
  · exact abs_lt.mpr ⟨by linarith, by linarith⟩
  · rw [rounds.value_eq representable, sub_self, abs_zero]
    exact zpow_pos two_pos exponent

/-- Numbers more than a unit apart are separated by a representable one if one of
them is made of few units. -/
theorem exists_between_of_lt_abs_sub
    {format : Format}
    {exponent : Int}
    {x y : ℚ}
    (above : format.minExponent ≤ exponent)
    (small : |x| < 2 ^ format.mantissaBits * 2 ^ exponent)
    (apart : 2 ^ exponent < |x - y|) :
    ∃ between, Representable format between ∧ StrictlyBetween x y between := by
  rcases lt_abs.mp apart with greater | less
  · rw [← abs_neg] at small
    obtain ⟨lower, -, representable, le, less⟩ := exists_unit above small
    exact ⟨-(lower + 2 ^ exponent), representable.neg,
      Or.inr ⟨by linarith, by linarith⟩⟩
  · obtain ⟨lower, -, representable, le, less⟩ := exists_unit above small
    exact ⟨lower + 2 ^ exponent, representable,
      Or.inl ⟨less, by linarith⟩⟩

/-- Adding more than a unit to a number of few units changes it. -/
theorem Rounds.value_add_ne
    {format : Format}
    {x step : ℚ}
    {rounded : UnpackedFloat}
    (rounds : Rounds format (x + step) rounded)
    {exponent : Int}
    (above : format.minExponent ≤ exponent)
    (small : |x| < 2 ^ format.mantissaBits * 2 ^ exponent)
    (large : 2 ^ exponent < |step|) :
    value rounded ≠ x := by
  have apart : 2 ^ exponent < |x - (x + step)| := by
    rwa [sub_add_cancel_left, abs_neg]
  obtain ⟨between, representable, separated⟩ :=
    exists_between_of_lt_abs_sub above small apart
  rcases separated with ⟨lower, upper⟩ | ⟨lower, upper⟩
  · exact (lower.trans_le (rounds.le_value representable upper.le)).ne'
  · exact ((rounds.value_le representable lower.le).trans_lt upper).ne

/-- What is left when a number is added to one is a whole number of the digits that a
number below one ends with, or large. -/
theorem Representable.one_add_cases
    {format : Format}
    {x : ℚ}
    (representable : Representable format x) :
    1 + x = 0 ∨ 2 ^ (-(format.mantissaBits : Int)) ≤ |1 + x| := by
  have digit_pos : (0 : ℚ) < 2 ^ (-(format.mantissaBits : Int)) := zpow_pos two_pos _
  have one_eq : (2 : ℚ) ^ format.mantissaBits * 2 ^ (-(format.mantissaBits : Int)) = 1 := by
    rw [← zpow_natCast, ← zpow_add₀ two_ne_zero, add_neg_cancel, zpow_zero]
  rcases representable.neg.whole_or_lt (-(format.mantissaBits : Int)) with
    ⟨digits, digits_eq⟩ | ⟨-, less⟩
  · have sum_eq : 1 + x =
        (2 ^ format.mantissaBits - digits : Int) * 2 ^ (-(format.mantissaBits : Int)) := by
      rw [neg_eq_iff_eq_neg.mp digits_eq]
      push_cast
      rw [sub_mul, one_eq]
      ring
    rcases eq_or_ne (2 ^ format.mantissaBits - digits) 0 with none | some
    · exact Or.inl (by rw [sum_eq, none, Int.cast_zero, zero_mul])
    · have one_le : (1 : ℚ) ≤ |((2 ^ format.mantissaBits - digits : Int) : ℚ)| := by
        exact_mod_cast Int.one_le_abs some
      rw [sum_eq, abs_mul, abs_of_pos digit_pos]
      exact Or.inr (le_mul_of_one_le_left digit_pos.le one_le)
  · have half_eq : (2 : ℚ) ^ format.mantissaBits *
        2 ^ (-(format.mantissaBits : Int)) =
          2 * (2 ^ format.mantissaBitsWithoutImplicit *
            2 ^ (-(format.mantissaBits : Int))) := by
      rw [← mul_assoc, ← pow_succ', mantissaBits_eq]
    have digit_le : (2 : ℚ) ^ (-(format.mantissaBits : Int)) ≤
        2 ^ format.mantissaBitsWithoutImplicit * 2 ^ (-(format.mantissaBits : Int)) :=
      le_mul_of_one_le_left digit_pos.le (one_le_pow₀ one_le_two)
    exact Or.inr ((by linarith : _ ≤ 1 + x).trans (le_abs_self _))

/-- One plus a number is rounded to zero only if it is zero. -/
theorem Rounds.eq_zero_or_le_abs
    {format : Format}
    {x : ℚ}
    {rounded : UnpackedFloat}
    (rounds : Rounds format (1 + x) rounded)
    (representable : Representable format x)
    (above : format.minExponent ≤ -(format.mantissaBits : Int)) :
    value rounded = 0 ∨ 2 ^ (-(format.mantissaBits : Int)) ≤ |value rounded| := by
  rcases representable.one_add_cases with zero | large
  · rw [zero] at rounds
    exact Or.inl (rounds.value_eq (representable_zero format))
  · exact Or.inr (rounds.le_abs_value (representable_zpow above) large)

end Unpacked
end RootFinding
