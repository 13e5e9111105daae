import RootFinding.Proofs.FloatingPoint.Values

/-!
# Faithful rounding

An operation computes more digits than the format keeps, cuts the surplus off
while two residual bits remember whether anything was lost (`Truncates`), and
rounds the mantissa that is left.  The result is canonical, and no representable
number lies strictly between it and the exact result (`Rounds`).  So bounds that
are representable survive rounding, in both directions.

This is all that is said of rounding here: which of the two neighbours is taken
does not matter.
-/

namespace RootFinding
namespace Unpacked

open Float.Model (Format UnpackedFloat totalExponent)
open Float.Model.UnpackedFloat (Sign Accuracy ExtendedMantissa)

/-- An exact number and what a format makes of it. -/
structure Rounds
    (format : Format)
    (exact : ℚ)
    (rounded : UnpackedFloat) : Prop where
  canonical : IsCanonical format rounded
  le_value {x : ℚ} : Representable format x -> x ≤ exact -> x ≤ value rounded
  value_le {x : ℚ} : Representable format x -> exact ≤ x -> value rounded ≤ x

/-- A canonical number is its own rounding. -/
theorem Rounds.refl
    {format : Format}
    {number : UnpackedFloat}
    (canonical : IsCanonical format number) :
    Rounds format (value number) number where
  canonical := canonical
  le_value _ le := le
  value_le _ le := le

theorem Rounds.zero (format : Format) (sign : Sign) :
    Rounds format 0 (.zero sign) where
  canonical := trivial
  le_value _ le := le
  value_le _ le := le

/-- Rounding is symmetric about zero. -/
theorem Rounds.neg
    {format : Format}
    {exact : ℚ}
    {rounded : UnpackedFloat}
    (rounds : Rounds format exact rounded) :
    Rounds format (-exact) rounded.neg where
  canonical := rounds.canonical.neg
  le_value representable le := by
    rw [value_neg]
    exact le_neg_of_le_neg
      (rounds.value_le representable.neg (le_neg_of_le_neg le))
  value_le representable le := by
    rw [value_neg]
    exact neg_le_of_neg_le
      (rounds.le_value representable.neg (neg_le_of_neg_le le))

/-- A representable number is rounded to itself. -/
theorem Rounds.value_eq
    {format : Format}
    {exact : ℚ}
    {rounded : UnpackedFloat}
    (rounds : Rounds format exact rounded)
    (representable : Representable format exact) :
    value rounded = exact :=
  le_antisymm (rounds.value_le representable le_rfl)
    (rounds.le_value representable le_rfl)

/-- A representable bound of the magnitude is kept. -/
theorem Rounds.abs_value_le
    {format : Format}
    {exact bound : ℚ}
    {rounded : UnpackedFloat}
    (rounds : Rounds format exact rounded)
    (representable : Representable format bound)
    (le : |exact| ≤ bound) :
    |value rounded| ≤ bound := by
  obtain ⟨lower, upper⟩ := abs_le.mp le
  exact abs_le.mpr ⟨rounds.le_value representable.neg lower,
    rounds.value_le representable upper⟩

/-- So is one that the magnitude is not less than. -/
theorem Rounds.le_abs_value
    {format : Format}
    {exact bound : ℚ}
    {rounded : UnpackedFloat}
    (rounds : Rounds format exact rounded)
    (representable : Representable format bound)
    (le : bound ≤ |exact|) :
    bound ≤ |value rounded| := by
  rcases le_abs.mp le with above | below
  · exact (rounds.le_value representable above).trans (le_abs_self _)
  · have lower := rounds.value_le representable.neg (le_neg_of_le_neg below)
    exact (le_neg_of_le_neg lower).trans (neg_le_abs _)

/-! ## Cutting off digits -/

/-- The mantissa is what is left of a number when its fraction is cut off; the
residual bits say whether there was one. -/
def Truncates (extended : ExtendedMantissa) (x : ℚ) : Prop :=
  if extended.roundBit || extended.stickyBit then
    extended.mantissa < x ∧ x < extended.mantissa + 1
  else
    x = extended.mantissa

namespace Truncates

theorem exact (mantissa : Nat) :
    Truncates (.ofMantissaAndAccuracy mantissa .exact) mantissa := rfl

theorem shiftRightOne
    {extended : ExtendedMantissa}
    {x : ℚ}
    (truncates : Truncates extended x) :
    Truncates extended.shiftRightOne (x / 2) := by
  obtain ⟨mantissa, roundBit, stickyBit⟩ := extended
  have digits : (mantissa : ℚ) =
      2 * (mantissa / 2 : Nat) + (mantissa % 2 : Nat) := by
    exact_mod_cast (Nat.div_add_mod mantissa 2).symm
  unfold Truncates at truncates ⊢
  unfold ExtendedMantissa.shiftRightOne
  rcases Nat.mod_two_eq_zero_or_one mantissa with even | odd
  · rw [even] at digits ⊢
    cases roundBit <;> cases stickyBit <;> simp_all <;> constructor <;> linarith
  · rw [odd] at digits ⊢
    cases roundBit <;> cases stickyBit <;> simp_all <;> constructor <;> linarith

theorem shiftRight
    {extended : ExtendedMantissa}
    {x : ℚ}
    (truncates : Truncates extended x)
    (count : Nat) :
    Truncates (extended >>> count) (x / 2 ^ count) := by
  induction count with
  | zero =>
      rw [pow_zero, div_one]
      exact truncates
  | succ count hypothesis =>
      rw [pow_succ, ← div_div]
      exact hypothesis.shiftRightOne

theorem mantissa_le
    {extended : ExtendedMantissa}
    {x : ℚ}
    (truncates : Truncates extended x) :
    (extended.mantissa : ℚ) ≤ x := by
  unfold Truncates at truncates
  split at truncates
  case isTrue => exact truncates.1.le
  case isFalse => exact truncates.ge

theorem lt_mantissa_add_one
    {extended : ExtendedMantissa}
    {x : ℚ}
    (truncates : Truncates extended x) :
    x < extended.mantissa + 1 := by
  unfold Truncates at truncates
  split at truncates
  case isTrue => exact truncates.2
  case isFalse =>
    rw [truncates]
    exact lt_add_one _

/-- A mantissa is rounded to itself or to the next one. -/
theorem roundedMantissa_mem (extended : ExtendedMantissa) :
    extended.mantissa ≤ extended.roundedMantissa ∧
      extended.roundedMantissa ≤ extended.mantissa + 1 := by
  obtain ⟨mantissa, _ | _, _ | _⟩ := extended
  · exact ⟨le_rfl, Nat.le_succ _⟩
  · exact ⟨le_rfl, Nat.le_succ _⟩
  · have digit := Nat.mod_two_eq_zero_or_one mantissa
    change mantissa ≤ mantissa + mantissa % 2 ∧
      mantissa + mantissa % 2 ≤ mantissa + 1
    omega
  · exact ⟨Nat.le_succ _, le_rfl⟩

/-- Whole numbers below a number are below its rounding. -/
theorem le_roundedMantissa
    {extended : ExtendedMantissa}
    {x : ℚ}
    (truncates : Truncates extended x)
    {n : Int}
    (le : (n : ℚ) ≤ x) :
    n ≤ extended.roundedMantissa := by
  have below := le.trans_lt truncates.lt_mantissa_add_one
  have kept := (roundedMantissa_mem extended).1
  norm_cast at below
  omega

/-- Whole numbers above a number are above its rounding. -/
theorem roundedMantissa_le
    {extended : ExtendedMantissa}
    {x : ℚ}
    (truncates : Truncates extended x)
    {n : Int}
    (le : x ≤ (n : ℚ)) :
    extended.roundedMantissa ≤ n := by
  have kept := (roundedMantissa_mem extended).2
  obtain ⟨mantissa, roundBit, stickyBit⟩ := extended
  unfold Truncates at truncates
  split at truncates
  case isTrue =>
    have above := truncates.1.trans_le le
    norm_cast at above
    omega
  case isFalse whole =>
    rw [truncates] at le
    norm_cast at le
    cases roundBit <;> cases stickyBit <;> simp at whole
    exact le

end Truncates

/-! ## Rounding a mantissa -/

/-- A number in units of two to some power, and a whole number that is as near to
it as the format allows. -/
structure RoundsUnits
    (format : Format)
    (exponent : Int)
    (units : ℚ)
    (mantissa : Nat) : Prop where
  le_exponent : format.minExponent ≤ exponent
  full :
    exponent = format.minExponent ∨
      2 ^ format.mantissaBitsWithoutImplicit ≤ units
  le_limit : units ≤ 2 ^ format.mantissaBits
  le_mantissa {n : Int} : (n : ℚ) ≤ units -> n ≤ mantissa
  mantissa_le {n : Int} : units ≤ (n : ℚ) -> mantissa ≤ n

namespace RoundsUnits

variable
  {format : Format} {exponent : Int} {units : ℚ} {mantissa : Nat}

theorem mantissa_le_limit
    (rounds : RoundsUnits format exponent units mantissa) :
    mantissa ≤ 2 ^ format.mantissaBits := by
  have le := rounds.mantissa_le (n := 2 ^ format.mantissaBits)
    (by exact_mod_cast rounds.le_limit)
  exact_mod_cast le

theorem mantissa_full
    (rounds : RoundsUnits format exponent units mantissa) :
    exponent = format.minExponent ∨
      2 ^ format.mantissaBitsWithoutImplicit ≤ mantissa := by
  refine rounds.full.imp id fun full => ?_
  have le := rounds.le_mantissa (n := 2 ^ format.mantissaBitsWithoutImplicit)
    (by exact_mod_cast full)
  exact_mod_cast le

end RoundsUnits

/-- A number whose mantissa is rounded is rounded. -/
theorem RoundsUnits.rounds
    {format : Format}
    {exponent : Int}
    {units : ℚ}
    {mantissa : Nat}
    (rounds : RoundsUnits format exponent units mantissa)
    {rounded : UnpackedFloat}
    (canonical : IsCanonical format rounded)
    (value_eq : value rounded = mantissa * 2 ^ exponent) :
    Rounds format (units * 2 ^ exponent) rounded := by
  have unit_pos : (0 : ℚ) < 2 ^ exponent := zpow_pos two_pos exponent
  refine
    { canonical := canonical
      le_value := fun {x} representable le => ?_
      value_le := fun {x} representable le => ?_ }
  · rw [value_eq]
    rcases representable.whole_or_lt exponent with ⟨n, rfl⟩ | ⟨coarse, less⟩
    · have whole := rounds.le_mantissa (le_of_mul_le_mul_right le unit_pos)
      exact mul_le_mul_of_nonneg_right (by exact_mod_cast whole) unit_pos.le
    · have full := rounds.mantissa_full.resolve_left coarse.ne'
      exact less.le.trans
        (mul_le_mul_of_nonneg_right (by exact_mod_cast full) unit_pos.le)
  · rw [value_eq]
    rcases representable.whole_or_lt exponent with ⟨n, rfl⟩ | ⟨coarse, less⟩
    · have whole := rounds.mantissa_le (le_of_mul_le_mul_right le unit_pos)
      exact mul_le_mul_of_nonneg_right (by exact_mod_cast whole) unit_pos.le
    · have full := rounds.full.resolve_left coarse.ne'
      have lower := mul_le_mul_of_nonneg_right full unit_pos.le
      exact absurd (lower.trans le) (not_le_of_gt less)

/-! ## Shifting to the format -/

open Float.Model.UnpackedFloat (shiftToTargetExponent)

/-- A mantissa that has enough digits is shifted to the exponent that the format
wants. -/
theorem shiftToTargetExponent_eq
    {format : Format}
    {mantissa : Nat}
    {exponent : Int}
    {shift : Nat}
    (shift_eq :
      exponent + shift =
        format.targetExponent (totalExponent mantissa exponent))
    (accuracy : Accuracy) :
    shiftToTargetExponent format mantissa exponent accuracy =
      (ExtendedMantissa.ofMantissaAndAccuracy mantissa accuracy >>> shift,
        exponent + shift) := by
  have amount : (exponent + shift - exponent).toNat = shift := by omega
  unfold shiftToTargetExponent Float.Model.UnpackedFloat.shiftToExponent
  rw [← shift_eq]
  dsimp only
  rw [amount]

/-- After the shift, the mantissa counts units, and is rounded to a whole
number of them. -/
theorem roundsUnits_shift
    {format : Format}
    {mantissa : Nat}
    {exponent : Int}
    {accuracy : Accuracy}
    {units : ℚ}
    (truncates :
      Truncates (.ofMantissaAndAccuracy mantissa accuracy) units)
    {shift : Nat}
    (shift_eq :
      exponent + shift =
        format.targetExponent (totalExponent mantissa exponent)) :
    RoundsUnits format (exponent + shift) (units / 2 ^ shift)
      (ExtendedMantissa.ofMantissaAndAccuracy mantissa accuracy >>>
        shift).roundedMantissa := by
  have shifted := truncates.shiftRight shift
  have mantissa_eq :
      (ExtendedMantissa.ofMantissaAndAccuracy mantissa accuracy).mantissa =
        mantissa := by
    rcases accuracy with _ | _ | _ | _ <;> rfl
  have power_pos : (0 : ℚ) < 2 ^ shift := pow_pos two_pos shift
  have bits := mantissaBits_eq format
  have target_eq :
      exponent + shift =
        max (mantissa.log2 + 1 + exponent - format.mantissaBits)
          format.minExponent := shift_eq
  refine
    { le_exponent := by omega
      full := ?_
      le_limit := ?_
      le_mantissa := shifted.le_roundedMantissa
      mantissa_le := shifted.roundedMantissa_le }
  · rw [or_iff_not_imp_left]
    intro coarse
    have digits : format.mantissaBitsWithoutImplicit + shift = mantissa.log2 := by
      omega
    have lower := truncates.mantissa_le
    rw [mantissa_eq] at lower
    have notZero : mantissa ≠ 0 := by
      rintro rfl
      have := format.hm
      simp at digits
      omega
    have full := Nat.log2_self_le notZero
    rw [← digits, pow_add] at full
    rw [le_div_iff₀ power_pos]
    exact le_trans (by exact_mod_cast full) lower
  · have upper := truncates.lt_mantissa_add_one.le
    rw [mantissa_eq] at upper
    have below : mantissa + 1 ≤ 2 ^ (mantissa.log2 + 1) := Nat.lt_log2_self
    have digits : mantissa.log2 + 1 ≤ format.mantissaBits + shift := by omega
    rw [div_le_iff₀ power_pos, ← pow_add]
    calc units ≤ mantissa + 1 := upper
      _ ≤ 2 ^ (mantissa.log2 + 1) := by exact_mod_cast below
      _ ≤ 2 ^ (format.mantissaBits + shift) :=
        pow_le_pow_right₀ one_le_two digits

/-- Rounding up can make a mantissa one digit too long.  A second shift makes it
canonical and changes nothing. -/
theorem RoundsUnits.canonical_carry
    {format : Format}
    {exponent : Int}
    {units : ℚ}
    {mantissa : Nat}
    (rounds : RoundsUnits format exponent units mantissa) :
    let carried := shiftToTargetExponent format mantissa exponent .exact
    Canonical format carried.1.mantissa carried.2 ∧
      (carried.1.mantissa : ℚ) * 2 ^ carried.2 = mantissa * 2 ^ exponent := by
  have bits := mantissaBits_eq format
  have above := rounds.le_exponent
  rcases rounds.mantissa_le_limit.lt_or_eq with below | limit
  · have canonical : Canonical format mantissa exponent :=
      ⟨below, above, rounds.mantissa_full⟩
    have target_eq :
        exponent + (0 : Nat) =
          format.targetExponent (totalExponent mantissa exponent) :=
      (add_zero exponent).trans canonical.targetExponent_eq.symm
    rw [shiftToTargetExponent_eq target_eq]
    simp only [Nat.cast_zero, add_zero]
    exact ⟨canonical, rfl⟩
  · have target_eq :
        exponent + (1 : Nat) =
          format.targetExponent (totalExponent mantissa exponent) := by
      unfold Format.targetExponent totalExponent
      rw [limit, Nat.log2_two_pow]
      omega
    rw [shiftToTargetExponent_eq target_eq]
    have half : mantissa / 2 = 2 ^ format.mantissaBitsWithoutImplicit := by
      rw [limit, bits, pow_succ]
      exact Nat.mul_div_cancel _ two_pos
    change Canonical format (mantissa / 2) (exponent + (1 : Nat)) ∧
      ((mantissa / 2 : Nat) : ℚ) * 2 ^ (exponent + (1 : Nat)) = _
    rw [half, limit]
    refine ⟨⟨?_, ?_, Or.inr le_rfl⟩, ?_⟩
    · exact Nat.pow_lt_pow_right one_lt_two (by omega)
    · omega
    · rw [Nat.cast_one, zpow_add_one₀ two_ne_zero, bits, pow_succ]
      push_cast
      ring

open Float.Model.UnpackedFloat (roundWithAccuracy)

theorem roundWithAccuracy_neg
    (format : Format)
    (mantissa : Nat)
    (exponent : Int)
    (accuracy : Accuracy) :
    roundWithAccuracy format .negative mantissa exponent accuracy =
      (roundWithAccuracy format .positive mantissa exponent accuracy).neg := by
  unfold roundWithAccuracy
  dsimp only
  split <;> rfl

/-- A mantissa that has enough digits is shifted to the exponent that the format
wants, and rounded there. -/
theorem roundWithAccuracy_eq
    {format : Format}
    {mantissa : Nat}
    {exponent : Int}
    {accuracy : Accuracy}
    {units : ℚ}
    (truncates :
      Truncates (.ofMantissaAndAccuracy mantissa accuracy) units)
    {shift : Nat}
    (shift_eq :
      exponent + shift =
        format.targetExponent (totalExponent mantissa exponent)) :
    let rounded := roundWithAccuracy format .positive mantissa exponent accuracy
    IsCanonical format rounded ∧
      value rounded =
        (ExtendedMantissa.ofMantissaAndAccuracy mantissa accuracy >>>
          shift).roundedMantissa * 2 ^ (exponent + shift) := by
  obtain ⟨canonical, value_eq⟩ :=
    (roundsUnits_shift truncates shift_eq).canonical_carry
  rw [roundWithAccuracy, shiftToTargetExponent_eq shift_eq]
  dsimp only
  split
  case isTrue zero =>
    refine ⟨trivial, ?_⟩
    rw [← value_eq, zero, Nat.cast_zero, zero_mul]
    rfl
  case isFalse => exact ⟨canonical, value_eq⟩

/-- Shifting divides the units and multiplies what a unit stands for. -/
theorem units_shift (units : ℚ) (exponent : Int) (shift : Nat) :
    units / 2 ^ shift * 2 ^ (exponent + shift) = units * 2 ^ exponent := by
  rw [zpow_add₀ two_ne_zero, zpow_natCast]
  field_simp

/-- A mantissa that has enough digits is rounded faithfully. -/
theorem rounds_roundWithAccuracy
    {format : Format}
    {mantissa : Nat}
    {exponent : Int}
    {accuracy : Accuracy}
    {units : ℚ}
    (truncates :
      Truncates (.ofMantissaAndAccuracy mantissa accuracy) units)
    (fine :
      exponent ≤ format.targetExponent (totalExponent mantissa exponent))
    (sign : Sign) :
    Rounds format (signed sign (units * 2 ^ exponent))
      (roundWithAccuracy format sign mantissa exponent accuracy) := by
  have positive :
      Rounds format (units * 2 ^ exponent)
        (roundWithAccuracy format .positive mantissa exponent accuracy) := by
    obtain ⟨shift, shift_eq⟩ := Int.le.dest fine
    obtain ⟨canonical, value_eq⟩ := roundWithAccuracy_eq truncates shift_eq
    rw [← units_shift units exponent shift]
    exact (roundsUnits_shift truncates shift_eq).rounds canonical value_eq
  cases sign with
  | positive => exact positive
  | negative =>
      rw [roundWithAccuracy_neg]
      exact positive.neg

end Unpacked
end RootFinding
