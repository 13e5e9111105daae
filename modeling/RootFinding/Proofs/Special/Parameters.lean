import RootFinding.Proofs.FloatingPoint.Bounds

/-!
# Parameters of the incomplete beta function

What the incomplete beta function computes from two parameters that are finite and
positive, in the format of 64 bits.  The divisors of the first terms of its fraction are
not less than one (`atLeast_add_one`, `atLeast_even`, `atLeast_odd`), so that a zero
divided by them is a zero.

The threshold `(a + 1) / (a + b + 2)` is at most one (`not_one_lt_threshold`).  Its
dividend and its divisor are both rounded, and stay in order because they are rounded to
nearest.  It is positive if `a + b` is finite (`zero_lt_threshold`), because adding two
does not carry that sum out of the range.
-/

namespace RootFinding

open FloatingPoint BinaryFormat PackedFormat RoundedFormat Unpacked
open Float.Model (Format UnpackedFloat)

/-- A parameter of the incomplete beta function. -/
structure IsParameter (a : Float) : Prop where
  finite : isFinite a = true
  positive : 0.0 < a

namespace IsParameter

variable {a b : Float}

theorem unpack_isFinite (parameter : IsParameter a) : (unpack a).isFinite = true :=
  PackedFormat.unpack_isFinite parameter.finite

theorem value_pos (parameter : IsParameter a) : 0 < value (unpack a) := by
  have less := parameter.positive
  have finite_zero : (unpack (0.0 : Float)).isFinite = true := rfl
  rwa [lt_iff_value_lt finite_zero parameter.unpack_isFinite] at less

theorem isCanonical (parameter : IsParameter a) : IsCanonical .binary64 (unpack a) :=
  isCanonical_unpack a parameter.unpack_isFinite

/-! ## Divisors -/

theorem representable_one : Representable .binary64 1 :=
  Unpacked.representable_one (by decide)

theorem representable_two : Representable .binary64 2 := by
  have two := representable_one.two_mul
  rwa [mul_one] at two

theorem atLeast_one : AtLeast .binary64 1 (unpack (1.0 : Float)) :=
  Or.inr ⟨isCanonical_unpack _ unpack_one.1, unpack_one.2.ge⟩

theorem unpack_two :
    (unpack (2.0 : Float)).isFinite = true ∧ value (unpack (2.0 : Float)) = 2 := by
  have two_eq : value (unpack (2.0 : Float)) = 2 := value_two
  refine ⟨isFinite_of_value_ne_zero ?_, two_eq⟩
  rw [two_eq]
  exact two_ne_zero

theorem atLeast_two : AtLeast .binary64 2 (unpack (2.0 : Float)) :=
  Or.inr ⟨isCanonical_unpack _ unpack_two.1, unpack_two.2.ge⟩

theorem atLeast_add_one (parameter : IsParameter a) :
    AtLeast .binary64 1 (unpack (a + 1.0)) := by
  have nonneg : AtLeast .binary64 0 (unpack a) :=
    Or.inr ⟨parameter.isCanonical, parameter.value_pos.le⟩
  rw [unpack_add]
  exact nonneg.add representable_one one_pos atLeast_one (by norm_num)

theorem atLeast_add_two (parameter : IsParameter a) :
    AtLeast .binary64 2 (unpack (a + 2.0)) := by
  have nonneg : AtLeast .binary64 0 (unpack a) :=
    Or.inr ⟨parameter.isCanonical, parameter.value_pos.le⟩
  rw [unpack_add]
  exact nonneg.add representable_two two_pos atLeast_two (by norm_num)

/-- The divisor of the first term of a pair. -/
theorem atLeast_even (parameter : IsParameter a) :
    AtLeast .binary64 1 (unpack ((a + 2.0 - 1.0) * (a + 2.0))) := by
  have difference : AtLeast .binary64 1 (unpack (a + 2.0 - 1.0)) := by
    rw [unpack_sub]
    exact parameter.atLeast_add_two.sub representable_one one_pos
      (isCanonical_unpack _ unpack_one.1) unpack_one.2.le (by norm_num)
  rw [unpack_mul]
  exact difference.mul representable_one one_pos parameter.atLeast_add_two one_pos two_pos
    (by norm_num)

/-- The divisor of the second term of a pair. -/
theorem atLeast_odd (parameter : IsParameter a) :
    AtLeast .binary64 1 (unpack ((a + 2.0) * (a + 2.0 + 1.0))) := by
  have sum : AtLeast .binary64 1 (unpack (a + 2.0 + 1.0)) := by
    rw [unpack_add]
    exact parameter.atLeast_add_two.add representable_one one_pos atLeast_one (by norm_num)
  rw [unpack_mul]
  exact parameter.atLeast_add_two.mul representable_one one_pos sum two_pos one_pos
    (by norm_num)

/-- A zero divided by any of them is a zero. -/
theorem zero_div_beq
    {x y : Float}
    {bound : ℚ}
    (zero : (x == 0.0) = true)
    (atLeast : AtLeast .binary64 bound (unpack y))
    (positive : 0 < bound) :
    (x / y == 0.0) = true := by
  obtain ⟨defined, notZero⟩ := isNaN_and_beq_zero_of_atLeast atLeast positive
  exact LawfulZero.zero_div zero defined notZero

/-! ## Products -/

theorem abs_value_le
    (parameter : IsParameter a)
    (small : a ≤ 1e150) :
    |value (unpack a)| ≤ 2 ^ (499 : Int) := by
  -- The literal is too long to be unpacked as it stands; its bits are not.
  have bits : (1e150 : Float) = Float.ofBits 0x5F138D352E5096AF := by decide +kernel
  have unpacked : unpack (Float.ofBits 0x5F138D352E5096AF) =
      .finite .positive 0x138D352E5096AF 446 (by decide) := by rfl
  have finite_bound : (unpack (Float.ofBits 0x5F138D352E5096AF)).isFinite = true := by
    rw [unpacked]
    rfl
  rw [bits, le_iff_value_le parameter.unpack_isFinite finite_bound, unpacked, value, signed]
    at small
  have power_eq : (2 : ℚ) ^ (499 : Int) = 2 ^ 53 * 2 ^ (446 : Int) := by
    rw [← zpow_natCast, ← zpow_add₀ two_ne_zero]
    rfl
  rw [abs_of_pos parameter.value_pos, power_eq]
  exact small.trans
    (mul_le_mul_of_nonneg_right (by norm_num) (zpow_nonneg two_pos.le _))

/-- Parameters that are not extremely large have a product in the range. -/
theorem isFinite_product
    (parameter : IsParameter a)
    (parameter' : IsParameter b)
    (small : a ≤ 1e150)
    (small' : b ≤ 1e150) :
    isFinite ((a + 1.0) * (a + b + 1.0)) = true := by
  obtain ⟨finite_one, one_eq⟩ := unpack_one
  have one_le (exponent : Int) (nonneg : 0 ≤ exponent) :
      |value (unpack (1.0 : Float))| ≤ 2 ^ exponent := by
    rw [one_eq, abs_one]
    exact one_le_zpow₀ one_le_two nonneg
  obtain ⟨finite_left, left_le⟩ :=
    unpack_add_le (by decide) (zpow_lt_overflow (by decide)) parameter.unpack_isFinite
      finite_one (parameter.abs_value_le small) (one_le 499 (by decide))
  obtain ⟨finite_sum, sum_le⟩ :=
    unpack_add_le (by decide) (zpow_lt_overflow (by decide)) parameter.unpack_isFinite
      parameter'.unpack_isFinite (parameter.abs_value_le small)
      (parameter'.abs_value_le small')
  obtain ⟨finite_right, right_le⟩ :=
    unpack_add_le (by decide) (zpow_lt_overflow (by decide)) finite_sum finite_one sum_le
      (one_le 500 (by decide))
  have product_le :
      |value (unpack (a + 1.0)) * value (unpack (a + b + 1.0))| ≤ 2 ^ (1001 : Int) := by
    rw [abs_mul]
    calc |value (unpack (a + 1.0))| * |value (unpack (a + b + 1.0))|
      _ ≤ 2 ^ (500 : Int) * 2 ^ (501 : Int) :=
        mul_le_mul left_le right_le (abs_nonneg _) (zpow_nonneg two_pos.le _)
      _ = 2 ^ (1001 : Int) := (zpow_add₀ two_ne_zero 500 501).symm
  have rounds := rounds_unpack_mul finite_left finite_right
    (representable_zpow (by decide)) (zpow_lt_overflow (by decide)) product_le
  rw [isFinite_iff_unpack]
  exact rounds.canonical.isFinite

/-! ## The threshold -/

/-- Next to a small number, a sum stays in the range. -/
theorem greatest_add_lt {x : ℚ} (le : x ≤ 2) :
    greatest .binary64 + 2 * x < overflow .binary64 := by
  have bits : Format.binary64.mantissaBits = 53 := by decide
  have largest : maxExponent .binary64 = ((971 : Nat) : Int) := by decide
  have digit : (2 : ℚ) ^ 2 < 2 ^ 971 := pow_lt_pow_right₀ one_lt_two (by decide)
  rw [greatest_binary64, overflow, bits, largest, zpow_natCast]
  generalize (2 : ℚ) ^ 971 = last at digit ⊢
  linarith

theorem finite_sub_one (parameter : IsParameter b) :
    isFinite (1.0 * (b - 1.0)) = true := by
  obtain ⟨finite_one, one_eq⟩ := unpack_one
  have within := greatest_lt_overflow .binary64
  have representable : Representable .binary64 (greatest .binary64) :=
    representable_greatest (α := Float)
  have le : |value (unpack b)| ≤ greatest .binary64 :=
    abs_value_unpack_le parameter.unpack_isFinite
  have large : 1 ≤ greatest .binary64 := by
    rw [← one_eq]
    exact (le_abs_self _).trans (abs_value_unpack_le finite_one)
  have positive := parameter.value_pos
  have difference_le :
      |value (unpack b) - value (unpack (1.0 : Float))| ≤ greatest .binary64 := by
    rw [one_eq]
    exact abs_le.mpr ⟨by linarith, by linarith [(abs_le.mp le).2]⟩
  have difference := rounds_unpack_sub parameter.unpack_isFinite finite_one representable
    within difference_le
  have product_le :
      |value (unpack (1.0 : Float)) * value (unpack (b - 1.0))| ≤ greatest .binary64 := by
    rw [one_eq, one_mul]
    exact abs_value_unpack_le difference.canonical.isFinite
  have product := rounds_unpack_mul finite_one difference.canonical.isFinite representable
    within product_le
  rw [isFinite_iff_unpack]
  exact product.canonical.isFinite

/-- What the threshold is rounded from, if the sum of the parameters is finite. -/
theorem rounds_threshold
    (parameter : IsParameter a)
    (parameter' : IsParameter b)
    (finite : isFinite (a + b) = true) :
    ∃ dividend divisor : ℚ,
      1 ≤ dividend ∧ dividend ≤ divisor ∧ divisor ≤ greatest .binary64 ∧
        Rounds .binary64 (dividend / divisor)
          (unpack ((a + 1.0) / (a + b + 2.0))) := by
  obtain ⟨finite_one, one_eq⟩ := unpack_one
  obtain ⟨finite_two, two_eq⟩ := unpack_two
  have positive := parameter.value_pos
  have positive' := parameter'.value_pos
  have finite_sum := PackedFormat.unpack_isFinite finite
  have rounds_sum := rounds_add_of_isFinite finite_sum
  have le_sum : value (unpack a) ≤ value (unpack (a + b)) :=
    rounds_sum.le_value parameter.isCanonical.representable (by linarith)
  obtain ⟨rounds, nearest⟩ := add_of_small parameter.unpack_isFinite finite_one
    positive.le (by rw [one_eq]; norm_num)
    (by rw [one_eq]; exact greatest_add_lt (by norm_num))
  obtain ⟨rounds', nearest'⟩ := add_of_small finite_sum finite_two
    (positive.le.trans le_sum) (by rw [two_eq]; norm_num)
    (by rw [two_eq]; exact greatest_add_lt le_rfl)
  have ordered : value (unpack (a + 1.0)) ≤ value (unpack (a + b + 2.0)) :=
    nearest.value_le_value nearest' rounds.canonical.representable
      rounds'.canonical.representable (by rw [one_eq, two_eq]; linarith)
  have one_le : 1 ≤ value (unpack (a + 1.0)) :=
    rounds.le_value representable_one (by rw [one_eq]; linarith)
  have divisor_pos : 0 < value (unpack (a + b + 2.0)) :=
    one_pos.trans_le (one_le.trans ordered)
  have within : 1 < overflow .binary64 := by
    have less : (2 : ℚ) ^ (0 : Int) < overflow .binary64 := zpow_lt_overflow (by decide)
    rwa [zpow_zero] at less
  have quotient_le :
      |value (unpack (a + 1.0)) / value (unpack (a + b + 2.0))| ≤ 1 := by
    rw [abs_of_nonneg (div_nonneg (one_pos.le.trans one_le) divisor_pos.le),
      div_le_one divisor_pos]
    exact ordered
  exact ⟨_, _, one_le, ordered,
    (le_abs_self _).trans (abs_value_unpack_le rounds'.canonical.isFinite),
    rounds_unpack_div rounds.canonical.isFinite rounds'.canonical.isFinite divisor_pos.ne'
      representable_one within quotient_le⟩

/-- A zero is below the threshold, if the sum of the parameters is finite. -/
theorem zero_lt_threshold
    (parameter : IsParameter a)
    (parameter' : IsParameter b)
    (finite : isFinite (a + b) = true) :
    0.0 < (a + 1.0) / (a + b + 2.0) := by
  obtain ⟨dividend, divisor, one_le, ordered, le, rounds⟩ :=
    parameter.rounds_threshold parameter' finite
  have divisor_pos : 0 < divisor := one_pos.trans_le (one_le.trans ordered)
  have representable : Representable .binary64 (2 ^ Format.binary64.minExponent) :=
    representable_zpow le_rfl
  have least_le : 2 ^ Format.binary64.minExponent ≤ dividend / divisor := by
    have bits : Format.binary64.mantissaBits = 53 := by decide
    have largest : maxExponent .binary64 = 971 := by decide
    have least : Format.binary64.minExponent = -1074 := by decide
    have below := le.trans (greatest_lt_overflow .binary64).le
    rw [overflow, bits, largest] at below
    rw [le_div_iff₀ divisor_pos, least]
    calc (2 : ℚ) ^ (-1074 : Int) * divisor
      _ ≤ 2 ^ (-1074 : Int) * (2 ^ 53 * 2 ^ (971 : Int)) :=
        mul_le_mul_of_nonneg_left below (zpow_nonneg two_pos.le _)
      _ = 2 ^ (-50 : Int) := by
        rw [← zpow_natCast, ← zpow_add₀ two_ne_zero, ← zpow_add₀ two_ne_zero]
        norm_num
      _ ≤ 1 := zpow_le_one_of_nonpos₀ one_le_two (by norm_num)
      _ ≤ dividend := one_le
  have positive : 0 < value (unpack ((a + 1.0) / (a + b + 2.0))) :=
    (zpow_pos two_pos _).trans_le (rounds.le_value representable least_le)
  have finite_zero : (unpack (0.0 : Float)).isFinite = true := rfl
  rwa [lt_iff_value_lt finite_zero rounds.canonical.isFinite]

/-- One is not below the threshold. -/
theorem not_one_lt_threshold
    (parameter : IsParameter a)
    (parameter' : IsParameter b) :
    ¬1.0 < (a + 1.0) / (a + b + 2.0) := by
  cases finite : isFinite (a + b) with
  | true =>
      obtain ⟨dividend, divisor, one_le, ordered, -, rounds⟩ :=
        parameter.rounds_threshold parameter' finite
      have quotient_le : dividend / divisor ≤ 1 :=
        (div_le_one (one_pos.trans_le (one_le.trans ordered))).mpr ordered
      rw [lt_iff_value_lt unpack_one.1 rounds.canonical.isFinite, unpack_one.2, not_lt]
      exact rounds.value_le representable_one quotient_le
  | false =>
      -- The divisor is infinite, so the threshold is a zero or NaN.
      have unbounded : isFinite (a + b + 2.0) = false := by
        rw [Bool.eq_false_iff] at finite ⊢
        exact fun finite' => finite (isFinite_of_add finite').1
      rcases vanishes_div (a + 1.0) unbounded with zero | undefined
      · rcases eq_or_eq_of_beq_zero zero with threshold_eq | threshold_eq <;>
          (rw [threshold_eq]; decide +kernel)
      · intro less
        rw [(LawfulFloatingPoint.isNaN_of_lt less).2] at undefined
        cases undefined

end IsParameter

end RootFinding
