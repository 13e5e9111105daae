import RootFinding.Proofs.FloatingPoint.Spacing
import RootFinding.Proofs.Search.Halfway
import RootFinding.Proofs.Search.Livelock

/-!
# Nudges that move nothing

An infinite candidate nudges the search away from its current point, up by a tenth of
it and another tenth, or down by a tenth of it less a tenth.  The two tenths cancel
near `-1` in the first case and near `1` in the second one.  Outside of the nearest
numbers the nudge is more than a unit of the current point, so the point moves
(`Nudged.value_ne`).  The nearest numbers are finitely many, and are computed: of
these, the point stays where it is from four units below one to four units above it
in magnitude (`nudgeBy_beq_iff`).

A search that is nudged there asks the same questions for ever (`search_nudgeLaw`).
-/

namespace RootFinding

open FloatingPoint
open Float.Model (Format UnpackedFloat)
open Float.Model.UnpackedFloat (Sign)

namespace Unpacked

/-! ## How far a nudge leads -/

/-- What is computed to nudge a number, up or down. -/
structure Nudged
    (direction tenth x : ℚ)
    (product step moved : UnpackedFloat) : Prop where
  rounds_product : Rounds .binary64 (tenth * x) product
  rounds_step : Rounds .binary64 (value product + direction * tenth) step
  rounds_moved : Rounds .binary64 (x + direction * value step) moved

namespace Nudged

variable {direction tenth x : ℚ} {product step moved : UnpackedFloat} {exponent : Int}

/-- The product is a tenth of the number, but for an eighth of a unit. -/
theorem abs_product_sub_lt
    (nudged : Nudged direction tenth x product step moved)
    (tenth_pos : 0 < tenth)
    (tenth_le : tenth ≤ 11 / 100)
    (above : -52 ≤ exponent)
    (small : |x| < 2 ^ 53 * 2 ^ exponent) :
    |value product - tenth * x| < 2 ^ exponent / 8 := by
  have bits : Format.binary64.mantissaBits = 53 := by decide
  have least : Format.binary64.minExponent = -1074 := by decide
  have unit_pos : (0 : ℚ) < 2 ^ exponent := zpow_pos two_pos exponent
  have eighth : (2 : ℚ) ^ (exponent - 3) = 2 ^ exponent / 8 := by
    rw [zpow_sub₀ two_ne_zero]
    norm_num
  have product_le : |tenth * x| ≤ 11 / 100 * |x| := by
    rw [abs_mul, abs_of_pos tenth_pos]
    exact mul_le_mul_of_nonneg_right tenth_le (abs_nonneg x)
  rw [← eighth]
  refine nudged.rounds_product.abs_sub_lt (by omega) ?_
  rw [bits, eighth]
  linarith

/-- The step is the sum of the product and a tenth, but for a quarter of a unit. -/
theorem abs_step_sub_lt
    (nudged : Nudged direction tenth x product step moved)
    (unit : |direction| = 1)
    (tenth_pos : 0 < tenth)
    (tenth_le : tenth ≤ 11 / 100)
    (above : -52 ≤ exponent)
    (small : |x| < 2 ^ 53 * 2 ^ exponent) :
    |value step - (value product + direction * tenth)| < 2 ^ exponent / 4 := by
  have bits : Format.binary64.mantissaBits = 53 := by decide
  have least : Format.binary64.minExponent = -1074 := by decide
  have least_unit : (2 : ℚ) ^ (-52 : Int) ≤ 2 ^ exponent :=
    zpow_le_zpow_right₀ one_le_two above
  norm_num at least_unit
  have quarter : (2 : ℚ) ^ (exponent - 2) = 2 ^ exponent / 4 := by
    rw [zpow_sub₀ two_ne_zero]
    norm_num
  have product_close := nudged.abs_product_sub_lt tenth_pos tenth_le above small
  have product_le : |tenth * x| ≤ 11 / 100 * |x| := by
    rw [abs_mul, abs_of_pos tenth_pos]
    exact mul_le_mul_of_nonneg_right tenth_le (abs_nonneg x)
  have product_le' := abs_sub_abs_le_abs_sub (value product) (tenth * x)
  have parts := abs_add_le (value product) (direction * tenth)
  rw [abs_mul, unit, one_mul, abs_of_pos tenth_pos] at parts
  rw [← quarter]
  refine nudged.rounds_step.abs_sub_lt (by omega) ?_
  rw [bits, quarter]
  linarith

/-- A nudge is more than a unit, but for numbers at which its two parts cancel. -/
theorem lt_abs_step
    (nudged : Nudged direction tenth x product step moved)
    (unit : |direction| = 1)
    (tenth_ge : 1 / 10 ≤ tenth)
    (tenth_le : tenth ≤ 11 / 100)
    (above : -52 ≤ exponent)
    (small : |x| < 2 ^ 53 * 2 ^ exponent)
    (far : 14 * 2 ^ exponent ≤ |x + direction|) :
    2 ^ exponent < |value step| := by
  have tenth_pos : 0 < tenth := by linarith
  have unit_pos : (0 : ℚ) < 2 ^ exponent := zpow_pos two_pos exponent
  have product_close := nudged.abs_product_sub_lt tenth_pos tenth_le above small
  have step_close := nudged.abs_step_sub_lt unit tenth_pos tenth_le above small
  -- Without rounding, the nudge is a tenth of the distance to where it is to cancel.
  have close : |tenth * (x + direction) - value step| < 2 ^ exponent * 3 / 8 := by
    have parts := abs_add_le (tenth * x - value product)
      (value product + direction * tenth - value step)
    rw [abs_sub_comm] at product_close step_close
    have sum_eq : tenth * x - value product +
        (value product + direction * tenth - value step) =
          tenth * (x + direction) - value step := by
      ring
    rw [sum_eq] at parts
    linarith
  have exact_ge : 2 ^ exponent * 14 / 10 ≤ |tenth * (x + direction)| := by
    rw [abs_mul, abs_of_pos tenth_pos]
    have scaled := mul_le_mul tenth_ge far (by linarith) tenth_pos.le
    linarith
  have step_ge := abs_sub_abs_le_abs_sub (tenth * (x + direction)) (value step)
  linarith

/-- Such a nudge moves the number. -/
theorem value_ne
    (nudged : Nudged direction tenth x product step moved)
    (unit : |direction| = 1)
    (tenth_ge : 1 / 10 ≤ tenth)
    (tenth_le : tenth ≤ 11 / 100)
    (above : -52 ≤ exponent)
    (small : |x| < 2 ^ 53 * 2 ^ exponent)
    (far : 14 * 2 ^ exponent ≤ |x + direction|) :
    value moved ≠ x := by
  have large := nudged.lt_abs_step unit tenth_ge tenth_le above small far
  have least : Format.binary64.minExponent = -1074 := by decide
  have large_step : 2 ^ exponent < |direction * value step| := by
    rwa [abs_mul, unit, one_mul]
  exact nudged.rounds_moved.value_add_ne (by omega) small large_step

end Nudged

/-! ## The numbers nearest to one -/

/-- The magnitudes nearest to one have one of two exponents, and few mantissas. -/
theorem Canonical.of_near_one
    {mantissa : Nat}
    {exponent : Int}
    (canonical : Canonical .binary64 mantissa exponent)
    (near : |(mantissa : ℚ) * 2 ^ exponent - 1| < 14 * 2 ^ (-52 : Int)) :
    exponent = -52 ∧ 2 ^ 52 ≤ mantissa ∧ mantissa < 2 ^ 52 + 14 ∨
      exponent = -53 ∧ 2 ^ 53 - 28 ≤ mantissa ∧ mantissa < 2 ^ 53 := by
  have short : mantissa < 2 ^ 53 := canonical.lt_limit
  have least : Format.binary64.minExponent = -1074 := by decide
  obtain ⟨lower, upper⟩ := abs_lt.mp near
  have unit_pos : (0 : ℚ) < 2 ^ exponent := zpow_pos two_pos exponent
  have notLess : -53 ≤ exponent := by
    by_contra less
    have unit_le : (2 : ℚ) ^ exponent ≤ 2 ^ (-54 : Int) :=
      zpow_le_zpow_right₀ one_le_two (by omega)
    have magnitude_le : (mantissa : ℚ) * 2 ^ exponent ≤ 2 ^ 53 * 2 ^ (-54 : Int) :=
      mul_le_mul (by exact_mod_cast short.le) unit_le unit_pos.le
        (pow_nonneg two_pos.le _)
    norm_num at magnitude_le lower
    linarith
  have full : 2 ^ 52 ≤ mantissa := canonical.full.resolve_left (by omega)
  have notGreater : exponent ≤ -52 := by
    by_contra greater
    have unit_le : (2 : ℚ) ^ (-51 : Int) ≤ 2 ^ exponent :=
      zpow_le_zpow_right₀ one_le_two (by omega)
    have le_magnitude : (2 : ℚ) ^ 52 * 2 ^ (-51 : Int) ≤ mantissa * 2 ^ exponent :=
      mul_le_mul (by exact_mod_cast full) unit_le (zpow_nonneg two_pos.le _)
        (Nat.cast_nonneg _)
    norm_num at le_magnitude upper
    linarith
  have unit_eq : (2 : ℚ) ^ (-52 : Int) = 2 * 2 ^ (-53 : Int) := by norm_num
  have units : (2 : ℚ) ^ 53 * 2 ^ (-53 : Int) = 1 := by norm_num
  have smaller_pos : (0 : ℚ) < 2 ^ (-53 : Int) := zpow_pos two_pos _
  obtain rfl | rfl : exponent = -52 ∨ exponent = -53 := by omega
  · refine Or.inl ⟨rfl, full, ?_⟩
    have below : (mantissa : ℚ) < 2 ^ 52 + 14 := by
      refine lt_of_mul_lt_mul_right ?_ unit_pos.le
      linarith
    exact_mod_cast below
  · refine Or.inr ⟨rfl, ?_, short⟩
    have above : (2 : ℚ) ^ 53 < mantissa + 28 := by
      refine lt_of_mul_lt_mul_right ?_ unit_pos.le
      linarith
    have above' : 2 ^ 53 < mantissa + 28 := by exact_mod_cast above
    omega

end Unpacked

namespace BinaryFormat

open PackedFormat RoundedFormat Unpacked

/-! ## The two nudges -/

/-- A sum or a difference. -/
def addBy : Sign -> Float -> Float -> Float
  | .positive, x, y => x + y
  | .negative, x, y => x - y

/-- The nudge up or down. -/
def nudgeBy (direction : Sign) (x : Float) : Float :=
  addBy direction x (addBy direction (0.1 * x) 0.1)

theorem nudgeBy_positive (x : Float) : nudgeBy .positive x = nudgeUp x := rfl

theorem nudgeBy_negative (x : Float) : nudgeBy .negative x = nudgeDown x := rfl

/-- Sums and differences are rounded faithfully, unless they are too large. -/
theorem rounds_unpack_addBy
    (direction : Sign)
    {x y : Float}
    (finite : (unpack x).isFinite = true)
    (finite' : (unpack y).isFinite = true)
    {bound : ℚ}
    (representable : Representable .binary64 bound)
    (within : bound < overflow .binary64)
    (le : |value (unpack x)| + |value (unpack y)| ≤ bound) :
    Rounds .binary64 (value (unpack x) + signed direction 1 * value (unpack y))
      (unpack (addBy direction x y)) := by
  cases direction with
  | positive =>
      rw [signed, one_mul]
      exact rounds_unpack_add finite finite' representable within
        ((abs_add_le _ _).trans le)
  | negative =>
      rw [signed, neg_one_mul, ← sub_eq_add_neg]
      exact rounds_unpack_sub finite finite' representable within
        ((abs_sub _ _).trans le)

theorem tenth_bounds :
    1 / 10 ≤ value (unpack (0.1 : Float)) ∧
      value (unpack (0.1 : Float)) ≤ 11 / 100 := by
  have unpacked : unpack (0.1 : Float) =
      .finite .positive 7205759403792794 (-56) (by decide) := by rfl
  rw [unpacked, value, signed]
  constructor <;> norm_num

theorem abs_signed_one (direction : Sign) : |signed direction 1| = 1 := by
  cases direction with
  | positive => exact abs_one
  | negative => exact (abs_neg 1).trans abs_one

/-- Numbers that are not too large are nudged without overflow. -/
theorem exists_nudged
    (direction : Sign)
    {x : Float}
    (finite : (unpack x).isFinite = true)
    {bound : ℚ}
    (representable : Representable .binary64 bound)
    (within : 2 * (2 * bound) < overflow .binary64)
    (one_le : 1 ≤ bound)
    (small : |value (unpack x)| ≤ bound) :
    ∃ product step,
      Nudged (signed direction 1) (value (unpack (0.1 : Float)))
        (value (unpack x)) product step (unpack (nudgeBy direction x)) := by
  obtain ⟨tenth_ge, tenth_le⟩ := tenth_bounds
  have tenth_pos : 0 < value (unpack (0.1 : Float)) := by linarith
  have finite_tenth := isFinite_of_value_ne_zero tenth_pos.ne'
  have product_le : |value (unpack (0.1 : Float)) * value (unpack x)| ≤ bound := by
    rw [abs_mul, abs_of_pos tenth_pos]
    exact (mul_le_of_le_one_left (abs_nonneg _) (by linarith)).trans small
  have within' : bound < overflow .binary64 := by linarith
  have rounds_product := rounds_unpack_mul finite_tenth finite representable
    within' product_le
  have product_le' := rounds_product.abs_value_le representable product_le
  have sum_le :
      |value (unpack (0.1 * x))| + |value (unpack (0.1 : Float))| ≤ 2 * bound := by
    rw [abs_of_pos tenth_pos]
    linarith
  have rounds_step := rounds_unpack_addBy direction
    rounds_product.canonical.isFinite finite_tenth representable.two_mul
    (by linarith) sum_le
  have step_le :
      |value (unpack (addBy direction (0.1 * x) 0.1))| ≤ 2 * bound := by
    refine rounds_step.abs_value_le representable.two_mul ((abs_add_le _ _).trans ?_)
    rwa [abs_mul, abs_signed_one, one_mul]
  have rounds_moved := rounds_unpack_addBy direction finite
    rounds_step.canonical.isFinite representable.two_mul.two_mul within
    (by linarith)
  exact ⟨_, _, rounds_product, rounds_step, rounds_moved⟩

/-! ## The numbers that are not moved -/

/-- The least number that a nudge does not move. -/
def leastFixed : Sign -> Float
  | .positive => -1.0000000000000009
  | .negative => 0.9999999999999996

/-- The greatest number that a nudge does not move. -/
def greatestFixed : Sign -> Float
  | .positive => -0.9999999999999996
  | .negative => 1.0000000000000009

/-- A number between the least and the greatest one that a nudge does not move. -/
def FixedBy (direction : Sign) (x : Float) : Prop :=
  leastFixed direction ≤ x ∧ x ≤ greatestFixed direction

/-- The sum or the difference of unpacked numbers. -/
def addUnpacked (direction : Sign) (left right : UnpackedFloat) : UnpackedFloat :=
  match direction with
  | .positive => repack .binary64 (left.add .binary64 right)
  | .negative => repack .binary64 (left.sub .binary64 right)

/-- The nudge of an unpacked number. -/
def nudgeUnpacked (direction : Sign) (number : UnpackedFloat) : UnpackedFloat :=
  let tenth := unpack (0.1 : Float)
  addUnpacked direction number
    (addUnpacked direction (repack .binary64 (tenth.mul .binary64 number)) tenth)

theorem unpack_nudgeBy (direction : Sign) (x : Float) :
    unpack (nudgeBy direction x) = nudgeUnpacked direction (unpack x) := by
  cases direction <;> rfl

/-- An unpacked number is not moved exactly if it lies between the bounds. -/
def Agrees (direction : Sign) (number : UnpackedFloat) : Bool :=
  (nudgeUnpacked direction number).beq number ==
    ((unpack (leastFixed direction)).le number &&
      number.le (unpack (greatestFixed direction)))

theorem nudgeBy_beq_iff_of_agrees
    {direction : Sign}
    {x : Float}
    (agrees : Agrees direction (unpack x) = true) :
    (nudgeBy direction x == x) = true ↔ FixedBy direction x := by
  rw [Agrees, beq_iff_eq, ← unpack_nudgeBy, ← beq_eq] at agrees
  rw [agrees, Bool.and_eq_true, FixedBy, PackedFormat.le_iff,
    PackedFormat.le_iff]

/-- The nearest numbers from one on in magnitude. -/
theorem agrees_from_one :
    ∀ k < 14,
      Agrees .positive
          (.finite .negative (2 ^ 52 + k) (-52)
            (Nat.add_pos_left (Nat.two_pow_pos 52) k)) = true ∧
        Agrees .negative
          (.finite .positive (2 ^ 52 + k) (-52)
            (Nat.add_pos_left (Nat.two_pow_pos 52) k)) = true := by
  decide +kernel

/-- The nearest numbers below one in magnitude. -/
theorem agrees_below_one :
    ∀ k < 28,
      Agrees .positive
          (.finite .negative (2 ^ 53 - 28 + k) (-53)
            (Nat.add_pos_left (by decide) k)) = true ∧
        Agrees .negative
          (.finite .positive (2 ^ 53 - 28 + k) (-53)
            (Nat.add_pos_left (by decide) k)) = true := by
  decide +kernel

/-- The number that a nudge is to cancel at lies nearby. -/
def IsNear (direction : Sign) (x : Float) : Prop :=
  |value (unpack x) + signed direction 1| < 14 * 2 ^ (-52 : Int)

/-- A magnitude with a sign lies near to one on the other side of zero if what is
left of it is small. -/
theorem near_one_of_isNear
    {direction sign : Sign}
    {magnitude : ℚ}
    (positive : 0 < magnitude)
    (near : |signed sign magnitude + signed direction 1| < 14 * 2 ^ (-52 : Int)) :
    sign = -direction ∧ |magnitude - 1| < 14 * 2 ^ (-52 : Int) := by
  have close : (14 : ℚ) * 2 ^ (-52 : Int) < 1 := by norm_num
  cases sign <;> cases direction <;> simp only [signed] at near
  case negative.negative =>
    rw [abs_of_neg (by linarith)] at near
    linarith
  case negative.positive =>
    rw [neg_add_eq_sub, abs_sub_comm] at near
    exact ⟨rfl, near⟩
  case positive.negative =>
    rw [← sub_eq_add_neg] at near
    exact ⟨rfl, near⟩
  case positive.positive =>
    rw [abs_of_pos (by linarith)] at near
    linarith

theorem agrees_of_isNear
    {direction : Sign}
    {x : Float}
    (finite : (unpack x).isFinite = true)
    (near : IsNear direction x) :
    Agrees direction (unpack x) = true := by
  have canonical := RoundedFormat.isCanonical_unpack x finite
  unfold IsNear at near
  rcases unpacked : unpack x with _ | _ | sign | ⟨sign, mantissa, exponent, positive⟩
  all_goals rw [unpacked] at canonical near
  case infinity => exact canonical.elim
  case notANumber => exact canonical.elim
  case zero =>
    rw [value_zero, zero_add, abs_signed_one] at near
    norm_num at near
  case finite =>
    obtain ⟨rfl, near_one⟩ := near_one_of_isNear (scaled_pos exponent positive) near
    rcases Canonical.of_near_one canonical near_one with
      ⟨rfl, above, below⟩ | ⟨rfl, above, below⟩
    · obtain ⟨k, rfl⟩ := Nat.exists_eq_add_of_le above
      have agrees := agrees_from_one k (Nat.lt_of_add_lt_add_left below)
      cases direction with
      | positive => exact agrees.1
      | negative => exact agrees.2
    · obtain ⟨k, rfl⟩ := Nat.exists_eq_add_of_le above
      have agrees := agrees_below_one k (by omega)
      cases direction with
      | positive => exact agrees.1
      | negative => exact agrees.2

/-- The numbers that a nudge does not move lie nearby. -/
theorem isNear_of_fixedBy
    {direction : Sign}
    {x : Float}
    (finite : (unpack x).isFinite = true)
    (fixed : FixedBy direction x) :
    IsNear direction x := by
  have few : unpack (0.9999999999999996 : Float) =
      .finite .positive (2 ^ 53 - 4) (-53) (by decide) := by rfl
  have many : unpack (1.0000000000000009 : Float) =
      .finite .positive (2 ^ 52 + 4) (-52) (by decide) := by rfl
  have few' : unpack (-0.9999999999999996 : Float) =
      .finite .negative (2 ^ 53 - 4) (-53) (by decide) := by rfl
  have many' : unpack (-1.0000000000000009 : Float) =
      .finite .negative (2 ^ 52 + 4) (-52) (by decide) := by rfl
  obtain ⟨above, below⟩ := fixed
  unfold IsNear
  cases direction with
  | positive =>
      rw [leastFixed, le_iff_value_le (by rw [many']; rfl) finite, many', value,
        signed] at above
      rw [greatestFixed, le_iff_value_le finite (by rw [few']; rfl), few', value,
        signed] at below
      rw [signed, abs_lt]
      norm_num at above below ⊢
      constructor <;> linarith
  | negative =>
      rw [leastFixed, le_iff_value_le (by rw [few]; rfl) finite, few, value,
        signed] at above
      rw [greatestFixed, le_iff_value_le finite (by rw [many]; rfl), many, value,
        signed] at below
      rw [signed, abs_lt]
      norm_num at above below ⊢
      constructor <;> linarith

/-- Other numbers are few units in magnitude, and many units away from where a nudge
is to cancel. -/
theorem exists_exponent_of_not_isNear
    {direction : Sign}
    {x : Float}
    (finite : (unpack x).isFinite = true)
    (far : ¬IsNear direction x) :
    ∃ exponent : Int,
      -52 ≤ exponent ∧
        |value (unpack x)| < 2 ^ 53 * 2 ^ exponent ∧
        14 * 2 ^ exponent ≤ |value (unpack x) + signed direction 1| := by
  rw [IsNear, not_lt] at far
  rcases lt_or_ge |value (unpack x)| 2 with below | above
  · refine ⟨-52, le_rfl, ?_, far⟩
    norm_num
    exact below
  · -- The magnitude is large, so one more or less does not bring it near to zero.
    obtain ⟨exponent, lt_limit, full⟩ :=
      (RoundedFormat.isCanonical_unpack x finite).exists_exponent
    have bits : Format.binary64.mantissaBits = 53 := by decide
    have bits' : Format.binary64.mantissaBitsWithoutImplicit = 52 := by decide
    change |value (unpack x)| < 2 ^ Format.binary64.mantissaBits * 2 ^ exponent
      at lt_limit
    change exponent = Format.binary64.minExponent ∨
      2 ^ Format.binary64.mantissaBitsWithoutImplicit * 2 ^ exponent ≤
        |value (unpack x)| at full
    rw [bits] at lt_limit
    rw [bits'] at full
    have larger : -52 < exponent := by
      have unit_lt : (2 : ℚ) ^ (-52 : Int) < 2 ^ exponent := by
        norm_num
        linarith
      exact (zpow_lt_zpow_iff_right₀ one_lt_two).mp unit_lt
    have least : Format.binary64.minExponent = -1074 := by decide
    have full' := full.resolve_left (by omega)
    refine ⟨exponent, larger.le, lt_limit, ?_⟩
    have apart := abs_sub_abs_le_abs_sub (value (unpack x)) (-signed direction 1)
    rw [abs_neg, abs_signed_one, sub_neg_eq_add] at apart
    linarith

/-- These numbers are moved. -/
theorem nudgeBy_ne_of_not_isNear
    {direction : Sign}
    {x : Float}
    (finite : (unpack x).isFinite = true)
    (small : |value (unpack x)| ≤ 2 ^ (1000 : Int))
    (far : ¬IsNear direction x) :
    (nudgeBy direction x == x) = false := by
  have within : 2 * (2 * 2 ^ (1000 : Int)) < overflow .binary64 := by
    rw [← zpow_one_add₀ two_ne_zero, ← zpow_one_add₀ two_ne_zero]
    exact zpow_lt_overflow (by decide)
  obtain ⟨product, step, nudged⟩ := exists_nudged direction finite
    (representable_zpow (by decide)) within
    (one_le_zpow₀ one_le_two (by decide)) small
  obtain ⟨tenth_ge, tenth_le⟩ := tenth_bounds
  obtain ⟨exponent, above, few, many⟩ := exists_exponent_of_not_isNear finite far
  have moved := nudged.value_ne (abs_signed_one direction) tenth_ge tenth_le
    above few many
  rw [← Bool.not_eq_true, beq_eq]
  exact fun same => moved (value_eq_of_beq same)

theorem abs_value_le_of_abs_le
    {x : Float}
    (small : Arithmetic.abs x ≤ 1e300) :
    (unpack x).isFinite = true ∧ |value (unpack x)| ≤ 2 ^ (1000 : Int) := by
  -- The literal is too long to be unpacked as it stands; its bits are not.
  have bits : (1e300 : Float) = Float.ofBits 0x7E37E43C8800759C := by decide +kernel
  have unpacked : unpack (Float.ofBits 0x7E37E43C8800759C) =
      .finite .positive 0x17E43C8800759C 944 (by decide) := by rfl
  rw [bits] at small
  have finite_bound : (unpack (Float.ofBits 0x7E37E43C8800759C)).isFinite = true := by
    rw [unpacked]
    rfl
  have finite := unpack_isFinite_of_abs_le finite_bound small
  obtain ⟨finite_abs, abs_eq⟩ := value_unpack_abs finite
  rw [le_iff_value_le finite_abs finite_bound, abs_eq, unpacked, value, signed]
    at small
  have power_eq : (2 : ℚ) ^ (1000 : Int) = 2 ^ 56 * 2 ^ (944 : Int) := by
    rw [← zpow_natCast, ← zpow_add₀ two_ne_zero]
    rfl
  refine ⟨finite, small.trans ?_⟩
  rw [power_eq]
  exact mul_le_mul_of_nonneg_right (by norm_num) (zpow_nonneg two_pos.le _)

/-- The numbers of magnitude at most `1e300` that a nudge does not move. -/
theorem nudgeBy_beq_iff
    (direction : Sign)
    {x : Float}
    (small : Arithmetic.abs x ≤ 1e300) :
    (nudgeBy direction x == x) = true ↔ FixedBy direction x := by
  obtain ⟨finite, le_power⟩ := abs_value_le_of_abs_le small
  by_cases near : IsNear direction x
  · exact nudgeBy_beq_iff_of_agrees (agrees_of_isNear finite near)
  · rw [nudgeBy_ne_of_not_isNear finite le_power near]
    simp only [Bool.false_eq_true, false_iff]
    exact fun fixed => near (isNear_of_fixedBy finite fixed)

end BinaryFormat

namespace Finder

open Search BinaryFormat

/-- An infinite candidate lies on one side of zero. -/
theorem lt_zero_or_zero_lt_of_isInfinite
    {x : Float}
    (infinite : isInfinite x = true) :
    0.0 < x ∨ x < 0.0 := by
  refine ((isInfinite_iff_lt x).mp infinite).imp (fun above => ?_) fun below => ?_
  · exact LawfulFloatingPoint.lt_of_le_of_lt (by decide +kernel) above
  · exact LawfulFloatingPoint.lt_of_lt_of_le below (by decide +kernel)

variable {finder : Finder σ Float} {start : Float} {rounds : Nat}
  {turn : Turn Float}

/-- An infinite candidate nudges the search up or down. -/
theorem Meets.of_infiniteStep
    (meets : finder.Meets start rounds .infiniteStep turn) :
    isInfinite turn.candidate = true ∧
      (finder.search (rounds + 1) start).1.state.current =
        if 0.0 < turn.candidate then
          nudgeUp (finder.search rounds start).1.state.current
        else nudgeDown (finder.search rounds start).1.state.current := by
  have judgement := meets.judgement
  generalize (finder.search (rounds + 1) start).1.state.current = next
    at judgement ⊢
  cases judgement with
  | infinite _ infinite => exact ⟨infinite, rfl⟩

/-- A search that is nudged and does not move is stuck there. -/
theorem Meets.trapped_of_infiniteStep
    {function derivative : Float -> Float}
    {config : Config Float}
    (meets :
      (ofConfig function derivative config).Meets
        start rounds .infiniteStep turn)
    (stays :
      (((ofConfig function derivative config).search
          (rounds + 1) start).1.state.current ==
        ((ofConfig function derivative config).search
          rounds start).1.state.current) = true) :
    Trapped function derivative config rounds start := by
  obtain ⟨-, next_eq⟩ := meets.of_infiniteStep
  refine meets.trapped_of_beq stays ⟨fun zero => ?_, fun zero => ?_⟩
  · rw [next_eq, zero] at stays
    split at stays <;> exact absurd stays (by decide +kernel)
  · rw [next_eq, zero] at stays
    split at stays <;> exact absurd stays (by decide +kernel)

/-- Where a search goes on after it has met an infinite candidate. -/
structure NudgeLaw
    (function derivative : Float -> Float)
    (config : Config Float)
    (start : Float)
    (rounds : Nat)
    (candidate current next : Float) : Prop where
  /-- The candidate lies on one side of zero. -/
  positive_or_negative : 0.0 < candidate ∨ candidate < 0.0
  /-- A positive infinity nudges the current point up. -/
  next_eq_nudgeUp : 0.0 < candidate -> next = nudgeUp current
  /-- A negative infinity nudges it down. -/
  next_eq_nudgeDown : candidate < 0.0 -> next = nudgeDown current
  /-- A nudge up moves every point but the ones nearest to `-1`. -/
  stays_iff_of_positive :
    Arithmetic.abs current ≤ 1e300 ->
      0.0 < candidate ->
      ((next == current) = true ↔
        -1.0000000000000009 ≤ current ∧ current ≤ -0.9999999999999996)
  /-- A nudge down moves every point but the ones nearest to `1`. -/
  stays_iff_of_negative :
    Arithmetic.abs current ≤ 1e300 ->
      candidate < 0.0 ->
      ((next == current) = true ↔
        0.9999999999999996 ≤ current ∧ current ≤ 1.0000000000000009)
  /-- A search that does not leave its current point goes on for ever. -/
  trapped :
    (next == current) = true ->
      Trapped function derivative config rounds start

/-- Every infinite candidate that a search of two functions meets obeys this law. -/
theorem search_nudgeLaw
    {function derivative : Float -> Float}
    {config : Config Float}
    {start : Float}
    {rounds : Nat}
    {turn : Turn Float}
    (meets :
      (ofConfig function derivative config).Meets
        start rounds .infiniteStep turn) :
    NudgeLaw function derivative config start rounds turn.candidate
      ((ofConfig function derivative config).search rounds start).1.state.current
      ((ofConfig function derivative config).search
        (rounds + 1) start).1.state.current := by
  obtain ⟨infinite, next_eq⟩ := meets.of_infiniteStep
  have up (positive : 0.0 < turn.candidate) := next_eq.trans (if_pos positive)
  have down (negative : turn.candidate < 0.0) := next_eq.trans
    (if_neg (LawfulFloatingPoint.not_lt_of_le
      (LawfulFloatingPoint.le_of_lt negative)))
  refine
    { positive_or_negative := lt_zero_or_zero_lt_of_isInfinite infinite
      next_eq_nudgeUp := up
      next_eq_nudgeDown := down
      stays_iff_of_positive := ?_
      stays_iff_of_negative := ?_
      trapped := meets.trapped_of_infiniteStep }
  · intro small positive
    rw [up positive, ← nudgeBy_positive]
    exact nudgeBy_beq_iff .positive small
  · intro small negative
    rw [down negative, ← nudgeBy_negative]
    exact nudgeBy_beq_iff .negative small

/-- A search of `x ^ 3 - 3 * x + 3` that starts at a minimum, where the step is
infinite, and never leaves it. -/
theorem search_nudgeLaw_minimum :
    let function : Float -> Float := fun x => x * x * x - 3.0 * x + 3.0
    let derivative : Float -> Float := fun x => 3.0 * x * x - 3.0
    let config : Config Float := .ofSettings [.heuristics]
    let finder := ofConfig function derivative config
    let turn :=
      (finder.play (finder.search 0 1.0).1.state (finder.search 0 1.0).2).1
    finder.Meets 1.0 0 .infiniteStep turn ∧
      (∀ rounds, finder.solve rounds 1.0 = none) ∧
      NudgeLaw function derivative config 1.0 0 (-1.0 / 0.0) 1.0 1.0 := by
  intro function derivative config finder turn
  have meets : finder.Meets 1.0 0 .infiniteStep turn :=
    meets_of_going (by decide +kernel) (by decide +kernel)
  have candidate_eq : turn.candidate = -1.0 / 0.0 := by decide +kernel
  have current_eq :
      ((ofConfig function derivative config).search 0 1.0).1.state.current =
        1.0 := by
    decide +kernel
  have next_eq :
      ((ofConfig function derivative config).search
        (0 + 1) 1.0).1.state.current = 1.0 := by
    decide +kernel
  have law := search_nudgeLaw meets
  rw [candidate_eq, current_eq, next_eq] at law
  exact ⟨meets, (law.trapped (by decide +kernel)).unsolved, law⟩

/-- A search of a function whose only root is 5 that starts at 1, where the step is
infinite, is nudged down, and stays at 1 for ever. -/
theorem search_stays_at_infiniteStep :
    let function : Float -> Float := fun x => if x == 1.0 then 1.0 else x - 5.0
    let derivative : Float -> Float := fun x => if x == 1.0 then 0.0 else 1.0
    let config : Config Float := .ofSettings [.heuristics]
    let finder := ofConfig function derivative config
    let turn :=
      (finder.play (finder.search 0 1.0).1.state (finder.search 0 1.0).2).1
    config.useHeuristics = true ∧
      finder.Meets 1.0 0 .infiniteStep turn ∧
      turn.candidate = -1.0 / 0.0 ∧
      (finder.search 0 1.0).1.state.current = 1.0 ∧
      nudgeDown 1.0 = (1.0 : Float) ∧
      (finder.search 1 1.0).1.state.current = 1.0 ∧
      ∀ rounds, finder.solve rounds 1.0 = none := by
  intro function derivative config finder turn
  have meets : finder.Meets 1.0 0 .infiniteStep turn :=
    meets_of_going (by decide +kernel) (by decide +kernel)
  have trapped := meets.trapped_of_infiniteStep (by decide +kernel)
  exact ⟨rfl, meets, by decide +kernel, by decide +kernel, by decide +kernel,
    by decide +kernel, trapped.unsolved⟩

end Finder
end RootFinding
