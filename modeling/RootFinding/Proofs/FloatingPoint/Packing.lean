import RootFinding.Proofs.FloatingPoint.Operations

/-!
# Overflow

Packing keeps a canonical number unless its exponent is too large, and makes it
infinite otherwise (`unpack_pack_of_le`, `unpack_pack_of_lt`).  In terms of
values, a number is kept exactly when its magnitude is below `overflow`
(`repack_eq_self`, `abs_lt_overflow`).  A `RoundedFormat` unpacks to canonical
numbers, and its sums and quotients are those of unpacked numbers.
-/

namespace RootFinding
namespace Unpacked

open Float.Model (Format UnpackedFloat)
open Float.Model.UnpackedFloat

/-- The largest exponent of a finite number. -/
def maxExponent (format : Format) : Int :=
  2 ^ format.exponentBits - 2 -
    (format.exponentBias + format.mantissaBitsWithoutImplicit)

/-- The magnitude from which on numbers are infinite. -/
def overflow (format : Format) : ℚ :=
  2 ^ format.mantissaBits * 2 ^ maxExponent format

theorem zpow_lt_overflow
    {format : Format}
    {exponent : Int}
    (less : exponent < format.mantissaBits + maxExponent format) :
    2 ^ exponent < overflow format := by
  rw [overflow, ← zpow_natCast, ← zpow_add₀ two_ne_zero]
  exact zpow_lt_zpow_right₀ one_lt_two less

theorem minExponent_eq (format : Format) :
    format.minExponent =
      1 - (format.exponentBias + format.mantissaBitsWithoutImplicit) := by
  have power_pos := Nat.two_pow_pos (format.exponentBits - 1)
  unfold Format.minExponent Format.exponentBias Format.mantissaBits
  push_cast [power_pos]
  ring

theorem toNat_one_append {width : Nat} (digits : BitVec width) :
    (1#1 ++ digits).toNat = 2 ^ width + digits.toNat := by
  rw [BitVec.toNat_append, ← Nat.shiftLeft_add_eq_or_of_lt digits.isLt]
  rw [Nat.shiftLeft_eq]
  simp

/-- Unpacked finite numbers are canonical. -/
theorem isCanonical_unpack
    {format : Format}
    {bits : BitVec format.numBits}
    (finite : (unpack format bits).isFinite = true) :
    IsCanonical format (unpack format bits) := by
  have least := minExponent_eq format
  have digits := (unpackMantissa bits).isLt
  have longer : 2 ^ format.mantissaBits =
      2 * 2 ^ format.mantissaBitsWithoutImplicit := by
    rw [mantissaBits_eq, pow_succ, Nat.mul_comm]
  revert finite
  unfold unpack
  dsimp only
  split
  case isTrue =>
    intro finite
    split at finite <;> cases finite
  case isFalse =>
    intro _
    split
    case isTrue zeroExponent =>
      split
      case isTrue => trivial
      case isFalse =>
        refine ⟨?_, ?_, Or.inl ?_⟩
        · omega
        · rw [zeroExponent, BitVec.toNat_zero, least]
          omega
        · rw [zeroExponent, BitVec.toNat_zero, least]
          omega
    case isFalse notZero =>
      have exponent_pos : 0 < (unpackExponent bits).toNat :=
        BitVec.toNat_pos_of_ne_zero notZero
      refine ⟨?_, ?_, Or.inr ?_⟩
      · rw [toNat_one_append]
        omega
      · rw [least]
        omega
      · rw [toNat_one_append]
        omega

/-- The packed exponent of all ones is kept for values that are not finite. -/
theorem ofNat_ne_neg_one
    {width n : Nat}
    (less : n + 1 < 2 ^ width) :
    BitVec.ofNat width n ≠ -1#_ := by
  intro equal
  have toNat_eq := congrArg BitVec.toNat equal
  rw [BitVec.neg_one_eq_allOnes, BitVec.toNat_allOnes, BitVec.toNat_ofNat,
    Nat.mod_eq_of_lt (by omega)] at toNat_eq
  omega

/-- A number with all its digits is unpacked again. -/
theorem unpack_packComponents_normal
    {format : Format}
    (sign : Sign)
    {exponent : Nat}
    (positive : 0 < exponent)
    (less : exponent + 1 < 2 ^ format.exponentBits)
    (digits : BitVec format.mantissaBitsWithoutImplicit) :
    unpack format
        (packComponents format sign (BitVec.ofNat _ exponent) digits) =
      .finite sign (1#1 ++ digits).toNat
        (exponent - (format.exponentBias + format.mantissaBitsWithoutImplicit))
        (by simp) := by
  have toNat_eq : (BitVec.ofNat format.exponentBits exponent).toNat = exponent := by
    rw [BitVec.toNat_ofNat, Nat.mod_eq_of_lt (by omega)]
  have notZero : BitVec.ofNat format.exponentBits exponent ≠ 0#_ := by
    intro zero
    rw [zero, BitVec.toNat_zero] at toNat_eq
    omega
  unfold unpack
  simp only [unpackExponent_packComponents, unpackMantissa_packComponents,
    unpackSign_packComponents, Sign.ofBitVec_toBitVec, ofNat_ne_neg_one less,
    notZero, toNat_eq, if_false]

/-- A number with the least exponent and fewer digits is unpacked again. -/
theorem unpack_packComponents_subnormal
    {format : Format}
    (sign : Sign)
    {digits : BitVec format.mantissaBitsWithoutImplicit}
    (positive : 0 < digits.toNat) :
    unpack format (packComponents format sign 0#_ digits) =
      .finite sign digits.toNat format.minExponent positive := by
  have notZero : digits ≠ 0#_ := by
    rintro rfl
    rw [BitVec.toNat_zero] at positive
    exact absurd positive (Nat.lt_irrefl 0)
  have notSpecial : (0#_ : BitVec format.exponentBits) ≠ -1#_ :=
    ofNat_ne_neg_one (Nat.one_lt_two_pow format.he.ne')
  unfold unpack
  simp only [unpackExponent_packComponents, unpackMantissa_packComponents,
    unpackSign_packComponents, Sign.ofBitVec_toBitVec, notSpecial, notZero,
    if_false, dif_neg, not_false_eq_true, if_true]
  congr 1
  rw [BitVec.toNat_zero, minExponent_eq]
  omega

/-- The exponent that is packed with a canonical number that is not too large. -/
theorem exists_packedExponent
    {format : Format}
    {exponent : Int}
    (above : format.minExponent ≤ exponent)
    (le : exponent ≤ maxExponent format) :
    ∃ packed : Nat,
      (exponent + format.exponentBias +
          format.mantissaBitsWithoutImplicit).toNat = packed ∧
        0 < packed ∧ packed + 1 < 2 ^ format.exponentBits ∧
        exponent =
          packed - (format.exponentBias + format.mantissaBitsWithoutImplicit) := by
  rw [minExponent_eq] at above
  unfold maxExponent at le
  have power_eq : ((2 ^ format.exponentBits : Nat) : Int) =
      2 ^ format.exponentBits := by
    push_cast
    rfl
  refine ⟨_, rfl, ?_, ?_, ?_⟩ <;> omega

/-- A canonical number that is not too large survives packing. -/
theorem unpack_pack_of_le
    {format : Format}
    (sign : Sign)
    {mantissa : Nat}
    {exponent : Int}
    (positive : 0 < mantissa)
    (canonical : Canonical format mantissa exponent)
    (le : exponent ≤ maxExponent format) :
    unpack format (pack format (.finite sign mantissa exponent positive)) =
      .finite sign mantissa exponent positive := by
  obtain ⟨packed, packed_eq, packed_pos, packed_lt, exponent_eq⟩ :=
    exists_packedExponent canonical.le_exponent le
  have bits := mantissaBits_eq format
  have below := canonical.lt_limit
  rw [bits, pow_succ] at below
  unfold pack
  rw [packed_eq, if_neg (by omega)]
  split
  case isTrue full =>
    have lower := Nat.log2_self_le positive.ne'
    rw [show mantissa.log2 = format.mantissaBitsWithoutImplicit by omega] at lower
    rw [unpack_packComponents_normal sign packed_pos packed_lt]
    congr 1
    · rw [toNat_one_append, BitVec.toNat_ofNat, Nat.mod_eq_sub_mod lower,
        Nat.mod_eq_of_lt (by omega)]
      omega
    · exact exponent_eq.symm
  case isFalse notFull =>
    have short : mantissa < 2 ^ format.mantissaBitsWithoutImplicit := by
      by_contra notShort
      have few := (Nat.log2_lt positive.ne').mpr canonical.lt_limit
      have many := (Nat.le_log2 positive.ne').mpr (Nat.le_of_not_lt notShort)
      omega
    have toNat_eq :
        (BitVec.ofNat format.mantissaBitsWithoutImplicit mantissa).toNat =
          mantissa := by
      rw [BitVec.toNat_ofNat, Nat.mod_eq_of_lt short]
    rw [unpack_packComponents_subnormal sign (by rw [toNat_eq]; exact positive)]
    congr 1
    exact (canonical.full.resolve_right (by omega)).symm

theorem repack_infinity (format : Format) (sign : Sign) :
    repack format (.infinity sign) = .infinity sign := by
  simp [repack, pack, unpack, packedInfinity]

/-- A number that is too large becomes infinite. -/
theorem unpack_pack_of_lt
    {format : Format}
    (sign : Sign)
    {mantissa : Nat}
    {exponent : Int}
    (positive : 0 < mantissa)
    (less : maxExponent format < exponent) :
    unpack format (pack format (.finite sign mantissa exponent positive)) =
      .infinity sign := by
  have power_eq : ((2 ^ format.exponentBits : Nat) : Int) =
      2 ^ format.exponentBits := by
    push_cast
    rfl
  unfold maxExponent at less
  unfold pack
  rw [if_pos (by omega)]
  exact repack_infinity format sign

/-! ## The range of a format -/

/-- The values of a format are those of magnitude below the overflow. -/
theorem Canonical.le_maxExponent_iff
    {format : Format}
    {mantissa : Nat}
    {exponent : Int}
    (least_le : format.minExponent ≤ maxExponent format)
    (canonical : Canonical format mantissa exponent) :
    exponent ≤ maxExponent format ↔
      (mantissa : ℚ) * 2 ^ exponent < overflow format := by
  constructor
  · intro le
    calc (mantissa : ℚ) * 2 ^ exponent
        < 2 ^ format.mantissaBits * 2 ^ exponent := by
          refine mul_lt_mul_of_pos_right ?_ (zpow_pos two_pos exponent)
          exact_mod_cast canonical.lt_limit
      _ ≤ overflow format :=
          mul_le_mul_of_nonneg_left (zpow_le_zpow_right₀ one_le_two le)
            (pow_nonneg two_pos.le _)
  · intro below
    by_contra large
    have full := canonical.full.resolve_left (by omega)
    refine absurd below (not_lt_of_ge ?_)
    calc overflow format
        ≤ 2 ^ format.mantissaBitsWithoutImplicit * 2 ^ exponent :=
          limit_scaled_le format (not_le.mp large)
      _ ≤ mantissa * 2 ^ exponent :=
          mul_le_mul_of_nonneg_right (by exact_mod_cast full)
            (zpow_nonneg two_pos.le exponent)

theorem abs_value_finite
    (sign : Sign)
    {mantissa : Nat}
    {exponent : Int}
    (positive : 0 < mantissa) :
    |value (.finite sign mantissa exponent positive)| =
      mantissa * 2 ^ exponent := by
  have magnitude_pos := scaled_pos exponent positive
  cases sign with
  | negative => exact (abs_neg _).trans (abs_of_pos magnitude_pos)
  | positive => exact abs_of_pos magnitude_pos

/-- The magnitude of a canonical number has a mantissa of the format, which is a full
one unless the exponent is the least one. -/
theorem IsCanonical.exists_exponent
    {format : Format}
    {number : UnpackedFloat}
    (canonical : IsCanonical format number) :
    ∃ exponent,
      |value number| < 2 ^ format.mantissaBits * 2 ^ exponent ∧
        (exponent = format.minExponent ∨
          2 ^ format.mantissaBitsWithoutImplicit * 2 ^ exponent ≤
            |value number|) := by
  rcases number with _ | _ | sign | ⟨sign, mantissa, exponent, positive⟩
  · exact canonical.elim
  · exact canonical.elim
  · refine ⟨format.minExponent, ?_, Or.inl rfl⟩
    rw [value_zero, abs_zero]
    exact mul_pos (pow_pos two_pos _) (zpow_pos two_pos _)
  · have unit_pos : (0 : ℚ) < 2 ^ exponent := zpow_pos two_pos exponent
    refine ⟨exponent, ?_, canonical.full.imp id fun full => ?_⟩
    · rw [abs_value_finite]
      refine mul_lt_mul_of_pos_right ?_ unit_pos
      exact_mod_cast canonical.lt_limit
    · rw [abs_value_finite]
      refine mul_le_mul_of_nonneg_right ?_ unit_pos.le
      exact_mod_cast full

/-- A canonical number in the range of the format is kept. -/
theorem repack_eq_self
    {format : Format}
    {number : UnpackedFloat}
    (least_le : format.minExponent ≤ maxExponent format)
    (canonical : IsCanonical format number)
    (within : |value number| < overflow format) :
    repack format number = number := by
  rcases number with _ | _ | sign | ⟨sign, mantissa, exponent, positive⟩
  · exact canonical.elim
  · exact canonical.elim
  · exact repack_zero format sign
  · rw [abs_value_finite] at within
    exact unpack_pack_of_le sign positive canonical
      ((canonical.le_maxExponent_iff least_le).mpr within)

/-- A canonical number that stays finite is in the range of the format. -/
theorem abs_value_lt_of_isFinite
    {format : Format}
    {number : UnpackedFloat}
    (least_le : format.minExponent ≤ maxExponent format)
    (canonical : IsCanonical format number)
    (finite : (repack format number).isFinite = true) :
    |value number| < overflow format := by
  rcases number with _ | _ | sign | ⟨sign, mantissa, exponent, positive⟩
  · exact canonical.elim
  · exact canonical.elim
  · rw [value_zero, abs_zero]
    exact mul_pos (pow_pos two_pos _) (zpow_pos two_pos _)
  · rw [abs_value_finite, ← canonical.le_maxExponent_iff least_le]
    by_contra large
    rw [repack, unpack_pack_of_lt sign positive (not_le.mp large)] at finite
    cases finite

/-- A rounded number is kept if the exact one is not larger than a representable
number in the range of the format. -/
theorem Rounds.repack_eq
    {format : Format}
    {exact bound : ℚ}
    {rounded : UnpackedFloat}
    (rounds : Rounds format exact rounded)
    (least_le : format.minExponent ≤ maxExponent format)
    (representable : Representable format bound)
    (within : bound < overflow format)
    (le : |exact| ≤ bound) :
    repack format rounded = rounded :=
  repack_eq_self least_le rounds.canonical
    ((rounds.abs_value_le representable le).trans_lt within)

/-- A number that is not finite is not made finite by packing it. -/
theorem isFinite_of_isFinite_repack
    {format : Format}
    {number : UnpackedFloat}
    (finite : (repack format number).isFinite = true) :
    number.isFinite = true := by
  cases number with
  | infinity sign =>
      rw [repack_infinity] at finite
      cases finite
  | notANumber =>
      rw [repack_notANumber] at finite
      cases finite
  | zero sign => rfl
  | finite => rfl

/-- A finite sum has finite summands. -/
theorem isFinite_of_isFinite_add
    {format : Format}
    {left right : UnpackedFloat}
    (finite : (left.add format right).isFinite = true) :
    left.isFinite = true ∧ right.isFinite = true := by
  rcases left with sign | _ | _ | _ <;>
    rcases right with sign' | _ | _ | _ <;>
    try cases finite
  case infinity.infinity =>
    rw [UnpackedFloat.add] at finite
    split at finite <;> cases finite
  all_goals exact ⟨rfl, rfl⟩

end Unpacked

/-! ## Formats with rounded operations -/

/-- A packed format that unpacks to canonical numbers, and whose sums and
quotients are those of the unpacked numbers. -/
class RoundedFormat (α : Type) [FloatingPoint α] extends PackedFormat α where
  least_le : format.minExponent ≤ Unpacked.maxExponent format
  isCanonical_unpack (x : α) :
    (unpack x).isFinite = true -> Unpacked.IsCanonical format (unpack x)
  unpack_add (x y : α) :
    unpack (x + y) =
      Unpacked.repack format ((unpack x).add format (unpack y))
  value_two : Unpacked.value (unpack (2.0 : α)) = 2

instance : RoundedFormat Float where
  least_le := by decide
  isCanonical_unpack _ := Unpacked.isCanonical_unpack
  unpack_add _ _ := rfl
  value_two := by
    have two : (2.0 : Float).toModel.unpack =
        .finite .positive (2 ^ 52) (-51) (Nat.two_pow_pos 52) := by rfl
    change Unpacked.value (2.0 : Float).toModel.unpack = 2
    rw [two, Unpacked.value, Unpacked.signed]
    norm_num

instance : RoundedFormat Float32 where
  least_le := by decide
  isCanonical_unpack _ := Unpacked.isCanonical_unpack
  unpack_add _ _ := rfl
  value_two := by
    have two : (2.0 : Float32).toModel.unpack =
        .finite .positive (2 ^ 23) (-22) (Nat.two_pow_pos 23) := by rfl
    change Unpacked.value (2.0 : Float32).toModel.unpack = 2
    rw [two, Unpacked.value, Unpacked.signed]
    norm_num

namespace RoundedFormat

open FloatingPoint PackedFormat Unpacked

variable [FloatingPoint α] [RoundedFormat α]

theorem unpack_isFinite_of_le
    {lower x upper : α}
    (finite : (unpack lower).isFinite = true)
    (finite' : (unpack upper).isFinite = true)
    (le : lower ≤ x)
    (le' : x ≤ upper) :
    (unpack x).isFinite = true :=
  isFinite_of_le finite finite'
    ((PackedFormat.le_iff lower x).mp le) ((PackedFormat.le_iff x upper).mp le')

/-- Values that are unpacked to finite numbers are ordered like them. -/
theorem le_iff_value_le
    {x y : α}
    (finite : (unpack x).isFinite = true)
    (finite' : (unpack y).isFinite = true) :
    x ≤ y ↔ value (unpack x) ≤ value (unpack y) :=
  (PackedFormat.le_iff x y).trans
    (value_le_value_iff (isCanonical_unpack x finite)
      (isCanonical_unpack y finite')).symm

theorem lt_iff_value_lt
    {x y : α}
    (finite : (unpack x).isFinite = true)
    (finite' : (unpack y).isFinite = true) :
    x < y ↔ value (unpack x) < value (unpack y) := by
  have lawful : LawfulFloatingPoint α := PackedFormat.lawful
  rw [lawful.lt_iff, le_iff_value_le finite finite',
    le_iff_value_le finite' finite, lt_iff_le_not_ge]

theorem unpack_isFinite_of_add
    {x y : α}
    (finite : (unpack (x + y)).isFinite = true) :
    (unpack x).isFinite = true ∧ (unpack y).isFinite = true := by
  rw [unpack_add] at finite
  exact isFinite_of_isFinite_add (isFinite_of_isFinite_repack finite)

/-- A sum is rounded faithfully, unless it is too large. -/
theorem rounds_unpack_add
    {x y : α}
    (finite : (unpack x).isFinite = true)
    (finite' : (unpack y).isFinite = true)
    {bound : ℚ}
    (representable : Representable (format α) bound)
    (within : bound < overflow (format α))
    (le : |value (unpack x) + value (unpack y)| ≤ bound) :
    Rounds (format α) (value (unpack x) + value (unpack y))
      (unpack (x + y)) := by
  have rounds := rounds_add (isCanonical_unpack x finite)
    (isCanonical_unpack y finite')
  rw [unpack_add, rounds.repack_eq least_le representable within le]
  exact rounds

/-- Halves are rounded faithfully before they are packed. -/
theorem rounds_div_two
    {x : α}
    (finite : (unpack x).isFinite = true) :
    Rounds (format α) (value (unpack x) / 2)
      ((unpack x).div (format α) (unpack (2.0 : α))) := by
  have two_eq := value_two (α := α)
  have notZero : value (unpack (2.0 : α)) ≠ 0 := by
    rw [two_eq]
    exact two_ne_zero
  have rounds := rounds_div (isCanonical_unpack x finite)
    (isCanonical_unpack 2.0 (isFinite_of_value_ne_zero notZero)) notZero
  rwa [two_eq] at rounds

/-- A half is rounded faithfully, unless it is too large. -/
theorem rounds_unpack_half
    {x : α}
    (finite : (unpack x).isFinite = true)
    {bound : ℚ}
    (representable : Representable (format α) bound)
    (within : bound < overflow (format α))
    (le : |value (unpack x)| ≤ 2 * bound) :
    Rounds (format α) (value (unpack x) / 2) (unpack (x / 2.0)) := by
  have rounds := rounds_div_two finite
  have le_half : |value (unpack x) / 2| ≤ bound := by
    rw [abs_div, abs_two, div_le_iff₀' two_pos]
    exact le
  rw [unpack_div, rounds.repack_eq least_le representable within le_half]
  exact rounds

/-- A value whose double is finite is unpacked to a canonical number whose double
is in the range of the format. -/
theorem of_isFinite_add_self
    {x : α}
    (finite : isFinite (x + x) = true) :
    (unpack x).isFinite = true ∧
      |2 * value (unpack x)| < overflow (format α) := by
  have doubled := unpack_isFinite finite
  have finite_x := (unpack_isFinite_of_add doubled).1
  rw [unpack_add] at doubled
  have canonical := isCanonical_unpack x finite_x
  have rounds := rounds_add canonical canonical
  rw [← two_mul] at rounds
  have within := abs_value_lt_of_isFinite least_le rounds.canonical doubled
  rw [rounds.value_eq canonical.representable.two_mul] at within
  exact ⟨finite_x, within⟩

end RoundedFormat

end RootFinding
