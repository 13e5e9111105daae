import RootFinding.Proofs.FloatingPoint.Products

/-!
# Negation

The negative of a value of a binary format is exact: it differs in the sign only
(`SignedFormat.unpack_neg_eq`).  Negative numbers are compared the other way round,
zeros and infinities among them, so negation reverses the order of the values.
`LawfulNegation` says so of a floating-point type, and both binary formats obey it.
A negative has the opposite sign (`sign_neg`), also where it is NaN.
-/

namespace RootFinding

open Float.Model (Format UnpackedFloat)

/-- Negation reverses the order and does not move zero. -/
class LawfulNegation (α : Type) [FloatingPoint α] : Prop where
  neg_le_neg_iff {x y : α} : -x ≤ -y ↔ y ≤ x
  neg_zero_beq : ((-0.0 : α) == 0.0) = true

/-! ## Negatives and zero -/

namespace LawfulNegation

variable [FloatingPoint α] [LawfulFloatingPoint α] [LawfulNegation α]

theorem neg_le_zero_iff {x : α} : -x ≤ 0.0 ↔ 0.0 ≤ x := by
  obtain ⟨le, ge⟩ := LawfulFloatingPoint.beq_iff.mp (neg_zero_beq (α := α))
  rw [← neg_le_neg_iff (x := x)]
  exact ⟨fun below => LawfulFloatingPoint.le_trans below ge,
    fun below => LawfulFloatingPoint.le_trans below le⟩

theorem zero_le_neg_iff {x : α} : 0.0 ≤ -x ↔ x ≤ 0.0 := by
  obtain ⟨le, ge⟩ := LawfulFloatingPoint.beq_iff.mp (neg_zero_beq (α := α))
  rw [← neg_le_neg_iff (y := x)]
  exact ⟨fun above => LawfulFloatingPoint.le_trans le above,
    fun above => LawfulFloatingPoint.le_trans ge above⟩

theorem neg_lt_zero_iff {x : α} : -x < 0.0 ↔ 0.0 < x := by
  rw [LawfulFloatingPoint.lt_iff, LawfulFloatingPoint.lt_iff, neg_le_zero_iff,
    zero_le_neg_iff]

theorem zero_lt_neg_iff {x : α} : 0.0 < -x ↔ x < 0.0 := by
  rw [LawfulFloatingPoint.lt_iff, LawfulFloatingPoint.lt_iff, neg_le_zero_iff,
    zero_le_neg_iff]

/-- The negative of a number that is not zero is not zero. -/
theorem neg_beq_zero (x : α) : (-x == 0.0) = (x == 0.0) := by
  rw [Bool.eq_iff_iff, LawfulFloatingPoint.beq_iff, LawfulFloatingPoint.beq_iff,
    neg_le_zero_iff, zero_le_neg_iff, and_comm]

end LawfulNegation

/-- The sign of a negative is the opposite one. -/
theorem sign_neg
    [FloatingPoint α]
    [LawfulFloatingPoint α]
    [LawfulNegation α]
    (x : α) :
    sign (-x) = -sign x := by
  unfold sign
  simp only [LawfulNegation.neg_lt_zero_iff, LawfulNegation.zero_lt_neg_iff]
  by_cases negative : x < 0.0
  · have notPositive : ¬0.0 < x :=
      LawfulFloatingPoint.not_lt_of_le (LawfulFloatingPoint.le_of_lt negative)
    rw [if_neg notPositive, if_pos negative, if_pos negative, neg_neg]
  · rw [if_neg negative, if_neg negative]
    split <;> rfl

/-! ## Negative numbers -/

namespace Unpacked

open Float.Model.UnpackedFloat
  (Sign packComponents unpackExponent_packComponents unpackMantissa_packComponents
    unpackSign_packComponents)

/-- Negative numbers are compared the other way round. -/
theorem compare_neg_neg (left right : UnpackedFloat) :
    left.neg.compare right.neg = right.compare left := by
  rcases left with (_ | _) | _ | (_ | _) | ⟨_ | _, mantissa, exponent, positive⟩ <;>
    rcases right with
      (_ | _) | _ | (_ | _) | ⟨_ | _, mantissa', exponent', positive'⟩ <;>
    try rfl
  case finite.negative.finite.negative =>
    rw [UnpackedFloat.compare, Ordering.swap_then, Int.compare_swap,
      Nat.compare_swap]
    rfl
  case finite.positive.finite.positive =>
    rw [UnpackedFloat.compare, ← Int.compare_swap, ← Nat.compare_swap,
      ← Ordering.swap_then]
    rfl

/-- The sign is packed apart from the other components. -/
theorem unpack_packComponents_neg
    (format : Format)
    (sign : Sign)
    (exponent : BitVec format.exponentBits)
    (mantissa : BitVec format.mantissaBitsWithoutImplicit) :
    UnpackedFloat.unpack format (packComponents format (-sign) exponent mantissa) =
      (UnpackedFloat.unpack format
        (packComponents format sign exponent mantissa)).neg := by
  simp only [UnpackedFloat.unpack, unpackExponent_packComponents,
    unpackMantissa_packComponents, unpackSign_packComponents,
    Sign.ofBitVec_toBitVec]
  split
  · split <;> rfl
  · split
    · split <;> rfl
    · rfl

/-- Negatives are rounded to negatives. -/
theorem repack_neg (format : Format) (number : UnpackedFloat) :
    repack format number.neg = (repack format number).neg := by
  rcases number with sign | _ | sign | ⟨sign, mantissa, exponent, positive⟩
  · rw [repack_infinity, UnpackedFloat.neg, repack_infinity]
  · rw [repack_notANumber, UnpackedFloat.neg, repack_notANumber]
  · rw [repack_zero, UnpackedFloat.neg, repack_zero]
  · unfold repack UnpackedFloat.neg UnpackedFloat.pack
    dsimp only
    split
    · exact unpack_packComponents_neg format sign _ _
    · split <;> exact unpack_packComponents_neg format sign _ _

end Unpacked

/-- A binary format whose negatives are those of the unpacked numbers. -/
class SignedFormat (α : Type) [FloatingPoint α] extends BinaryFormat α where
  unpack_neg (x : α) :
    unpack (-x) = Unpacked.repack format (unpack x).neg

instance : SignedFormat Float where
  unpack_neg _ := rfl

instance : SignedFormat Float32 where
  unpack_neg _ := rfl

namespace SignedFormat

open PackedFormat RoundedFormat BinaryFormat Unpacked

variable [FloatingPoint α] [SignedFormat α]

/-- Negation is exact. -/
theorem unpack_neg_eq (x : α) : unpack (-x) = (unpack x).neg := by
  rw [unpack_neg, repack_neg, repack_unpack]

theorem lawfulNegation : LawfulNegation α where
  neg_le_neg_iff {x y} := by
    rw [PackedFormat.le_iff, PackedFormat.le_iff, unpack_neg_eq, unpack_neg_eq,
      UnpackedFloat.le, UnpackedFloat.le, compare_neg_neg]
  neg_zero_beq := by
    obtain ⟨sign, zero⟩ := unpack_zero (α := α)
    rw [beq_eq, unpack_neg_eq, zero]
    cases sign <;> rfl

end SignedFormat

instance : LawfulNegation Float :=
  SignedFormat.lawfulNegation

instance : LawfulNegation Float32 :=
  SignedFormat.lawfulNegation

end RootFinding
