import Mathlib
import RootFinding.Proofs.FloatingPoint.Laws

/-!
# The laws of the binary formats

Values of an IEEE binary format are stored in bits.  An operation unpacks its
operands, computes, rounds, and packs the result again; comparisons look at the
unpacked numbers only.  `PackedFormat` says so of a format, and the laws of
floating-point numbers follow from it once, for every such format
(`PackedFormat.lawful`).

The order of unpacked numbers is the lexicographic order of their ranks, in
which NaN has no place (`Unpacked.compare_eq`).
-/

namespace RootFinding

open Float.Model (Format UnpackedFloat)

namespace Unpacked

open Float.Model.UnpackedFloat

/-- The place of an unpacked number in the order: below or above zero, and how
far, then its exponent, then its mantissa.  NaN has none. -/
def rank : UnpackedFloat -> Option (Int ×ₗ Int ×ₗ Int)
  | .notANumber => none
  | .infinity .negative => some (toLex (-2, toLex (0, 0)))
  | .finite .negative mantissa exponent _ =>
      some (toLex (-1, toLex (-exponent, -mantissa)))
  | .zero _ => some (toLex (0, toLex (0, 0)))
  | .finite .positive mantissa exponent _ =>
      some (toLex (1, toLex (exponent, mantissa)))
  | .infinity .positive => some (toLex (2, toLex (0, 0)))

theorem rank_eq_none_iff (number : UnpackedFloat) :
    rank number = none ↔ number = .notANumber := by
  rcases number with (_ | _) | _ | _ | ⟨_ | _, mantissa, exponent, positive⟩ <;>
    simp [rank]

private theorem compare_neg (left right : Int) :
    compare (-left) (-right) = compare right left := by
  simp [compare, compareOfLessAndEq, eq_comm]

private theorem compare_natCast (left right : Nat) :
    compare (left : Int) (right : Int) = compare left right := by
  simp [compare, compareOfLessAndEq]

/-- Unpacked numbers are compared by rank. -/
theorem compare_eq (left right : UnpackedFloat) :
    left.compare right =
      (rank left).bind fun lower => (rank right).map (compare lower ·) := by
  rcases left with (_ | _) | _ | _ | ⟨_ | _, mantissa, exponent, positive⟩ <;>
    rcases right with (_ | _) | _ | _ | ⟨_ | _, mantissa', exponent', positive'⟩ <;>
    try rfl
  · simp only [UnpackedFloat.compare, rank, Option.bind_some, Option.map_some,
      Prod.Lex.compare_def, compareLex, compareOn, ofLex_toLex, compare_neg,
      Ordering.swap_then, Int.compare_swap, Nat.compare_swap, compare_natCast]
    rfl
  · simp only [UnpackedFloat.compare, rank, Option.bind_some, Option.map_some,
      Prod.Lex.compare_def, compareLex, compareOn, ofLex_toLex, compare_natCast]
    rfl

theorem le_iff (left right : UnpackedFloat) :
    left.le right = true ↔
      ∃ lower ∈ rank left, ∃ upper ∈ rank right, lower ≤ upper := by
  rw [UnpackedFloat.le, compare_eq]
  cases rank left <;> cases rank right <;>
    simp [Ordering.isLE_iff_ne_gt, compare_le_iff_le]

theorem lt_iff (left right : UnpackedFloat) :
    left.lt right = true ↔
      ∃ lower ∈ rank left, ∃ upper ∈ rank right, lower < upper := by
  rw [UnpackedFloat.lt, compare_eq]
  cases rank left <;> cases rank right <;> simp [compare_lt_iff_lt]

theorem beq_iff (left right : UnpackedFloat) :
    left.beq right = true ↔ rank left ≠ none ∧ rank left = rank right := by
  rw [UnpackedFloat.beq, compare_eq]
  cases rank left <;> cases rank right <;> simp [compare_eq_iff_eq]

theorem lt_of_lt_of_le
    {left middle right : UnpackedFloat}
    (less : left.lt middle = true)
    (le : middle.le right = true) :
    left.lt right = true := by
  rw [lt_iff] at less ⊢
  obtain ⟨lower, lower_mem, place, place_mem, first⟩ := less
  obtain ⟨place', place_mem', upper, upper_mem, second⟩ := (le_iff ..).mp le
  obtain rfl : place = place' := Option.mem_unique place_mem place_mem'
  exact ⟨lower, lower_mem, upper, upper_mem, first.trans_le second⟩

theorem lt_of_le_of_lt
    {left middle right : UnpackedFloat}
    (le : left.le middle = true)
    (less : middle.lt right = true) :
    left.lt right = true := by
  rw [lt_iff] at less ⊢
  obtain ⟨lower, lower_mem, place, place_mem, first⟩ := (le_iff ..).mp le
  obtain ⟨place', place_mem', upper, upper_mem, second⟩ := less
  obtain rfl : place = place' := Option.mem_unique place_mem place_mem'
  exact ⟨lower, lower_mem, upper, upper_mem, first.trans_lt second⟩

/-- The finite numbers lie strictly between the infinities. -/
theorem isFinite_of_lt
    {number : UnpackedFloat}
    (above : (UnpackedFloat.infinity .negative).lt number = true)
    (below : number.lt (.infinity .positive) = true) :
    number.isFinite = true := by
  rcases number with (_ | _) | _ | _ | _
  · cases above
  · cases below
  · cases above
  · rfl
  · rfl

/-- The difference of equal numbers that are not infinite is a zero. -/
theorem sub_of_beq
    (format : Format)
    {left right : UnpackedFloat}
    (finite : right.isFinite = true)
    (equal : left.beq right = true) :
    ∃ sign, left.sub format right = .zero sign := by
  obtain ⟨-, -, same⟩ := (beq_iff_ne_notANumber_and_eq left right).mp equal
  rcases same with rfl | ⟨rfl, rfl⟩ | ⟨rfl, rfl⟩
  · cases left with
    | infinity => simp [UnpackedFloat.isFinite] at finite
    | notANumber => simp [UnpackedFloat.isFinite] at finite
    | zero sign => cases sign <;> exact ⟨_, rfl⟩
    | finite sign mantissa exponent positive =>
        refine ⟨.positive, ?_⟩
        simp only [UnpackedFloat.sub, Int.sub_self, UnpackedFloat.normalize]
        rfl
  · exact ⟨_, rfl⟩
  · exact ⟨_, rfl⟩

/-! ## Packing and unpacking -/

/-- Round a number to a format by packing it, and unpack it again. -/
def repack (format : Format) (number : UnpackedFloat) : UnpackedFloat :=
  .unpack format (UnpackedFloat.pack format number)

@[simp] theorem repack_notANumber (format : Format) :
    repack format .notANumber = .notANumber :=
  unpack_packedNaN

theorem repack_zero (format : Format) (sign : Sign) :
    repack format (.zero sign) = .zero sign :=
  unpack_packedZero

end Unpacked

/-- A format whose values are unpacked for every operation, with results that
are rounded by packing them. -/
class PackedFormat (α : Type) [FloatingPoint α] where
  format : Format
  unpack : α -> UnpackedFloat
  lt_iff (x y : α) : x < y ↔ (unpack x).lt (unpack y) = true
  le_iff (x y : α) : x ≤ y ↔ (unpack x).le (unpack y) = true
  beq_eq (x y : α) : (x == y) = (unpack x).beq (unpack y)
  unpack_sub (x y : α) :
    unpack (x - y) =
      Unpacked.repack format ((unpack x).sub format (unpack y))
  unpack_div (x y : α) :
    unpack (x / y) =
      Unpacked.repack format ((unpack x).div format (unpack y))
  unpack_abs (x : α) :
    unpack (Arithmetic.abs x) = Unpacked.repack format (unpack x).abs
  unpack_nan : unpack FloatingPoint.nan = .notANumber
  /-- The largest finite value lies below the positive infinity. -/
  largest_lt :
    (unpack FloatingPoint.largest).lt (.infinity .positive) = true
  /-- Its negative lies above the negative infinity. -/
  lt_neg_largest :
    (UnpackedFloat.infinity .negative).lt
      (unpack (-FloatingPoint.largest)) = true
  unpack_zero : ∃ sign, unpack (0.0 : α) = .zero sign
  zero_le_negligibleStep : (0.0 : α) ≤ negligibleStep

namespace PackedFormat

open FloatingPoint

variable [FloatingPoint α] [PackedFormat α]

theorem isNaN_iff (x : α) : isNaN x = true ↔ unpack x = .notANumber := by
  rw [isNaN, bne, beq_eq, Bool.not_eq_true', ← Bool.not_eq_true,
    UnpackedFloat.beq_iff_ne_notANumber_and_eq]
  simp

/-- The absolute value of NaN is NaN. -/
theorem isNaN_abs
    {x : α}
    (undefined : isNaN x = true) :
    isNaN (Arithmetic.abs x) = true := by
  rw [isNaN_iff] at undefined ⊢
  rw [unpack_abs, undefined]
  exact Unpacked.repack_notANumber _

theorem isNaN_eq_false_iff (x : α) :
    isNaN x = false ↔ ∃ place, Unpacked.rank (unpack x) = some place := by
  rw [← Bool.not_eq_true, isNaN_iff, ← Unpacked.rank_eq_none_iff,
    ← ne_eq, Option.ne_none_iff_exists']

/-- A finite value is unpacked to a finite number. -/
theorem unpack_isFinite
    {x : α}
    (finite : isFinite x = true) :
    (unpack x).isFinite = true := by
  obtain ⟨above, below⟩ := (isFinite_iff_le x).mp finite
  exact Unpacked.isFinite_of_lt
    (Unpacked.lt_of_lt_of_le lt_neg_largest ((le_iff ..).mp above))
    (Unpacked.lt_of_le_of_lt ((le_iff ..).mp below) largest_lt)

/-- The laws hold in every packed format. -/
theorem lawful : LawfulFloatingPoint α where
  isNaN_of_le {x y} le := by
    obtain ⟨lower, left, upper, right, _⟩ :=
      (Unpacked.le_iff ..).mp ((le_iff x y).mp le)
    exact ⟨(isNaN_eq_false_iff x).mpr ⟨lower, left⟩,
      (isNaN_eq_false_iff y).mpr ⟨upper, right⟩⟩
  le_total {x y} left right := by
    obtain ⟨lower, left⟩ := (isNaN_eq_false_iff x).mp left
    obtain ⟨upper, right⟩ := (isNaN_eq_false_iff y).mp right
    rw [le_iff, le_iff, Unpacked.le_iff, Unpacked.le_iff]
    rcases le_total lower upper with le | le
    · exact Or.inl ⟨lower, left, upper, right, le⟩
    · exact Or.inr ⟨upper, right, lower, left, le⟩
  le_trans {x y z} le le' := by
    rw [le_iff, Unpacked.le_iff] at *
    obtain ⟨lower, left, middle, mid, first⟩ := le
    obtain ⟨middle', mid', upper, right, second⟩ := le'
    obtain rfl : middle = middle' := Option.mem_unique mid mid'
    exact ⟨lower, left, upper, right, le_trans first second⟩
  lt_iff {x y} := by
    rw [lt_iff, le_iff, le_iff, Unpacked.le_iff, Unpacked.le_iff,
      Unpacked.lt_iff]
    cases Unpacked.rank (unpack x) <;> cases Unpacked.rank (unpack y)
    case some.some lower upper =>
      simpa using lt_iff_le_not_ge (a := lower) (b := upper)
    all_goals simp
  beq_iff {x y} := by
    rw [beq_eq, le_iff, le_iff, Unpacked.le_iff, Unpacked.le_iff,
      Unpacked.beq_iff]
    cases Unpacked.rank (unpack x) <;> cases Unpacked.rank (unpack y)
    case some.some lower upper =>
      simpa using le_antisymm_iff (a := lower) (b := upper)
    all_goals simp
  isNaN_nan := (isNaN_iff _).mpr unpack_nan
  isNaN_largest := by
    obtain ⟨lower, left, _⟩ := (Unpacked.lt_iff ..).mp (largest_lt (α := α))
    exact (isNaN_eq_false_iff _).mpr ⟨lower, left⟩
  isNaN_neg_largest := by
    obtain ⟨_, _, upper, right, _⟩ :=
      (Unpacked.lt_iff ..).mp (lt_neg_largest (α := α))
    exact (isNaN_eq_false_iff _).mpr ⟨upper, right⟩
  isNaN_sub {x y} undefined := by
    rw [isNaN_iff] at undefined ⊢
    rw [unpack_sub, undefined]
    cases unpack x <;> exact Unpacked.repack_notANumber _
  isNaN_div {x y} undefined := by
    rw [isNaN_iff] at undefined ⊢
    rw [unpack_div, undefined]
    cases unpack x <;> exact Unpacked.repack_notANumber _
  abs_sub_le {x y} finite equal := by
    rw [beq_eq] at equal
    obtain ⟨sign, difference⟩ :=
      Unpacked.sub_of_beq (format α) (unpack_isFinite finite) equal
    obtain ⟨zeroSign, zero⟩ := unpack_zero (α := α)
    rw [le_iff, unpack_abs, unpack_sub, difference, Unpacked.repack_zero,
      UnpackedFloat.abs, Unpacked.repack_zero, zero]
    rfl
  zero_le_negligibleStep := zero_le_negligibleStep

theorem lawfulQuotient : LawfulQuotient α where
  isNaN_div {x y} undefined := by
    rw [isNaN_iff] at undefined ⊢
    rw [unpack_div, undefined]
    cases unpack y <;> exact Unpacked.repack_notANumber _

end PackedFormat

instance : PackedFormat Float where
  format := .binary64
  unpack x := x.toModel.unpack
  lt_iff _ _ := decide_eq_true_iff
  le_iff _ _ := decide_eq_true_iff
  beq_eq _ _ := rfl
  unpack_sub _ _ := rfl
  unpack_div _ _ := rfl
  unpack_abs _ := rfl
  unpack_nan := by rfl
  largest_lt := by decide +kernel
  lt_neg_largest := by decide +kernel
  unpack_zero := ⟨.positive, by rfl⟩
  zero_le_negligibleStep := by decide +kernel

instance : PackedFormat Float32 where
  format := .binary32
  unpack x := x.toModel.unpack
  lt_iff _ _ := decide_eq_true_iff
  le_iff _ _ := decide_eq_true_iff
  beq_eq _ _ := rfl
  unpack_sub _ _ := rfl
  unpack_div _ _ := rfl
  unpack_abs _ := rfl
  unpack_nan := by rfl
  largest_lt := by decide +kernel
  lt_neg_largest := by decide +kernel
  unpack_zero := ⟨.positive, by rfl⟩
  zero_le_negligibleStep := by decide +kernel

instance : LawfulFloatingPoint Float :=
  PackedFormat.lawful

instance : LawfulFloatingPoint Float32 :=
  PackedFormat.lawful

instance : LawfulQuotient Float :=
  PackedFormat.lawfulQuotient

instance : LawfulQuotient Float32 :=
  PackedFormat.lawfulQuotient

end RootFinding
