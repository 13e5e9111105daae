import RootFinding.Proofs.FloatingPoint.Zeros

/-!
# Beyond the range of a format

A result that is too large for a format becomes infinite, and what is computed from it is
infinite or NaN as well (`isFinite_of_add`, `isFinite_of_mul`, `isFinite_of_div`), with one
exception: what is divided by it vanishes (`vanishes_div`).  A value that has vanished, and
one that is not finite, have no product (`Vanishes.isNaN_mul`).
-/

namespace RootFinding

open FloatingPoint
open Float.Model (Format UnpackedFloat)

/-- A zero, or the result of an operation that would have been one but for an infinity. -/
def Vanishes [FloatingPoint α] (x : α) : Prop :=
  (x == 0.0) = true ∨ isNaN x = true

namespace Unpacked

open Float.Model.UnpackedFloat (Sign)

/-- A zero of either sign, or NaN. -/
def Vanishes (number : UnpackedFloat) : Prop :=
  (∃ sign, number = .zero sign) ∨ number = .notANumber

theorem Vanishes.repack
    (format : Format)
    {number : UnpackedFloat}
    (vanishes : Vanishes number) :
    Vanishes (repack format number) := by
  rcases vanishes with ⟨sign, rfl⟩ | rfl
  · exact Or.inl ⟨sign, repack_zero format sign⟩
  · exact Or.inr (repack_notANumber format)

/-- Whatever is divided by a number that is not finite vanishes. -/
theorem vanishes_div
    (format : Format)
    (dividend : UnpackedFloat)
    {divisor : UnpackedFloat}
    (unbounded : ¬divisor.isFinite = true) :
    Vanishes (dividend.div format divisor) := by
  cases divisor with
  | zero | finite => exact absurd rfl unbounded
  | notANumber => cases dividend <;> exact Or.inr rfl
  | infinity =>
      cases dividend with
      | infinity | notANumber => exact Or.inr rfl
      | zero | finite => exact Or.inl ⟨_, rfl⟩

/-- A multiple of what has vanished vanishes. -/
theorem Vanishes.mul
    (format : Format)
    {left : UnpackedFloat}
    (vanishes : Vanishes left)
    (right : UnpackedFloat) :
    Vanishes (left.mul format right) := by
  rcases vanishes with ⟨sign, rfl⟩ | rfl
  · cases right with
    | infinity | notANumber => exact Or.inr rfl
    | zero | finite => exact Or.inl ⟨_, rfl⟩
  · cases right <;> exact Or.inr rfl

theorem product_comm (format : Format) (left right : UnpackedFloat) :
    left.mul format right = right.mul format left := by
  have sign_comm (sign sign' : Sign) : sign * sign' = sign' * sign := by
    cases sign <;> cases sign' <;> rfl
  cases left <;> cases right <;>
    simp only [UnpackedFloat.mul, sign_comm, Nat.mul_comm, Int.add_comm]

theorem sum_comm (format : Format) (left right : UnpackedFloat) :
    left.add format right = right.add format left := by
  rcases left with sign | _ | sign | _ <;> rcases right with sign' | _ | sign' | _ <;>
    try rfl
  case infinity.infinity => cases sign <;> cases sign' <;> rfl
  case zero.zero => cases sign <;> cases sign' <;> rfl
  case finite.finite =>
    simp only [UnpackedFloat.add, min_comm, Int.add_comm]

/-- A number that is not finite has no product with one that has vanished. -/
theorem Vanishes.mul_eq_notANumber
    (format : Format)
    {left right : UnpackedFloat}
    (vanishes : Vanishes left)
    (unbounded : ¬right.isFinite = true) :
    left.mul format right = .notANumber := by
  rcases vanishes with ⟨sign, rfl⟩ | rfl
  · cases right with
    | zero | finite => exact absurd rfl unbounded
    | infinity | notANumber => rfl
  · cases right <;> rfl

end Unpacked

namespace PackedFormat

/-- The values that vanish are those that are unpacked to numbers that do. -/
theorem vanishes_iff
    [FloatingPoint α]
    [PackedFormat α]
    (x : α) :
    Vanishes x ↔ Unpacked.Vanishes (unpack x) := by
  rw [Vanishes, beq_zero_iff, isNaN_iff]
  exact Iff.rfl

end PackedFormat

namespace BinaryFormat

open PackedFormat RoundedFormat Unpacked

variable [FloatingPoint α] [BinaryFormat α] {x y : α}

/-! ## Values that are not finite -/

theorem unpack_isFinite_of_sub
    (finite : (unpack (x - y)).isFinite = true) :
    (unpack x).isFinite = true ∧ (unpack y).isFinite = true := by
  rw [unpack_sub, sub_eq_add] at finite
  obtain ⟨left, right⟩ := isFinite_of_isFinite_add (isFinite_of_isFinite_repack finite)
  refine ⟨left, ?_⟩
  cases unpacked : unpack y with
  | zero | finite => rfl
  | infinity | notANumber =>
      rw [unpacked] at right
      cases right

/-- A finite difference is a rounded one. -/
theorem rounds_sub_of_isFinite
    (finite : (unpack (x - y)).isFinite = true) :
    Rounds (format α) (value (unpack x) - value (unpack y)) (unpack (x - y)) := by
  obtain ⟨finite_x, finite_y⟩ := unpack_isFinite_of_sub finite
  have rounds := rounds_sub (isCanonical_unpack x finite_x)
    (isCanonical_unpack y finite_y)
  rw [unpack_sub] at finite ⊢
  exact rounds.repack finite

/-- A quotient is rounded faithfully, unless it is too large. -/
theorem rounds_unpack_div
    (finite : (unpack x).isFinite = true)
    (finite' : (unpack y).isFinite = true)
    (notZero : value (unpack y) ≠ 0)
    {bound : ℚ}
    (representable : Representable (format α) bound)
    (within : bound < overflow (format α))
    (le : |value (unpack x) / value (unpack y)| ≤ bound) :
    Rounds (format α) (value (unpack x) / value (unpack y)) (unpack (x / y)) := by
  have rounds := rounds_div (isCanonical_unpack x finite)
    (isCanonical_unpack y finite') notZero
  rw [unpack_div, rounds.repack_eq least_le representable within le]
  exact rounds

theorem isFinite_of_add
    (finite : isFinite (x + y) = true) :
    isFinite x = true ∧ isFinite y = true := by
  rw [isFinite_iff_unpack] at finite
  rw [isFinite_iff_unpack, isFinite_iff_unpack]
  exact unpack_isFinite_of_add finite

theorem isFinite_of_sub
    (finite : isFinite (x - y) = true) :
    isFinite x = true ∧ isFinite y = true := by
  rw [isFinite_iff_unpack] at finite
  rw [isFinite_iff_unpack, isFinite_iff_unpack]
  exact unpack_isFinite_of_sub finite

theorem isFinite_of_mul
    (finite : isFinite (x * y) = true) :
    isFinite x = true ∧ isFinite y = true := by
  rw [isFinite_iff_unpack] at finite
  rw [isFinite_iff_unpack, isFinite_iff_unpack]
  exact unpack_isFinite_of_mul finite

theorem isFinite_of_div
    (finite : isFinite (x / y) = true) :
    isFinite x = true := by
  rw [isFinite_iff_unpack] at finite ⊢
  exact unpack_isFinite_of_div finite

/-- A value whose magnitude is at most a finite one is finite. -/
theorem isFinite_of_abs_le
    (finite : isFinite y = true)
    (le : Arithmetic.abs x ≤ y) :
    isFinite x = true := by
  rw [isFinite_iff_unpack] at finite ⊢
  exact unpack_isFinite_of_abs_le finite le

/-- The order of two summands does not matter. -/
theorem isFinite_add_comm (x y : α) : isFinite (x + y) = isFinite (y + x) := by
  rw [Bool.eq_iff_iff, isFinite_iff_unpack, isFinite_iff_unpack, unpack_add, unpack_add,
    Unpacked.sum_comm]

/-- A multiple of NaN is NaN. -/
theorem isNaN_mul_left
    (undefined : isNaN x = true)
    (y : α) :
    isNaN (x * y) = true := by
  rw [isNaN_iff] at undefined ⊢
  rw [unpack_mul, undefined]
  cases unpack y <;> exact repack_notANumber _

theorem isNaN_mul_right
    (x : α)
    (undefined : isNaN y = true) :
    isNaN (x * y) = true := by
  rw [isNaN_iff] at undefined ⊢
  rw [unpack_mul, undefined]
  cases unpack x <;> exact repack_notANumber _

/-! ## Values that vanish -/

/-- Whatever is divided by a value that is not finite vanishes. -/
theorem vanishes_div
    (x : α)
    (unbounded : isFinite y = false) :
    Vanishes (x / y) := by
  rw [← Bool.not_eq_true, isFinite_iff_unpack] at unbounded
  rw [vanishes_iff, unpack_div]
  exact (Unpacked.vanishes_div (format α) (unpack x) unbounded).repack (format α)

theorem vanishes_mul
    (vanishes : Vanishes x)
    (y : α) :
    Vanishes (x * y) := by
  rw [vanishes_iff] at vanishes ⊢
  rw [unpack_mul]
  exact (vanishes.mul (format α) (unpack y)).repack (format α)

/-- A value that is not finite has no product with one that has vanished. -/
theorem isNaN_mul_of_vanishes
    (vanishes : Vanishes x)
    (unbounded : isFinite y = false) :
    isNaN (x * y) = true := by
  rw [← Bool.not_eq_true, isFinite_iff_unpack] at unbounded
  rw [isNaN_iff, unpack_mul,
    ((vanishes_iff x).mp vanishes).mul_eq_notANumber (format α) unbounded]
  exact repack_notANumber _

theorem isNaN_mul_of_vanishes_right
    (unbounded : isFinite x = false)
    (vanishes : Vanishes y) :
    isNaN (x * y) = true := by
  rw [← Bool.not_eq_true, isFinite_iff_unpack] at unbounded
  rw [isNaN_iff, unpack_mul, Unpacked.product_comm,
    ((vanishes_iff y).mp vanishes).mul_eq_notANumber (format α) unbounded]
  exact repack_notANumber _

/-- A finite multiple of a zero is a zero. -/
theorem mul_zero_beq
    (finite : isFinite x = true)
    (zero : (y == 0.0) = true) :
    (x * y == 0.0) = true := by
  rw [isFinite_iff_unpack] at finite
  obtain ⟨sign, unpacked⟩ := (PackedFormat.beq_zero_iff y).mp zero
  obtain ⟨sign', product⟩ := Unpacked.mul_zero (format α) finite sign
  refine (PackedFormat.beq_zero_iff _).mpr ⟨sign', ?_⟩
  rw [unpack_mul, unpacked, product, repack_zero]

end BinaryFormat

/-! ## The format of 64 bits -/

open PackedFormat Unpacked

theorem unpack_one :
    (unpack (1.0 : Float)).isFinite = true ∧ value (unpack (1.0 : Float)) = 1 := by
  have one : (1.0 : Float).toModel.unpack =
      .finite .positive (2 ^ 52) (-52) (Nat.two_pow_pos 52) := by rfl
  change (1.0 : Float).toModel.unpack.isFinite = true ∧
    value (1.0 : Float).toModel.unpack = 1
  rw [one, value, signed]
  exact ⟨rfl, by norm_num⟩

/-- There are two zeros. -/
theorem eq_or_eq_of_beq_zero
    {x : Float}
    (zero : (x == 0.0) = true) :
    x = 0.0 ∨ x = -0.0 := by
  rcases (Float.beq_iff_ne_nan_and_eq.mp zero).2.2 with same | ⟨same, -⟩ | ⟨same, -⟩
  · exact Or.inl same
  · exact Or.inl same
  · exact Or.inr same

end RootFinding
