import RootFinding.Proofs.FloatingPoint.Products

/-!
# Zeros

A binary format has two zeros, which equal each other and nothing else
(`PackedFormat.beq_zero_iff`).  Which of them a quotient or a difference is depends on the
signs of the operands, but that it is one of them does not.  `LawfulZero` says what
becomes of a zero up to its sign, and both binary formats obey it.

A function of such numbers may tell the zeros apart, as the reciprocal does.  Most do not
(`IgnoresZeroSign`).
-/

namespace RootFinding

open FloatingPoint
open Float.Model (Format UnpackedFloat)

/-- A value that is not NaN equals itself. -/
theorem FloatingPoint.beq_self_of_isNaN_eq_false
    [FloatingPoint α]
    {x : α}
    (defined : isNaN x = false) :
    (x == x) = true := by
  rwa [isNaN, bne, Bool.not_eq_false'] at defined

/-- What quotients, halves, differences, and absolute values make of a zero, up to its
sign. -/
class LawfulZero (α : Type) [FloatingPoint α] : Prop where
  /-- A zero divided by anything but zeros and NaN is a zero. -/
  zero_div {x y : α} :
    (x == 0.0) = true -> isNaN y = false -> (y == 0.0) = false ->
      (x / y == 0.0) = true
  /-- Half a zero is a zero. -/
  half_zero {x : α} : (x == 0.0) = true -> (0.5 * x == 0.0) = true
  /-- To take a zero away leaves everything but NaN as it was. -/
  sub_zero {x y : α} :
    isNaN x = false -> (y == 0.0) = true -> (x - y == x) = true
  abs_zero {x : α} : (x == 0.0) = true -> (Arithmetic.abs x == 0.0) = true

/-- Newton steps leave a point where they take a zero, divided by a slope, away from it. -/
theorem LawfulZero.sub_div_beq
    [FloatingPoint α]
    [LawfulZero α]
    {x value slope : α}
    (defined : isNaN x = false)
    (zero : (value == 0.0) = true)
    (defined' : isNaN slope = false)
    (notZero : (slope == 0.0) = false) :
    (x - value / slope == x) = true :=
  sub_zero defined (zero_div zero defined' notZero)

/-- A function that replies alike to values that equal each other, which are the same
value or two zeros. -/
def IgnoresZeroSign [FloatingPoint α] (function : α -> α) : Prop :=
  ∀ x y, (x == y) = true ->
    (function x == function y) = true ∨
      isNaN (function x) = true ∧ isNaN (function y) = true

/-- Such a function has equal values at equal points, unless they are NaN. -/
theorem IgnoresZeroSign.beq
    [FloatingPoint α]
    {function : α -> α}
    {x y : α}
    (ignores : IgnoresZeroSign function)
    (equal : (x == y) = true)
    (defined : isNaN (function x) = false) :
    (function x == function y) = true := by
  refine (ignores x y equal).resolve_right fun undefined => ?_
  rw [defined] at undefined
  cases undefined.1

/-! ## Unpacked zeros -/

namespace Unpacked

open Float.Model.UnpackedFloat (Sign)

theorem beq_zero_iff (number : UnpackedFloat) (sign : Sign) :
    number.beq (.zero sign) = true ↔ ∃ sign', number = .zero sign' := by
  rcases number with (_ | _) | _ | (_ | _) | ⟨_ | _, mantissa, exponent, positive⟩
  case zero.negative => cases sign <;> exact ⟨fun _ => ⟨_, rfl⟩, fun _ => rfl⟩
  case zero.positive => cases sign <;> exact ⟨fun _ => ⟨_, rfl⟩, fun _ => rfl⟩
  all_goals
    refine ⟨fun equal => Bool.noConfusion equal, ?_⟩
    rintro ⟨_, same⟩
    cases same

/-- A zero divided by a number that is not zero is a zero. -/
theorem zero_div
    (format : Format)
    (sign : Sign)
    {divisor : UnpackedFloat}
    (defined : divisor ≠ .notANumber)
    (notZero : ¬∃ sign', divisor = .zero sign') :
    ∃ sign', UnpackedFloat.div format (.zero sign) divisor = .zero sign' := by
  cases divisor with
  | infinity => exact ⟨_, rfl⟩
  | notANumber => exact absurd rfl defined
  | zero sign' => exact absurd ⟨sign', rfl⟩ notZero
  | finite => exact ⟨_, rfl⟩

/-- A number less a zero is that number, or another zero. -/
theorem sub_zero
    (format : Format)
    (number : UnpackedFloat)
    (sign : Sign) :
    number.sub format (.zero sign) = number ∨
      ∃ sign' sign'',
        number = .zero sign' ∧ number.sub format (.zero sign) = .zero sign'' := by
  cases number with
  | infinity | notANumber | finite => exact Or.inl rfl
  | zero sign' =>
      refine Or.inr ⟨sign', ?_⟩
      cases sign <;> cases sign' <;> exact ⟨_, rfl, rfl⟩

/-- A finite number times a zero is a zero. -/
theorem mul_zero
    (format : Format)
    {number : UnpackedFloat}
    (finite : number.isFinite = true)
    (sign : Sign) :
    ∃ sign', number.mul format (.zero sign) = .zero sign' := by
  cases number with
  | infinity => cases finite
  | notANumber => cases finite
  | zero => exact ⟨_, rfl⟩
  | finite => exact ⟨_, rfl⟩

end Unpacked

/-! ## Zeros of a format -/

/-- The values that equal zero are those that are unpacked to zeros. -/
theorem PackedFormat.beq_zero_iff
    [FloatingPoint α]
    [PackedFormat α]
    (x : α) :
    (x == 0.0) = true ↔ ∃ sign, unpack x = .zero sign := by
  obtain ⟨sign, zero⟩ := unpack_zero (α := α)
  rw [beq_eq, zero, Unpacked.beq_zero_iff]

namespace BinaryFormat

open PackedFormat RoundedFormat Unpacked

variable [FloatingPoint α] [BinaryFormat α]

theorem lawfulZero : LawfulZero α where
  zero_div {x y} zero defined notZero := by
    obtain ⟨sign, unpacked⟩ := (PackedFormat.beq_zero_iff x).mp zero
    rw [← Bool.not_eq_true, isNaN_iff] at defined
    rw [← Bool.not_eq_true, PackedFormat.beq_zero_iff] at notZero
    obtain ⟨sign', quotient⟩ :=
      Unpacked.zero_div (format α) sign defined notZero
    refine (PackedFormat.beq_zero_iff _).mpr ⟨sign', ?_⟩
    rw [unpack_div, unpacked, quotient, repack_zero]
  half_zero {x} zero := by
    obtain ⟨sign, unpacked⟩ := (PackedFormat.beq_zero_iff x).mp zero
    have finite : (unpack (0.5 : α)).isFinite = true :=
      isFinite_of_value_ne_zero (by rw [value_half]; norm_num)
    obtain ⟨sign', product⟩ := Unpacked.mul_zero (format α) finite sign
    refine (PackedFormat.beq_zero_iff _).mpr ⟨sign', ?_⟩
    rw [unpack_mul, unpacked, product, repack_zero]
  sub_zero {x y} defined zero := by
    obtain ⟨sign, unpacked⟩ := (PackedFormat.beq_zero_iff y).mp zero
    have difference := unpack_sub x y
    rw [unpacked] at difference
    rcases Unpacked.sub_zero (format α) (unpack x) sign with
      same | ⟨sign', sign'', isZero, becomesZero⟩
    · rw [same, repack_unpack] at difference
      rw [beq_eq, difference, ← beq_eq]
      exact beq_self_of_isNaN_eq_false defined
    · rw [becomesZero, repack_zero] at difference
      rw [beq_eq, difference, isZero]
      cases sign' <;> cases sign'' <;> rfl
  abs_zero {x} zero := by
    obtain ⟨sign, unpacked⟩ := (PackedFormat.beq_zero_iff x).mp zero
    refine (PackedFormat.beq_zero_iff _).mpr ⟨.positive, ?_⟩
    rw [unpack_abs, unpacked, UnpackedFloat.abs, repack_zero]

end BinaryFormat

instance : LawfulZero Float :=
  BinaryFormat.lawfulZero

instance : LawfulZero Float32 :=
  BinaryFormat.lawfulZero

/-- In the format of 64 bits, a function ignores the sign of zero if it replies alike to
the two zeros. -/
theorem ignoresZeroSign_iff (function : Float -> Float) :
    IgnoresZeroSign function ↔
      (function 0 == function (-0)) = true ∨
        isNaN (function 0) = true ∧ isNaN (function (-0)) = true := by
  refine ⟨fun ignores => ignores 0 (-0) (by decide +kernel), fun alike x y equal => ?_⟩
  obtain ⟨-, -, same⟩ := Float.beq_iff_ne_nan_and_eq.mp equal
  rcases same with rfl | ⟨rfl, rfl⟩ | ⟨rfl, rfl⟩
  · cases undefined : isNaN (function x) with
    | true => exact Or.inr ⟨rfl, rfl⟩
    | false => exact Or.inl (beq_self_of_isNaN_eq_false undefined)
  · exact alike
  · rw [LawfulFloatingPoint.beq_comm, and_comm]
    exact alike

end RootFinding
