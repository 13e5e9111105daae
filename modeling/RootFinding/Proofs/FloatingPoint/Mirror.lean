import RootFinding.Proofs.FloatingPoint.Zeros
import RootFinding.Proofs.FloatingPoint.Negation

/-!
# Arithmetic in the mirror

Negation is an involution that reverses the order, and it commutes with the four
operations, up to the sign of a zero: a difference of equal numbers is a positive zero,
and so is the difference of their negatives.  `Alike` values equal each other, or are
both NaN.  Operations make alike values of alike operands, as long as these are not
divided by (`LawfulAlike`), and alike values of the negatives of operands and of the
negative of their result (`LawfulMirror`).  Both binary formats obey these laws.
-/

namespace RootFinding

open FloatingPoint
open Float.Model (Format UnpackedFloat)

/-- Two values that equal each other, or are both NaN. -/
def Alike [FloatingPoint α] (x y : α) : Prop :=
  (x == y) = true ∨ isNaN x = true ∧ isNaN y = true

/-- What operations make of alike operands. -/
class LawfulAlike (α : Type) [FloatingPoint α] : Prop where
  add_congr {x x' y y' : α} :
    Alike x x' -> Alike y y' -> Alike (x + y) (x' + y')
  sub_congr {x x' y y' : α} :
    Alike x x' -> Alike y y' -> Alike (x - y) (x' - y')
  mul_congr {x x' y y' : α} :
    Alike x x' -> Alike y y' -> Alike (x * y) (x' * y')
  /-- The sign of a zero that is divided by tells an infinity from another. -/
  div_congr {x x' y : α} : Alike x x' -> Alike (x / y) (x' / y)
  abs_congr {x x' : α} : Alike x x' -> Alike (Arithmetic.abs x) (Arithmetic.abs x')

/-- What operations make of negatives, up to the sign of a zero. -/
class LawfulMirror (α : Type) [FloatingPoint α] : Prop extends LawfulNegation α where
  neg_neg (x : α) : Alike (- -x) x
  neg_add (x y : α) : Alike (-x + -y) (-(x + y))
  neg_sub (x y : α) : Alike (-x - -y) (-(x - y))
  mul_neg (x y : α) : Alike (x * -y) (-(x * y))
  div_neg (x y : α) : Alike (x / -y) (-(x / y))

/-! ## Alike values -/

namespace Alike

variable [FloatingPoint α] [LawfulFloatingPoint α]

omit [LawfulFloatingPoint α] in
theorem refl (x : α) : Alike x x := by
  cases undefined : isNaN x with
  | true => exact Or.inr ⟨undefined, undefined⟩
  | false => exact Or.inl (beq_self_of_isNaN_eq_false undefined)

theorem symm {x y : α} (alike : Alike x y) : Alike y x := by
  rcases alike with equal | ⟨left, right⟩
  · rw [LawfulFloatingPoint.beq_comm] at equal
    exact Or.inl equal
  · exact Or.inr ⟨right, left⟩

theorem isNaN_eq {x y : α} (alike : Alike x y) : isNaN x = isNaN y := by
  rcases alike with equal | ⟨left, right⟩
  · obtain ⟨left, right⟩ := LawfulFloatingPoint.isNaN_of_beq equal
    rw [left, right]
  · rw [left, right]

theorem trans
    {x y z : α}
    (alike : Alike x y)
    (alike' : Alike y z) :
    Alike x z := by
  rcases alike with equal | ⟨left, right⟩
  · rcases alike' with equal' | ⟨left', right'⟩
    · exact Or.inl (LawfulFloatingPoint.beq_trans equal equal')
    · rw [(LawfulFloatingPoint.isNaN_of_beq equal).2] at left'
      cases left'
  · rw [alike'.isNaN_eq] at right
    exact Or.inr ⟨left, right⟩

/-- Alike values are at most the same values. -/
theorem le_iff
    {x x' y y' : α}
    (alike : Alike x x')
    (alike' : Alike y y') :
    x ≤ y ↔ x' ≤ y' := by
  have below {x x' y y' : α} (alike : Alike x x') (alike' : Alike y y')
      (le : x ≤ y) : x' ≤ y' := by
    obtain ⟨defined, defined'⟩ := LawfulFloatingPoint.isNaN_of_le le
    rcases alike with equal | ⟨undefined, -⟩
    · rcases alike' with equal' | ⟨undefined, -⟩
      · exact LawfulFloatingPoint.le_trans (LawfulFloatingPoint.beq_iff.mp equal).2
          (LawfulFloatingPoint.le_trans le (LawfulFloatingPoint.beq_iff.mp equal').1)
      · rw [defined'] at undefined
        cases undefined
    · rw [defined] at undefined
      cases undefined
  exact ⟨below alike alike', below alike.symm alike'.symm⟩

/-- Alike values are less than the same values. -/
theorem lt_iff
    {x x' y y' : α}
    (alike : Alike x x')
    (alike' : Alike y y') :
    x < y ↔ x' < y' := by
  rw [LawfulFloatingPoint.lt_iff, LawfulFloatingPoint.lt_iff, alike.le_iff alike',
    alike'.le_iff alike]

theorem isInfinite_eq {x y : α} (alike : Alike x y) :
    isInfinite x = isInfinite y := by
  rw [Bool.eq_iff_iff, isInfinite_iff_lt, isInfinite_iff_lt,
    (refl largest).lt_iff alike, alike.lt_iff (refl _)]

end Alike

/-! ## Negatives -/

namespace LawfulMirror

variable [FloatingPoint α] [LawfulFloatingPoint α] [LawfulMirror α]

theorem neg_lt_neg_iff {x y : α} : -x < -y ↔ y < x := by
  rw [LawfulFloatingPoint.lt_iff, LawfulFloatingPoint.lt_iff,
    LawfulNegation.neg_le_neg_iff, LawfulNegation.neg_le_neg_iff]

theorem neg_beq_neg (x y : α) : (-x == -y) = (x == y) := by
  rw [Bool.eq_iff_iff, LawfulFloatingPoint.beq_iff, LawfulFloatingPoint.beq_iff,
    LawfulNegation.neg_le_neg_iff, LawfulNegation.neg_le_neg_iff, and_comm]

theorem isNaN_neg (x : α) : isNaN (-x) = isNaN x := by
  rw [isNaN, isNaN, bne, bne, neg_beq_neg]

theorem neg_congr {x y : α} (alike : Alike x y) : Alike (-x) (-y) := by
  rwa [Alike, neg_beq_neg, isNaN_neg, isNaN_neg]

theorem isInfinite_neg (x : α) : isInfinite (-x) = isInfinite x := by
  have above : largest < -x ↔ x < -largest := by
    rw [← (neg_neg (largest : α)).lt_iff (Alike.refl (-x)), neg_lt_neg_iff]
  have below : -x < -largest ↔ largest < x := neg_lt_neg_iff
  rw [Bool.eq_iff_iff, isInfinite_iff_lt, isInfinite_iff_lt, above, below, or_comm]

end LawfulMirror

/-! ## Opposite values -/

/-- The second value is alike to the negative of the first. -/
def Opposite [FloatingPoint α] (x x' : α) : Prop :=
  Alike x' (-x)

namespace Opposite

open LawfulAlike LawfulMirror

variable [FloatingPoint α] [LawfulFloatingPoint α] [LawfulMirror α]
  {x x' y y' : α}

/-- The negative of the second value is alike to the first. -/
theorem neg_alike (opposite : Opposite x x') : Alike (-x') x :=
  (neg_congr opposite).trans (neg_neg x)

theorem isNaN_eq (opposite : Opposite x x') : isNaN x' = isNaN x :=
  (Alike.isNaN_eq opposite).trans (isNaN_neg x)

theorem isInfinite_eq (opposite : Opposite x x') : isInfinite x' = isInfinite x :=
  (Alike.isInfinite_eq opposite).trans (isInfinite_neg x)

variable [LawfulAlike α]

theorem add
    (opposite : Opposite x x')
    (opposite' : Opposite y y') :
    Opposite (x + y) (x' + y') :=
  (add_congr opposite opposite').trans (neg_add x y)

theorem sub
    (opposite : Opposite x x')
    (opposite' : Opposite y y') :
    Opposite (x - y) (x' - y') :=
  (sub_congr opposite opposite').trans (neg_sub x y)

theorem mul_left
    (factor : α)
    (opposite : Opposite x x') :
    Opposite (factor * x) (factor * x') :=
  (mul_congr (.refl factor) opposite).trans (mul_neg factor x)

/-- Quotients of alike values by a value and by its negative. -/
theorem div
    (alike : Alike x' x)
    (divisor : α) :
    Opposite (x / divisor) (x' / -divisor) :=
  (div_congr alike).trans (div_neg x divisor)

end Opposite

/-! ## Functions -/

/-- A function of alike values has alike values. -/
def PreservesAlike [FloatingPoint α] (function : α -> α) : Prop :=
  ∀ x y, Alike x y -> Alike (function x) (function y)

/-- A function does not tell alike values apart. -/
def IdentifiesAlike [FloatingPoint α] (function : α -> α) : Prop :=
  ∀ x y, Alike x y -> function x = function y

/-! ## Unpacked numbers -/

namespace Unpacked

open Float.Model.UnpackedFloat (Sign)

/-- The same number, or two zeros. -/
def SameOrZeros (left right : UnpackedFloat) : Prop :=
  left = right ∨ ∃ sign sign', left = .zero sign ∧ right = .zero sign'

theorem SameOrZeros.refl (number : UnpackedFloat) : SameOrZeros number number :=
  Or.inl rfl

theorem SameOrZeros.zeros (sign sign' : Sign) :
    SameOrZeros (.zero sign) (.zero sign') :=
  Or.inr ⟨sign, sign', rfl, rfl⟩

theorem SameOrZeros.repack
    (format : Format)
    {left right : UnpackedFloat}
    (same : SameOrZeros left right) :
    SameOrZeros (repack format left) (Unpacked.repack format right) := by
  rcases same with rfl | ⟨sign, sign', rfl, rfl⟩
  · exact .refl _
  · rw [repack_zero, repack_zero]
    exact .zeros sign sign'

theorem SameOrZeros.add
    (format : Format)
    {left left' right right' : UnpackedFloat}
    (same : SameOrZeros left left')
    (same' : SameOrZeros right right') :
    SameOrZeros (left.add format right) (left'.add format right') := by
  have add_zeros (sign sign' : Sign) (number : UnpackedFloat) :
      SameOrZeros (number.add format (.zero sign)) (number.add format (.zero sign')) := by
    cases number with
    | zero sign'' =>
        cases sign <;> cases sign' <;> cases sign'' <;> exact .zeros _ _
    | infinity | notANumber | finite => exact .refl _
  have zeros_add (sign sign' : Sign) (number : UnpackedFloat) :
      SameOrZeros (UnpackedFloat.add format (.zero sign) number)
        (UnpackedFloat.add format (.zero sign') number) := by
    cases number with
    | zero sign'' =>
        cases sign <;> cases sign' <;> cases sign'' <;> exact .zeros _ _
    | infinity | notANumber | finite => exact .refl _
  rcases same with rfl | ⟨sign, sign', rfl, rfl⟩
  · rcases same' with rfl | ⟨sign, sign', rfl, rfl⟩
    · exact .refl _
    · exact add_zeros sign sign' left
  · rcases same' with rfl | ⟨sign'', sign''', rfl, rfl⟩
    · exact zeros_add sign sign' right
    · cases sign <;> cases sign' <;> cases sign'' <;> cases sign''' <;> exact .zeros _ _

theorem SameOrZeros.neg
    {left right : UnpackedFloat}
    (same : SameOrZeros left right) :
    SameOrZeros left.neg right.neg := by
  rcases same with rfl | ⟨sign, sign', rfl, rfl⟩
  · exact .refl _
  · exact .zeros _ _

theorem SameOrZeros.mul
    (format : Format)
    {left left' right right' : UnpackedFloat}
    (same : SameOrZeros left left')
    (same' : SameOrZeros right right') :
    SameOrZeros (left.mul format right) (left'.mul format right') := by
  rcases same with rfl | ⟨sign, sign', rfl, rfl⟩
  · rcases same' with rfl | ⟨sign, sign', rfl, rfl⟩
    · exact .refl _
    · cases left with
      | infinity | notANumber => exact .refl _
      | zero | finite => exact .zeros _ _
  · rcases same' with rfl | ⟨sign'', sign''', rfl, rfl⟩
    · cases right with
      | infinity | notANumber => exact .refl _
      | zero | finite => exact .zeros _ _
    · exact .zeros _ _

theorem SameOrZeros.div
    (format : Format)
    {left left' : UnpackedFloat}
    (same : SameOrZeros left left')
    (divisor : UnpackedFloat) :
    SameOrZeros (left.div format divisor) (left'.div format divisor) := by
  rcases same with rfl | ⟨sign, sign', rfl, rfl⟩
  · exact .refl _
  · cases divisor with
    | notANumber | zero => exact .refl _
    | infinity | finite => exact .zeros _ _

theorem SameOrZeros.abs
    {left right : UnpackedFloat}
    (same : SameOrZeros left right) :
    SameOrZeros left.abs right.abs := by
  rcases same with rfl | ⟨sign, sign', rfl, rfl⟩
  · exact .refl _
  · exact .zeros _ _

/-! ## Negatives of unpacked numbers -/

@[simp] theorem neg_involutive (number : UnpackedFloat) :
    number.neg.neg = number := by
  rcases number with (_ | _) | _ | (_ | _) | ⟨_ | _, mantissa, exponent, positive⟩ <;>
    rfl

open Float.Model.UnpackedFloat (Accuracy roundWithAccuracy)

/-- The sign of a number that is rounded is the one that was asked for. -/
theorem roundWithAccuracy_neg_sign
    (format : Format)
    (sign : Sign)
    (mantissa : Nat)
    (exponent : Int)
    (accuracy : Accuracy) :
    roundWithAccuracy format (-sign) mantissa exponent accuracy =
      (roundWithAccuracy format sign mantissa exponent accuracy).neg := by
  cases sign with
  | positive => exact roundWithAccuracy_neg format mantissa exponent accuracy
  | negative =>
      rw [roundWithAccuracy_neg, neg_involutive]
      rfl

theorem round_neg_sign
    (format : Format)
    (sign : Sign)
    (mantissa : Nat)
    (exponent : Int) :
    UnpackedFloat.round format (-sign) mantissa exponent =
      (UnpackedFloat.round format sign mantissa exponent).neg :=
  roundWithAccuracy_neg_sign format sign _ _ _

/-- Signed mantissas are rounded alike on both sides of zero. -/
theorem normalize_neg
    (format : Format)
    (mantissa exponent : Int)
    (sign : Sign) :
    SameOrZeros
      (UnpackedFloat.normalize format (-mantissa) exponent sign)
      (UnpackedFloat.normalize format mantissa exponent sign).neg := by
  unfold UnpackedFloat.normalize
  rcases lt_trichotomy mantissa 0 with negative | rfl | positive
  · rw [Int.compare_eq_lt.mpr negative, Int.compare_eq_gt.mpr (by omega)]
    exact Or.inl (round_neg_sign format .negative _ exponent)
  · exact .zeros _ _
  · rw [Int.compare_eq_gt.mpr positive, Int.compare_eq_lt.mpr (by omega)]
    dsimp only
    rw [neg_neg]
    exact Or.inl (round_neg_sign format .positive _ exponent)

/-- Negation commutes with sums, up to the sign of a zero. -/
theorem add_neg_neg
    (format : Format)
    (left right : UnpackedFloat) :
    SameOrZeros (left.neg.add format right.neg) (left.add format right).neg := by
  rcases left with sign | _ | sign | ⟨sign, mantissa, exponent, positive⟩ <;>
    rcases right with sign' | _ | sign' | ⟨sign', mantissa', exponent', positive'⟩ <;>
    try exact .refl _
  case infinity.infinity => cases sign <;> cases sign' <;> exact .refl _
  case zero.zero => cases sign <;> cases sign' <;> exact .zeros _ _
  case finite.finite =>
    have apply_neg (sign : Sign) (n : Int) : (-sign).apply n = -sign.apply n := by
      cases sign with
      | negative => exact (neg_neg n).symm
      | positive => rfl
    simp only [UnpackedFloat.add, UnpackedFloat.neg, apply_neg, ← neg_add]
    exact normalize_neg format _ _ .positive

/-- Negation commutes with differences, up to the sign of a zero. -/
theorem sub_neg_neg
    (format : Format)
    (left right : UnpackedFloat) :
    SameOrZeros (left.neg.sub format right.neg) (left.sub format right).neg := by
  rw [sub_eq_add, sub_eq_add]
  exact add_neg_neg format left right.neg

theorem mul_neg_right
    (format : Format)
    (left right : UnpackedFloat) :
    left.mul format right.neg = (left.mul format right).neg := by
  have sign_mul (sign sign' : Sign) : sign * -sign' = -(sign * sign') := by
    cases sign <;> cases sign' <;> rfl
  rcases left with sign | _ | sign | ⟨sign, mantissa, exponent, positive⟩ <;>
    rcases right with sign' | _ | sign' | ⟨sign', mantissa', exponent', positive'⟩ <;>
    simp only [UnpackedFloat.mul, UnpackedFloat.neg, sign_mul,
      roundWithAccuracy_neg_sign]

theorem div_neg_right
    (format : Format)
    (left right : UnpackedFloat) :
    left.div format right.neg = (left.div format right).neg := by
  have sign_div (sign sign' : Sign) : sign / -sign' = -(sign / sign') := by
    cases sign <;> cases sign' <;> rfl
  rcases left with sign | _ | sign | ⟨sign, mantissa, exponent, positive⟩ <;>
    rcases right with sign' | _ | sign' | ⟨sign', mantissa', exponent', positive'⟩ <;>
    simp only [UnpackedFloat.div, UnpackedFloat.neg, sign_div,
      roundWithAccuracy_neg_sign]

end Unpacked

/-! ## The laws of the formats -/

/-- Alike values are those that are unpacked to the same number, or to zeros. -/
theorem PackedFormat.alike_iff
    [FloatingPoint α]
    [PackedFormat α]
    (x y : α) :
    Alike x y ↔ Unpacked.SameOrZeros (unpack x) (unpack y) := by
  rw [Alike, isNaN_iff, isNaN_iff, beq_eq, UnpackedFloat.beq_iff_ne_notANumber_and_eq]
  constructor
  · rintro (⟨-, -, same | ⟨left, right⟩ | ⟨left, right⟩⟩ | ⟨left, right⟩)
    · exact Or.inl same
    · exact Or.inr ⟨_, _, left, right⟩
    · exact Or.inr ⟨_, _, left, right⟩
    · exact Or.inl (left.trans right.symm)
  · rintro (same | ⟨sign, sign', left, right⟩)
    · rw [same]
      by_cases undefined : unpack y = .notANumber
      · exact Or.inr ⟨undefined, undefined⟩
      · exact Or.inl ⟨undefined, undefined, Or.inl rfl⟩
    · rw [left, right]
      refine Or.inl ⟨UnpackedFloat.noConfusion, UnpackedFloat.noConfusion, ?_⟩
      cases sign <;> cases sign' <;> simp

namespace SignedFormat

open PackedFormat RoundedFormat BinaryFormat Unpacked

variable [FloatingPoint α]

theorem lawfulAlike [BinaryFormat α] : LawfulAlike α where
  add_congr alike alike' := by
    rw [alike_iff] at alike alike' ⊢
    rw [unpack_add, unpack_add]
    exact (alike.add (format α) alike').repack (format α)
  sub_congr alike alike' := by
    rw [alike_iff] at alike alike' ⊢
    rw [unpack_sub, unpack_sub, sub_eq_add, sub_eq_add]
    exact (alike.add (format α) alike'.neg).repack (format α)
  mul_congr alike alike' := by
    rw [alike_iff] at alike alike' ⊢
    rw [unpack_mul, unpack_mul]
    exact (alike.mul (format α) alike').repack (format α)
  div_congr alike := by
    rw [alike_iff] at alike ⊢
    rw [unpack_div, unpack_div]
    exact (alike.div (format α) _).repack (format α)
  abs_congr alike := by
    rw [alike_iff] at alike ⊢
    rw [unpack_abs, unpack_abs]
    exact alike.abs.repack (format α)

theorem lawfulMirror [SignedFormat α] : LawfulMirror α where
  toLawfulNegation := lawfulNegation
  neg_neg x := by
    rw [alike_iff, unpack_neg_eq (-x), unpack_neg_eq x, neg_involutive]
    exact .refl _
  neg_add x y := by
    rw [alike_iff, unpack_add (-x), unpack_neg_eq x, unpack_neg_eq y,
      unpack_neg_eq (x + y), unpack_add, ← repack_neg]
    exact (add_neg_neg (format α) (unpack x) (unpack y)).repack (format α)
  neg_sub x y := by
    rw [alike_iff, unpack_sub (-x), unpack_neg_eq x, unpack_neg_eq y,
      unpack_neg_eq (x - y), unpack_sub, ← repack_neg]
    exact (sub_neg_neg (format α) (unpack x) (unpack y)).repack (format α)
  mul_neg x y := by
    rw [alike_iff, unpack_mul x (-y), unpack_neg_eq y, unpack_neg_eq (x * y), unpack_mul,
      ← repack_neg, mul_neg_right]
    exact .refl _
  div_neg x y := by
    rw [alike_iff, unpack_div x (-y), unpack_neg_eq y, unpack_neg_eq (x / y), unpack_div,
      ← repack_neg, div_neg_right]
    exact .refl _

end SignedFormat

instance : LawfulAlike Float :=
  SignedFormat.lawfulAlike

instance : LawfulAlike Float32 :=
  SignedFormat.lawfulAlike

instance : LawfulMirror Float :=
  SignedFormat.lawfulMirror

instance : LawfulMirror Float32 :=
  SignedFormat.lawfulMirror

/-! ## Functions of the format of 64 bits -/

/-- There is one NaN. -/
theorem eq_nan_of_isNaN
    {x : Float}
    (undefined : isNaN x = true) :
    x = nan := by
  have nan_eq : (nan : Float) = Float.nan := by decide +kernel
  rw [nan_eq]
  by_contra defined
  have equal : (x == x) = true :=
    Float.beq_iff_ne_nan_and_eq.mpr ⟨defined, defined, Or.inl rfl⟩
  rw [isNaN, bne, equal] at undefined
  cases undefined

/-- Alike values of this format are the same value, or two zeros. -/
theorem alike_cases
    {x y : Float}
    (alike : Alike x y) :
    x = y ∨ x = 0 ∧ y = -0 ∨ x = -0 ∧ y = 0 := by
  rcases alike with equal | ⟨left, right⟩
  · exact (Float.beq_iff_ne_nan_and_eq.mp equal).2.2
  · exact Or.inl ((eq_nan_of_isNaN left).trans (eq_nan_of_isNaN right).symm)

/-- Only at the two zeros a function can tell alike values apart. -/
theorem preservesAlike_of_zeros
    {function : Float -> Float}
    (zeros : Alike (function 0) (function (-0))) :
    PreservesAlike function := by
  intro x y alike
  rcases alike_cases alike with rfl | ⟨rfl, rfl⟩ | ⟨rfl, rfl⟩
  · exact .refl _
  · exact zeros
  · exact zeros.symm

theorem identifiesAlike_of_zeros
    {function : Float -> Float}
    (zeros : function 0 = function (-0)) :
    IdentifiesAlike function := by
  intro x y alike
  rcases alike_cases alike with rfl | ⟨rfl, rfl⟩ | ⟨rfl, rfl⟩
  · rfl
  · exact zeros
  · exact zeros.symm

end RootFinding
