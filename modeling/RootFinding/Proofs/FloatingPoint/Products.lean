import RootFinding.Proofs.FloatingPoint.Packing

/-!
# Products and infinities

Products of canonical numbers are rounded faithfully (`rounds_mul`), as sums and
quotients are.  A `BinaryFormat` has such products, and values that are packed
without loss up to the largest one, so that the values that are finite are those
that are unpacked to finite numbers (`isFinite_iff_unpack`), and every other one
that is not NaN is unpacked to an infinity.

A result that is finite is a rounded one (`rounds_mul_of_isFinite`); nothing has to
be known of its size.
-/

namespace RootFinding

open Float.Model (Format UnpackedFloat totalExponent)
open Float.Model.UnpackedFloat (Sign)

namespace Unpacked

/-! ## Products -/

/-- The product of two mantissas in canonical form has all the digits that the
format keeps, or an exponent that is too small for them. -/
theorem mul_fine
    {format : Format}
    {mantissa mantissa' : Nat}
    {exponent exponent' : Int}
    (positive : 0 < mantissa)
    (positive' : 0 < mantissa')
    (canonical : Canonical format mantissa exponent)
    (canonical' : Canonical format mantissa' exponent') :
    exponent + exponent' ≤ format.targetExponent
      (totalExponent (mantissa * mantissa') (exponent + exponent')) := by
  have bits := mantissaBits_eq format
  have least := minExponent_eq format
  unfold Format.targetExponent totalExponent
  by_cases small :
      exponent = format.minExponent ∧ exponent' = format.minExponent
  · omega
  · have full : 2 ^ format.mantissaBitsWithoutImplicit ≤ mantissa * mantissa' := by
      rcases canonical.full with first | full
      · have full' := canonical'.full.resolve_left fun second =>
          small ⟨first, second⟩
        exact full'.trans (Nat.le_mul_of_pos_left mantissa' positive)
      · exact full.trans (Nat.le_mul_of_pos_right mantissa positive')
    have many : format.mantissaBitsWithoutImplicit ≤
        (mantissa * mantissa').log2 :=
      (Nat.le_log2 ((pow_pos two_pos _).trans_le full).ne').mpr full
    omega

theorem signed_mul_signed (sign sign' : Sign) (x y : ℚ) :
    signed (sign * sign') (x * y) = signed sign x * signed sign' y := by
  cases sign <;> cases sign'
  · exact (neg_mul_neg x y).symm
  · exact (neg_mul x y).symm
  · exact (mul_neg x y).symm
  · rfl

/-- A product is a canonical number, or the product of the values is rounded. -/
theorem mul_cases
    {format : Format}
    {left right : UnpackedFloat}
    (canonical : IsCanonical format left)
    (canonical' : IsCanonical format right) :
    IsCanonical format (left.mul format right) ∧
        value (left.mul format right) = value left * value right ∨
      ∃ (sign : Sign) (digits : Nat) (exponent : Int),
        value left * value right = signed sign (digits * 2 ^ exponent) ∧
        exponent ≤ format.targetExponent (totalExponent digits exponent) ∧
        left.mul format right =
          UnpackedFloat.roundWithAccuracy format sign digits exponent .exact := by
  rcases left with _ | _ | sign | ⟨sign, mantissa, exponent, positive⟩
  case infinity => exact canonical.elim
  case notANumber => exact canonical.elim
  all_goals
    rcases right with _ | _ | sign' | ⟨sign', mantissa', exponent', positive'⟩
    case infinity => exact canonical'.elim
    case notANumber => exact canonical'.elim
  case zero.zero => exact Or.inl ⟨trivial, (zero_mul _).symm⟩
  case zero.finite => exact Or.inl ⟨trivial, (zero_mul _).symm⟩
  case finite.zero => exact Or.inl ⟨trivial, (mul_zero _).symm⟩
  case finite.finite =>
    refine Or.inr ⟨sign * sign', mantissa * mantissa', exponent + exponent', ?_,
      mul_fine positive positive' canonical canonical', rfl⟩
    have product_eq :
        ((mantissa * mantissa' : Nat) : ℚ) * 2 ^ (exponent + exponent') =
          mantissa * 2 ^ exponent * (mantissa' * 2 ^ exponent') := by
      rw [zpow_add₀ two_ne_zero]
      push_cast
      ring
    rw [product_eq, signed_mul_signed]
    rfl

/-- Products are rounded faithfully. -/
theorem rounds_mul
    {format : Format}
    {left right : UnpackedFloat}
    (canonical : IsCanonical format left)
    (canonical' : IsCanonical format right) :
    Rounds format (value left * value right) (left.mul format right) := by
  rcases mul_cases canonical canonical' with
    ⟨kept, value_eq⟩ | ⟨sign, digits, exponent, product_eq, fine, mul_eq⟩
  · rw [← value_eq]
    exact .refl kept
  · rw [product_eq, mul_eq]
    exact rounds_roundWithAccuracy (.exact digits) fine sign

/-- The absolute value is that of the value. -/
theorem value_abs
    {format : Format}
    {number : UnpackedFloat}
    (canonical : IsCanonical format number) :
    IsCanonical format number.abs ∧ value number.abs = |value number| := by
  rcases number with _ | _ | sign | ⟨sign, mantissa, exponent, positive⟩
  · exact canonical.elim
  · exact canonical.elim
  · exact ⟨trivial, abs_zero.symm⟩
  · exact ⟨canonical, (abs_value_finite sign positive).symm⟩

/-! ## Results in the range of the format -/

/-- A canonical number is kept or becomes infinite. -/
theorem repack_eq_self_or_infinity
    {format : Format}
    {number : UnpackedFloat}
    (canonical : IsCanonical format number) :
    repack format number = number ∨
      ∃ sign, repack format number = .infinity sign := by
  rcases number with _ | _ | sign | ⟨sign, mantissa, exponent, positive⟩
  · exact canonical.elim
  · exact canonical.elim
  · exact Or.inl (repack_zero format sign)
  · rcases le_or_gt exponent (maxExponent format) with le | less
    · exact Or.inl (unpack_pack_of_le sign positive canonical le)
    · exact Or.inr ⟨sign, unpack_pack_of_lt sign positive less⟩

/-- A finite product has finite factors. -/
theorem isFinite_of_isFinite_mul
    {format : Format}
    {left right : UnpackedFloat}
    (finite : (left.mul format right).isFinite = true) :
    left.isFinite = true ∧ right.isFinite = true := by
  rcases left with sign | _ | _ | _ <;>
    rcases right with sign' | _ | _ | _ <;>
    first | exact ⟨rfl, rfl⟩ | cases finite

/-- A finite quotient has a finite dividend. -/
theorem isFinite_of_isFinite_div
    {format : Format}
    {left right : UnpackedFloat}
    (finite : (left.div format right).isFinite = true) :
    left.isFinite = true := by
  rcases left with sign | _ | _ | _ <;>
    rcases right with sign' | _ | _ | _ <;>
    first | rfl | cases finite

/-- An infinity less anything is the same infinity or NaN. -/
theorem infinity_sub
    (format : Format)
    (sign : Sign)
    (number : UnpackedFloat) :
    (UnpackedFloat.infinity sign).sub format number = .notANumber ∨
      (UnpackedFloat.infinity sign).sub format number = .infinity sign := by
  rcases number with sign' | _ | _ | _
  case infinity =>
    rw [UnpackedFloat.sub]
    split
    · exact Or.inr rfl
    · exact Or.inl rfl
  case notANumber => exact Or.inl rfl
  all_goals exact Or.inr rfl

/-- A canonical number that is still finite after packing is kept. -/
theorem repack_eq_of_isFinite
    {format : Format}
    {number : UnpackedFloat}
    (canonical : IsCanonical format number)
    (finite : (repack format number).isFinite = true) :
    repack format number = number := by
  rcases repack_eq_self_or_infinity canonical with kept | ⟨sign, infinite⟩
  · exact kept
  · rw [infinite] at finite
    cases finite

theorem Rounds.repack
    {format : Format}
    {exact : ℚ}
    {rounded : UnpackedFloat}
    (rounds : Rounds format exact rounded)
    (finite : (repack format rounded).isFinite = true) :
    Rounds format exact (repack format rounded) := by
  rwa [repack_eq_of_isFinite rounds.canonical finite]

/-- The largest number in the range of a format. -/
def greatest (format : Format) : ℚ :=
  (2 ^ format.mantissaBits - 1) * 2 ^ maxExponent format

theorem greatest_pos (format : Format) : 0 < greatest format := by
  have digits : (1 : ℚ) < 2 ^ format.mantissaBits :=
    one_lt_pow₀ one_lt_two (by rw [mantissaBits_eq]; exact Nat.succ_ne_zero _)
  exact mul_pos (sub_pos.mpr digits) (zpow_pos two_pos _)

theorem greatest_lt_overflow (format : Format) :
    greatest format < overflow format :=
  mul_lt_mul_of_pos_right (sub_one_lt _) (zpow_pos two_pos _)

/-- No canonical number in the range of a format is larger in magnitude than the
greatest one. -/
theorem abs_value_le_greatest
    {format : Format}
    {number : UnpackedFloat}
    (least_le : format.minExponent ≤ maxExponent format)
    (canonical : IsCanonical format number)
    (within : |value number| < overflow format) :
    |value number| ≤ greatest format := by
  rcases number with _ | _ | sign | ⟨sign, mantissa, exponent, positive⟩
  · exact canonical.elim
  · exact canonical.elim
  · rw [value_zero, abs_zero]
    exact (greatest_pos format).le
  · rw [abs_value_finite] at within ⊢
    have digits : (1 : ℚ) ≤ 2 ^ format.mantissaBits := one_le_pow₀ one_le_two
    have le := (canonical.le_maxExponent_iff least_le).mpr within
    have short : (mantissa : ℚ) ≤ 2 ^ format.mantissaBits - 1 := by
      have below := canonical.lt_limit
      rw [le_sub_iff_add_le]
      exact_mod_cast below
    exact mul_le_mul short (zpow_le_zpow_right₀ one_le_two le)
      (zpow_nonneg two_pos.le _) (sub_nonneg.mpr digits)

end Unpacked

/-! ## Formats with products -/

/-- A rounded format whose products are those of the unpacked numbers, and whose
values are packed without loss up to the greatest number. -/
class BinaryFormat (α : Type) [FloatingPoint α] extends RoundedFormat α where
  unpack_mul (x y : α) :
    unpack (x * y) =
      Unpacked.repack format ((unpack x).mul format (unpack y))
  repack_unpack (x : α) : Unpacked.repack format (unpack x) = unpack x
  value_largest :
    Unpacked.value (unpack (FloatingPoint.largest : α)) =
      Unpacked.greatest format
  value_neg_largest :
    Unpacked.value (unpack (-FloatingPoint.largest : α)) =
      -Unpacked.greatest format
  value_half : Unpacked.value (unpack (0.5 : α)) = 1 / 2

namespace Unpacked

theorem greatest_binary64 : greatest .binary64 = (2 ^ 53 - 1) * 2 ^ 971 := by
  have bits : Format.binary64.mantissaBits = 53 := by decide
  have largest : maxExponent .binary64 = ((971 : Nat) : Int) := by decide
  rw [greatest, bits, largest, zpow_natCast]

theorem greatest_binary32 : greatest .binary32 = (2 ^ 24 - 1) * 2 ^ 104 := by
  have bits : Format.binary32.mantissaBits = 24 := by decide
  have largest : maxExponent .binary32 = ((104 : Nat) : Int) := by decide
  rw [greatest, bits, largest, zpow_natCast]

end Unpacked

open Float.Model.UnpackedFloat (pack_unpack_of_valid)

-- The literals are too long to be unpacked as they stand; their bits are not.
instance : BinaryFormat Float where
  unpack_mul _ _ := rfl
  repack_unpack x :=
    congrArg (UnpackedFloat.unpack .binary64) (pack_unpack_of_valid x.toModel.valid)
  value_largest := by
    have bits : (FloatingPoint.largest : Float) =
        Float.ofBits 0x7FEFFFFFFFFFFFFF := by decide +kernel
    have unpacked : (Float.ofBits 0x7FEFFFFFFFFFFFFF).toModel.unpack =
        .finite .positive (2 ^ 53 - 1) 971 (by decide) := by rfl
    change Unpacked.value (FloatingPoint.largest : Float).toModel.unpack =
      Unpacked.greatest .binary64
    rw [bits, unpacked, Unpacked.greatest_binary64, Unpacked.value, Unpacked.signed]
    norm_num
  value_neg_largest := by
    have bits : (-FloatingPoint.largest : Float) =
        Float.ofBits 0xFFEFFFFFFFFFFFFF := by decide +kernel
    have unpacked : (Float.ofBits 0xFFEFFFFFFFFFFFFF).toModel.unpack =
        .finite .negative (2 ^ 53 - 1) 971 (by decide) := by rfl
    change Unpacked.value (-FloatingPoint.largest : Float).toModel.unpack =
      -Unpacked.greatest .binary64
    rw [bits, unpacked, Unpacked.greatest_binary64, Unpacked.value, Unpacked.signed]
    norm_num
  value_half := by
    have half : (0.5 : Float).toModel.unpack =
        .finite .positive (2 ^ 52) (-53) (Nat.two_pow_pos 52) := by rfl
    change Unpacked.value (0.5 : Float).toModel.unpack = 1 / 2
    rw [half, Unpacked.value, Unpacked.signed]
    norm_num

instance : BinaryFormat Float32 where
  unpack_mul _ _ := rfl
  repack_unpack x :=
    congrArg (UnpackedFloat.unpack .binary32) (pack_unpack_of_valid x.toModel.valid)
  value_largest := by
    have bits : (FloatingPoint.largest : Float32) =
        Float32.ofBits 0x7F7FFFFF := by decide +kernel
    have unpacked : (Float32.ofBits 0x7F7FFFFF).toModel.unpack =
        .finite .positive (2 ^ 24 - 1) 104 (by decide) := by rfl
    change Unpacked.value (FloatingPoint.largest : Float32).toModel.unpack =
      Unpacked.greatest .binary32
    rw [bits, unpacked, Unpacked.greatest_binary32, Unpacked.value, Unpacked.signed]
    norm_num
  value_neg_largest := by
    have bits : (-FloatingPoint.largest : Float32) =
        Float32.ofBits 0xFF7FFFFF := by decide +kernel
    have unpacked : (Float32.ofBits 0xFF7FFFFF).toModel.unpack =
        .finite .negative (2 ^ 24 - 1) 104 (by decide) := by rfl
    change Unpacked.value (-FloatingPoint.largest : Float32).toModel.unpack =
      -Unpacked.greatest .binary32
    rw [bits, unpacked, Unpacked.greatest_binary32, Unpacked.value, Unpacked.signed]
    norm_num
  value_half := by
    have half : (0.5 : Float32).toModel.unpack =
        .finite .positive (2 ^ 23) (-24) (Nat.two_pow_pos 23) := by rfl
    change Unpacked.value (0.5 : Float32).toModel.unpack = 1 / 2
    rw [half, Unpacked.value, Unpacked.signed]
    norm_num

/-! ## Finite results -/

namespace RoundedFormat

open PackedFormat Unpacked

variable [FloatingPoint α] [RoundedFormat α]

theorem unpack_isFinite_of_div
    {x y : α}
    (finite : (unpack (x / y)).isFinite = true) :
    (unpack x).isFinite = true := by
  rw [unpack_div] at finite
  exact isFinite_of_isFinite_div (isFinite_of_isFinite_repack finite)

/-- A finite sum is a rounded one. -/
theorem rounds_add_of_isFinite
    {x y : α}
    (finite : (unpack (x + y)).isFinite = true) :
    Rounds (format α) (value (unpack x) + value (unpack y))
      (unpack (x + y)) := by
  obtain ⟨finite_x, finite_y⟩ := unpack_isFinite_of_add finite
  have rounds := rounds_add (isCanonical_unpack x finite_x)
    (isCanonical_unpack y finite_y)
  rw [unpack_add] at finite ⊢
  exact rounds.repack finite

/-- A difference is a rounded one, unless it is too large. -/
theorem rounds_unpack_sub
    {x y : α}
    (finite : (unpack x).isFinite = true)
    (finite' : (unpack y).isFinite = true)
    {bound : ℚ}
    (representable : Representable (format α) bound)
    (within : bound < overflow (format α))
    (le : |value (unpack x) - value (unpack y)| ≤ bound) :
    Rounds (format α) (value (unpack x) - value (unpack y))
      (unpack (x - y)) := by
  have rounds := rounds_sub (isCanonical_unpack x finite)
    (isCanonical_unpack y finite')
  rw [unpack_sub, rounds.repack_eq least_le representable within le]
  exact rounds

/-- A finite half is a rounded one. -/
theorem rounds_half_of_isFinite
    {x : α}
    (finite : (unpack (x / 2.0)).isFinite = true) :
    Rounds (format α) (value (unpack x) / 2) (unpack (x / 2.0)) := by
  have rounds := rounds_div_two (unpack_isFinite_of_div finite)
  rw [unpack_div] at finite ⊢
  exact rounds.repack finite

end RoundedFormat

namespace BinaryFormat

open FloatingPoint PackedFormat RoundedFormat Unpacked

variable [FloatingPoint α] [BinaryFormat α]

theorem unpack_isFinite_of_mul
    {x y : α}
    (finite : (unpack (x * y)).isFinite = true) :
    (unpack x).isFinite = true ∧ (unpack y).isFinite = true := by
  rw [unpack_mul] at finite
  exact isFinite_of_isFinite_mul (isFinite_of_isFinite_repack finite)

/-- A finite product is a rounded one. -/
theorem rounds_mul_of_isFinite
    {x y : α}
    (finite : (unpack (x * y)).isFinite = true) :
    Rounds (format α) (value (unpack x) * value (unpack y))
      (unpack (x * y)) := by
  obtain ⟨finite_x, finite_y⟩ := unpack_isFinite_of_mul finite
  have rounds := rounds_mul (isCanonical_unpack x finite_x)
    (isCanonical_unpack y finite_y)
  rw [unpack_mul] at finite ⊢
  exact rounds.repack finite

/-- A product is rounded faithfully, unless it is too large. -/
theorem rounds_unpack_mul
    {x y : α}
    (finite : (unpack x).isFinite = true)
    (finite' : (unpack y).isFinite = true)
    {bound : ℚ}
    (representable : Representable (format α) bound)
    (within : bound < overflow (format α))
    (le : |value (unpack x) * value (unpack y)| ≤ bound) :
    Rounds (format α) (value (unpack x) * value (unpack y))
      (unpack (x * y)) := by
  have rounds := rounds_mul (isCanonical_unpack x finite)
    (isCanonical_unpack y finite')
  rw [unpack_mul, rounds.repack_eq least_le representable within le]
  exact rounds

/-- No value is larger in magnitude than the greatest number. -/
theorem abs_value_unpack_le
    {x : α}
    (finite : (unpack x).isFinite = true) :
    |value (unpack x)| ≤ greatest (format α) := by
  have canonical := isCanonical_unpack x finite
  have kept : (repack (format α) (unpack x)).isFinite = true := by
    rwa [repack_unpack]
  exact abs_value_le_greatest least_le canonical
    (abs_value_lt_of_isFinite least_le canonical kept)

/-- The absolute value of a finite value is exact. -/
theorem value_unpack_abs
    {x : α}
    (finite : (unpack x).isFinite = true) :
    (unpack (Arithmetic.abs x)).isFinite = true ∧
      value (unpack (Arithmetic.abs x)) = |value (unpack x)| := by
  have canonical := isCanonical_unpack x finite
  have within := (abs_value_unpack_le finite).trans_lt
    (greatest_lt_overflow (format α))
  obtain ⟨canonical', value_eq⟩ := value_abs canonical
  rw [← abs_abs, ← value_eq] at within
  rw [unpack_abs, repack_eq_self least_le canonical' within]
  exact ⟨canonical'.isFinite, value_eq⟩

/-- A value whose magnitude is at most a finite one is finite. -/
theorem unpack_isFinite_of_abs_le
    {x bound : α}
    (finite : (unpack bound).isFinite = true)
    (le : Arithmetic.abs x ≤ bound) :
    (unpack x).isFinite = true := by
  rw [PackedFormat.le_iff, unpack_abs] at le
  cases unpacked : unpack x with
  | infinity sign =>
      rw [unpacked, UnpackedFloat.abs, repack_infinity] at le
      have less := lt_of_le_of_lt le (between_infinities finite).2
      cases less
  | notANumber =>
      rw [unpacked, UnpackedFloat.abs, repack_notANumber] at le
      cases unpack bound <;> cases le
  | zero | finite => rfl

/-- The finite values are those that are unpacked to finite numbers. -/
theorem isFinite_iff_unpack (x : α) :
    isFinite x = true ↔ (unpack x).isFinite = true := by
  refine ⟨unpack_isFinite, fun finite => ?_⟩
  obtain ⟨above, below⟩ := abs_le.mp (abs_value_unpack_le finite)
  have positive := greatest_pos (format α)
  have finite_largest : (unpack (largest : α)).isFinite = true :=
    isFinite_of_value_ne_zero (by rw [value_largest]; exact positive.ne')
  have finite_least : (unpack (-largest : α)).isFinite = true :=
    isFinite_of_value_ne_zero
      (by rw [value_neg_largest]; exact (neg_neg_of_pos positive).ne)
  rw [isFinite_iff_le, le_iff_value_le finite_least finite,
    le_iff_value_le finite finite_largest, value_largest, value_neg_largest]
  exact ⟨above, below⟩

/-- The infinite values are those that are unpacked to infinities. -/
theorem isInfinite_iff_unpack (x : α) :
    isInfinite x = true ↔ ∃ sign, unpack x = .infinity sign := by
  have lawful : LawfulFloatingPoint α := PackedFormat.lawful
  constructor
  · intro infinite
    have notFinite : ¬isFinite x = true := by
      rw [LawfulFloatingPoint.isFinite_iff, infinite]
      exact fun parts => Bool.noConfusion parts.2
    have defined := LawfulFloatingPoint.isNaN_of_isInfinite infinite
    rw [isFinite_iff_unpack] at notFinite
    rw [← Bool.not_eq_true, isNaN_iff] at defined
    cases unpacked : unpack x with
    | infinity sign => exact ⟨sign, rfl⟩
    | notANumber => exact absurd unpacked defined
    | zero | finite =>
        rw [unpacked] at notFinite
        exact absurd rfl notFinite
  · rintro ⟨sign, unpacked⟩
    have notFinite : isFinite x = false := by
      rw [← Bool.not_eq_true, isFinite_iff_unpack, unpacked]
      exact Bool.false_ne_true
    refine ((LawfulFloatingPoint.isFinite_eq_false_iff x).mp notFinite).resolve_left ?_
    rw [isNaN_iff, unpacked]
    exact UnpackedFloat.noConfusion

theorem lawfulInfinity : LawfulInfinity α where
  sub_eq {x y} infinite := by
    obtain ⟨sign, unpacked⟩ := (isInfinite_iff_unpack x).mp infinite
    have difference := unpack_sub x y
    rw [unpacked] at difference
    rcases infinity_sub (format α) sign (unpack y) with undefined | same
    · rw [undefined, repack_notANumber] at difference
      exact Or.inl ((isNaN_iff _).mpr difference)
    · rw [same, repack_infinity] at difference
      refine Or.inr ?_
      rw [beq_eq, difference, unpacked]
      cases sign <;> rfl

end BinaryFormat

instance : LawfulInfinity Float :=
  BinaryFormat.lawfulInfinity

instance : LawfulInfinity Float32 :=
  BinaryFormat.lawfulInfinity

end RootFinding
