import RootFinding.Proofs.FloatingPoint.Rounding

/-!
# Sums and quotients

Sums and quotients of canonical numbers are rounded faithfully (`rounds_add`,
`rounds_div`).  A sum is computed exactly, at the smaller of the two exponents; a
quotient is computed to at least as many digits as the format keeps.
-/

namespace RootFinding
namespace Unpacked

open Float.Model (Format UnpackedFloat totalExponent)
open Float.Model.UnpackedFloat
  (Sign Accuracy decreaseExponent accuracyOfFraction divCore)

/-! ## Sums -/

/-- Decreasing the exponent does not change the number. -/
theorem decreaseExponent_scaled
    (mantissa : Nat)
    (exponent target : Int) :
    ((decreaseExponent mantissa exponent target).1 : ℚ) *
        2 ^ (decreaseExponent mantissa exponent target).2 =
      mantissa * 2 ^ exponent := by
  simp only [decreaseExponent, Nat.shiftLeft_eq, Nat.cast_mul, Nat.cast_pow,
    Nat.cast_ofNat]
  rw [zpow_sub₀ two_ne_zero, zpow_natCast]
  field_simp

theorem log2_shiftLeft
    {mantissa : Nat}
    (positive : 0 < mantissa)
    (shift : Nat) :
    (mantissa <<< shift).log2 = mantissa.log2 + shift := by
  induction shift with
  | zero => rfl
  | succ shift hypothesis =>
      have notZero : mantissa <<< shift ≠ 0 := by
        rw [Nat.shiftLeft_eq]
        exact (Nat.mul_pos positive (Nat.two_pow_pos shift)).ne'
      rw [Nat.shiftLeft_succ, Nat.log2_two_mul notZero, hypothesis]
      rfl

/-- Decreasing the exponent does not move the first digit. -/
theorem totalExponent_decreaseExponent
    {mantissa : Nat}
    (positive : 0 < mantissa)
    (exponent target : Int) :
    totalExponent (decreaseExponent mantissa exponent target).1
        (decreaseExponent mantissa exponent target).2 =
      totalExponent mantissa exponent := by
  unfold totalExponent decreaseExponent
  dsimp only
  rw [log2_shiftLeft positive]
  push_cast
  ring

/-- To round a number, its mantissa is first given enough digits. -/
theorem round_eq
    (format : Format)
    (sign : Sign)
    {mantissa : Nat}
    (positive : 0 < mantissa)
    (exponent : Int) :
    ∃ (digits : Nat) (target : Int),
      (digits : ℚ) * 2 ^ target = mantissa * 2 ^ exponent ∧
        target ≤ format.targetExponent (totalExponent digits target) ∧
        UnpackedFloat.round format sign mantissa exponent =
          UnpackedFloat.roundWithAccuracy format sign digits target .exact := by
  refine ⟨_, _, decreaseExponent_scaled mantissa exponent
    (format.targetExponent (totalExponent mantissa exponent)), ?_, rfl⟩
  rw [totalExponent_decreaseExponent positive]
  unfold decreaseExponent
  dsimp only
  omega

/-- A number that is not zero is rounded faithfully. -/
theorem rounds_round
    (format : Format)
    (sign : Sign)
    {mantissa : Nat}
    (positive : 0 < mantissa)
    (exponent : Int) :
    Rounds format (signed sign (mantissa * 2 ^ exponent))
      (UnpackedFloat.round format sign mantissa exponent) := by
  obtain ⟨digits, target, scaled, fine, round_eq⟩ :=
    round_eq format sign positive exponent
  rw [round_eq, ← scaled]
  exact rounds_roundWithAccuracy (.exact digits) fine sign

/-- A signed mantissa is zero, or is rounded as its magnitude. -/
theorem normalize_cases
    (format : Format)
    (mantissa exponent : Int)
    (zeroSign : Sign) :
    mantissa = 0 ∧
        UnpackedFloat.normalize format mantissa exponent zeroSign =
          .zero zeroSign ∨
      ∃ (sign : Sign) (magnitude : Nat), 0 < magnitude ∧
        (mantissa : ℚ) * 2 ^ exponent = signed sign (magnitude * 2 ^ exponent) ∧
        UnpackedFloat.normalize format mantissa exponent zeroSign =
          UnpackedFloat.round format sign magnitude exponent := by
  unfold UnpackedFloat.normalize
  rcases lt_trichotomy mantissa 0 with negative | rfl | positive
  · rw [Int.compare_eq_lt.mpr negative]
    obtain ⟨magnitude, rfl⟩ := Int.eq_negSucc_of_lt_zero negative
    refine Or.inr ⟨.negative, magnitude + 1, magnitude.succ_pos, ?_, rfl⟩
    rw [Int.cast_negSucc, signed, neg_mul]
  · exact Or.inl ⟨rfl, rfl⟩
  · rw [Int.compare_eq_gt.mpr positive]
    obtain ⟨magnitude, rfl⟩ := Int.eq_ofNat_of_zero_le positive.le
    exact Or.inr ⟨.positive, magnitude, Int.natCast_pos.mp positive, rfl, rfl⟩

/-- A signed mantissa at a smaller exponent stands for the same number. -/
theorem signed_decreaseExponent
    (sign : Sign)
    (mantissa : Nat)
    {exponent target : Int}
    (le : target ≤ exponent) :
    ((sign.apply (decreaseExponent mantissa exponent target).1 : Int) : ℚ) *
        2 ^ target =
      signed sign (mantissa * 2 ^ exponent) := by
  have exponent_eq : (decreaseExponent mantissa exponent target).2 = target := by
    unfold decreaseExponent
    dsimp only
    omega
  have scaled := decreaseExponent_scaled mantissa exponent target
  rw [exponent_eq] at scaled
  rw [intCast_apply, ← signed_mul, Int.cast_natCast, scaled]

/-- A sum is a canonical number, or the sum of the values is rounded. -/
theorem add_cases
    {format : Format}
    {left right : UnpackedFloat}
    (canonical : IsCanonical format left)
    (canonical' : IsCanonical format right) :
    IsCanonical format (left.add format right) ∧
        value (left.add format right) = value left + value right ∨
      ∃ (sign : Sign) (magnitude : Nat) (exponent : Int), 0 < magnitude ∧
        value left + value right = signed sign (magnitude * 2 ^ exponent) ∧
        left.add format right =
          UnpackedFloat.round format sign magnitude exponent := by
  rcases left with _ | _ | sign | ⟨sign, mantissa, exponent, positive⟩
  case infinity => exact canonical.elim
  case notANumber => exact canonical.elim
  all_goals
    rcases right with _ | _ | sign' | ⟨sign', mantissa', exponent', positive'⟩
    case infinity => exact canonical'.elim
    case notANumber => exact canonical'.elim
  case zero.zero =>
    left
    cases sign <;> cases sign' <;> exact ⟨trivial, (add_zero 0).symm⟩
  case zero.finite =>
    exact Or.inl ⟨canonical', (zero_add _).symm⟩
  case finite.zero =>
    exact Or.inl ⟨canonical, (add_zero _).symm⟩
  case finite.finite =>
    -- Both mantissas are brought to the smaller exponent and added exactly.
    let mantissaSum : Int :=
      sign.apply (decreaseExponent mantissa exponent (min exponent exponent')).1 +
        sign'.apply
          (decreaseExponent mantissa' exponent' (min exponent exponent')).1
    have sum_eq : (mantissaSum : ℚ) * 2 ^ min exponent exponent' =
        signed sign (mantissa * 2 ^ exponent) +
          signed sign' (mantissa' * 2 ^ exponent') := by
      rw [Int.cast_add, add_mul,
        signed_decreaseExponent sign mantissa (min_le_left exponent exponent'),
        signed_decreaseExponent sign' mantissa' (min_le_right exponent exponent')]
    rcases normalize_cases format mantissaSum (min exponent exponent') .positive with
      ⟨zero, normalized⟩ | ⟨sign, magnitude, positive, scaled, normalized⟩
    · rw [zero, Int.cast_zero, zero_mul] at sum_eq
      have add_eq : UnpackedFloat.add format
          (.finite sign mantissa exponent positive)
          (.finite sign' mantissa' exponent' positive') = .zero .positive :=
        normalized
      rw [add_eq]
      exact Or.inl ⟨trivial, sum_eq⟩
    · exact Or.inr ⟨sign, magnitude, _, positive, sum_eq.symm.trans scaled,
        normalized⟩

/-- Sums are rounded faithfully. -/
theorem rounds_add
    {format : Format}
    {left right : UnpackedFloat}
    (canonical : IsCanonical format left)
    (canonical' : IsCanonical format right) :
    Rounds format (value left + value right) (left.add format right) := by
  rcases add_cases canonical canonical' with
    ⟨kept, value_eq⟩ | ⟨sign, magnitude, exponent, positive, sum_eq, add_eq⟩
  · rw [← value_eq]
    exact .refl kept
  · rw [sum_eq, add_eq]
    exact rounds_round format sign positive exponent

/-! ## Differences -/

/-- A difference is a sum with the negative. -/
theorem sub_eq_add
    (format : Format)
    (left right : UnpackedFloat) :
    left.sub format right = left.add format right.neg := by
  rcases left with sign | _ | sign | ⟨sign, mantissa, exponent, positive⟩ <;>
    rcases right with sign' | _ | sign' | ⟨sign', mantissa', exponent', positive'⟩ <;>
    try rfl
  case finite.finite =>
    have apply_neg (n : Int) : (-sign').apply n = -sign'.apply n := by
      cases sign' with
      | negative => exact (neg_neg n).symm
      | positive => rfl
    simp only [UnpackedFloat.sub, UnpackedFloat.add, UnpackedFloat.neg, apply_neg,
      sub_eq_add_neg]

/-- Differences are rounded faithfully. -/
theorem rounds_sub
    {format : Format}
    {left right : UnpackedFloat}
    (canonical : IsCanonical format left)
    (canonical' : IsCanonical format right) :
    Rounds format (value left - value right) (left.sub format right) := by
  rw [sub_eq_add, sub_eq_add_neg, ← value_neg]
  exact rounds_add canonical canonical'.neg

/-! ## Quotients -/

/-- A division with remainder cuts the fraction of the quotient off. -/
theorem truncates_quotient
    (dividend : Nat)
    {divisor : Nat}
    (positive : 0 < divisor) :
    Truncates
      (.ofMantissaAndAccuracy (dividend / divisor)
        (accuracyOfFraction (dividend % divisor) divisor))
      ((dividend : ℚ) / divisor) := by
  have divisor_pos : (0 : ℚ) < divisor := Nat.cast_pos.mpr positive
  have parts : (dividend : ℚ) =
      divisor * (dividend / divisor : Nat) + (dividend % divisor : Nat) := by
    exact_mod_cast (Nat.div_add_mod dividend divisor).symm
  unfold accuracyOfFraction
  split
  case isTrue whole =>
    rw [whole, Nat.cast_zero, add_zero] at parts
    have quotient_eq : (dividend : ℚ) / divisor = (dividend / divisor : Nat) := by
      rw [div_eq_iff divisor_pos.ne', parts, mul_comm]
    rw [quotient_eq]
    exact .exact _
  case isFalse notWhole =>
    have left_pos : (0 : ℚ) < (dividend % divisor : Nat) :=
      Nat.cast_pos.mpr (Nat.pos_of_ne_zero notWhole)
    have left_lt : ((dividend % divisor : Nat) : ℚ) < divisor :=
      Nat.cast_lt.mpr (Nat.mod_lt dividend positive)
    have between :
        ((dividend / divisor : Nat) : ℚ) < dividend / divisor ∧
          (dividend : ℚ) / divisor < (dividend / divisor : Nat) + 1 := by
      rw [lt_div_iff₀ divisor_pos, div_lt_iff₀ divisor_pos]
      constructor <;> linarith
    cases compare (2 * (dividend % divisor)) divisor <;> exact between

/-- A quotient has all the digits that the format keeps, or an exponent that is
too small for them. -/
theorem divCore_fine
    (format : Format)
    {mantissa mantissa' : Nat}
    (positive : 0 < mantissa)
    (positive' : 0 < mantissa')
    {exponent exponent' target : Int}
    (target_le : target ≤ exponent - exponent')
    (target_le' :
      target ≤ format.targetExponent
        (totalExponent mantissa exponent - totalExponent mantissa' exponent')) :
    target ≤ format.targetExponent
      (totalExponent
        (mantissa <<< (exponent - exponent' - target).toNat / mantissa')
        target) := by
  have bits := mantissaBits_eq format
  obtain ⟨shift, shift_eq⟩ := Int.le.dest target_le
  have amount : (exponent - exponent' - target).toNat = shift := by omega
  rw [amount]
  unfold Format.targetExponent totalExponent at target_le' ⊢
  rcases le_or_gt target format.minExponent with small | large
  · exact small.trans (le_max_right _ _)
  · have digits :
        format.mantissaBits + mantissa'.log2 ≤ mantissa.log2 + shift := by
      omega
    have full :
        2 ^ format.mantissaBitsWithoutImplicit ≤
          mantissa <<< shift / mantissa' := by
      rw [Nat.le_div_iff_mul_le positive', Nat.shiftLeft_eq]
      calc 2 ^ format.mantissaBitsWithoutImplicit * mantissa'
          ≤ 2 ^ format.mantissaBitsWithoutImplicit *
              2 ^ (mantissa'.log2 + 1) :=
            Nat.mul_le_mul_left _ Nat.lt_log2_self.le
        _ = 2 ^ (format.mantissaBits + mantissa'.log2) := by
            rw [bits, ← pow_add]
            congr 1
            omega
        _ ≤ 2 ^ (mantissa.log2 + shift) :=
            Nat.pow_le_pow_right two_pos digits
        _ ≤ mantissa * 2 ^ shift := by
            rw [pow_add]
            exact Nat.mul_le_mul_right _ (Nat.log2_self_le positive.ne')
    have many : format.mantissaBitsWithoutImplicit ≤
        (mantissa <<< shift / mantissa').log2 :=
      (Nat.le_log2 ((pow_pos two_pos _).trans_le full).ne').mpr full
    omega

/-- Quotients are rounded faithfully. -/
theorem rounds_div
    {format : Format}
    {left right : UnpackedFloat}
    (canonical : IsCanonical format left)
    (canonical' : IsCanonical format right)
    (notZero : value right ≠ 0) :
    Rounds format (value left / value right) (left.div format right) := by
  rcases right with _ | _ | sign' | ⟨sign', mantissa', exponent', positive'⟩
  case infinity => exact canonical'.elim
  case notANumber => exact canonical'.elim
  case zero => exact absurd rfl notZero
  rcases left with _ | _ | sign | ⟨sign, mantissa, exponent, positive⟩
  case infinity => exact canonical.elim
  case notANumber => exact canonical.elim
  case zero =>
    rw [value_zero, zero_div]
    exact .zero format (sign / sign')
  case finite =>
    rw [UnpackedFloat.div, divCore]
    dsimp only
    generalize target_eq :
      min (exponent - exponent')
        (format.targetExponent
          (totalExponent mantissa exponent -
            totalExponent mantissa' exponent')) = target
    have target_le : target ≤ exponent - exponent' := by
      rw [← target_eq]
      exact min_le_left _ _
    have fine := divCore_fine format positive positive' target_le (by
      rw [← target_eq]
      exact min_le_right _ _)
    have rounds := rounds_roundWithAccuracy
      (truncates_quotient _ positive') fine (sign / sign')
    have quotient_eq :
        ((mantissa <<< (exponent - exponent' - target).toNat : Nat) : ℚ) /
            mantissa' * 2 ^ target =
          mantissa * 2 ^ exponent / (mantissa' * 2 ^ exponent') := by
      obtain ⟨shift, shift_eq⟩ := Int.le.dest target_le
      have amount : (exponent - exponent' - target).toNat = shift := by omega
      have exponent_eq : exponent = target + shift + exponent' := by omega
      rw [amount, exponent_eq, zpow_add₀ two_ne_zero, zpow_add₀ two_ne_zero,
        zpow_natCast, Nat.shiftLeft_eq]
      push_cast
      field_simp
    rw [quotient_eq, signed_div] at rounds
    exact rounds

end Unpacked
end RootFinding
