import RootFinding.Proofs.FloatingPoint.Binary

/-!
# Values of binary numbers

An unpacked number stands for a rational number, its `value`.  A format keeps
numbers in canonical form: the mantissa has no more bits than the format allows,
and as many as it allows unless the exponent is the least one.  On canonical
numbers, the order of the format is the order of the values
(`value_le_value_iff`).

`Representable` is what a value of any exponent from the least one up can be.
It does not insist on canonical form, so twice a representable number is
representable with the same mantissa.
-/

namespace RootFinding

/-- A value between two others, and neither of them. -/
def StrictlyBetween [LT α] (x y between : α) : Prop :=
  x < between ∧ between < y ∨ y < between ∧ between < x

theorem StrictlyBetween.symm
    [LT α]
    {x y between : α}
    (separated : StrictlyBetween x y between) :
    StrictlyBetween y x between :=
  Or.symm separated

namespace Unpacked

open Float.Model (Format UnpackedFloat totalExponent)
open Float.Model.UnpackedFloat (Sign)

/-- Apply a sign to a number. -/
def signed : Sign -> ℚ -> ℚ
  | .negative, x => -x
  | .positive, x => x

/-- The number that a finite unpacked number stands for. -/
def value : UnpackedFloat -> ℚ
  | .finite sign mantissa exponent _ => signed sign (mantissa * 2 ^ exponent)
  | _ => 0

/-- A mantissa and an exponent in canonical form. -/
structure Canonical
    (format : Format)
    (mantissa : Nat)
    (exponent : Int) : Prop where
  lt_limit : mantissa < 2 ^ format.mantissaBits
  le_exponent : format.minExponent ≤ exponent
  full :
    exponent = format.minExponent ∨
      2 ^ format.mantissaBitsWithoutImplicit ≤ mantissa

/-- A finite number in canonical form. -/
def IsCanonical (format : Format) : UnpackedFloat -> Prop
  | .finite _ mantissa exponent _ => Canonical format mantissa exponent
  | .zero _ => True
  | _ => False

/-- The numbers that have a mantissa of the format, and an exponent that is not
too small. -/
def Representable (format : Format) (x : ℚ) : Prop :=
  ∃ mantissa exponent : Int,
    |mantissa| < 2 ^ format.mantissaBits ∧
      format.minExponent ≤ exponent ∧ x = mantissa * 2 ^ exponent

theorem mantissaBits_eq (format : Format) :
    format.mantissaBits = format.mantissaBitsWithoutImplicit + 1 :=
  Nat.add_comm _ _

@[simp] theorem value_zero (sign : Sign) : value (.zero sign) = 0 := rfl

theorem intCast_apply (sign : Sign) (n : Int) :
    ((sign.apply n : Int) : ℚ) = signed sign n := by
  cases sign with
  | negative => exact Int.cast_neg n
  | positive => rfl

theorem signed_mul (sign : Sign) (x y : ℚ) :
    signed sign (x * y) = signed sign x * y := by
  cases sign with
  | negative => exact (neg_mul x y).symm
  | positive => rfl

theorem signed_div (sign sign' : Sign) (x y : ℚ) :
    signed (sign / sign') (x / y) = signed sign x / signed sign' y := by
  cases sign <;> cases sign'
  · exact (neg_div_neg_eq x y).symm
  · exact (neg_div y x).symm
  · exact (div_neg x).symm
  · rfl

/-- The value of a mantissa that is not zero is positive. -/
theorem scaled_pos
    {mantissa : Nat}
    (exponent : Int)
    (positive : 0 < mantissa) :
    (0 : ℚ) < mantissa * 2 ^ exponent :=
  mul_pos (Nat.cast_pos.mpr positive) (zpow_pos two_pos exponent)

@[simp] theorem value_neg (number : UnpackedFloat) :
    value number.neg = -value number := by
  rcases number with _ | _ | _ | ⟨_ | _, mantissa, exponent, positive⟩
  · exact neg_zero.symm
  · exact neg_zero.symm
  · exact neg_zero.symm
  · exact (neg_neg _).symm
  · rfl

theorem IsCanonical.neg
    {format : Format}
    {number : UnpackedFloat}
    (canonical : IsCanonical format number) :
    IsCanonical format number.neg := by
  cases number <;> exact canonical

theorem IsCanonical.isFinite
    {format : Format}
    {number : UnpackedFloat}
    (canonical : IsCanonical format number) :
    number.isFinite = true := by
  cases number with
  | infinity => exact canonical.elim
  | notANumber => exact canonical.elim
  | zero => rfl
  | finite => rfl

theorem isFinite_of_value_ne_zero
    {number : UnpackedFloat}
    (notZero : value number ≠ 0) :
    number.isFinite = true := by
  rcases number with _ | _ | _ | _
  · exact absurd rfl notZero
  · exact absurd rfl notZero
  · rfl
  · rfl

/-- A canonical exponent is the one that the format wants. -/
theorem Canonical.targetExponent_eq
    {format : Format}
    {mantissa : Nat}
    {exponent : Int}
    (canonical : Canonical format mantissa exponent) :
    format.targetExponent (totalExponent mantissa exponent) = exponent := by
  have bits := mantissaBits_eq format
  have above := canonical.le_exponent
  have few : mantissa.log2 < format.mantissaBits := by
    rcases Nat.eq_zero_or_pos mantissa with rfl | positive
    · rw [bits]
      exact Nat.succ_pos _
    · exact (Nat.log2_lt positive.ne').mpr canonical.lt_limit
  have many : exponent = format.minExponent ∨
      format.mantissaBitsWithoutImplicit ≤ mantissa.log2 :=
    canonical.full.imp id fun full =>
      (Nat.le_log2 ((pow_pos two_pos _).trans_le full).ne').mpr full
  unfold Format.targetExponent totalExponent
  omega

/-! ## Order -/

/-- What has one digit too many is at most the first digit of a larger
exponent. -/
theorem limit_scaled_le
    (format : Format)
    {exponent exponent' : Int}
    (less : exponent < exponent') :
    (2 : ℚ) ^ format.mantissaBits * 2 ^ exponent ≤
      2 ^ format.mantissaBitsWithoutImplicit * 2 ^ exponent' :=
  calc (2 : ℚ) ^ format.mantissaBits * 2 ^ exponent
      = 2 ^ format.mantissaBitsWithoutImplicit * 2 ^ (exponent + 1) := by
        rw [mantissaBits_eq, pow_succ, zpow_add_one₀ two_ne_zero]
        ring
    _ ≤ 2 ^ format.mantissaBitsWithoutImplicit * 2 ^ exponent' :=
        mul_le_mul_of_nonneg_left (zpow_le_zpow_right₀ one_le_two less)
          (pow_nonneg two_pos.le _)

/-- A number of few digits is less than the first digit of a larger exponent. -/
theorem scaled_lt_of_exponent_lt
    (format : Format)
    {x : ℚ}
    {exponent exponent' : Int}
    (below : x < 2 ^ format.mantissaBits)
    (less : exponent < exponent') :
    x * 2 ^ exponent <
      2 ^ format.mantissaBitsWithoutImplicit * 2 ^ exponent' :=
  (mul_lt_mul_of_pos_right below (zpow_pos two_pos exponent)).trans_le
    (limit_scaled_le format less)

/-- Of two canonical numbers with different exponents, the one with the larger
exponent is larger. -/
theorem Canonical.lt_of_exponent_lt
    {format : Format}
    {mantissa mantissa' : Nat}
    {exponent exponent' : Int}
    (canonical : Canonical format mantissa exponent)
    (canonical' : Canonical format mantissa' exponent')
    (less : exponent < exponent') :
    (mantissa : ℚ) * 2 ^ exponent < mantissa' * 2 ^ exponent' := by
  have above := canonical.le_exponent
  have full : 2 ^ format.mantissaBitsWithoutImplicit ≤ mantissa' :=
    canonical'.full.resolve_left (by omega)
  calc (mantissa : ℚ) * 2 ^ exponent
      < 2 ^ format.mantissaBitsWithoutImplicit * 2 ^ exponent' :=
        scaled_lt_of_exponent_lt format
          (by exact_mod_cast canonical.lt_limit) less
    _ ≤ mantissa' * 2 ^ exponent' :=
        mul_le_mul_of_nonneg_right (by exact_mod_cast full)
          (zpow_nonneg two_pos.le exponent')

/-- Canonical numbers are compared by exponent first, then by mantissa. -/
theorem Canonical.lt_of_lex
    {format : Format}
    {mantissa mantissa' : Nat}
    {exponent exponent' : Int}
    (canonical : Canonical format mantissa exponent)
    (canonical' : Canonical format mantissa' exponent')
    (less :
      exponent < exponent' ∨ exponent = exponent' ∧ mantissa < mantissa') :
    (mantissa : ℚ) * 2 ^ exponent < mantissa' * 2 ^ exponent' := by
  rcases less with less | ⟨rfl, less⟩
  · exact canonical.lt_of_exponent_lt canonical' less
  · exact mul_lt_mul_of_pos_right (Nat.cast_lt.mpr less)
      (zpow_pos two_pos exponent)

/-- A canonical number below another one has a smaller value. -/
theorem value_lt_of_lt
    {format : Format}
    {left right : UnpackedFloat}
    (canonical : IsCanonical format left)
    (canonical' : IsCanonical format right)
    (less : left.lt right = true) :
    value left < value right := by
  obtain ⟨lower, lower_mem, upper, upper_mem, place⟩ := (lt_iff ..).mp less
  rcases left with _ | _ | _ | ⟨_ | _, mantissa, exponent, positive⟩
  case infinity => exact canonical.elim
  case notANumber => exact canonical.elim
  -- The numbers that are left are compared by rank.
  all_goals
    rcases right with _ | _ | _ | ⟨_ | _, mantissa', exponent', positive'⟩
    case infinity => exact canonical'.elim
    case notANumber => exact canonical'.elim
    all_goals
      obtain rfl := Option.some.inj lower_mem
      obtain rfl := Option.some.inj upper_mem
      simp [Prod.Lex.toLex_lt_toLex] at place
  case zero.finite.positive =>
    exact scaled_pos exponent' positive'
  case finite.negative.zero =>
    exact neg_lt_zero.mpr (scaled_pos exponent positive)
  case finite.negative.finite.negative =>
    exact neg_lt_neg
      (canonical'.lt_of_lex canonical (place.imp id (And.imp Eq.symm id)))
  case finite.negative.finite.positive =>
    exact (neg_lt_zero.mpr (scaled_pos exponent positive)).trans
      (scaled_pos exponent' positive')
  case finite.positive.finite.positive =>
    exact canonical.lt_of_lex canonical' place

/-- Equal numbers have the same value. -/
theorem value_eq_of_beq
    {left right : UnpackedFloat}
    (equal : left.beq right = true) :
    value left = value right := by
  obtain ⟨-, -, same⟩ :=
    (Float.Model.UnpackedFloat.beq_iff_ne_notANumber_and_eq left right).mp equal
  rcases same with rfl | ⟨rfl, rfl⟩ | ⟨rfl, rfl⟩ <;> rfl

theorem exists_rank_of_isCanonical
    {format : Format}
    {number : UnpackedFloat}
    (canonical : IsCanonical format number) :
    ∃ place, rank number = some place := by
  rw [← Option.ne_none_iff_exists', ne_eq, rank_eq_none_iff]
  rintro rfl
  exact canonical

/-- Canonical numbers are ordered like their values. -/
theorem value_le_value_iff
    {format : Format}
    {left right : UnpackedFloat}
    (canonical : IsCanonical format left)
    (canonical' : IsCanonical format right) :
    value left ≤ value right ↔ left.le right = true := by
  obtain ⟨lower, lower_eq⟩ := exists_rank_of_isCanonical canonical
  obtain ⟨upper, upper_eq⟩ := exists_rank_of_isCanonical canonical'
  constructor
  · intro le
    rcases le_or_gt lower upper with ordered | reverse
    · exact (le_iff ..).mpr ⟨lower, lower_eq, upper, upper_eq, ordered⟩
    · have less := value_lt_of_lt canonical' canonical
        ((lt_iff ..).mpr ⟨upper, upper_eq, lower, lower_eq, reverse⟩)
      exact absurd le (not_le_of_gt less)
  · intro ordered
    obtain ⟨_, lower_mem, _, upper_mem, le⟩ := (le_iff ..).mp ordered
    rcases le.lt_or_eq with less | rfl
    · exact (value_lt_of_lt canonical canonical'
        ((lt_iff ..).mpr ⟨_, lower_mem, _, upper_mem, less⟩)).le
    · refine (value_eq_of_beq ((beq_iff ..).mpr ⟨?_, ?_⟩)).le
      · rw [lower_eq]
        exact Option.some_ne_none lower
      · exact lower_mem.trans upper_mem.symm

theorem between_infinities
    {number : UnpackedFloat}
    (finite : number.isFinite = true) :
    (UnpackedFloat.infinity .negative).lt number = true ∧
      number.lt (.infinity .positive) = true := by
  rcases number with _ | _ | _ | ⟨_ | _, mantissa, exponent, positive⟩
  · cases finite
  · cases finite
  · exact ⟨rfl, rfl⟩
  · exact ⟨rfl, rfl⟩
  · exact ⟨rfl, rfl⟩

/-- A number between finite numbers is finite. -/
theorem isFinite_of_le
    {lower number upper : UnpackedFloat}
    (finite : lower.isFinite = true)
    (finite' : upper.isFinite = true)
    (le : lower.le number = true)
    (le' : number.le upper = true) :
    number.isFinite = true :=
  isFinite_of_lt
    (lt_of_lt_of_le (between_infinities finite).1 le)
    (lt_of_le_of_lt le' (between_infinities finite').2)

/-! ## Representable numbers -/

theorem IsCanonical.representable
    {format : Format}
    {number : UnpackedFloat}
    (canonical : IsCanonical format number) :
    Representable format (value number) := by
  rcases number with _ | _ | _ | ⟨sign, mantissa, exponent, positive⟩
  · exact canonical.elim
  · exact canonical.elim
  · exact ⟨0, format.minExponent, by positivity, le_rfl, by simp [value]⟩
  · have below : (mantissa : Int) < 2 ^ format.mantissaBits := by
      exact_mod_cast canonical.lt_limit
    refine ⟨sign.apply mantissa, exponent, ?_, canonical.le_exponent, ?_⟩
    · cases sign <;> simpa [Sign.apply] using below
    · rw [intCast_apply, ← signed_mul]
      rfl

theorem Representable.neg
    {format : Format}
    {x : ℚ}
    (representable : Representable format x) :
    Representable format (-x) := by
  obtain ⟨mantissa, exponent, below, above, rfl⟩ := representable
  exact ⟨-mantissa, exponent, by rwa [abs_neg], above, by push_cast; ring⟩

theorem Representable.abs
    {format : Format}
    {x : ℚ}
    (representable : Representable format x) :
    Representable format |x| := by
  rcases abs_choice x with same | opposite
  · rwa [same]
  · rw [opposite]
    exact representable.neg

theorem Representable.max
    {format : Format}
    {x y : ℚ}
    (representable : Representable format x)
    (representable' : Representable format y) :
    Representable format (max x y) := by
  rcases max_choice x y with left | right
  · rwa [left]
  · rwa [right]

theorem representable_zero (format : Format) : Representable format 0 :=
  ⟨0, format.minExponent, by positivity, le_rfl, by simp⟩

theorem representable_zpow
    {format : Format}
    {exponent : Int}
    (above : format.minExponent ≤ exponent) :
    Representable format (2 ^ exponent) := by
  refine ⟨1, exponent, ?_, above, by rw [Int.cast_one, one_mul]⟩
  rw [abs_one]
  exact one_lt_pow₀ one_lt_two (by rw [mantissaBits_eq]; exact Nat.succ_ne_zero _)

theorem representable_one
    {format : Format}
    (above : format.minExponent ≤ 0) :
    Representable format 1 := by
  have one := representable_zpow above
  rwa [zpow_zero] at one

/-- Twice a number only takes a larger exponent. -/
theorem Representable.two_mul
    {format : Format}
    {x : ℚ}
    (representable : Representable format x) :
    Representable format (2 * x) := by
  obtain ⟨mantissa, exponent, below, above, rfl⟩ := representable
  refine ⟨mantissa, exponent + 1, below, by omega, ?_⟩
  rw [zpow_add_one₀ two_ne_zero]
  ring

/-- A representable number is a whole number of units, or less than the first
digit of a mantissa of units. -/
theorem Representable.whole_or_lt
    {format : Format}
    {x : ℚ}
    (representable : Representable format x)
    (exponent : Int) :
    (∃ n : Int, x = n * 2 ^ exponent) ∨
      format.minExponent < exponent ∧
        x < 2 ^ format.mantissaBitsWithoutImplicit * 2 ^ exponent := by
  obtain ⟨mantissa, exponent', below, above, rfl⟩ := representable
  rcases le_or_gt exponent exponent' with le | less
  · obtain ⟨shift, rfl⟩ := Int.le.dest le
    refine Or.inl ⟨mantissa * 2 ^ shift, ?_⟩
    rw [zpow_add₀ two_ne_zero, zpow_natCast]
    push_cast
    ring
  · refine Or.inr ⟨by omega, scaled_lt_of_exponent_lt format ?_ less⟩
    exact_mod_cast (le_abs_self mantissa).trans_lt below

end Unpacked
end RootFinding
