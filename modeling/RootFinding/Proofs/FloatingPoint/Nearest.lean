import RootFinding.Proofs.FloatingPoint.Products

/-!
# Rounding to nearest

The two residual bits of a mantissa say on which side of a half the digits lie that
were cut off (`Resolves`).  So the mantissa is rounded to a nearest whole number, and
the exact result of a sum to a nearest representable number (`nearest_add`).  Larger
numbers have nearest numbers that are not smaller (`Nearest.value_le_value`).

Faithful rounding says less: it leaves open which of two neighbours is taken.  Where
the nearest one matters is half of a sum, which is rounded to one of the summands
only if no number lies between the two (`half_ne_of_nearest`).
-/

namespace RootFinding

open Float.Model (Format UnpackedFloat totalExponent)
open Float.Model.UnpackedFloat
  (Sign Accuracy ExtendedMantissa roundWithAccuracy)

namespace Unpacked

/-! ## Residual bits -/

/-- The mantissa is what is left of a number when its fraction is cut off; the
residual bits compare the fraction with zero and with a half. -/
def Resolves (extended : ExtendedMantissa) (x : ℚ) : Prop :=
  match extended.roundBit, extended.stickyBit with
  | false, false => x = extended.mantissa
  | false, true => extended.mantissa < x ∧ x < extended.mantissa + 1 / 2
  | true, false => x = extended.mantissa + 1 / 2
  | true, true => extended.mantissa + 1 / 2 < x ∧ x < extended.mantissa + 1

namespace Resolves

theorem exact (mantissa : Nat) :
    Resolves (.ofMantissaAndAccuracy mantissa .exact) mantissa := rfl

theorem shiftRightOne
    {extended : ExtendedMantissa}
    {x : ℚ}
    (resolves : Resolves extended x) :
    Resolves extended.shiftRightOne (x / 2) := by
  obtain ⟨mantissa, roundBit, stickyBit⟩ := extended
  have digits : (mantissa : ℚ) =
      2 * (mantissa / 2 : Nat) + (mantissa % 2 : Nat) := by
    exact_mod_cast (Nat.div_add_mod mantissa 2).symm
  unfold ExtendedMantissa.shiftRightOne
  rcases Nat.mod_two_eq_zero_or_one mantissa with even | odd
  · rw [even] at digits ⊢
    cases roundBit <;> cases stickyBit <;> simp_all [Resolves] <;>
      constructor <;> linarith
  · rw [odd] at digits ⊢
    cases roundBit <;> cases stickyBit <;> simp_all [Resolves]
    case false.false => ring
    all_goals constructor <;> linarith

theorem shiftRight
    {extended : ExtendedMantissa}
    {x : ℚ}
    (resolves : Resolves extended x)
    (count : Nat) :
    Resolves (extended >>> count) (x / 2 ^ count) := by
  induction count with
  | zero =>
      rw [pow_zero, div_one]
      exact resolves
  | succ count hypothesis =>
      rw [pow_succ, ← div_div]
      exact hypothesis.shiftRightOne

/-- A mantissa is rounded to a whole number at most a half away. -/
theorem abs_roundedMantissa_sub_le
    {extended : ExtendedMantissa}
    {x : ℚ}
    (resolves : Resolves extended x) :
    |(extended.roundedMantissa : ℚ) - x| ≤ 1 / 2 := by
  obtain ⟨mantissa, _ | _, _ | _⟩ := extended <;>
    simp only [Resolves, ExtendedMantissa.roundedMantissa,
      ExtendedMantissa.accuracy, Accuracy.roundToNearestEven, abs_le,
      Nat.cast_add, Nat.cast_one] at resolves ⊢
  case true.false =>
    have digit : ((mantissa % 2 : Nat) : ℚ) ≤ 1 := by
      exact_mod_cast Nat.le_of_lt_succ (Nat.mod_lt mantissa two_pos)
    have nonneg : (0 : ℚ) ≤ (mantissa % 2 : Nat) := Nat.cast_nonneg _
    constructor <;> linarith
  all_goals constructor <;> linarith

/-- No whole number is nearer than the rounded mantissa. -/
theorem nearest_roundedMantissa
    {extended : ExtendedMantissa}
    {x : ℚ}
    (resolves : Resolves extended x)
    (n : Int) :
    |(extended.roundedMantissa : ℚ) - x| ≤ |(n : ℚ) - x| := by
  have half := resolves.abs_roundedMantissa_sub_le
  rcases eq_or_ne n extended.roundedMantissa with same | different
  · rw [same, Int.cast_natCast]
  · have apart : (1 : ℚ) ≤ |(n : ℚ) - extended.roundedMantissa| := by
      exact_mod_cast Int.one_le_abs (sub_ne_zero.mpr different)
    have triangle := abs_sub_le (n : ℚ) x extended.roundedMantissa
    rw [abs_sub_comm x] at triangle
    linarith

end Resolves

/-! ## Nearest numbers -/

/-- A number that is as near to an exact one as any representable number is. -/
def Nearest (format : Format) (exact : ℚ) (rounded : UnpackedFloat) : Prop :=
  ∀ x : ℚ, Representable format x -> |value rounded - exact| ≤ |x - exact|

theorem Nearest.of_value_eq
    {format : Format}
    {exact : ℚ}
    {rounded : UnpackedFloat}
    (value_eq : value rounded = exact) :
    Nearest format exact rounded := by
  intro x representable
  rw [value_eq, sub_self, abs_zero]
  exact abs_nonneg _

/-- A representable number is the only nearest one to itself. -/
theorem Nearest.value_eq
    {format : Format}
    {exact : ℚ}
    {rounded : UnpackedFloat}
    (nearest : Nearest format exact rounded)
    (representable : Representable format exact) :
    value rounded = exact := by
  have distance := nearest exact representable
  rw [sub_self, abs_zero, abs_nonpos_iff] at distance
  exact sub_eq_zero.mp distance

/-- Rounding to nearest keeps the order. -/
theorem Nearest.value_le_value
    {format : Format}
    {exact exact' : ℚ}
    {rounded rounded' : UnpackedFloat}
    (nearest : Nearest format exact rounded)
    (nearest' : Nearest format exact' rounded')
    (representable : Representable format (value rounded))
    (representable' : Representable format (value rounded'))
    (less : exact < exact') :
    value rounded ≤ value rounded' := by
  by_contra greater
  rw [not_le] at greater
  -- The exact numbers lie on the wrong sides of the middle of the rounded ones.
  have above : value rounded' + value rounded ≤ 2 * exact := by
    have distance := nearest _ representable'
    by_contra below
    rw [abs_of_pos (by linarith : 0 < value rounded - exact)] at distance
    rcases le_abs.mp distance with left | right <;> linarith
  have below : 2 * exact' ≤ value rounded' + value rounded := by
    have distance := nearest' _ representable
    by_contra above
    rw [← abs_neg, abs_of_pos (by linarith : 0 < -(value rounded' - exact'))] at distance
    rcases le_abs.mp distance with left | right <;> linarith
  linarith

/-- Rounding to nearest is symmetric about zero. -/
theorem Nearest.neg
    {format : Format}
    {exact : ℚ}
    {rounded : UnpackedFloat}
    (nearest : Nearest format exact rounded) :
    Nearest format (-exact) rounded.neg := by
  intro x representable
  have distance := nearest (-x) representable.neg
  rw [value_neg, ← abs_neg, ← abs_neg (x - -exact)]
  convert distance using 2 <;> ring

/-- A mantissa that has enough digits is rounded to nearest. -/
theorem nearest_roundWithAccuracy
    {format : Format}
    {mantissa : Nat}
    {exponent : Int}
    (fine :
      exponent ≤ format.targetExponent (totalExponent mantissa exponent))
    (sign : Sign) :
    Nearest format (signed sign (mantissa * 2 ^ exponent))
      (roundWithAccuracy format sign mantissa exponent .exact) := by
  have positive :
      Nearest format (mantissa * 2 ^ exponent)
        (roundWithAccuracy format .positive mantissa exponent .exact) := by
    intro x representable
    obtain ⟨shift, shift_eq⟩ := Int.le.dest fine
    have truncates := Truncates.exact mantissa
    have resolves := (Resolves.exact mantissa).shiftRight shift
    have units := roundsUnits_shift truncates shift_eq
    have unit_pos : (0 : ℚ) < 2 ^ (exponent + shift) := zpow_pos two_pos _
    rw [(roundWithAccuracy_eq truncates shift_eq).2,
      ← units_shift (mantissa : ℚ) exponent shift, ← sub_mul, abs_mul,
      abs_of_pos unit_pos]
    -- A number that is not a whole number of units lies below the first full mantissa.
    rcases representable.whole_or_lt (exponent + shift) with
      ⟨n, rfl⟩ | ⟨coarse, less⟩
    · rw [← sub_mul, abs_mul, abs_of_pos unit_pos]
      exact mul_le_mul_of_nonneg_right (resolves.nearest_roundedMantissa n)
        unit_pos.le
    · have full := units.full.resolve_left coarse.ne'
      have nearer := resolves.nearest_roundedMantissa
        (2 ^ format.mantissaBitsWithoutImplicit)
      push_cast at nearer
      rw [abs_sub_comm (2 ^ _), abs_of_nonneg (sub_nonneg.mpr full)] at nearer
      have scaled := mul_le_mul_of_nonneg_right nearer unit_pos.le
      rw [sub_mul] at scaled
      refine (scaled.trans ?_).trans (neg_le_abs _)
      linarith
  cases sign with
  | positive => exact positive
  | negative =>
      rw [roundWithAccuracy_neg]
      exact positive.neg

/-- Sums are rounded to nearest. -/
theorem nearest_add
    {format : Format}
    {left right : UnpackedFloat}
    (canonical : IsCanonical format left)
    (canonical' : IsCanonical format right) :
    Nearest format (value left + value right) (left.add format right) := by
  rcases add_cases canonical canonical' with
    ⟨-, value_eq⟩ | ⟨sign, magnitude, exponent, positive, sum_eq, add_eq⟩
  · exact .of_value_eq value_eq
  · obtain ⟨digits, target, scaled, fine, round_eq⟩ :=
      round_eq format sign positive exponent
    rw [sum_eq, add_eq, round_eq, ← scaled]
    exact nearest_roundWithAccuracy fine sign

/-- Products are rounded to nearest. -/
theorem nearest_mul
    {format : Format}
    {left right : UnpackedFloat}
    (canonical : IsCanonical format left)
    (canonical' : IsCanonical format right) :
    Nearest format (value left * value right) (left.mul format right) := by
  rcases mul_cases canonical canonical' with
    ⟨-, value_eq⟩ | ⟨sign, digits, exponent, product_eq, fine, mul_eq⟩
  · exact .of_value_eq value_eq
  · rw [product_eq, mul_eq]
    exact nearest_roundWithAccuracy fine sign

/-! ## Sums and halves without rounding -/

/-- Sums of smaller magnitude are exact, and so are halves of numbers that are not
smaller. -/
def exactLimit (format : Format) : ℚ :=
  2 ^ format.mantissaBits * 2 ^ format.minExponent

theorem representable_exactLimit (format : Format) :
    Representable format (exactLimit format) := by
  rw [exactLimit, ← zpow_natCast, ← zpow_add₀ two_ne_zero]
  exact representable_zpow (by omega)

/-- Half of a number only takes a smaller exponent, unless that is the least one. -/
theorem Representable.half
    {format : Format}
    {x : ℚ}
    (representable : Representable format x)
    (large : exactLimit format ≤ |x|) :
    Representable format (x / 2) := by
  obtain ⟨mantissa, exponent, below, above, rfl⟩ := representable
  have unit_pos : (0 : ℚ) < 2 ^ exponent := zpow_pos two_pos exponent
  have larger : format.minExponent < exponent := by
    rw [abs_mul, abs_of_pos unit_pos] at large
    have digits : |(mantissa : ℚ)| < 2 ^ format.mantissaBits := by
      exact_mod_cast below
    have less : exactLimit format < 2 ^ format.mantissaBits * 2 ^ exponent :=
      large.trans_lt (mul_lt_mul_of_pos_right digits unit_pos)
    exact (zpow_lt_zpow_iff_right₀ one_lt_two).mp
      (lt_of_mul_lt_mul_left less (pow_nonneg two_pos.le _))
  refine ⟨mantissa, exponent - 1, below, by omega, ?_⟩
  rw [zpow_sub_one₀ two_ne_zero]
  ring

/-- Every number is a whole number of the smallest units. -/
theorem Representable.exists_units
    {format : Format}
    {x : ℚ}
    (representable : Representable format x) :
    ∃ units : Int, x = units * 2 ^ format.minExponent := by
  rcases representable.whole_or_lt format.minExponent with whole | ⟨less, -⟩
  · exact whole
  · exact absurd less (lt_irrefl _)

/-- A sum of few of the smallest units is representable. -/
theorem Representable.add
    {format : Format}
    {x y : ℚ}
    (representable : Representable format x)
    (representable' : Representable format y)
    (small : |x + y| < exactLimit format) :
    Representable format (x + y) := by
  obtain ⟨units, rfl⟩ := representable.exists_units
  obtain ⟨units', rfl⟩ := representable'.exists_units
  have unit_pos : (0 : ℚ) < 2 ^ format.minExponent := zpow_pos two_pos _
  rw [← add_mul, abs_mul, abs_of_pos unit_pos] at small
  have few := lt_of_mul_lt_mul_right small unit_pos.le
  refine ⟨units + units', format.minExponent, by exact_mod_cast few, le_rfl, ?_⟩
  push_cast
  ring

/-! ## Halves of sums -/

/-- What lies strictly between two numbers is nearer to their middle than they
are. -/
theorem abs_sub_middle_lt
    {x y between : ℚ}
    (separated : StrictlyBetween x y between) :
    |between - (x + y) / 2| < |x - (x + y) / 2| := by
  rcases separated with ⟨above, below⟩ | ⟨above, below⟩
  · rw [abs_of_neg (by linarith : x - (x + y) / 2 < 0)]
    exact abs_lt.mpr ⟨by linarith, by linarith⟩
  · rw [abs_of_pos (by linarith : 0 < x - (x + y) / 2)]
    exact abs_lt.mpr ⟨by linarith, by linarith⟩

/-- A sum is not rounded to twice its first summand if a representable number lies
strictly between the two. -/
theorem ne_two_mul_of_nearest
    {format : Format}
    {x y between : ℚ}
    {rounded : UnpackedFloat}
    (nearest : Nearest format (x + y) rounded)
    (representable : Representable format between)
    (separated : StrictlyBetween x y between) :
    value rounded ≠ 2 * x := by
  intro doubled
  have distance := nearest (2 * between) representable.two_mul
  have double_sub (z : ℚ) : |2 * z - (x + y)| = 2 * |z - (x + y) / 2| := by
    rw [← abs_two (α := ℚ), ← abs_mul, abs_two]
    ring_nf
  rw [doubled, double_sub, double_sub] at distance
  linarith [abs_sub_middle_lt separated]

/-- Half of a sum is not rounded to one of the summands if a representable number
lies strictly between the two. -/
theorem half_ne_of_nearest
    {format : Format}
    {x y between : ℚ}
    {sum half : UnpackedFloat}
    (representable_x : Representable format x)
    (representable_y : Representable format y)
    (rounds_sum : Rounds format (x + y) sum)
    (nearest_sum : Nearest format (x + y) sum)
    (nearest_half : Nearest format (value sum / 2) half)
    (representable : Representable format between)
    (separated : StrictlyBetween x y between) :
    value half ≠ x := by
  -- Only one of the two roundings can matter, the half of a tiny sum or the sum.
  rcases le_or_gt (exactLimit format) |value sum| with large | small
  · have half_eq := nearest_half.value_eq
      (rounds_sum.canonical.representable.half large)
    have different := ne_two_mul_of_nearest nearest_sum representable separated
    intro equal
    exact different (by linarith)
  · have within : |x + y| < exactLimit format := by
      by_contra large
      have kept := rounds_sum.le_abs_value (representable_exactLimit format)
        (not_lt.mp large)
      exact absurd small (not_lt_of_ge kept)
    have sum_eq := rounds_sum.value_eq (representable_x.add representable_y within)
    intro equal
    have distance := nearest_half between representable
    rw [sum_eq, equal] at distance
    exact absurd distance (not_le_of_gt (abs_sub_middle_lt separated))

end Unpacked
end RootFinding
