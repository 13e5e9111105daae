import RootFinding.Proofs.FloatingPoint.Nearest
import RootFinding.Proofs.FloatingPoint.Range

/-!
# Bounds of results

Of operands that are not less than positive bounds, the results are not less than a bound
either, or infinite (`Unpacked.AtLeast`).  This is enough to divide by them.  From above,
sums are bounded by powers of two (`unpack_add_le`), so that they are finite.

Next to a number that is small, a sum of finite numbers is finite again, and rounded to
nearest (`add_of_small`): the greatest number is nearer than the one that would be next.
-/

namespace RootFinding

open Float.Model (Format UnpackedFloat)

namespace Unpacked

/-- The positive infinity, or a number of the format that is not less than the bound. -/
def AtLeast (format : Format) (bound : ℚ) (number : UnpackedFloat) : Prop :=
  number = .infinity .positive ∨ IsCanonical format number ∧ bound ≤ value number

/-- Only finite numbers of positive sign have a positive value. -/
theorem exists_of_value_pos
    {number : UnpackedFloat}
    (positive : 0 < value number) :
    ∃ mantissa exponent positive',
      number = .finite .positive mantissa exponent positive' := by
  rcases number with _ | _ | _ | ⟨_ | _, mantissa, exponent, positive'⟩
  case finite.positive => exact ⟨mantissa, exponent, positive', rfl⟩
  case finite.negative =>
    have negative := scaled_pos exponent positive'
    rw [value, signed] at positive
    linarith
  all_goals exact absurd positive (lt_irrefl 0)

/-- A positive bound that is representable is kept by rounding. -/
theorem Rounds.atLeast_repack
    {format : Format}
    {exact bound : ℚ}
    {rounded : UnpackedFloat}
    (rounds : Rounds format exact rounded)
    (representable : Representable format bound)
    (positive : 0 < bound)
    (le : bound ≤ exact) :
    AtLeast format bound (Unpacked.repack format rounded) := by
  have kept := rounds.le_value representable le
  have canonical := rounds.canonical
  obtain ⟨mantissa, exponent, positive', rfl⟩ :=
    exists_of_value_pos (positive.trans_le kept)
  rcases le_or_gt exponent (maxExponent format) with le' | less
  · have same : Unpacked.repack format _ = _ :=
      unpack_pack_of_le .positive positive' canonical le'
    rw [same]
    exact Or.inr ⟨canonical, kept⟩
  · exact Or.inl (unpack_pack_of_lt .positive positive' less)

namespace AtLeast

variable {format : Format} {left right : UnpackedFloat} {bound bound' result : ℚ}

/-- A positive infinity is a multiple of itself by positive numbers. -/
theorem infinity_mul
    (atLeast : AtLeast format bound right)
    (positive : 0 < bound) :
    (UnpackedFloat.infinity .positive).mul format right = .infinity .positive := by
  rcases atLeast with rfl | ⟨-, le⟩
  · rfl
  · obtain ⟨mantissa, exponent, positive', rfl⟩ :=
      exists_of_value_pos (positive.trans_le le)
    rfl

variable (representable : Representable format result) (positive : 0 < result)

include representable positive

theorem add
    (atLeast : AtLeast format bound left)
    (atLeast' : AtLeast format bound' right)
    (le : result ≤ bound + bound') :
    AtLeast format result (repack format (left.add format right)) := by
  rcases atLeast with rfl | ⟨canonical, above⟩
  · rcases atLeast' with rfl | ⟨canonical', -⟩
    · exact Or.inl (repack_infinity format .positive)
    · cases right with
      | infinity | notANumber => exact canonical'.elim
      | zero | finite => exact Or.inl (repack_infinity format .positive)
  · rcases atLeast' with rfl | ⟨canonical', above'⟩
    · cases left with
      | infinity | notANumber => exact canonical.elim
      | zero | finite => exact Or.inl (repack_infinity format .positive)
    · exact (rounds_add canonical canonical').atLeast_repack representable positive
        (le.trans (add_le_add above above'))

/-- What is taken away has to be bounded from above. -/
theorem sub
    (atLeast : AtLeast format bound left)
    (canonical' : IsCanonical format right)
    (below : value right ≤ bound')
    (le : result ≤ bound - bound') :
    AtLeast format result (repack format (left.sub format right)) := by
  rcases atLeast with rfl | ⟨canonical, above⟩
  · cases right with
    | infinity | notANumber => exact canonical'.elim
    | zero | finite => exact Or.inl (repack_infinity format .positive)
  · exact (rounds_sub canonical canonical').atLeast_repack representable positive
      (le.trans (sub_le_sub above below))

theorem mul
    (atLeast : AtLeast format bound left)
    (atLeast' : AtLeast format bound' right)
    (factor : 0 < bound)
    (factor' : 0 < bound')
    (le : result ≤ bound * bound') :
    AtLeast format result (repack format (left.mul format right)) := by
  rcases atLeast with rfl | ⟨canonical, above⟩
  · rw [atLeast'.infinity_mul factor', repack_infinity]
    exact Or.inl rfl
  · rcases atLeast' with rfl | ⟨canonical', above'⟩
    · have bounded : AtLeast format bound left := Or.inr ⟨canonical, above⟩
      rw [product_comm, bounded.infinity_mul factor, repack_infinity]
      exact Or.inl rfl
    · exact (rounds_mul canonical canonical').atLeast_repack representable positive
        (le.trans (mul_le_mul above above' factor'.le (factor.le.trans above)))

end AtLeast
end Unpacked

namespace BinaryFormat

open FloatingPoint PackedFormat RoundedFormat Unpacked

variable [FloatingPoint α] [BinaryFormat α] {x y : α}

/-- What is not less than a positive bound can be divided by. -/
theorem isNaN_and_beq_zero_of_atLeast
    {bound : ℚ}
    (atLeast : AtLeast (format α) bound (unpack x))
    (positive : 0 < bound) :
    isNaN x = false ∧ (x == 0.0) = false := by
  rw [← Bool.not_eq_true, ← Bool.not_eq_true, isNaN_iff, PackedFormat.beq_zero_iff]
  rcases atLeast with infinite | ⟨canonical, le⟩
  · rw [infinite]
    exact ⟨UnpackedFloat.noConfusion, fun ⟨_, zero⟩ => UnpackedFloat.noConfusion zero⟩
  · constructor
    · intro undefined
      rw [undefined] at canonical
      exact canonical
    · rintro ⟨sign, zero⟩
      rw [zero, value_zero] at le
      exact absurd le (not_le.mpr positive)

/-- A sum of numbers within a power of two is finite, and within the next power, unless
this one is out of the range. -/
theorem unpack_add_le
    {exponent : Int}
    (above : (format α).minExponent ≤ exponent + 1)
    (within : (2 : ℚ) ^ (exponent + 1) < overflow (format α))
    (finite : (unpack x).isFinite = true)
    (finite' : (unpack y).isFinite = true)
    (le : |value (unpack x)| ≤ 2 ^ exponent)
    (le' : |value (unpack y)| ≤ 2 ^ exponent) :
    (unpack (x + y)).isFinite = true ∧
      |value (unpack (x + y))| ≤ 2 ^ (exponent + 1) := by
  have representable := representable_zpow above
  have sum_le : |value (unpack x) + value (unpack y)| ≤ 2 ^ (exponent + 1) := by
    rw [zpow_add_one₀ two_ne_zero, mul_two]
    exact (abs_add_le _ _).trans (add_le_add le le')
  have rounds := rounds_unpack_add finite finite' representable within sum_le
  exact ⟨rounds.canonical.isFinite, rounds.abs_value_le representable sum_le⟩

theorem representable_greatest :
    Representable (format α) (greatest (format α)) := by
  have finite : (unpack (largest : α)).isFinite = true :=
    isFinite_of_value_ne_zero (by rw [value_largest]; exact (greatest_pos _).ne')
  rw [← value_largest]
  exact (isCanonical_unpack largest finite).representable

/-- A small summand does not carry a sum out of the range. -/
theorem add_of_small
    (finite : (unpack x).isFinite = true)
    (finite' : (unpack y).isFinite = true)
    (nonneg : 0 ≤ value (unpack x))
    (nonneg' : 0 ≤ value (unpack y))
    (small : greatest (format α) + 2 * value (unpack y) < overflow (format α)) :
    Rounds (format α) (value (unpack x) + value (unpack y)) (unpack (x + y)) ∧
      Nearest (format α) (value (unpack x) + value (unpack y)) (unpack (x + y)) := by
  have canonical := isCanonical_unpack x finite
  have canonical' := isCanonical_unpack y finite'
  have rounds := rounds_add canonical canonical'
  have nearest := nearest_add canonical canonical'
  have le := (abs_le.mp (abs_value_unpack_le finite)).2
  have within :
      |value ((unpack x).add (format α) (unpack y))| < overflow (format α) := by
    rw [abs_of_nonneg
      (rounds.le_value (representable_zero _) (add_nonneg nonneg nonneg'))]
    rcases le_total (value (unpack x) + value (unpack y)) (greatest (format α)) with
      below | above
    · exact (rounds.value_le representable_greatest below).trans_lt
        (greatest_lt_overflow (format α))
    · have distance := nearest _ representable_greatest
      rw [abs_of_nonpos (sub_nonpos.mpr above)] at distance
      linarith [le_abs_self
        (value ((unpack x).add (format α) (unpack y)) -
          (value (unpack x) + value (unpack y)))]
  rw [unpack_add, repack_eq_self least_le rounds.canonical within]
  exact ⟨rounds, nearest⟩

end BinaryFormat
end RootFinding
