import RootFinding.Bisection
import RootFinding.Proofs.FloatingPoint.Products

/-!
# Computed midpoints

A computed midpoint is rounded twice, once for the sum and once for the half of
it.  Twice each end is representable, and so is each end, so neither rounding
leaves the bracket (`le_half_of_rounds`, `half_le_of_rounds`): the midpoint of an
ordered pair lies between the two if it is finite (`contains_midpoint_of_isFinite`).
No sum of two points of a bracket overflows if twice the ends do not
(`midpointsBetween_of_isFinite`).
-/

namespace RootFinding

open FloatingPoint

namespace Bracket

variable [Arithmetic α]

/-- A point between the ends, or at one of them. -/
def Contains (bracket : Bracket α) (x : α) : Prop :=
  bracket.lower ≤ x ∧ x ≤ bracket.upper

/-- The midpoints of all ordered pairs inside of a bracket lie between the
two. -/
def MidpointsBetween (bracket : Bracket α) : Prop :=
  ∀ lower upper,
    bracket.lower ≤ lower -> lower ≤ upper -> upper ≤ bracket.upper ->
      (⟨lower, upper⟩ : Bracket α).Contains
        (⟨lower, upper⟩ : Bracket α).midpoint

end Bracket

namespace Unpacked

open Float.Model (Format UnpackedFloat)

/-- Half of a rounded sum is not less than a representable number that neither
summand is less than. -/
theorem le_half_of_rounds
    {format : Format}
    {x left right : ℚ}
    {sum half : UnpackedFloat}
    (representable : Representable format x)
    (le : x ≤ left)
    (le' : x ≤ right)
    (rounds_sum : Rounds format (left + right) sum)
    (rounds_half : Rounds format (value sum / 2) half) :
    x ≤ value half := by
  have doubled := rounds_sum.le_value representable.two_mul (by linarith)
  exact rounds_half.le_value representable (by linarith)

/-- Half of a rounded sum is not more than a representable number that neither
summand is more than. -/
theorem half_le_of_rounds
    {format : Format}
    {x left right : ℚ}
    {sum half : UnpackedFloat}
    (representable : Representable format x)
    (le : left ≤ x)
    (le' : right ≤ x)
    (rounds_sum : Rounds format (left + right) sum)
    (rounds_half : Rounds format (value sum / 2) half) :
    value half ≤ x := by
  have doubled := rounds_sum.value_le representable.two_mul (by linarith)
  exact rounds_half.value_le representable (by linarith)

end Unpacked

namespace RoundedFormat

open PackedFormat Unpacked

variable [FloatingPoint α] [RoundedFormat α]

/-- The midpoint of an ordered pair lies between the two if it is finite. -/
theorem contains_midpoint_of_isFinite
    {lower upper : α}
    (finite :
      (unpack (⟨lower, upper⟩ : Bracket α).midpoint).isFinite = true)
    (ordered : lower ≤ upper) :
    (⟨lower, upper⟩ : Bracket α).Contains
      (⟨lower, upper⟩ : Bracket α).midpoint := by
  have finite_sum := unpack_isFinite_of_div finite
  obtain ⟨finite_lower, finite_upper⟩ := unpack_isFinite_of_add finite_sum
  have representable_lower :=
    (isCanonical_unpack lower finite_lower).representable
  have representable_upper :=
    (isCanonical_unpack upper finite_upper).representable
  have rounds_sum := rounds_add_of_isFinite finite_sum
  have rounds_half := rounds_half_of_isFinite finite
  rw [le_iff_value_le finite_lower finite_upper] at ordered
  constructor
  · apply (le_iff_value_le finite_lower finite).mpr
    exact le_half_of_rounds representable_lower le_rfl ordered
      rounds_sum rounds_half
  · apply (le_iff_value_le finite finite_upper).mpr
    exact half_le_of_rounds representable_upper ordered le_rfl
      rounds_sum rounds_half

/-- The midpoint is finite if twice a bound of both ends does not overflow. -/
theorem isFinite_midpoint
    {lower upper : α}
    (finite : (unpack lower).isFinite = true)
    (finite' : (unpack upper).isFinite = true)
    {bound : ℚ}
    (representable : Representable (format α) bound)
    (within : 2 * bound < overflow (format α))
    (le : |value (unpack lower)| ≤ bound)
    (le' : |value (unpack upper)| ≤ bound) :
    (unpack (⟨lower, upper⟩ : Bracket α).midpoint).isFinite = true := by
  have le_sum : |value (unpack lower) + value (unpack upper)| ≤ 2 * bound := by
    rw [two_mul]
    exact (abs_add_le _ _).trans (add_le_add le le')
  have rounds_sum := rounds_unpack_add finite finite'
    representable.two_mul within le_sum
  have bound_nonneg := (abs_nonneg _).trans le
  have rounds_half := rounds_unpack_half rounds_sum.canonical.isFinite
    representable (by linarith)
    (rounds_sum.abs_value_le representable.two_mul le_sum)
  exact rounds_half.canonical.isFinite

/-- If twice two values do not overflow, then what lies between them is bounded in
magnitude by a number whose double does not overflow. -/
theorem exists_bound
    {lower upper : α}
    (finite : isFinite (lower + lower) = true)
    (finite' : isFinite (upper + upper) = true) :
    ∃ bound : ℚ, Representable (format α) bound ∧
      2 * bound < overflow (format α) ∧
      ∀ x : α, lower ≤ x -> x ≤ upper ->
        (unpack x).isFinite = true ∧ |value (unpack x)| ≤ bound := by
  obtain ⟨finite_lower, within_lower⟩ := of_isFinite_add_self finite
  obtain ⟨finite_upper, within_upper⟩ := of_isFinite_add_self finite'
  refine ⟨max |value (unpack lower)| |value (unpack upper)|,
    (isCanonical_unpack _ finite_lower).representable.abs.max
      (isCanonical_unpack _ finite_upper).representable.abs, ?_, ?_⟩
  · rw [abs_mul, abs_two] at within_lower within_upper
    rw [mul_max_of_nonneg _ _ two_pos.le]
    exact max_lt within_lower within_upper
  · intro x above below
    have finite_x := unpack_isFinite_of_le finite_lower finite_upper above below
    rw [le_iff_value_le finite_lower finite_x] at above
    rw [le_iff_value_le finite_x finite_upper] at below
    exact ⟨finite_x, abs_le_max_abs_abs above below⟩

/-- The midpoints of a bracket lie between the ends as long as twice the ends do
not overflow. -/
theorem midpointsBetween_of_isFinite
    {bracket : Bracket α}
    (finite : isFinite (bracket.lower + bracket.lower) = true)
    (finite' : isFinite (bracket.upper + bracket.upper) = true) :
    bracket.MidpointsBetween := by
  intro lower upper above ordered below
  have lawful : LawfulFloatingPoint α := PackedFormat.lawful
  obtain ⟨bound, representable, within, bounded⟩ := exists_bound finite finite'
  obtain ⟨finite_lower, le⟩ := bounded lower above (lawful.le_trans ordered below)
  obtain ⟨finite_upper, le'⟩ := bounded upper (lawful.le_trans above ordered) below
  exact contains_midpoint_of_isFinite
    (isFinite_midpoint finite_lower finite_upper representable within le le')
    ordered

end RoundedFormat
end RootFinding
