import RootFinding.Proofs.Bisection.Midpoints
import RootFinding.Proofs.FloatingPoint.Nearest

/-!
# Points half way between two others

A search is sent back half way to a limit, or half way to a candidate.  Like a
midpoint, the point half way is rounded twice, and does not leave bounds of the two
points whose doubles do not overflow (`BinaryFormat.halfway_within`).

It may be one of the two points again.  This happens to neighbours only: if a number
lies strictly between the two points, then the point half way is neither of them
(`BinaryFormat.halfway_ne_of_between`).
-/

namespace RootFinding

open FloatingPoint
open Float.Model (Format UnpackedFloat)

namespace BinaryFormat

open PackedFormat RoundedFormat Unpacked

variable [FloatingPoint α] [BinaryFormat α]

theorem isCanonical_half :
    IsCanonical (format α) (unpack (0.5 : α)) := by
  apply RoundedFormat.isCanonical_unpack
  apply isFinite_of_value_ne_zero
  rw [value_half]
  norm_num

/-- A point half way that is finite is rounded faithfully, and so is the sum. -/
theorem rounds_halfway
    {x y : α}
    (finite : (unpack (halfway x y)).isFinite = true) :
    Rounds (format α) (value (unpack x) + value (unpack y)) (unpack (x + y)) ∧
      Rounds (format α) (value (unpack (x + y)) / 2) (unpack (halfway x y)) := by
  have rounds_half := rounds_mul_of_isFinite finite
  rw [value_half, one_div_mul_eq_div] at rounds_half
  exact ⟨rounds_add_of_isFinite (unpack_isFinite_of_mul finite).2, rounds_half⟩

/-- A point half way that is finite is rounded to nearest, and so is the sum. -/
theorem nearest_halfway
    {x y : α}
    (finite : (unpack (halfway x y)).isFinite = true) :
    Nearest (format α) (value (unpack x) + value (unpack y)) (unpack (x + y)) ∧
      Nearest (format α) (value (unpack (x + y)) / 2) (unpack (halfway x y)) := by
  have finite_sum := (unpack_isFinite_of_mul finite).2
  obtain ⟨finite_x, finite_y⟩ := unpack_isFinite_of_add finite_sum
  have canonical_x := isCanonical_unpack x finite_x
  have canonical_y := isCanonical_unpack y finite_y
  have canonical_sum := isCanonical_unpack (x + y) finite_sum
  have nearest_half := nearest_mul (isCanonical_half (α := α)) canonical_sum
  rw [value_half, one_div_mul_eq_div] at nearest_half
  constructor
  · rw [unpack_add] at finite_sum ⊢
    rw [repack_eq_of_isFinite (rounds_add canonical_x canonical_y).canonical
      finite_sum]
    exact nearest_add canonical_x canonical_y
  · rw [halfway, unpack_mul] at finite ⊢
    rw [repack_eq_of_isFinite (rounds_mul isCanonical_half canonical_sum).canonical
      finite]
    exact nearest_half

/-! ## Bounds -/

/-- The point half way is finite if twice a bound of both points does not
overflow. -/
theorem isFinite_halfway
    {x y : α}
    (finite : (unpack x).isFinite = true)
    (finite' : (unpack y).isFinite = true)
    {bound : ℚ}
    (representable : Representable (format α) bound)
    (within : 2 * bound < overflow (format α))
    (le : |value (unpack x)| ≤ bound)
    (le' : |value (unpack y)| ≤ bound) :
    (unpack (halfway x y)).isFinite = true := by
  have le_sum : |value (unpack x) + value (unpack y)| ≤ 2 * bound := by
    rw [two_mul]
    exact (abs_add_le _ _).trans (add_le_add le le')
  have rounds_sum := rounds_unpack_add finite finite'
    representable.two_mul within le_sum
  have bound_nonneg := (abs_nonneg _).trans le
  have le_half : |value (unpack (0.5 : α)) * value (unpack (x + y))| ≤ bound := by
    rw [value_half, one_div_mul_eq_div, abs_div, abs_two, div_le_iff₀' two_pos]
    exact rounds_sum.abs_value_le representable.two_mul le_sum
  exact (rounds_unpack_mul isCanonical_half.isFinite rounds_sum.canonical.isFinite
    representable (by linarith) le_half).canonical.isFinite

/-- A point half way that is finite lies between bounds of both points. -/
theorem halfway_between
    {lower upper x y : α}
    (finite : (unpack (halfway x y)).isFinite = true)
    (finite_lower : (unpack lower).isFinite = true)
    (finite_upper : (unpack upper).isFinite = true)
    (within : lower ≤ x ∧ x ≤ upper)
    (within' : lower ≤ y ∧ y ≤ upper) :
    lower ≤ halfway x y ∧ halfway x y ≤ upper := by
  obtain ⟨rounds_sum, rounds_half⟩ := rounds_halfway finite
  obtain ⟨finite_x, finite_y⟩ :=
    unpack_isFinite_of_add (unpack_isFinite_of_mul finite).2
  rw [le_iff_value_le finite_lower finite_x,
    le_iff_value_le finite_x finite_upper] at within
  rw [le_iff_value_le finite_lower finite_y,
    le_iff_value_le finite_y finite_upper] at within'
  rw [le_iff_value_le finite_lower finite, le_iff_value_le finite finite_upper]
  exact ⟨le_half_of_rounds (isCanonical_unpack _ finite_lower).representable
      within.1 within'.1 rounds_sum rounds_half,
    half_le_of_rounds (isCanonical_unpack _ finite_upper).representable
      within.2 within'.2 rounds_sum rounds_half⟩

/-- The point half way between two points lies between bounds of both as long as
twice the bounds do not overflow. -/
theorem halfway_within
    {lower upper x y : α}
    (finite : isFinite (lower + lower) = true)
    (finite' : isFinite (upper + upper) = true)
    (within : lower ≤ x ∧ x ≤ upper)
    (within' : lower ≤ y ∧ y ≤ upper) :
    lower ≤ halfway x y ∧ halfway x y ≤ upper := by
  obtain ⟨bound, representable, small, bounded⟩ := exists_bound finite finite'
  obtain ⟨finite_x, le⟩ := bounded x within.1 within.2
  obtain ⟨finite_y, le'⟩ := bounded y within'.1 within'.2
  exact halfway_between
    (isFinite_halfway finite_x finite_y representable small le le')
    (of_isFinite_add_self finite).1 (of_isFinite_add_self finite').1
    within within'

/-! ## Infinities -/

/-- One half is positive. -/
theorem exists_unpack_half :
    ∃ mantissa exponent positive,
      unpack (0.5 : α) = .finite .positive mantissa exponent positive := by
  have canonical := isCanonical_half (α := α)
  have value_eq := value_half (α := α)
  rcases unpacked : unpack (0.5 : α) with
    _ | _ | _ | ⟨_ | _, mantissa, exponent, positive⟩
  case finite.positive => exact ⟨mantissa, exponent, positive, rfl⟩
  all_goals rw [unpacked] at canonical value_eq
  · exact canonical.elim
  · exact canonical.elim
  · norm_num at value_eq
  · have magnitude_pos := scaled_pos exponent positive
    change -(mantissa * 2 ^ exponent : ℚ) = 1 / 2 at value_eq
    linarith

/-- Half of an infinite sum is the same infinity. -/
theorem unpack_halfway_of_infinity
    {x y : α}
    {sign : UnpackedFloat.Sign}
    (unpacked : unpack (x + y) = .infinity sign) :
    unpack (halfway x y) = .infinity sign := by
  obtain ⟨mantissa, exponent, positive, half⟩ := exists_unpack_half (α := α)
  have product : UnpackedFloat.mul (format α)
      (.finite .positive mantissa exponent positive) (.infinity sign) =
        .infinity sign := by
    cases sign <;> rfl
  rw [halfway, unpack_mul, half, unpacked, product, repack_infinity]

/-- Half way between finite points lies a finite one or an infinity. -/
theorem isFinite_or_isInfinite_halfway
    {x y : α}
    (finite : isFinite x = true)
    (finite' : isFinite y = true) :
    isFinite (halfway x y) = true ∨ isInfinite (halfway x y) = true := by
  rw [isFinite_iff_unpack, isInfinite_iff_unpack]
  rw [isFinite_iff_unpack] at finite finite'
  have canonical_sum := (rounds_add (RoundedFormat.isCanonical_unpack x finite)
    (RoundedFormat.isCanonical_unpack y finite')).canonical
  rcases repack_eq_self_or_infinity canonical_sum with kept | ⟨sign, infinite⟩
  · rw [← unpack_add] at kept
    have finite_sum : (unpack (x + y)).isFinite = true := by
      rw [kept]
      exact canonical_sum.isFinite
    have canonical_half := (rounds_mul (isCanonical_half (α := α))
      (RoundedFormat.isCanonical_unpack (x + y) finite_sum)).canonical
    rw [halfway, unpack_mul]
    refine (repack_eq_self_or_infinity canonical_half).imp (fun kept => ?_) id
    rw [kept]
    exact canonical_half.isFinite
  · rw [← unpack_add] at infinite
    exact Or.inr ⟨sign, unpack_halfway_of_infinity infinite⟩

/-- Half way to an infinity lies this infinity. -/
theorem halfway_of_isInfinite
    {x y : α}
    (finite : isFinite x = true)
    (infinite : isInfinite y = true) :
    (halfway x y == y) = true := by
  obtain ⟨sign, unpacked⟩ := (isInfinite_iff_unpack y).mp infinite
  have sum : unpack (x + y) = .infinity sign := by
    rw [unpack_add, unpacked]
    rw [isFinite_iff_unpack] at finite
    cases unpacked_x : unpack x with
    | infinity | notANumber =>
        rw [unpacked_x] at finite
        cases finite
    | zero | finite => exact repack_infinity (format α) sign
  rw [beq_eq, unpack_halfway_of_infinity sum, unpacked]
  cases sign <;> rfl

/-! ## Neighbours -/

/-- The point half way is not the second point if a representable number lies
strictly between the values of the two. -/
theorem halfway_ne_of_representable
    {x y : α}
    {between : ℚ}
    (representable : Representable (format α) between)
    (separated :
      StrictlyBetween (value (unpack x)) (value (unpack y)) between)
    (finite : isFinite y = true) :
    (halfway x y == y) = false := by
  have lawful : LawfulFloatingPoint α := PackedFormat.lawful
  rw [← Bool.not_eq_true]
  intro same
  rw [lawful.beq_comm] at same
  have finite_half := unpack_isFinite (lawful.isFinite_of_beq same finite)
  obtain ⟨finite_x, finite_y⟩ :=
    unpack_isFinite_of_add (unpack_isFinite_of_mul finite_half).2
  obtain ⟨rounds_sum, -⟩ := rounds_halfway finite_half
  obtain ⟨nearest_sum, nearest_half⟩ := nearest_halfway finite_half
  rw [add_comm] at rounds_sum nearest_sum
  have different := half_ne_of_nearest
    (RoundedFormat.isCanonical_unpack y finite_y).representable
    (RoundedFormat.isCanonical_unpack x finite_x).representable
    rounds_sum nearest_sum nearest_half representable separated.symm
  rw [beq_eq] at same
  exact different (value_eq_of_beq same).symm

/-- The point half way is not the second point if a value lies strictly between the
two. -/
theorem halfway_ne_of_between
    {x y z : α}
    (between : StrictlyBetween x y z)
    (finite : isFinite x = true)
    (finite' : isFinite y = true) :
    (halfway x y == y) = false := by
  have lawful : LawfulFloatingPoint α := PackedFormat.lawful
  have unpacked_x := unpack_isFinite finite
  have unpacked_y := unpack_isFinite finite'
  have unpacked_z : (unpack z).isFinite = true := by
    rcases between with ⟨above, below⟩ | ⟨above, below⟩
    · exact unpack_isFinite_of_le unpacked_x unpacked_y
        (lawful.le_of_lt above) (lawful.le_of_lt below)
    · exact unpack_isFinite_of_le unpacked_y unpacked_x
        (lawful.le_of_lt above) (lawful.le_of_lt below)
  refine halfway_ne_of_representable
    (RoundedFormat.isCanonical_unpack z unpacked_z).representable ?_ finite'
  rw [StrictlyBetween, lt_iff_value_lt unpacked_x unpacked_z,
    lt_iff_value_lt unpacked_z unpacked_y, lt_iff_value_lt unpacked_y unpacked_z,
    lt_iff_value_lt unpacked_z unpacked_x] at between
  exact between

/-- The point half way between neighbours is one of them, or infinite. -/
theorem halfway_of_neighbours
    {x y : α}
    (neighbours : ∀ z, ¬StrictlyBetween x y z)
    (finite : isFinite x = true)
    (finite' : isFinite y = true) :
    isInfinite (halfway x y) = true ∨
      (halfway x y == x) = true ∨ (halfway x y == y) = true := by
  have lawful : LawfulFloatingPoint α := PackedFormat.lawful
  rcases isFinite_or_isInfinite_halfway finite finite' with finite_half | infinite
  · refine Or.inr ?_
    have defined := ((lawful.isFinite_iff x).mp finite).1
    have defined' := ((lawful.isFinite_iff y).mp finite').1
    have unpacked := unpack_isFinite finite_half
    have unpacked_x := unpack_isFinite finite
    have unpacked_y := unpack_isFinite finite'
    have between := neighbours (halfway x y)
    rw [StrictlyBetween, not_or] at between
    rcases lawful.le_total defined defined' with ordered | ordered
    · obtain ⟨above, below⟩ := halfway_between unpacked unpacked_x unpacked_y
        ⟨lawful.le_refl defined, ordered⟩ ⟨ordered, lawful.le_refl defined'⟩
      exact lawful.beq_or_beq_of_le above below between.1
    · obtain ⟨above, below⟩ := halfway_between unpacked unpacked_y unpacked_x
        ⟨ordered, lawful.le_refl defined⟩ ⟨lawful.le_refl defined', ordered⟩
      exact (lawful.beq_or_beq_of_le above below between.2).symm
  · exact Or.inl infinite

end BinaryFormat
end RootFinding
