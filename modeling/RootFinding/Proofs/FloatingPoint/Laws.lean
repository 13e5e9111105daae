import RootFinding.Search.Round

/-!
# Laws of floating-point numbers

`FloatingPoint` lists operations and assumes nothing of them.  The theory of the
searches rests on a few laws, which `LawfulFloatingPoint` collects: comparisons
are those of a total preorder on the values that equal themselves and fail
everywhere else, NaN survives subtraction and division, and equal finite values
have no distance.  `LawfulQuotient` adds that NaN survives being divided, and
`LawfulInfinity` that nothing can be taken away from an infinity.  Both IEEE binary
formats obey them.

Every value is then exactly one of finite, infinite, and NaN
(`isFinite_iff`).
-/

namespace RootFinding

open FloatingPoint

namespace FloatingPoint

variable [FloatingPoint α]

theorem isFinite_iff_le (x : α) :
    isFinite x = true ↔ -largest ≤ x ∧ x ≤ largest := by
  simp [isFinite]

theorem isInfinite_iff_lt (x : α) :
    isInfinite x = true ↔ largest < x ∨ x < -largest := by
  simp [isInfinite]

end FloatingPoint

/-- The laws of IEEE comparisons, and what differences and quotients make of
NaN and of equal values. -/
class LawfulFloatingPoint (α : Type) [FloatingPoint α] : Prop where
  /-- Only values that equal themselves are ordered. -/
  isNaN_of_le {x y : α} : x ≤ y -> isNaN x = false ∧ isNaN y = false
  /-- Any two values that equal themselves are ordered. -/
  le_total {x y : α} :
    isNaN x = false -> isNaN y = false -> x ≤ y ∨ y ≤ x
  le_trans {x y z : α} : x ≤ y -> y ≤ z -> x ≤ z
  lt_iff {x y : α} : x < y ↔ x ≤ y ∧ ¬y ≤ x
  beq_iff {x y : α} : (x == y) = true ↔ x ≤ y ∧ y ≤ x
  isNaN_nan : isNaN (nan : α) = true
  isNaN_largest : isNaN (largest : α) = false
  isNaN_neg_largest : isNaN (-largest : α) = false
  /-- A difference from NaN is NaN. -/
  isNaN_sub {x y : α} : isNaN y = true -> isNaN (x - y) = true
  /-- A quotient by NaN is NaN. -/
  isNaN_div {x y : α} : isNaN y = true -> isNaN (x / y) = true
  /-- Equal finite values have no distance. -/
  abs_sub_le {x y : α} :
    isFinite y = true -> (x == y) = true -> Arithmetic.abs (x - y) ≤ 0.0
  /-- The step that is taken for negligible is not negative. -/
  zero_le_negligibleStep : (0.0 : α) ≤ negligibleStep

/-- The law of quotients whose dividend is NaN. -/
class LawfulQuotient (α : Type) [FloatingPoint α] : Prop where
  /-- A quotient of NaN is NaN. -/
  isNaN_div {x y : α} : isNaN x = true -> isNaN (x / y) = true

/-- The law of differences from an infinity. -/
class LawfulInfinity (α : Type) [FloatingPoint α] : Prop where
  /-- An infinity less anything is the same infinity or NaN. -/
  sub_eq {x y : α} :
    isInfinite x = true -> isNaN (x - y) = true ∨ (x - y == x) = true

namespace LawfulFloatingPoint

variable [FloatingPoint α] [LawfulFloatingPoint α]

/-! ## Order -/

theorem le_of_lt
    {x y : α}
    (less : x < y) :
    x ≤ y :=
  (lt_iff.mp less).1

/-- Only values that are not NaN are below others. -/
theorem isNaN_of_lt
    {x y : α}
    (less : x < y) :
    isNaN x = false ∧ isNaN y = false :=
  isNaN_of_le (le_of_lt less)

theorem not_lt_of_le
    {x y : α}
    (le : x ≤ y) :
    ¬y < x := fun less =>
  (lt_iff.mp less).2 le

/-- A value that is not NaN is at most itself. -/
theorem le_refl
    {x : α}
    (defined : isNaN x = false) :
    x ≤ x :=
  (le_total defined defined).elim id id

/-- On values that are not NaN, the order is total. -/
theorem le_of_not_lt
    {x y : α}
    (left : isNaN x = false)
    (right : isNaN y = false)
    (notLess : ¬y < x) :
    x ≤ y := by
  rcases le_total left right with le | reverse
  · exact le
  · by_cases le : x ≤ y
    · exact le
    · exact absurd (lt_iff.mpr ⟨reverse, le⟩) notLess

theorem lt_of_not_le
    {x y : α}
    (left : isNaN x = false)
    (right : isNaN y = false)
    (notLE : ¬y ≤ x) :
    x < y :=
  lt_iff.mpr ⟨(le_total left right).resolve_right notLE, notLE⟩

theorem lt_of_lt_of_le
    {x y z : α}
    (less : x < y)
    (le : y ≤ z) :
    x < z := by
  obtain ⟨le', notLE⟩ := lt_iff.mp less
  exact lt_iff.mpr ⟨le_trans le' le, fun reverse => notLE (le_trans le reverse)⟩

theorem lt_of_le_of_lt
    {x y z : α}
    (le : x ≤ y)
    (less : y < z) :
    x < z := by
  obtain ⟨le', notLE⟩ := lt_iff.mp less
  exact lt_iff.mpr ⟨le_trans le le', fun reverse => notLE (le_trans reverse le)⟩

/-- What is below a number is below the larger of it and any other, even if that one is
NaN. -/
theorem lt_larger
    {x y : α}
    (less : x < y)
    (other : α) :
    x < Arithmetic.larger y other := by
  unfold Arithmetic.larger
  split
  case isTrue below => exact lt_of_lt_of_le less (le_of_lt below)
  case isFalse notBelow =>
    have le := le_refl (isNaN_of_lt less).2
    rwa [if_pos (beq_iff.mpr ⟨le, le⟩)]

theorem beq_comm (x y : α) : (x == y) = (y == x) := by
  rw [Bool.eq_iff_iff, beq_iff, beq_iff, and_comm]

theorem beq_trans
    {x y z : α}
    (equal : (x == y) = true)
    (equal' : (y == z) = true) :
    (x == z) = true := by
  obtain ⟨le, ge⟩ := beq_iff.mp equal
  obtain ⟨le', ge'⟩ := beq_iff.mp equal'
  exact beq_iff.mpr ⟨le_trans le le', le_trans ge' ge⟩

/-- Only values that are not NaN equal others. -/
theorem isNaN_of_beq
    {x y : α}
    (equal : (x == y) = true) :
    isNaN x = false ∧ isNaN y = false :=
  isNaN_of_le (beq_iff.mp equal).1

/-- A value that does not lie strictly between its bounds is one of them. -/
theorem beq_or_beq_of_le
    {lower x upper : α}
    (above : lower ≤ x)
    (below : x ≤ upper)
    (notBetween : ¬(lower < x ∧ x < upper)) :
    (x == lower) = true ∨ (x == upper) = true := by
  by_cases atLower : x ≤ lower
  · exact Or.inl (beq_iff.mpr ⟨atLower, above⟩)
  · by_cases atUpper : upper ≤ x
    · exact Or.inr (beq_iff.mpr ⟨below, atUpper⟩)
    · exact absurd ⟨lt_iff.mpr ⟨above, atLower⟩, lt_iff.mpr ⟨below, atUpper⟩⟩
        notBetween

/-! ## Finite and infinite values -/

/-- A value is finite exactly when it is neither NaN nor infinite. -/
theorem isFinite_iff (x : α) :
    isFinite x = true ↔ isNaN x = false ∧ isInfinite x = false := by
  rw [← Bool.not_eq_true (isInfinite x), isFinite_iff_le, isInfinite_iff_lt]
  constructor
  · rintro ⟨above, below⟩
    refine ⟨(isNaN_of_le below).1, ?_⟩
    rintro (tooLarge | tooSmall)
    · exact not_lt_of_le below tooLarge
    · exact not_lt_of_le above tooSmall
  · rintro ⟨defined, notInfinite⟩
    rw [not_or] at notInfinite
    exact ⟨le_of_not_lt isNaN_neg_largest defined notInfinite.2,
      le_of_not_lt defined isNaN_largest notInfinite.1⟩

theorem isFinite_eq_false_iff (x : α) :
    isFinite x = false ↔ isNaN x = true ∨ isInfinite x = true := by
  rw [← Bool.not_eq_true, isFinite_iff, Decidable.not_and_iff_not_or_not,
    Bool.not_eq_false, Bool.not_eq_false]

/-- An infinity is not NaN. -/
theorem isNaN_of_isInfinite
    {x : α}
    (infinite : isInfinite x = true) :
    isNaN x = false := by
  rcases (isInfinite_iff_lt x).mp infinite with tooLarge | tooSmall
  · exact (isNaN_of_lt tooLarge).2
  · exact (isNaN_of_lt tooSmall).1

/-- A value that equals an infinity is infinite. -/
theorem isInfinite_of_beq
    {x y : α}
    (equal : (x == y) = true)
    (infinite : isInfinite x = true) :
    isInfinite y = true := by
  obtain ⟨le, ge⟩ := beq_iff.mp equal
  rw [isInfinite_iff_lt] at infinite ⊢
  rcases infinite with tooLarge | tooSmall
  · exact Or.inl (lt_of_lt_of_le tooLarge le)
  · exact Or.inr (lt_of_le_of_lt ge tooSmall)

/-- A value that equals a finite one is finite. -/
theorem isFinite_of_beq
    {x y : α}
    (equal : (x == y) = true)
    (finite : isFinite x = true) :
    isFinite y = true := by
  obtain ⟨le, ge⟩ := beq_iff.mp equal
  rw [isFinite_iff_le] at finite ⊢
  exact ⟨le_trans finite.1 le, le_trans ge finite.2⟩

/-- A step between equal values is negligible, if it ends at a finite one. -/
theorem not_negligibleStep_lt_of_beq
    {x y : α}
    (finite : isFinite x = true)
    (equal : (x == y) = true) :
    ¬negligibleStep < Arithmetic.abs (x - y) :=
  not_lt_of_le
    (le_trans (abs_sub_le (isFinite_of_beq equal finite) equal)
      zero_le_negligibleStep)

end LawfulFloatingPoint
end RootFinding
