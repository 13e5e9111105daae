import Mathlib.Tactic.FieldSimp
import Mathlib.Tactic.Ring
import RootFinding.Proofs.ExactArithmetic
import RootFinding.Special.Beta

/-!
# Reflection of the regularized incomplete beta function

The regularized function of `x`, `a`, and `b`, and that of `1 - x`, `b`, and `a`, add up
to one.  The algorithm owes this to its two branches, of which the arguments and their
reflections take different ones (`below_reflected_iff`): both multiply the same continued
fraction by the same front factor (`front_reflected`), and one of them takes the result
away from one.

The law holds in every ordered field, whatever the exponential, the logarithm, and the
log-gamma function are.
-/

namespace RootFinding
namespace BetaBasis

variable {K : Type} [Field K] [LinearOrder K]

/-- The continued fraction is taken of the arguments themselves, and not of their
reflections. -/
def Below (x a b : K) : Prop :=
  x < (a + 1.0) / (a + b + 2.0)

variable [IsStrictOrderedRing K] {x a b : K}

theorem below_iff (x a b : K) : Below x a b ↔ x < (a + 1) / (a + b + 2) := by
  norm_num [Below]

/-- Of arguments and their reflections, one pair is below the threshold. -/
theorem below_reflected_iff
    (positive : 0 < a + b + 2)
    (apart : x ≠ (a + 1) / (a + b + 2)) :
    Below (1 - x) b a ↔ ¬Below x a b := by
  have threshold_eq :
      (b + 1) / (b + a + 2) = 1 - (a + 1) / (a + b + 2) := by
    rw [add_comm b a]
    field_simp
    ring
  rw [below_iff, below_iff, threshold_eq, sub_lt_sub_iff_left, not_lt]
  exact ⟨le_of_lt, fun le => le.lt_of_ne apart.symm⟩

/-- Inside of the unit interval, the front factor is an exponential. -/
theorem front_of_inside
    (basis : BetaBasis K)
    (a b : K)
    (inside : 0 < x ∧ x < 1) :
    basis.front x a b =
      basis.exp
        (basis.logGamma (a + b) - basis.logGamma a - basis.logGamma b
          + a * basis.ln x + b * basis.ln (1 - x)) := by
  have decided : (decide ((0.0 : K) < x) && decide (x < 1.0)) = true := by
    norm_num [inside]
  rw [front, if_pos decided]
  norm_num

/-- Elsewhere, it vanishes. -/
theorem front_of_not_inside
    (basis : BetaBasis K)
    (a b : K)
    (outside : ¬(0 < x ∧ x < 1)) :
    basis.front x a b = 0 := by
  have decided : ¬(decide ((0.0 : K) < x) && decide (x < 1.0)) = true := by
    norm_num at outside ⊢
    exact outside
  rw [front, if_neg decided]
  norm_num

/-- Reflection does not change the front factor. -/
theorem front_reflected (basis : BetaBasis K) (x a b : K) :
    basis.front (1 - x) b a = basis.front x a b := by
  have inside_iff : 0 < 1 - x ∧ 1 - x < 1 ↔ 0 < x ∧ x < 1 := by
    rw [sub_pos, sub_lt_self_iff, and_comm]
  by_cases inside : 0 < x ∧ x < 1
  · rw [front_of_inside basis a b inside,
      front_of_inside basis b a (inside_iff.mpr inside), sub_sub_cancel,
      add_comm b a, sub_right_comm, add_right_comm]
  · rw [front_of_not_inside basis a b inside,
      front_of_not_inside basis b a (inside_iff.not.mpr inside)]

section Branches

variable (basis : BetaBasis K) (interval : 0 ≤ x ∧ x ≤ 1)

include interval

/-- Below the threshold, the fraction is taken of the arguments. -/
theorem regularized?_of_below
    (below : Below x a b) :
    basis.regularized? x a b =
      (BetaFraction.evaluate basis.smallest x a b).map
        fun fraction => basis.front x a b * fraction / a := by
  have decided : (decide ((0.0 : K) ≤ x) && decide (x ≤ 1.0)) = true := by
    norm_num [interval]
  rw [regularized?, if_pos decided]
  exact if_pos below

/-- From the threshold on, it is taken of the reflected arguments, and the result is
taken away from one. -/
theorem regularized?_of_not_below
    (notBelow : ¬Below x a b) :
    basis.regularized? x a b =
      (BetaFraction.evaluate basis.smallest (1 - x) b a).map
        fun fraction => 1 - basis.front x a b * fraction / b := by
  have decided : (decide ((0.0 : K) ≤ x) && decide (x ≤ 1.0)) = true := by
    norm_num [interval]
  rw [regularized?, if_pos decided]
  refine (if_neg notBelow).trans ?_
  norm_num

end Branches

/-- The values of arguments and of their reflections add up to one, if the fraction
converges, and neither has a value otherwise. -/
theorem regularized?_reflected
    (basis : BetaBasis K)
    (positive : 0 < a + b + 2)
    (interval : 0 ≤ x ∧ x ≤ 1)
    (apart : x ≠ (a + 1) / (a + b + 2)) :
    basis.regularized? (1 - x) b a =
      (basis.regularized? x a b).map (1 - ·) := by
  have interval' : 0 ≤ 1 - x ∧ 1 - x ≤ 1 := by
    rwa [sub_nonneg, sub_le_self_iff, and_comm]
  have branches := below_reflected_iff positive apart
  by_cases below : Below x a b
  · have notBelow' : ¬Below (1 - x) b a := fun below' => branches.mp below' below
    rw [regularized?_of_below basis interval below,
      regularized?_of_not_below basis interval' notBelow', sub_sub_cancel,
      front_reflected, Option.map_map]
    rfl
  · rw [regularized?_of_not_below basis interval below,
      regularized?_of_below basis interval' (branches.mpr below),
      front_reflected, Option.map_map]
    refine congrArg (Option.map · _) (funext fun fraction => ?_)
    exact (sub_sub_cancel 1 _).symm

/-- How the function of arguments and that of their reflections are computed. -/
structure ReflectionLaw (basis : BetaBasis K) (x a b : K) : Prop where
  /-- They take different branches. -/
  branches : Below (1 - x) b a ↔ ¬Below x a b
  /-- They have the same front factor. -/
  front : basis.front (1 - x) b a = basis.front x a b
  /-- Below the threshold, they multiply it by the fraction of the arguments. -/
  below :
    Below x a b ->
      basis.regularized? x a b =
          (BetaFraction.evaluate basis.smallest x a b).map
            (fun fraction => basis.front x a b * fraction / a) ∧
        basis.regularized? (1 - x) b a =
          (BetaFraction.evaluate basis.smallest x a b).map
            (fun fraction => 1 - basis.front x a b * fraction / a)
  /-- Above it, by the fraction of the reflections. -/
  above :
    ¬Below x a b ->
      basis.regularized? x a b =
          (BetaFraction.evaluate basis.smallest (1 - x) b a).map
            (fun fraction => 1 - basis.front x a b * fraction / b) ∧
        basis.regularized? (1 - x) b a =
          (BetaFraction.evaluate basis.smallest (1 - x) b a).map
            (fun fraction => basis.front x a b * fraction / b)
  /-- If one of them has no value, then neither has the other. -/
  none_iff :
    basis.regularized? x a b = none ↔
      basis.regularized? (1 - x) b a = none
  /-- Otherwise the values add up to one. -/
  add_eq (value reflected : K) :
    basis.regularized? x a b = some value ->
      basis.regularized? (1 - x) b a = some reflected ->
      value + reflected = 1

/-- The regularized function obeys the law of reflection in every ordered field, away
from the threshold. -/
theorem reflectionLaw
    (basis : BetaBasis K)
    (x a b : K)
    (positive : 0 < a + b + 2)
    (interval : 0 ≤ x ∧ x ≤ 1)
    (apart : x ≠ (a + 1) / (a + b + 2)) :
    basis.ReflectionLaw x a b := by
  have reflected := basis.regularized?_reflected positive interval apart
  refine
    { branches := below_reflected_iff positive apart
      front := front_reflected basis x a b
      below := fun below => ?_
      above := fun notBelow => ?_
      none_iff := ?_
      add_eq := ?_ }
  · have direct := regularized?_of_below basis interval below
    refine ⟨direct, ?_⟩
    rw [reflected, direct, Option.map_map]
    rfl
  · have direct := regularized?_of_not_below basis interval notBelow
    refine ⟨direct, ?_⟩
    rw [reflected, direct, Option.map_map]
    refine congrArg (Option.map · _) (funext fun fraction => ?_)
    exact sub_sub_cancel 1 _
  · rw [reflected, Option.map_eq_none_iff]
  · intro value value' found found'
    rw [reflected, found] at found'
    rw [← Option.some.inj found', add_sub_cancel]

/-- The function of one third, two, and three, from the front factor that belongs to
them, and the function of their reflections. -/
theorem reflectionLaw_third :
    let basis : BetaBasis ℚ :=
      { exp := fun _ => 12 * (1 / 3) ^ 2 * (2 / 3) ^ 3
        ln := fun x => x
        logGamma := fun x => x
        smallest := 5e-324 }
    (0 : ℚ) < 2 + 3 + 2 ∧
      ((0 : ℚ) ≤ 1 / 3 ∧ (1 / 3 : ℚ) ≤ 1) ∧
      (1 / 3 : ℚ) ≠ (2 + 1) / (2 + 3 + 2) ∧
      basis.regularized? (1 / 3) 2 3 = some (11 / 27) ∧
      basis.regularized? (1 - 1 / 3) 3 2 = some (16 / 27) ∧
      basis.ReflectionLaw (1 / 3) 2 3 := by
  intro basis
  have positive : (0 : ℚ) < 2 + 3 + 2 := by norm_num
  have interval : (0 : ℚ) ≤ 1 / 3 ∧ (1 / 3 : ℚ) ≤ 1 := by norm_num
  have apart : (1 / 3 : ℚ) ≠ (2 + 1) / (2 + 3 + 2) := by norm_num
  exact ⟨positive, interval, apart, by decide +kernel, by decide +kernel,
    reflectionLaw basis (1 / 3) 2 3 positive interval apart⟩

end BetaBasis
end RootFinding
