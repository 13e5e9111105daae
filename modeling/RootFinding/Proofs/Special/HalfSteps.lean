import RootFinding.Proofs.FloatingPoint.Range
import RootFinding.Proofs.Special.Convergents

/-!
# The incomplete beta fraction, one term at a time

A round of the loop appends a pair of terms, one after the other.  `halfStep` is the
fraction after so many single terms, of which every second one is a convergent
(`convergent_eq_halfStep`).  What the loop divides by are the ratios of numerators and of
denominators before a ratio that vanishes is replaced (`numeratorRatio`,
`denominatorRatio`).

In a binary format, a value that is NaN remains NaN (`isNaN_halfStep_of_le`).  It becomes
NaN with a term that is not finite (`isNaN_append_of_term`), and with the term after an
inverted ratio that is not finite (`isNaN_append_of_denominators`).  A round that has
inverted such a ratio is not settled, so the loop does not return its value.
-/

namespace RootFinding
namespace BetaFraction

open FloatingPoint

/-! ## Single terms -/

section Steps

variable [Arithmetic α] (smallest x a b : α)

/-- The term of a step, counted from the first term of the first pair. -/
def pairTerm (step : Nat) : α :=
  let index : α := Arithmetic.ofNat (step / 2 + 1)
  if step % 2 = 0 then evenTerm x a b index else oddTerm x a b index

/-- The fraction up to its first term and so many more terms. -/
def halfStep : Nat -> Convergent α
  | 0 => first smallest x a b
  | step + 1 => (halfStep step).append smallest (pairTerm x a b step)

/-- The ratio of the last two denominators, before it is replaced and inverted. -/
def denominatorRatio : Nat -> α
  | 0 => 1.0 - firstTerm x a b
  | step + 1 =>
      1.0 + pairTerm x a b step * (halfStep smallest x a b step).denominators

/-- The ratio of the last two numerators, before it is replaced. -/
def numeratorRatio : Nat -> α
  | 0 => 1.0
  | step + 1 => 1.0 + pairTerm x a b step / (halfStep smallest x a b step).numerators

theorem denominators_halfStep (step : Nat) :
    (halfStep smallest x a b step).denominators =
      1.0 / nonZero smallest (denominatorRatio smallest x a b step) := by
  cases step <;> rfl

theorem numerators_halfStep_succ (step : Nat) :
    (halfStep smallest x a b (step + 1)).numerators =
      nonZero smallest (numeratorRatio smallest x a b (step + 1)) := rfl

theorem change_halfStep_succ (step : Nat) :
    (halfStep smallest x a b (step + 1)).change =
      (halfStep smallest x a b (step + 1)).denominators
        * (halfStep smallest x a b (step + 1)).numerators := rfl

theorem value_halfStep_succ (step : Nat) :
    (halfStep smallest x a b (step + 1)).value =
      (halfStep smallest x a b step).value
        * (halfStep smallest x a b (step + 1)).change := rfl

/-- Every second step ends a round. -/
theorem convergent_eq_halfStep (pairs : Nat) :
    convergent smallest x a b pairs = halfStep smallest x a b (2 * pairs) := by
  induction pairs with
  | zero => rfl
  | succ pairs hypothesis =>
      have even_eq :
          pairTerm x a b (2 * pairs) = evenTerm x a b (Arithmetic.ofNat (pairs + 1)) := by
        rw [pairTerm, Nat.mul_mod_right, Nat.mul_div_cancel_left pairs two_pos]
        rfl
      have odd_eq :
          pairTerm x a b (2 * pairs + 1) =
            oddTerm x a b (Arithmetic.ofNat (pairs + 1)) := by
        have odd : ¬(2 * pairs + 1) % 2 = 0 := by omega
        have half : (2 * pairs + 1) / 2 = pairs := by omega
        rw [pairTerm, half]
        exact if_neg odd
      rw [Nat.mul_add_one, halfStep, halfStep, even_eq, odd_eq, ← hypothesis]
      rfl

end Steps

/-! ## Values that are not finite -/

open BinaryFormat

variable [FloatingPoint α] [BinaryFormat α] {smallest : α}

/-- A number that is not finite is not replaced. -/
theorem nonZero_of_not_isFinite
    (finite : isFinite smallest = true)
    {value : α}
    (unbounded : isFinite value = false) :
    nonZero smallest value = value := by
  have lawful : LawfulFloatingPoint α := PackedFormat.lawful
  have notLess : ¬Arithmetic.abs value < smallest := by
    intro less
    rw [isFinite_of_abs_le finite (lawful.lt_iff.mp less).1] at unbounded
    cases unbounded
  exact if_neg notLess

/-- A sum with a value that is not finite is inverted to a value that vanishes. -/
theorem vanishes_inverted
    (finite : isFinite smallest = true)
    {value : α}
    (unbounded : isFinite value = false) :
    Vanishes (1.0 / nonZero smallest (1.0 + value)) := by
  have unbounded' : isFinite (1.0 + value) = false := by
    rw [Bool.eq_false_iff] at unbounded ⊢
    exact fun finite => unbounded (isFinite_of_add finite).2
  rw [nonZero_of_not_isFinite finite unbounded']
  exact vanishes_div 1.0 unbounded'

namespace Convergent

/-- A value that is NaN remains NaN. -/
theorem isNaN_append
    {convergent : Convergent α}
    (undefined : isNaN convergent.value = true)
    (smallest term : α) :
    isNaN (convergent.append smallest term).value = true :=
  isNaN_mul_left undefined _

/-- A term that is not finite leads to a zero times an infinity. -/
theorem isNaN_append_of_term
    (finite : isFinite smallest = true)
    (convergent : Convergent α)
    {term : α}
    (unbounded : isFinite term = false) :
    isNaN (convergent.append smallest term).value = true := by
  rw [Bool.eq_false_iff] at unbounded
  have product : isFinite (term * convergent.denominators) = false :=
    Bool.eq_false_iff.mpr fun finite => unbounded (isFinite_of_mul finite).1
  have sum : isFinite (1.0 + term / convergent.numerators) = false :=
    Bool.eq_false_iff.mpr fun finite =>
      unbounded (isFinite_of_div (isFinite_of_add finite).2)
  have numerators :
      isFinite (nonZero smallest (1.0 + term / convergent.numerators)) = false := by
    rwa [nonZero_of_not_isFinite finite sum]
  exact isNaN_mul_right _
    (isNaN_mul_of_vanishes (vanishes_inverted finite product) numerators)

/-- So does an inverted ratio that is not finite, if the value is not finite either. -/
theorem isNaN_append_of_denominators
    (finite : isFinite smallest = true)
    {convergent : Convergent α}
    (unbounded : isFinite convergent.denominators = false)
    (unbounded' : isFinite convergent.value = false)
    (term : α) :
    isNaN (convergent.append smallest term).value = true := by
  have product : isFinite (term * convergent.denominators) = false := by
    rw [Bool.eq_false_iff] at unbounded ⊢
    exact fun finite => unbounded (isFinite_of_mul finite).2
  exact isNaN_mul_of_vanishes_right unbounded'
    (vanishes_mul (vanishes_inverted finite product) _)

/-- A change that is not finite is not within the tolerance. -/
theorem isSettled_of_change
    {convergent : Convergent α}
    (finite : isFinite (tolerance : α) = true)
    (unbounded : isFinite convergent.change = false) :
    convergent.isSettled = false := by
  have lawful : LawfulFloatingPoint α := PackedFormat.lawful
  refine decide_eq_false fun less => ?_
  have difference := isFinite_of_abs_le finite (lawful.lt_iff.mp less).1
  rw [(isFinite_of_sub difference).1] at unbounded
  cases unbounded

end Convergent

section Runs

variable {x a b : α} {step : Nat}

theorem isNaN_halfStep_of_le
    (undefined : isNaN (halfStep smallest x a b step).value = true)
    {later : Nat}
    (le : step ≤ later) :
    isNaN (halfStep smallest x a b later).value = true := by
  induction le with
  | refl => exact undefined
  | step le hypothesis => exact Convergent.isNaN_append hypothesis smallest _

/-- An inverted ratio that is not finite is a factor of the change and of the value. -/
theorem isFinite_halfStep
    (unbounded : isFinite (halfStep smallest x a b step).denominators = false) :
    isFinite (halfStep smallest x a b step).change = false ∧
      isFinite (halfStep smallest x a b step).value = false := by
  cases step with
  | zero => exact ⟨unbounded, unbounded⟩
  | succ step =>
      rw [value_halfStep_succ, change_halfStep_succ]
      rw [Bool.eq_false_iff] at unbounded
      exact ⟨Bool.eq_false_iff.mpr fun finite => unbounded (isFinite_of_mul finite).1,
        Bool.eq_false_iff.mpr fun finite =>
          unbounded (isFinite_of_mul (isFinite_of_mul finite).2).1⟩

/-- From the next step on, the value is NaN. -/
theorem isNaN_halfStep_of_lt
    (finite : isFinite smallest = true)
    (unbounded : isFinite (halfStep smallest x a b step).denominators = false)
    {later : Nat}
    (less : step < later) :
    isNaN (halfStep smallest x a b later).value = true := by
  have undefined : isNaN (halfStep smallest x a b (step + 1)).value = true :=
    Convergent.isNaN_append_of_denominators finite unbounded
      (isFinite_halfStep unbounded).2 _
  exact isNaN_halfStep_of_le undefined less

/-- No round from there on is settled with a number. -/
theorem isNaN_convergent_of_isSettled
    (finite : isFinite smallest = true)
    (finite' : isFinite (tolerance : α) = true)
    (unbounded : isFinite (halfStep smallest x a b step).denominators = false)
    {pairs : Nat}
    (le : step ≤ 2 * pairs)
    (settled : (convergent smallest x a b pairs).isSettled = true) :
    isNaN (convergent smallest x a b pairs).value = true := by
  rw [convergent_eq_halfStep] at settled ⊢
  rcases le.lt_or_eq with less | rfl
  · exact isNaN_halfStep_of_lt finite unbounded less
  · rw [Convergent.isSettled_of_change finite' (isFinite_halfStep unbounded).1] at settled
    cases settled

/-- If the value of the first round is NaN, then so is what the loop returns. -/
theorem isNaN_of_evaluate
    (undefined : isNaN (convergent smallest x a b 1).value = true)
    {value : α}
    (returned : evaluate smallest x a b = some value) :
    isNaN value = true := by
  obtain ⟨pairs, positive, -, rfl, -⟩ := exists_isSettled_of_evaluate returned
  rw [convergent_eq_halfStep] at undefined ⊢
  exact isNaN_halfStep_of_le undefined (by omega)

end Runs
end BetaFraction
end RootFinding
