import RootFinding.Arithmetic

/-!
# The continued fraction of the incomplete beta function

The regularized incomplete beta function is a front factor times the continued
fraction

`1 / (1 + t 1 / (1 + t 2 / (1 + ...)))`

whose terms are `BetaFraction.firstTerm`, followed by `BetaFraction.evenTerm`
and `BetaFraction.oddTerm` in turn.  `BetaFraction.evaluate` runs through it
forwards: it keeps the ratios of successive numerators and of successive
denominators, and multiplies their quotients up.  A ratio that vanishes is
replaced by the smallest positive number of the format before it is divided by.
The value is that of the first convergent that a pair of terms has left as it
was (`BetaFraction.evaluate_eq_findSome?`).
-/

namespace RootFinding
namespace BetaFraction

variable [Arithmetic α]

/-- The relative change at which the fraction counts as converged. -/
def tolerance : α := 3e-14

/-- The number of pairs of terms that are taken at most. -/
def maxIterations : Nat := 200

/-- The term in front of all pairs, with its sign changed. -/
def firstTerm (x a b : α) : α :=
  (a + b) * x / (a + 1.0)

/-- The first term of a pair. -/
def evenTerm (x a b index : α) : α :=
  index * (b - index) * x /
    ((a + 2.0 * index - 1.0) * (a + 2.0 * index))

/-- The second term of a pair. -/
def oddTerm (x a b index : α) : α :=
  (-(a + index)) * (a + b + index) * x /
    ((a + 2.0 * index) * (a + 2.0 * index + 1.0))

/-- A number that is not smaller in magnitude than `smallest`. -/
def nonZero (smallest value : α) : α :=
  if Arithmetic.abs value < smallest then smallest else value

/-- The part of the fraction that was taken so far. -/
structure Convergent (α : Type) where
  /-- The ratio of the last two numerators. -/
  numerators : α
  /-- The ratio of the last two denominators, inverted. -/
  denominators : α
  /-- The quotient of the last two values. -/
  change : α
  /-- The value. -/
  value : α
  deriving Repr

/-- The fraction up to its first term. -/
def first (smallest x a b : α) : Convergent α :=
  let denominators := 1.0 / nonZero smallest (1.0 - firstTerm x a b)
  { numerators := 1.0
    denominators := denominators
    change := denominators
    value := denominators }

/-- The fraction with one more term. -/
def Convergent.append
    (smallest : α)
    (convergent : Convergent α)
    (term : α) : Convergent α :=
  let denominators :=
    1.0 / nonZero smallest (1.0 + term * convergent.denominators)
  let numerators :=
    nonZero smallest (1.0 + term / convergent.numerators)
  let change := denominators * numerators
  { numerators := numerators
    denominators := denominators
    change := change
    value := convergent.value * change }

/-- The fraction with one more pair of terms. -/
def Convergent.appendPair
    (smallest x a b : α)
    (convergent : Convergent α)
    (index : Nat) : Convergent α :=
  let index := Arithmetic.ofNat index
  (convergent.append smallest (evenTerm x a b index)).append smallest
    (oddTerm x a b index)

/-- Whether the last term has left the value as it was, but for the tolerance. -/
def Convergent.isSettled (convergent : Convergent α) : Bool :=
  decide (Arithmetic.abs (convergent.change - 1.0) < tolerance)

/-- The fraction up to its first term and the given number of pairs. -/
def convergent (smallest x a b : α) : Nat -> Convergent α
  | 0 => first smallest x a b
  | pairs + 1 =>
      (convergent smallest x a b pairs).appendPair smallest x a b (pairs + 1)

/-- Append at most the given number of pairs, the first of which has the given
index, until the value is settled. -/
def settle
    (smallest x a b : α) :
    Nat -> Nat -> Convergent α -> Option α
  | 0, _, _ => none
  | pairs + 1, index, convergent =>
      let next := convergent.appendPair smallest x a b index
      if next.isSettled then some next.value
      else settle smallest x a b pairs (index + 1) next

/-- The value of the fraction, if it settles in time. -/
def evaluate (smallest x a b : α) : Option α :=
  settle smallest x a b maxIterations 1 (first smallest x a b)

/-- Going on from a convergent finds the first of the next ones that is
settled. -/
theorem settle_convergent
    (smallest x a b : α)
    (pairs taken : Nat) :
    settle smallest x a b pairs (taken + 1)
        (convergent smallest x a b taken) =
      ((List.range' (taken + 1) pairs).map
        (convergent smallest x a b)).findSome?
          fun next => if next.isSettled then some next.value else none := by
  induction pairs generalizing taken with
  | zero => rfl
  | succ pairs hypothesis =>
      rw [settle, List.range'_succ, List.map_cons, List.findSome?_cons]
      change (if (convergent smallest x a b (taken + 1)).isSettled
        then some (convergent smallest x a b (taken + 1)).value
        else settle smallest x a b pairs (taken + 1 + 1)
          (convergent smallest x a b (taken + 1))) = _
      rw [hypothesis (taken + 1)]
      cases (convergent smallest x a b (taken + 1)).isSettled <;> rfl

/-- The value of the fraction is the one of the first convergent that is
settled. -/
theorem evaluate_eq_findSome?
    (smallest x a b : α) :
    evaluate smallest x a b =
      ((List.range' 1 maxIterations).map
        (convergent smallest x a b)).findSome?
          fun next => if next.isSettled then some next.value else none :=
  settle_convergent smallest x a b maxIterations 0

end BetaFraction
end RootFinding
