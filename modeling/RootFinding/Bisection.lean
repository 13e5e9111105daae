import RootFinding.Arithmetic
import RootFinding.ConvergenceError
import RootFinding.Event
import RootFinding.Inquiry

/-!
# Bisection

Bisection halves a bracket.  Every round asks for the value at the midpoint and
ends there if it is a zero or if half the width is below the limit in force;
otherwise it asks for the value at the lower end, and the end whose sign agrees
moves to the midpoint.  Zero is its own sign.

The limit is a rule that looks at the bracket.  A format as fine as the one of
64 bits uses the constant `tolerance`; a coarser one, which cannot resolve that
constant away from zero, raises it to one `epsilon` relative to the larger end.
The bracket is not checked.
-/

namespace RootFinding

/-- The two ends of a bracket, as they were given or moved. -/
structure Bracket (α : Type) where
  lower : α
  upper : α
  deriving Repr

namespace Bracket

/-- Move the end whose sign is the sign at the midpoint: the lower end if that
one agrees, and the upper end otherwise. -/
def narrow (bracket : Bracket α) (point : α) (agrees : Bool) : Bracket α :=
  if agrees then { bracket with lower := point }
  else { bracket with upper := point }

@[simp] theorem narrow_true (bracket : Bracket α) (point : α) :
    bracket.narrow point true = ⟨point, bracket.upper⟩ := rfl

@[simp] theorem narrow_false (bracket : Bracket α) (point : α) :
    bracket.narrow point false = ⟨bracket.lower, point⟩ := rfl

variable [Arithmetic α]

/-- The computed midpoint. -/
def midpoint (bracket : Bracket α) : α :=
  (bracket.lower + bracket.upper) / 2.0

/-- Half the computed width, negative for ends in the wrong order. -/
def halfWidth (bracket : Bracket α) : α :=
  (bracket.upper - bracket.lower) / 2.0

end Bracket

namespace Bisection

/-- The half width at which bisection stops. -/
def tolerance [Arithmetic α] : α := 1e-11

/-- The number of times a bracket is halved. -/
def maxIterations : Nat := 100

/-- Where a bisection stands after some rounds. -/
inductive Progress (α : Type) where
  /-- It has ended at a midpoint. -/
  | found (point : α)
  /-- It has narrowed the bracket. -/
  | narrowed (bracket : Bracket α)
  deriving Repr

section Rounds

variable [Arithmetic α]

/-- One round, with the rule for the half width at which it may end. -/
def halve
    (limit : Bracket α -> α)
    (bracket : Bracket α) : Inquiry α (Progress α) := do
  let point := bracket.midpoint
  let value ← .value point
  if value == 0.0 || decide (bracket.halfWidth < limit bracket) then
    return .found point
  else
    let lowerValue ← .value bracket.lower
    return .narrowed (bracket.narrow point (sign value == sign lowerValue))

/-- At most the given number of rounds. -/
def run
    (limit : Bracket α -> α) :
    Nat -> Bracket α -> Inquiry α (Progress α)
  | 0, bracket => return .narrowed bracket
  | rounds + 1, bracket => do
      match ← halve limit bracket with
      | .found point => return .found point
      | .narrowed narrower => run limit rounds narrower

/-- The rule that raises the limit relative to the larger end of the bracket. -/
def raisedLimit (tolerance epsilon : α) (bracket : Bracket α) : α :=
  Arithmetic.larger tolerance
    (epsilon *
      Arithmetic.larger
        (Arithmetic.abs bracket.lower) (Arithmetic.abs bracket.upper))

end Rounds

variable [FloatingPoint α]

/-- Whether a format is coarser than the one of 64 bits. -/
def isCoarse (α : Type) [FloatingPoint α] : Bool :=
  decide ((2.220446049250313e-16 : α) < FloatingPoint.epsilon)

/-- The tolerance, raised to the spacing of the format at the larger end. -/
def relativeLimit (bracket : Bracket α) : α :=
  raisedLimit tolerance FloatingPoint.epsilon bracket

/-- The half width at which the bisection of a bracket ends. -/
def limit (bracket : Bracket α) : α :=
  if isCoarse α then relativeLimit bracket else tolerance

/-- The bisection of a bracket. -/
def ofBracket (bracket : Bracket α) : Inquiry α (Progress α) :=
  run limit maxIterations bracket

namespace Progress

/-- The answer of a bisection, NaN if the bracket is still too wide. -/
def root : Progress α -> α
  | .found point => point
  | .narrowed _ => FloatingPoint.nan

/-- The checked answer of a bisection. -/
def check (progress : Progress α) : Except ConvergenceError α :=
  if FloatingPoint.isNaN progress.root then .error .iterations
  else .ok progress.root

omit [FloatingPoint α] in
/-- The events of a bisection. -/
def events : Progress α -> List (Event α)
  | .found _ => []
  | .narrowed bracket => [.notBisected bracket.lower bracket.upper]

end Progress
end Bisection

/-- Search for a root of a pure function between two points.  Bisection asks for
no slope, so any function may stand in for the derivative. -/
def bisect [FloatingPoint α] (function : α -> α) (lower upper : α) : α :=
  ((Bisection.ofBracket ⟨lower, upper⟩).eval function function).root

/-- Search for a root of a pure function between two points, and check it. -/
def tryBisect
    [FloatingPoint α]
    (function : α -> α)
    (lower upper : α) : Except ConvergenceError α :=
  ((Bisection.ofBracket ⟨lower, upper⟩).eval function function).check

end RootFinding
