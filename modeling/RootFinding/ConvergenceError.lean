/-!
# Failures of a checked answer

The unchecked searches answer with NaN when they fail.  The checked ones say
why.
-/

namespace RootFinding

/-- Why a checked search gives no root. -/
inductive ConvergenceError where
  /-- The search ended at a point that is not a root. -/
  | iterations
  /-- The search ended at a value that is not finite. -/
  | nonFinite
  deriving Repr, DecidableEq

/-- The text of a failure. -/
def ConvergenceError.message : ConvergenceError -> String
  | .iterations => "Maximum number of iterations reached without convergence"
  | .nonFinite => "Non-finite value encountered during evaluation"

end RootFinding
