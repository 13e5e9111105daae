import RootFinding.Method

/-!
# Configuration of a search

A `Config` holds every parameter of an iterative search.  It is assembled from
the defaults, either by applying a list of `Setting`s in order
(`Config.ofSettings`), so that the last one that touches a parameter wins, or
by the functions whose names begin with `with`.  No combination of parameters
is refused.
-/

namespace RootFinding

/-- The parameters of an iterative search. -/
structure Config (α : Type) where
  /-- The method that proposes candidates. -/
  method : Method α
  /-- The least finite candidate that may be accepted. -/
  lower : α
  /-- The greatest finite candidate that may be accepted. -/
  upper : α
  /-- Convergence is not tested before this many accepted steps. -/
  minIterations : Nat
  /-- The search ends after this many accepted steps, converged or not. -/
  maxIterations : Nat
  /-- The magnitude below which a value of the function counts as zero. -/
  targetPrecision : α
  /-- Whether the search recovers from infinite steps and from cycles. -/
  useHeuristics : Bool

/-- A change of one parameter, or of both limits. -/
inductive Setting (α : Type) where
  | minIterations (count : Nat)
  | maxIterations (count : Nat)
  | targetPrecision (precision : α)
  | method (method : Method α)
  | limits (lower upper : α)
  | heuristics

namespace Config

/-- The least number of accepted steps when none is set. -/
def defaultMinIterations : Nat := 5

/-- The greatest number of accepted steps when none is set. -/
def defaultMaxIterations : Nat := 25

/-- The target precision when none is set. -/
def defaultTargetPrecision [Arithmetic α] : α := 1e-9

/-- Newton-Raphson steps between the largest finite values, without
heuristics. -/
def default [FloatingPoint α] : Config α where
  method := .newtonRaphson
  lower := -FloatingPoint.largest
  upper := FloatingPoint.largest
  minIterations := defaultMinIterations
  maxIterations := defaultMaxIterations
  targetPrecision := defaultTargetPrecision
  useHeuristics := false

/-- Overwrite what a setting touches. -/
def apply (config : Config α) : Setting α -> Config α
  | .minIterations count => { config with minIterations := count }
  | .maxIterations count => { config with maxIterations := count }
  | .targetPrecision precision =>
      { config with targetPrecision := precision }
  | .method method => { config with method := method }
  | .limits lower upper =>
      { config with lower := lower, upper := upper }
  | .heuristics => { config with useHeuristics := true }

/-- Apply settings to the defaults, in order. -/
def ofSettings [FloatingPoint α] (settings : List (Setting α)) : Config α :=
  settings.foldl apply default

/-! ## Builder functions -/

/-- Set the least number of accepted steps. -/
def withMinIterations (config : Config α) (count : Nat) : Config α :=
  { config with minIterations := count }

/-- Set the greatest number of accepted steps. -/
def withMaxIterations (config : Config α) (count : Nat) : Config α :=
  { config with maxIterations := count }

/-- Set the target precision. -/
def withTargetPrecision (config : Config α) (precision : α) : Config α :=
  { config with targetPrecision := precision }

/-- Choose the stepping method. -/
def withMethod (config : Config α) (method : Method α) : Config α :=
  { config with method := method }

/-- Restrict finite candidates to the range from `lower` to `upper`. -/
def withLimits (config : Config α) (lower upper : α) : Config α :=
  { config with lower := lower, upper := upper }

/-- Recover from infinite steps and from cycles. -/
def withHeuristics (config : Config α) : Config α :=
  { config with useHeuristics := true }

/-- Call the builder function that belongs to a setting. -/
def build (config : Config α) : Setting α -> Config α
  | .minIterations count => config.withMinIterations count
  | .maxIterations count => config.withMaxIterations count
  | .targetPrecision precision => config.withTargetPrecision precision
  | .method method => config.withMethod method
  | .limits lower upper => config.withLimits lower upper
  | .heuristics => config.withHeuristics

@[simp] theorem ofSettings_nil [FloatingPoint α] :
    ofSettings ([] : List (Setting α)) = default := rfl

/-- Settings that come later are applied to the result of the earlier ones. -/
theorem ofSettings_append
    [FloatingPoint α]
    (first second : List (Setting α)) :
    ofSettings (first ++ second) = second.foldl apply (ofSettings first) :=
  List.foldl_append

end Config
end RootFinding
