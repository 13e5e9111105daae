import RootFinding.Bisection
import RootFinding.Finder

/-!
# Callbacks that fail

A search over functions that may fail puts its questions to `Callbacks`, which
reply with a value or with an error.  The search itself knows no errors:
`Callbacks.guarded` turns callbacks into an oracle that replies NaN to the
question that failed and to every later question about the same function,
without asking again, and that keeps the error.  Once the search has ended, the
error of the function is raised first, then the one of its derivative, and then
the failure of a strict search.

`Request` holds the parameters of a search as callers give them, with the
method by name; a name that is not known is refused before anything is asked.
-/

namespace RootFinding

/-- Functions that reply with a value or with an error. -/
abbrev Callbacks (σ ε α : Type) :=
  Query α -> σ -> Except ε α × σ

namespace Callbacks

/-- Replies by functions of the point and of the number of earlier calls of the
same function. -/
def numbered
    (function derivative : Nat -> α -> Except ε α) :
    Callbacks CallCounts ε α
  | .value point, counts =>
      (function counts.values point, counts.add (.value point))
  | .slope point, counts =>
      (derivative counts.slopes point, counts.add (.slope point))

/-- Fails at every question after the first `limit` ones. -/
def limited
    (limit : Nat)
    (error : ε)
    (callbacks : Callbacks CallCounts ε α) : Callbacks CallCounts ε α :=
  fun query counts =>
    if counts.total < limit then callbacks query counts
    else (.error error, counts.add query)

end Callbacks

/-- The state behind guarded callbacks: the state of the callbacks and the
error of each of them, if it has failed. -/
structure Guarded (σ ε : Type) where
  world : σ
  valueError : Option ε
  slopeError : Option ε

namespace Guarded

/-- Nothing has failed yet. -/
def start (world : σ) : Guarded σ ε where
  world := world
  valueError := none
  slopeError := none

/-- The error of the function that a question is about. -/
def errorOf (guarded : Guarded σ ε) : Query α -> Option ε
  | .value _ => guarded.valueError
  | .slope _ => guarded.slopeError

/-- Keep the error that the reply to a question was. -/
def fail
    (guarded : Guarded σ ε)
    (world : σ)
    (error : ε) : Query α -> Guarded σ ε
  | .value _ => { guarded with world := world, valueError := some error }
  | .slope _ => { guarded with world := world, slopeError := some error }

/-- The error to be raised: the one of the function before the one of its
derivative. -/
def error? (guarded : Guarded σ ε) : Option ε :=
  guarded.valueError <|> guarded.slopeError

end Guarded

/-- An oracle that replies NaN from the first error of a function on. -/
def Callbacks.guarded
    [FloatingPoint α]
    (callbacks : Callbacks σ ε α) : Oracle (Guarded σ ε) α :=
  fun query guarded =>
    match guarded.errorOf query with
    | some _ => (FloatingPoint.nan, guarded)
    | none =>
        match callbacks query guarded.world with
        | (.ok value, world) => (value, { guarded with world := world })
        | (.error error, world) =>
            (FloatingPoint.nan, guarded.fail world error query)

/-- A function that has failed is not asked again. -/
theorem Callbacks.guarded_of_errorOf
    [FloatingPoint α]
    (callbacks : Callbacks σ ε α)
    (query : Query α)
    (state : Guarded σ ε)
    (error : ε)
    (failed : state.errorOf query = some error) :
    callbacks.guarded query state = (FloatingPoint.nan, state) := by
  rw [guarded, failed]

/-- Why a request gives no number. -/
inductive Failure (ε : Type) where
  /-- There is no method of this name. -/
  | unknownMethod (name : String)
  /-- A callback has failed. -/
  | callback (error : ε)
  /-- A strict search has not found a root. -/
  | convergence (error : ConvergenceError)
  deriving Repr

/-- The text of a failure, given the texts of the errors of callbacks. -/
def Failure.message (describe : ε -> String) : Failure ε -> String
  | .unknownMethod name =>
      "Unknown root finding method '" ++ name
        ++ "', expected 'newton_raphson' or 'homeier'."
  | .callback error => describe error
  | .convergence error => error.message

/-- The outcome of a request: an error of a callback wins over the answer. -/
def Guarded.outcome
    (guarded : Guarded σ ε)
    (answer : Except ConvergenceError α) : Except (Failure ε) α :=
  match guarded.error? with
  | some error => .error (.callback error)
  | none => answer.mapError .convergence

/-- The parameters of a search over callbacks. -/
structure Request (α : Type) where
  /-- The name of the stepping method. -/
  method : String
  /-- Convergence is not tested before this many accepted steps. -/
  minIterations : Nat
  /-- The search ends after this many accepted steps. -/
  maxIterations : Nat
  /-- The magnitude below which a value counts as zero. -/
  targetPrecision : α
  /-- The limits of finite candidates, if there are any. -/
  bounds : Option (α × α)
  /-- Whether the search recovers from infinite steps and from cycles. -/
  heuristics : Bool
  /-- Whether an answer that is not a root is a failure. -/
  strict : Bool
  deriving Repr

namespace Request

variable [FloatingPoint α]

/-- The request that leaves every parameter at its default. -/
def default : Request α where
  method := "newton_raphson"
  minIterations := 5
  maxIterations := 25
  targetPrecision := 1e-9
  bounds := none
  heuristics := false
  strict := false

/-- The configuration that a request describes, with a method. -/
def configWith (request : Request α) (method : Method α) : Config α :=
  let config := (Config.default
    |>.withMinIterations request.minIterations
    |>.withMaxIterations request.maxIterations
    |>.withTargetPrecision request.targetPrecision
    |>.withMethod method)
  let config := match request.bounds with
    | some (lower, upper) => config.withLimits lower upper
    | none => config
  { config with useHeuristics := request.heuristics }

/-- The configuration that a request describes, unless it names no method. -/
def config (request : Request α) : Except (Failure ε) (Config α) :=
  match Method.named? request.method with
  | some method => .ok (request.configWith method)
  | none => .error (.unknownMethod request.method)

/-- The answer of a search, checked if it is strict. -/
def inquiry
    (request : Request α)
    (config : Config α)
    (rounds : Nat)
    (start : α) : Inquiry α (Option (Except ConvergenceError α)) :=
  if request.strict then do
    let (_, answer) ← Search.checkedFromPoint config rounds start
    return answer
  else do
    let record ← Search.fromPoint config rounds start
    return record.root?.map .ok

end Request

namespace Callbacks

variable [FloatingPoint α]

/-- Search for a root over callbacks.  The outcome is `none` when the search has
not ended after the given number of rounds. -/
def find
    (callbacks : Callbacks σ ε α)
    (world : σ)
    (request : Request α)
    (rounds : Nat)
    (start : α) : Option (Except (Failure ε) α) × σ :=
  match request.config with
  | .error failure => (some (.error failure), world)
  | .ok config =>
      let (answer, guarded) :=
        (request.inquiry config rounds start).run
          callbacks.guarded (.start world)
      (answer.map guarded.outcome, guarded.world)

/-- Bisect a bracket over callbacks; a strict bisection is checked. -/
def bisect
    (callbacks : Callbacks σ ε α)
    (world : σ)
    (lower upper : α)
    (strict : Bool) : Except (Failure ε) α × σ :=
  let (progress, guarded) :=
    (Bisection.ofBracket ⟨lower, upper⟩).run
      callbacks.guarded (.start world)
  let answer := if strict then progress.check else .ok progress.root
  (guarded.outcome answer, guarded.world)

end Callbacks
end RootFinding
