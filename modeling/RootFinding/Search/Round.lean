import RootFinding.Config
import RootFinding.Search.Turn

/-!
# Rounds of a search

In every round the stepping method proposes a candidate, and `Config.judge`
decides what becomes of it, in this order:

* a candidate beyond a limit sends the search half way from the current point
  to that limit, unless it is infinite;
* NaN ends the search;
* with heuristics, an infinite candidate moves the current point away from the
  stationary tangent, and a candidate that was recorded before sends the search
  to the midpoint of the candidate and the current point;
* every other candidate is accepted.

Once enough candidates are accepted, the function is asked for its value at the
accepted point, and `Config.ending?` says whether that ends the search.
-/

namespace RootFinding

open Search

variable [FloatingPoint α]

/-- Steps of at most this size are never taken for cycles. -/
def negligibleStep : α := 1e-15

/-- The point half way between two points. -/
def halfway (left right : α) : α :=
  0.5 * (left + right)

/-- Move up by a tenth of the point and another tenth. -/
def nudgeUp (x : α) : α :=
  x + (0.1 * x + 0.1)

/-- Move down by a tenth of the point less a tenth. -/
def nudgeDown (x : α) : α :=
  x - (0.1 * x - 0.1)

namespace Config

/-- What the heuristics make of a candidate that is neither NaN nor beyond a
limit. -/
def judgeWithHeuristics (state : State α) (candidate : α) : Verdict α :=
  if FloatingPoint.isInfinite candidate then
    .retry .infiniteStep
      (if 0.0 < candidate then nudgeUp state.current
        else nudgeDown state.current)
  else if negligibleStep < Arithmetic.abs (candidate - state.current) then
    if state.seen.any (· == candidate) then
      .retry .cycle
        (if candidate == state.current then nudgeUp state.current
          else halfway candidate state.current)
    else
      .accept true
  else
    .accept false

/-- What becomes of a candidate that was proposed in a state. -/
def judge
    (config : Config α)
    (state : State α)
    (candidate : α) : Verdict α :=
  let infinite := FloatingPoint.isInfinite candidate
  if !infinite && decide (config.upper < candidate) then
    .retry .upperLimit (halfway state.current config.upper)
  else if !infinite && decide (candidate < config.lower) then
    .retry .lowerLimit (halfway state.current config.lower)
  else if FloatingPoint.isNaN candidate then
    .abort
  else if config.useHeuristics then
    judgeWithHeuristics state candidate
  else
    .accept false

/-- Whether a value of the function is close enough to zero. -/
def converged (config : Config α) (value : α) : Bool :=
  decide (Arithmetic.abs value < config.targetPrecision)

/-- The value of the function at an accepted point, once enough candidates were
accepted for a convergence test. -/
def test
    (config : Config α)
    (accepted : Nat)
    (point : α) : Inquiry α (Option α) :=
  if accepted < config.minIterations then
    return none
  else
    return some (← .value point)

/-- How a round ends the search, given the state that it led to. -/
def ending?
    (config : Config α)
    (state : State α)
    (turn : Turn α) : Option Ending :=
  match turn.verdict, turn.test with
  | .abort, _ => some .aborted
  | .accept _, some value =>
      if config.converged value || decide (config.maxIterations ≤ state.accepted)
      then some .finished
      else none
  | _, _ => none

/-- A retry does not end a search. -/
@[simp] theorem ending?_retry
    (config : Config α)
    (state : State α)
    (current candidate point : α)
    (obstacle : Obstacle)
    (test : Option α) :
    config.ending? state ⟨current, candidate, .retry obstacle point, test⟩ =
      none := rfl

@[simp] theorem ending?_abort
    (config : Config α)
    (state : State α)
    (current candidate : α)
    (test : Option α) :
    config.ending? state ⟨current, candidate, .abort, test⟩ =
      some .aborted := rfl

/-- A candidate that was not tested does not end a search. -/
@[simp] theorem ending?_untested
    (config : Config α)
    (state : State α)
    (current candidate : α)
    (recorded : Bool) :
    config.ending? state ⟨current, candidate, .accept recorded, none⟩ =
      none := rfl

/-- A candidate that was tested ends a search if the test succeeds or no more
steps are allowed. -/
@[simp] theorem ending?_tested
    (config : Config α)
    (state : State α)
    (current candidate value : α)
    (recorded : Bool) :
    config.ending? state ⟨current, candidate, .accept recorded, some value⟩ =
      if config.converged value
          || decide (config.maxIterations ≤ state.accepted) then
        some .finished
      else none := rfl

end Config

namespace Search

/-- One round: a step of the method, the verdict, and the convergence test. -/
def round (config : Config α) (state : State α) : Inquiry α (Turn α) := do
  let candidate ← config.method.step state.current
  let verdict := config.judge state candidate
  match verdict with
  | .accept _ =>
      let test ← config.test (state.accepted + 1) candidate
      return ⟨state.current, candidate, verdict, test⟩
  | _ => return ⟨state.current, candidate, verdict, none⟩

end Search
end RootFinding
