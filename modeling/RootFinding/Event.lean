/-!
# Events

What a search or a bisection reports while it works.  An event is a value; the
level and the text it is shown with are functions of it.
-/

namespace RootFinding

/-- How detailed an event is. -/
inductive Level where
  | trace
  | debug
  deriving Repr, DecidableEq

/-- The name of a level. -/
def Level.name : Level -> String
  | .trace => "TRACE"
  | .debug => "DEBUG"

/-- Why a round of a search is repeated from another point. -/
inductive Obstacle where
  | upperLimit
  | lowerLimit
  | infiniteStep
  | cycle
  deriving Repr, DecidableEq

/-- Where an iterative search stood when it ended, and by which method it
stepped. -/
structure SearchSummary (α : Type) where
  current : α
  iterations : Nat
  retries : Nat
  method : String
  deriving Repr

/-- Something worth reporting. -/
inductive Event (α : Type) where
  /-- A candidate was refused, and the search goes on from another point. -/
  | retry (obstacle : Obstacle) (current candidate : α)
  /-- The method proposed NaN, which ends the search. -/
  | aborted (summary : SearchSummary α)
  /-- The search ended at its last accepted point. -/
  | finished (summary : SearchSummary α)
  /-- The bracket is still too wide after the last halving. -/
  | notBisected (lower upper : α)
  deriving Repr

namespace Event

/-- Repeated rounds are details; the ends of searches are not. -/
def level : Event α -> Level
  | .retry .. => .trace
  | .aborted _ => .debug
  | .finished _ => .debug
  | .notBisected .. => .debug

/-- The text of an event. -/
def message : Event α -> String
  | .retry .upperLimit _ _ => "upper limit exceeded"
  | .retry .lowerLimit _ _ => "lower limit exceeded"
  | .retry .infiniteStep _ _ => "infinite step"
  | .retry .cycle _ _ => "cycle detected"
  | .aborted _ => "step is NaN, aborting"
  | .finished _ => "root search finished"
  | .notBisected .. => "bisection did not converge"

end Event
end RootFinding
