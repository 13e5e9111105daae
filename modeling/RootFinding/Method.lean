import RootFinding.Arithmetic
import RootFinding.Inquiry

/-!
# Stepping methods

A stepping method proposes the next point of a search from the current one, by
asking for values and slopes of the function.  It keeps nothing between steps.
Two methods are provided, and can be chosen by name: `Method.newtonRaphson`, and
`Method.homeier`, which takes the slope at the half Newton step and converges
with order three.
-/

namespace RootFinding

/-- A single step of an iterative search, with the names it is shown under. -/
structure Method (α : Type) where
  /-- The name in descriptions of a configuration. -/
  title : String
  /-- The name in events. -/
  name : String := "custom"
  /-- The candidate that is proposed from a point. -/
  step : α -> Inquiry α α

namespace Method

variable [Arithmetic α]

/-- The step `x - f x / f' x`.  A vanishing slope proposes an infinity. -/
def newtonRaphson : Method α where
  title := "NewtonRaphson"
  name := "newton_raphson"
  step x := do
    let value ← .value x
    let slope ← .slope x
    return x - value / slope

/-- The step `x - f x / f' (x - f x / (2 * f' x))`, whose slope is taken at the
half Newton step. -/
def homeier : Method α where
  title := "Homeier"
  name := "homeier"
  step x := do
    let value ← .value x
    let slope ← .slope x
    let halfway ← .slope (x - 0.5 * value / slope)
    return x - value / halfway

/-- The methods that can be chosen by name. -/
def provided : List (Method α) :=
  [newtonRaphson, homeier]

theorem mem_provided_iff {method : Method α} :
    method ∈ provided ↔ method = newtonRaphson ∨ method = homeier := by
  simp [provided]

/-- The provided method of a name. -/
def named? (name : String) : Option (Method α) :=
  provided.find? fun method => method.name == name

@[simp] theorem named?_newtonRaphson :
    named? "newton_raphson" = some (newtonRaphson : Method α) := rfl

@[simp] theorem named?_homeier :
    named? "homeier" = some (homeier : Method α) := rfl

@[simp] theorem eval_newtonRaphson
    (function derivative : α -> α)
    (x : α) :
    (newtonRaphson.step x).eval function derivative =
      x - function x / derivative x := rfl

@[simp] theorem eval_homeier
    (function derivative : α -> α)
    (x : α) :
    (homeier.step x).eval function derivative =
      x - function x /
        derivative (x - 0.5 * function x / derivative x) := rfl

end Method
end RootFinding
