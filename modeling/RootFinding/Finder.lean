import RootFinding.Oracle
import RootFinding.Search.Run

/-!
# Finders

A `Finder` is an oracle together with a configuration.  Every search of a
finder begins with the oracle in its initial state, so searches do not
influence each other.  `Finder.solve` answers with a point or with NaN;
`Finder.trySolve` answers with a root or with the reason why there is none.

Nothing bounds the number of retries of a search.  Every function here is told
how many rounds a search may take, and answers `none` when it has not ended by
then; more rounds never change an answer (`Finder.solve_add`).
-/

namespace RootFinding

/-- What is searched, and how. -/
structure Finder (σ α : Type) where
  /-- Replies to the questions of a search. -/
  oracle : Oracle σ α
  /-- The state of the oracle at the beginning of every search. -/
  world : σ
  /-- The parameters of every search. -/
  config : Config α

namespace Finder

variable [FloatingPoint α]

/-- The record of a search, and the state in which it leaves the oracle. -/
def search
    (finder : Finder σ α)
    (rounds : Nat)
    (start : α) : Search.Record α × σ :=
  (Search.fromPoint finder.config rounds start).run
    finder.oracle finder.world

/-- The record and the checked answer of a search, and the state in which it
leaves the oracle. -/
def checkedSearch
    (finder : Finder σ α)
    (rounds : Nat)
    (start : α) :
    (Search.Record α × Option (Except ConvergenceError α)) × σ :=
  (Search.checkedFromPoint finder.config rounds start).run
    finder.oracle finder.world

/-- The answer of a search, NaN if it was aborted. -/
def solve
    (finder : Finder σ α)
    (rounds : Nat)
    (start : α) : Option α :=
  (finder.search rounds start).1.root?

/-- The checked answer of a search. -/
def trySolve
    (finder : Finder σ α)
    (rounds : Nat)
    (start : α) : Option (Except ConvergenceError α) :=
  (finder.checkedSearch rounds start).1.2

/-- An answer does not depend on the number of rounds that are allowed. -/
theorem solve_add
    (finder : Finder σ α)
    (rounds extra : Nat)
    (start root : α)
    (answered : finder.solve rounds start = some root) :
    finder.solve (rounds + extra) start = some root := by
  have ended : (finder.search rounds start).1.ending.isSome := by
    rw [← Search.Record.root?_isSome]
    change (finder.solve rounds start).isSome
    rw [answered]
    rfl
  have same : finder.search (rounds + extra) start =
      finder.search rounds start :=
    Search.run_add_of_ending_isSome finder.config rounds extra
      (.start start) finder.oracle finder.world ended
  rw [solve, same]
  exact answered

/-- The answers of the searches from every starting point. -/
def solveMany
    (finder : Finder σ α)
    (rounds : Nat)
    (starts : List α) : List (Option α) :=
  starts.map (finder.solve rounds)

end Finder

section Functions

variable [FloatingPoint α]

/-- The finder of two pure functions, configured by settings. -/
def Finder.ofFunctions
    (function derivative : α -> α)
    (settings : List (Setting α)) : Finder Unit α where
  oracle := .ofFunctions function derivative
  world := ()
  config := .ofSettings settings

/-- Search for a root of a pure function. -/
def find
    (function derivative : α -> α)
    (rounds : Nat)
    (start : α)
    (settings : List (Setting α)) : Option α :=
  (Finder.ofFunctions function derivative settings).solve rounds start

/-- Search for a root of a pure function, and check it. -/
def tryFind
    (function derivative : α -> α)
    (rounds : Nat)
    (start : α)
    (settings : List (Setting α)) : Option (Except ConvergenceError α) :=
  (Finder.ofFunctions function derivative settings).trySolve rounds start

end Functions
end RootFinding
