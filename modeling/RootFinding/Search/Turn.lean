import RootFinding.Event

/-!
# Turns of a search

A search moves from one `Search.State` to the next by turns.  A `Search.Turn`
says where a round began, which candidate the method proposed there, what
became of it, and which value the function had in the convergence test, if
there was one.  The next state is a function of the state and the turn alone:
a retry changes nothing but the current point and the number of retries, and
only an accepted candidate is counted and may be recorded.
-/

namespace RootFinding

/-- What becomes of a candidate. -/
inductive Verdict (α : Type) where
  /-- The round is repeated from another point. -/
  | retry (obstacle : Obstacle) (point : α)
  /-- The search ends without an answer. -/
  | abort
  /-- The candidate is the next point, and may be recorded against cycles. -/
  | accept (recorded : Bool)
  deriving Repr

/-- Whether a candidate is refused for now. -/
def Verdict.isRetry : Verdict α -> Bool
  | .retry _ _ => true
  | _ => false

/-- How a search can end. -/
inductive Ending where
  /-- The method proposed NaN. -/
  | aborted
  /-- Enough candidates were accepted. -/
  | finished
  deriving Repr, DecidableEq

namespace Search

/-- Where a search stands between two rounds. -/
structure State (α : Type) where
  /-- The point from which the next step is taken. -/
  current : α
  /-- The number of accepted candidates. -/
  accepted : Nat
  /-- The number of repeated rounds. -/
  retries : Nat
  /-- The recorded candidates, the latest one first. -/
  seen : List α
  deriving Repr

/-- The state before the first round. -/
def State.start (point : α) : State α where
  current := point
  accepted := 0
  retries := 0
  seen := []

/-- What happened in one round. -/
structure Turn (α : Type) where
  /-- The point at which the round began. -/
  current : α
  /-- The candidate that the method proposed there. -/
  candidate : α
  /-- What became of the candidate. -/
  verdict : Verdict α
  /-- The value of the function in the convergence test, if there was one. -/
  test : Option α
  deriving Repr

/-- Whether the candidate of a round was accepted. -/
def Turn.isAccepted (turn : Turn α) : Bool :=
  match turn.verdict with
  | .accept _ => true
  | _ => false

/-- Whether a round was a retry. -/
def Turn.isRetry (turn : Turn α) : Bool :=
  turn.verdict.isRetry

@[simp] theorem Turn.isAccepted_retry
    (current candidate point : α)
    (obstacle : Obstacle)
    (test : Option α) :
    isAccepted ⟨current, candidate, .retry obstacle point, test⟩ = false := rfl

@[simp] theorem Turn.isAccepted_abort
    (current candidate : α)
    (test : Option α) :
    isAccepted ⟨current, candidate, .abort, test⟩ = false := rfl

@[simp] theorem Turn.isAccepted_accept
    (current candidate : α)
    (recorded : Bool)
    (test : Option α) :
    isAccepted ⟨current, candidate, .accept recorded, test⟩ = true := rfl

@[simp] theorem Turn.isRetry_retry
    (current candidate point : α)
    (obstacle : Obstacle)
    (test : Option α) :
    isRetry ⟨current, candidate, .retry obstacle point, test⟩ = true := rfl

@[simp] theorem Turn.isRetry_abort
    (current candidate : α)
    (test : Option α) :
    isRetry ⟨current, candidate, .abort, test⟩ = false := rfl

@[simp] theorem Turn.isRetry_accept
    (current candidate : α)
    (recorded : Bool)
    (test : Option α) :
    isRetry ⟨current, candidate, .accept recorded, test⟩ = false := rfl

/-- The event that a round reports, if it was a retry. -/
def Turn.event? (turn : Turn α) : Option (Event α) :=
  match turn.verdict with
  | .retry obstacle _ => some (.retry obstacle turn.current turn.candidate)
  | _ => none

/-- The state after a round. -/
def State.after (state : State α) (turn : Turn α) : State α :=
  match turn.verdict with
  | .retry _ point =>
      { state with current := point, retries := state.retries + 1 }
  | .abort => state
  | .accept recorded =>
      { state with
        current := turn.candidate
        accepted := state.accepted + 1
        seen := if recorded then turn.candidate :: state.seen
          else state.seen }

/-- A retry moves the current point and is counted; nothing else changes. -/
@[simp] theorem State.after_retry
    (state : State α)
    (current candidate point : α)
    (obstacle : Obstacle)
    (test : Option α) :
    state.after ⟨current, candidate, .retry obstacle point, test⟩ =
      ⟨point, state.accepted, state.retries + 1, state.seen⟩ := rfl

/-- The turn that aborts a search leaves its state as it was. -/
@[simp] theorem State.after_abort
    (state : State α)
    (current candidate : α)
    (test : Option α) :
    state.after ⟨current, candidate, .abort, test⟩ = state := rfl

/-- An accepted candidate becomes the current point and is counted. -/
@[simp] theorem State.after_accept
    (state : State α)
    (current candidate : α)
    (recorded : Bool)
    (test : Option α) :
    state.after ⟨current, candidate, .accept recorded, test⟩ =
      ⟨candidate, state.accepted + 1, state.retries,
        if recorded then candidate :: state.seen else state.seen⟩ := rfl

end Search
end RootFinding
