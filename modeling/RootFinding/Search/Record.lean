import RootFinding.Search.Round

/-!
# Records of a search

A `Search.Record` holds everything that happened in a search: the state it is
in, all its turns, and how it ended, if it has.  The answer, the events, and the
accepted points are read off the record.
-/

namespace RootFinding
namespace Search

/-- Everything that happened in a search so far. -/
structure Record (α : Type) where
  /-- Where the search stands. -/
  state : State α
  /-- The rounds, the latest one first. -/
  turns : List (Turn α)
  /-- How the search has ended, if it has. -/
  ending : Option Ending
  deriving Repr

namespace Record

/-- The record before the first round. -/
def start (point : α) : Record α where
  state := .start point
  turns := []
  ending := none

/-- The rounds in which a candidate was accepted, in order. -/
def acceptances (record : Record α) : List (Turn α) :=
  record.turns.reverse.filter Turn.isAccepted

/-- The accepted points, in order. -/
def iterates (record : Record α) : List α :=
  record.acceptances.map Turn.candidate

/-- The state as it is shown in the last event. -/
def summary (config : Config α) (record : Record α) : SearchSummary α where
  current := record.state.current
  iterations := record.state.accepted
  retries := record.state.retries
  method := config.method.name

/-- The events of a search, in order: one for each retry, and one for its end. -/
def events (config : Config α) (record : Record α) : List (Event α) :=
  let retries := record.turns.reverse.filterMap Turn.event?
  match record.ending with
  | none => retries
  | some .aborted => retries ++ [.aborted (record.summary config)]
  | some .finished => retries ++ [.finished (record.summary config)]

variable [FloatingPoint α]

/-- The record after one more round. -/
def extend
    (config : Config α)
    (record : Record α)
    (turn : Turn α) : Record α where
  state := record.state.after turn
  turns := turn :: record.turns
  ending := config.ending? (record.state.after turn) turn

@[simp] theorem state_extend
    (config : Config α)
    (record : Record α)
    (turn : Turn α) :
    (record.extend config turn).state = record.state.after turn := rfl

@[simp] theorem turns_extend
    (config : Config α)
    (record : Record α)
    (turn : Turn α) :
    (record.extend config turn).turns = turn :: record.turns := rfl

@[simp] theorem ending_extend
    (config : Config α)
    (record : Record α)
    (turn : Turn α) :
    (record.extend config turn).ending =
      config.ending? (record.state.after turn) turn := rfl

/-- The answer of a search that has ended, NaN if it was aborted. -/
def root? (record : Record α) : Option α :=
  match record.ending with
  | none => none
  | some .aborted => some FloatingPoint.nan
  | some .finished => some record.state.current

/-- A record has an answer exactly when the search has ended. -/
theorem root?_isSome (record : Record α) :
    record.root?.isSome = record.ending.isSome := by
  unfold root?
  cases record.ending with
  | none => rfl
  | some ending => cases ending <;> rfl

/-- A further round is the last one of the accepted rounds, if it is one. -/
theorem acceptances_extend
    (config : Config α)
    (record : Record α)
    (turn : Turn α) :
    (record.extend config turn).acceptances =
      record.acceptances ++ if turn.isAccepted then [turn] else [] := by
  unfold acceptances extend
  rw [List.reverse_cons, List.filter_append]
  cases accepted : turn.isAccepted with
  | false => simp [accepted]
  | true => simp [accepted]

/-- An accepted candidate is the last one of the accepted points. -/
theorem iterates_extend
    (config : Config α)
    (record : Record α)
    (turn : Turn α) :
    (record.extend config turn).iterates =
      record.iterates ++ if turn.isAccepted then [turn.candidate] else [] := by
  unfold iterates
  rw [acceptances_extend, List.map_append]
  cases turn.isAccepted <;> rfl

end Record
end Search
end RootFinding
