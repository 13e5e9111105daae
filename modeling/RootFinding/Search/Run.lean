import RootFinding.ConvergenceError
import RootFinding.Search.Record

/-!
# Runs of a search

Accepted steps are bounded by the configuration, but nothing bounds the number
of retries.  `Search.run` is therefore told how many rounds it may take, and the
record it answers with says whether the search has ended by then; a search that
has ended stays as it is, and rounds may be allotted in parts.
-/

namespace RootFinding
namespace Search

variable [FloatingPoint α]

/-- Go on with a search for at most the given number of rounds. -/
def run (config : Config α) : Nat -> Record α -> Inquiry α (Record α)
  | 0, record => return record
  | rounds + 1, record =>
      match record.ending with
      | some _ => return record
      | none => do
          let turn ← round config record.state
          run config rounds (record.extend config turn)

/-- The search from a point, for at most the given number of rounds. -/
def fromPoint
    (config : Config α)
    (rounds : Nat)
    (start : α) : Inquiry α (Record α) :=
  run config rounds (.start start)

@[simp] theorem run_zero
    (config : Config α)
    (record : Record α) :
    run config 0 record = .answer record := rfl

/-- A search that has not ended takes one more round. -/
theorem run_succ_of_ending_eq_none
    (config : Config α)
    (rounds : Nat)
    (record : Record α)
    (going : record.ending = none) :
    run config (rounds + 1) record =
      round config record.state >>= fun turn =>
        run config rounds (record.extend config turn) := by
  rw [run, going]

/-- A search that has ended stays as it is. -/
theorem run_of_ending_isSome
    (config : Config α)
    (rounds : Nat)
    (record : Record α)
    (ended : record.ending.isSome) :
    run config rounds record = .answer record := by
  cases rounds with
  | zero => rfl
  | succ rounds =>
      obtain ⟨ending, ending_eq⟩ := Option.isSome_iff_exists.mp ended
      rw [run, ending_eq]
      rfl

/-- Rounds may be allotted in two parts. -/
theorem run_add
    (config : Config α)
    (first second : Nat)
    (record : Record α) :
    run config (first + second) record =
      run config first record >>= run config second := by
  induction first generalizing record with
  | zero =>
      rw [Nat.zero_add, run_zero, Inquiry.answer_bind]
  | succ first hypothesis =>
      cases ending_eq : record.ending with
      | some ending =>
          have ended : record.ending.isSome := by
            rw [ending_eq]
            rfl
          rw [run_of_ending_isSome config _ record ended,
            run_of_ending_isSome config _ record ended,
            Inquiry.answer_bind,
            run_of_ending_isSome config _ record ended]
      | none =>
          rw [Nat.succ_add,
            run_succ_of_ending_eq_none config _ record ending_eq,
            run_succ_of_ending_eq_none config _ record ending_eq,
            Inquiry.bind_assoc]
          exact congrArg (round config record.state >>= ·)
            (funext fun turn => hypothesis (record.extend config turn))

/-- More rounds change neither the record of a search that has ended nor what
it has asked. -/
theorem run_add_of_ending_isSome
    (config : Config α)
    (rounds extra : Nat)
    (record : Record α)
    (oracle : Oracle σ α)
    (world : σ)
    (ended :
      ((run config rounds record).run oracle world).1.ending.isSome) :
    (run config (rounds + extra) record).run oracle world =
      (run config rounds record).run oracle world := by
  rw [run_add, Inquiry.run_bind, run_of_ending_isSome config extra _ ended,
    Inquiry.run_answer]

/-! ## Checked answers -/

/-- Accept the answer of a search if it is finite and the function is close
enough to zero there, which takes one more question. -/
def check
    (config : Config α)
    (root : α) : Inquiry α (Except ConvergenceError α) :=
  if FloatingPoint.isFinite root then do
    let residual := Arithmetic.abs (← .value root)
    if FloatingPoint.isNaN residual
        || decide (config.targetPrecision ≤ residual) then
      return .error .iterations
    else
      return .ok root
  else
    return .error .nonFinite

/-- A search followed by the check of its answer, once it has one. -/
def checkedFromPoint
    (config : Config α)
    (rounds : Nat)
    (start : α) :
    Inquiry α (Record α × Option (Except ConvergenceError α)) := do
  let record ← fromPoint config rounds start
  match record.root? with
  | none => return (record, none)
  | some root => return (record, some (← check config root))

end Search
end RootFinding
