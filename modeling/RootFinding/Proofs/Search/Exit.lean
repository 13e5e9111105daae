import Mathlib.Order.Bounds.Basic
import RootFinding.Proofs.FloatingPoint.Binary
import RootFinding.Proofs.Search.Reachable

/-!
# The exit of a search

A search counts its accepted steps and nothing else.  `Turn.MayEnd` says after
which of them it may end; the invariant is that an accepted step may end the
search exactly when it is the last step of a search that has finished
(`Reaches.mayEnd_iff`).  The number of accepted steps of a finished search is
therefore the least one that allows it to end, and NaN is only the answer of an
aborted search.
-/

namespace RootFinding

open FloatingPoint

namespace Search

variable [FloatingPoint α]

/-- The accepted step of a number, counted from one, may end a search: enough
steps are accepted, and the convergence test succeeds or no more steps are
allowed. -/
def Turn.MayEnd (config : Config α) (count : Nat) (turn : Turn α) : Prop :=
  config.minIterations ≤ count ∧
    ((∃ value, turn.test = some value ∧
        Arithmetic.abs value < config.targetPrecision) ∨
      config.maxIterations ≤ count)

/-- The numbers of accepted steps after which a search may end. -/
def Record.exits (config : Config α) (record : Record α) : Set Nat :=
  {count | ∃ index turn, record.acceptances[index]? = some turn ∧
    count = index + 1 ∧ turn.MayEnd config count}

/-- A round ends the search as finished exactly when it accepts a candidate and
may end the search. -/
theorem Turn.Fits.finished_iff
    {config : Config α}
    {state : State α}
    {turn : Turn α}
    (fits : turn.Fits config state) :
    config.ending? (state.after turn) turn = some .finished ↔
      turn.isAccepted = true ∧ turn.MayEnd config (state.accepted + 1) := by
  cases fits with
  | retry => simp
  | abort => simp
  | untested judged tooFew =>
      simp only [Config.ending?_untested, reduceCtorEq, false_iff, not_and]
      intro _ mayEnd
      exact Nat.not_lt_of_le mayEnd.1 tooFew
  | tested judged enough =>
      simp only [Config.ending?_tested, Config.converged,
        Turn.isAccepted_accept, Turn.MayEnd, enough, State.after_accept]
      simp [or_iff_not_imp_left]

end Search

namespace Finder.Reaches

open Search

variable [FloatingPoint α]
  {finder : Finder σ α} {start : α} {record : Record α} {world : σ}

/-- An accepted step may end a search exactly when it is the last step of a
search that has finished. -/
theorem mayEnd_iff
    (reached : finder.Reaches start record world) :
    ∀ index turn, record.acceptances[index]? = some turn ->
      (turn.MayEnd finder.config (index + 1) ↔
        record.ending = some .finished ∧
          index + 1 = record.acceptances.length) := by
  induction reached with
  | start => simp [Record.acceptances, Record.start]
  | @round record world last world' reached going played hypothesis =>
      intro index turn found
      have fits := fits_of_play played
      -- The search was going on, so no earlier step may have ended it.
      have noExit : ∀ (index : Nat) (turn : Turn α),
          record.acceptances[index]? = some turn ->
            ¬turn.MayEnd finder.config (index + 1) := by
        intro index turn found mayEnd
        have ended := ((hypothesis index turn found).mp mayEnd).1
        rw [going] at ended
        cases ended
      rw [Record.ending_extend, fits.finished_iff, reached.accepted_eq]
      rw [Record.acceptances_extend] at found ⊢
      cases accepted : last.isAccepted with
      | false =>
          rw [accepted, if_neg Bool.false_ne_true, List.append_nil] at found
          simp [noExit index turn found]
      | true =>
          rw [accepted, if_pos rfl] at found
          rw [if_pos rfl, List.length_append, List.length_singleton]
          rcases Nat.lt_or_ge index record.acceptances.length with before | after
          · rw [List.getElem?_append_left before] at found
            simp [noExit index turn found, Nat.ne_of_lt before]
          · rw [List.getElem?_append_right after,
              List.getElem?_singleton] at found
            obtain ⟨index_eq, rfl⟩ : index - record.acceptances.length = 0 ∧
                last = turn := by
              simpa using found
            obtain rfl : index = record.acceptances.length := by omega
            simp

/-- A search that was aborted was aborted by its last candidate, which is
NaN. -/
theorem isNaN_of_aborted
    (reached : finder.Reaches start record world)
    (aborted : record.ending = some .aborted) :
    ∃ turn earlier, record.turns = turn :: earlier ∧
      isNaN turn.candidate = true := by
  cases reached with
  | start => cases aborted
  | round reached going played =>
      have judgement := (fits_of_play played).judgement
      cases fits_of_play played with
      | retry => simp at aborted
      | untested => simp at aborted
      | tested =>
          rw [Record.ending_extend, Config.ending?_tested] at aborted
          split at aborted <;> cases aborted
      | abort =>
          cases judgement with
          | undefined undefined => exact ⟨_, _, rfl, undefined⟩

/-- Accepted points are not NaN. -/
theorem isNaN_of_mem_iterates
    (reached : finder.Reaches start record world) :
    ∀ x ∈ record.iterates, isNaN x = false :=
  reached.forall_iterates fun judgement => judgement.of_accept.1

/-- The accepted steps are at most as many as the larger limit, unless both
limits are zero. -/
theorem accepted_le
    (reached : finder.Reaches start record world) :
    record.state.accepted ≤
      max 1 (max finder.config.minIterations finder.config.maxIterations) := by
  rw [reached.accepted_eq]
  rcases Nat.lt_or_ge record.acceptances.length 2 with few | many
  · omega
  · -- The last step but one did not end the search, so it is below a limit.
    obtain ⟨index, length_eq⟩ := Nat.exists_eq_add_of_le' many
    have inside : index < record.acceptances.length := by omega
    have noExit := reached.mayEnd_iff index _
      (List.getElem?_eq_getElem inside)
    have notLast : ¬(record.ending = some .finished ∧
        index + 1 = record.acceptances.length) := by
      omega
    rw [← noExit, Turn.MayEnd] at notLast
    omega

/-- The accepted steps of a finished search are the least number of them that
allows it to end. -/
theorem isLeast_exits
    (reached : finder.Reaches start record world)
    (finished : record.ending = some .finished) :
    IsLeast (record.exits finder.config) record.state.accepted := by
  have accepted_eq := reached.accepted_eq
  have notEmpty : record.acceptances ≠ [] := by
    intro empty
    have last := reached.getLast?_iterates finished
    simp [Record.iterates, empty] at last
  constructor
  · obtain ⟨index, length_eq⟩ := Nat.exists_eq_add_one_of_ne_zero
      (List.length_pos_iff.mpr notEmpty).ne'
    have inside : index < record.acceptances.length := by omega
    have found := List.getElem?_eq_getElem inside
    refine ⟨index, _, found, by omega, ?_⟩
    rw [accepted_eq, length_eq]
    exact (reached.mayEnd_iff index _ found).mpr ⟨finished, length_eq.symm⟩
  · rintro count ⟨index, turn, found, rfl, mayEnd⟩
    have last := ((reached.mayEnd_iff index turn found).mp mayEnd).2
    omega

/-- The convergence test of an accepted step is skipped when too few steps are
accepted, and is the last call of the search otherwise. -/
theorem head?_calls
    {calls : List (Call α)}
    (reached : finder.recorded.Reaches start record (world, calls))
    {turn : Turn α}
    {earlier : List (Turn α)}
    (turns_eq : record.turns = turn :: earlier)
    (accepted : turn.isAccepted = true) :
    if record.state.accepted < finder.config.minIterations then
      turn.test = none
    else
      ∃ value, turn.test = some value ∧
        calls.head? = some ⟨.value turn.candidate, value⟩ := by
  cases reached with
  | start => cases turns_eq
  | round reached going played =>
      obtain ⟨rfl, rfl⟩ := List.cons.inj turns_eq
      cases fits_of_play played with
      | retry => cases accepted
      | abort => cases accepted
      | untested judged tooFew =>
          rw [Record.state_extend, State.after_accept]
          exact (if_pos tooFew).mpr rfl
      | tested judged enough =>
          rw [Record.state_extend, State.after_accept]
          refine (if_neg (Nat.not_lt_of_le enough)).mpr ?_
          obtain ⟨between, reply⟩ := asked_of_play played rfl
          obtain ⟨value_eq, state_eq⟩ := Prod.mk.inj reply
          obtain ⟨-, rfl⟩ := Prod.mk.inj state_eq
          exact ⟨_, rfl, by rw [← value_eq]; rfl⟩

end Finder.Reaches

namespace Finder

open Search

variable [FloatingPoint α]

/-- The ways in which a search can come to an answer. -/
inductive Answered
    (finder : Finder σ α)
    (rounds : Nat)
    (start root : α) : Prop where
  /-- The answer is NaN, because the last candidate was. -/
  | aborted {turn : Turn α} {earlier : List (Turn α)}
      (undefined : isNaN root = true)
      (ending :
        (finder.search rounds start).1.ending = some .aborted)
      (turns_eq :
        (finder.search rounds start).1.turns = turn :: earlier)
      (undefined_candidate : isNaN turn.candidate = true)
  /-- The answer is the last accepted point, after the least number of accepted
  steps that allows the search to end. -/
  | finished
      (defined : isNaN root = false)
      (ending :
        (finder.search rounds start).1.ending = some .finished)
      (last : (finder.search rounds start).1.iterates.getLast? = some root)
      (least :
        IsLeast ((finder.search rounds start).1.exits finder.config)
          (finder.search rounds start).1.state.accepted)

/-- Every answer is one of these. -/
theorem answered_of_solve
    [LawfulFloatingPoint α]
    {finder : Finder σ α}
    {rounds : Nat}
    {start root : α}
    (solved : finder.solve rounds start = some root) :
    finder.Answered rounds start root := by
  have reached := finder.search_reaches rounds start
  rcases (finder.solve_eq_some_iff rounds start root).mp solved with
    ⟨aborted, rfl⟩ | ⟨finished, rfl⟩
  · obtain ⟨turn, earlier, turns_eq, undefined⟩ :=
      reached.isNaN_of_aborted aborted
    exact .aborted LawfulFloatingPoint.isNaN_nan aborted turns_eq undefined
  · have last := reached.getLast?_iterates finished
    have defined := reached.isNaN_of_mem_iterates _
      (List.mem_of_getLast? last)
    exact .finished defined finished last (reached.isLeast_exits finished)

/-- How a search counts its accepted steps, and how it ends. -/
structure ExitLaw
    (finder : Finder σ α)
    (rounds : Nat)
    (start : α) : Prop where
  /-- The accepted candidates are counted. -/
  accepted_eq :
    (finder.search rounds start).1.state.accepted =
      (finder.search rounds start).1.iterates.length
  /-- A retry does not advance the count. -/
  accepted_retry (turn : Turn α) :
    (finder.search (rounds + 1) start).1.turns =
        turn :: (finder.search rounds start).1.turns ->
      turn.isRetry = true ->
      (finder.search (rounds + 1) start).1.state.accepted =
        (finder.search rounds start).1.state.accepted
  /-- The count is bounded at every moment. -/
  accepted_le :
    (finder.search rounds start).1.state.accepted ≤
      max 1 (max finder.config.minIterations finder.config.maxIterations)
  /-- The value of a convergence test is the reply to the last question, which
  is about the accepted point. -/
  tested (turn : Turn α) (earlier : List (Turn α)) :
    (finder.search rounds start).1.turns = turn :: earlier ->
      turn.isAccepted = true ->
      if (finder.search rounds start).1.state.accepted <
          finder.config.minIterations then
        turn.test = none
      else
        ∃ value, turn.test = some value ∧
          (finder.transcript rounds start).getLast? =
            some ⟨.value turn.candidate, value⟩
  /-- An answer is the first accepted point at which the search may end, or it
  is NaN. -/
  answered (root : α) :
    finder.solve rounds start = some root ->
      finder.Answered rounds start root
  /-- When the lower limit wins, it is met exactly. -/
  accepted_of_le (root : α) :
    finder.config.maxIterations ≤ finder.config.minIterations ->
      finder.solve rounds start = some root ->
      isNaN root = false ->
      (finder.search rounds start).1.state.accepted =
        max 1 finder.config.minIterations

/-- The searches of every finder obey the exit law. -/
theorem search_exitLaw
    [LawfulFloatingPoint α]
    (finder : Finder σ α)
    (rounds : Nat)
    (start : α) :
    finder.ExitLaw rounds start := by
  have reached := finder.search_reaches rounds start
  refine
    { accepted_eq := ?_
      accepted_retry := ?_
      accepted_le := reached.accepted_le
      tested := ?_
      answered := fun root => answered_of_solve
      accepted_of_le := ?_ }
  · rw [reached.accepted_eq, Record.iterates, List.length_map]
  · intro turn turns_eq retry
    obtain ⟨fits, state_eq⟩ := of_search_succ turns_eq
    rw [state_eq]
    cases fits with
    | retry => rfl
    | abort | untested | tested => cases retry
  · intro turn earlier turns_eq accepted
    have kept := finder.recorded.search_reaches rounds start
    rw [← finder.search_recorded] at turns_eq
    have tested := kept.head?_calls turns_eq accepted
    rw [finder.search_recorded] at tested
    rw [transcript, List.getLast?_reverse]
    exact tested
  · intro root wins solved defined
    cases answered_of_solve solved with
    | aborted undefined =>
        rw [defined] at undefined
        cases undefined
    | finished defined ending last least =>
        have bounded := reached.accepted_le
        obtain ⟨index, turn, -, accepted_eq, mayEnd⟩ := least.1
        have enough := mayEnd.1
        omega

/-- The exit law of a Newton search for the root of 612 that takes exactly one
step, because neither limit is larger. -/
theorem search_exitLaw_squareRoot :
    let finder : Finder Unit Float :=
      .ofFunctions (fun x => x * x - 612.0) (fun x => 2.0 * x)
        [.minIterations 1, .maxIterations 1]
    finder.solve 2 10.0 = some 35.6 ∧ finder.ExitLaw 2 10.0 :=
  ⟨by decide +kernel, search_exitLaw _ 2 10.0⟩

end Finder
end RootFinding
