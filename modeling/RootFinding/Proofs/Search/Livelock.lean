import RootFinding.Proofs.Search.Exit
import RootFinding.Proofs.Search.Plain
import RootFinding.Proofs.Search.Stopping

/-!
# Searches that never end

No limit counts the retries of a search.  A retry changes nothing but the current
point, so one that leaves even that where it was is made again and again
(`State.Stuck.eval_run`).  This is what happens at a limit beyond which the method
points (`State.Stuck.ofUpper`, `State.Stuck.ofLower`), however few steps are
allowed.

There is no other way to go on for ever than by retries: the steps are bounded, so
all but finitely many rounds of a search that never ends are retries
(`exists_forall_retry`).
-/

namespace RootFinding

open FloatingPoint

namespace Search

variable [FloatingPoint α]
  {config : Config α} {function derivative : α -> α} {state : State α}

/-- What two functions propose in a state sends the search back to the point where
it is. -/
def State.Stuck
    (config : Config α)
    (function derivative : α -> α)
    (state : State α) : Prop :=
  ∃ obstacle,
    (proposedTurn config function derivative state).verdict =
      .retry obstacle state.current

/-- The state after this many retries from the same point. -/
def State.retried (state : State α) (count : Nat) : State α :=
  { state with retries := state.retries + count }

omit [FloatingPoint α] in
theorem State.retried_retried (state : State α) (first second : Nat) :
    (state.retried first).retried second = state.retried (first + second) := by
  rw [retried, retried, retried, Nat.add_assoc]

/-- Retries do not free a search. -/
theorem State.Stuck.retried
    (stuck : state.Stuck config function derivative)
    (count : Nat) :
    (state.retried count).Stuck config function derivative :=
  stuck

theorem State.Stuck.after_proposedTurn
    (stuck : state.Stuck config function derivative) :
    state.after (proposedTurn config function derivative state) =
      state.retried 1 := by
  obtain ⟨obstacle, verdict_eq⟩ := stuck
  rw [State.after, verdict_eq]
  rfl

/-- A search that is stuck plays the round that is proposed, wherever it is told to
stop. -/
theorem State.Stuck.eval_round
    (stuck : state.Stuck config function derivative)
    (stopping : Stopping α) :
    (round (config.stopping stopping) state).eval function derivative =
      proposedTurn config function derivative state := by
  obtain ⟨obstacle, judged⟩ := stuck
  have notTested :
      testAfter (config.stopping stopping) state
        ((config.method.step state.current).eval function derivative) =
          .answer none := by
    unfold testAfter
    split
    case h_1 recorded accepted =>
      cases judged.symm.trans accepted
    case h_2 => rfl
  rw [round_eq_bind, Inquiry.eval_bind, Inquiry.eval_bind]
  exact congrArg
    (fun test => Turn.mk state.current _ _ (Inquiry.eval function derivative test))
    notTested

/-- A search that is stuck makes nothing but retries, wherever it is told to
stop. -/
theorem State.Stuck.eval_run
    {record : Record α}
    (stuck : record.state.Stuck config function derivative)
    (going : record.ending = none)
    (stopping : Stopping α)
    (rounds : Nat) :
    let final :=
      (run (config.stopping stopping) rounds record).eval function derivative
    final.ending = none ∧ final.state = record.state.retried rounds := by
  induction rounds generalizing record with
  | zero => exact ⟨going, rfl⟩
  | succ rounds hypothesis =>
      intro final
      -- The proposed round is played, and the search is stuck after it as before.
      let turn := proposedTurn config function derivative record.state
      let next := record.extend (config.stopping stopping) turn
      have state_eq : next.state = record.state.retried 1 :=
        stuck.after_proposedTurn
      have going' : next.ending = none := by
        obtain ⟨obstacle, verdict_eq⟩ := stuck
        rw [Record.ending_extend, Config.ending?, verdict_eq]
      have final_eq :
          final =
            (run (config.stopping stopping) rounds next).eval
              function derivative := by
        change Inquiry.eval function derivative (run _ _ _) = _
        rw [run_succ_of_ending_eq_none _ _ _ going, Inquiry.eval_bind,
          stuck.eval_round stopping]
      have stuck' : next.state.Stuck config function derivative := by
        rw [state_eq]
        exact stuck.retried 1
      obtain ⟨ending_eq, final_state⟩ := hypothesis stuck' going'
      rw [final_eq]
      refine ⟨ending_eq, final_state.trans ?_⟩
      rw [state_eq, State.retried_retried, Nat.add_comm]

/-- Why a round is repeated, if it is. -/
def Turn.obstacle? (turn : Turn α) : Option Obstacle :=
  match turn.verdict with
  | .retry obstacle _ => some obstacle
  | _ => none

omit [FloatingPoint α] in
theorem Turn.verdict_of_obstacle?
    {turn : Turn α}
    {obstacle : Obstacle}
    (obstacle_eq : turn.obstacle? = some obstacle) :
    ∃ point, turn.verdict = .retry obstacle point := by
  unfold obstacle? at obstacle_eq
  split at obstacle_eq
  case h_1 obstacle' point verdict_eq =>
    rw [verdict_eq, Option.some.inj obstacle_eq]
    exact ⟨point, rfl⟩
  case h_2 => cases obstacle_eq

/-! ## Limits that hold a search -/

/-- A search is stuck at the upper limit if the candidate there is beyond it. -/
theorem State.Stuck.ofUpper
    (atUpper : state.current = config.upper)
    (fixed : halfway config.upper config.upper = config.upper)
    (notInfinite :
      isInfinite (proposedTurn config function derivative state).candidate =
        false)
    (above :
      config.upper < (proposedTurn config function derivative state).candidate) :
    state.Stuck config function derivative := by
  refine ⟨.upperLimit, ?_⟩
  change config.judge state
    (proposedTurn config function derivative state).candidate = _
  rw [Config.judge, notInfinite, if_pos (by simpa using above), atUpper, fixed]

/-- A search is stuck at the lower limit if the candidate there is beyond it, and
not beyond the upper limit as well. -/
theorem State.Stuck.ofLower
    (atLower : state.current = config.lower)
    (fixed : halfway config.lower config.lower = config.lower)
    (notInfinite :
      isInfinite (proposedTurn config function derivative state).candidate =
        false)
    (notAbove :
      ¬config.upper < (proposedTurn config function derivative state).candidate)
    (below :
      (proposedTurn config function derivative state).candidate < config.lower) :
    state.Stuck config function derivative := by
  refine ⟨.lowerLimit, ?_⟩
  change config.judge state
    (proposedTurn config function derivative state).candidate = _
  rw [Config.judge, notInfinite, if_neg (by simpa using notAbove),
    if_pos (by simpa using below), atLower, fixed]

end Search

namespace Finder

open Search

variable [FloatingPoint α]

/-- A search that goes on for ever from a moment on, wherever it is told to stop
from then on. -/
structure Trapped
    (function derivative : α -> α)
    (config : Config α)
    (rounds : Nat)
    (start : α) : Prop where
  unsolved (rounds' : Nat) :
    (ofConfig function derivative config).solve rounds' start = none
  goesOn (stopping : Stopping α) (more : Nat) :
    ((run (config.stopping stopping) more
      ((ofConfig function derivative config).search rounds start).1).eval
        function derivative).root? = none

/-- Over functions, a search goes on as the functions reply. -/
theorem search_ofConfig_add
    (function derivative : α -> α)
    (config : Config α)
    (rounds extra : Nat)
    (start : α) :
    ((ofConfig function derivative config).search (rounds + extra) start).1 =
      (run config extra
        ((ofConfig function derivative config).search rounds start).1).eval
          function derivative := by
  rw [search_add]
  exact congrArg Prod.fst (Oracle.run_ofFunctions function derivative _)

/-- A search has no answer as long as it is going on. -/
theorem solve_eq_none_of_le
    {finder : Finder σ α}
    {rounds rounds' : Nat}
    {start : α}
    (unsolved : finder.solve rounds start = none)
    (le : rounds' ≤ rounds) :
    finder.solve rounds' start = none := by
  obtain ⟨extra, rfl⟩ := Nat.exists_eq_add_of_le le
  cases solved : finder.solve rounds' start with
  | none => rfl
  | some root =>
      rw [finder.solve_add rounds' extra start root solved] at unsolved
      cases unsolved

/-- A search that is stuck goes on for ever. -/
theorem trapped_of_stuck
    {function derivative : α -> α}
    {config : Config α}
    {rounds : Nat}
    {start : α}
    (going :
      ((ofConfig function derivative config).search rounds start).1.ending =
        none)
    (stuck :
      ((ofConfig function derivative config).search rounds start).1.state.Stuck
        config function derivative) :
    Trapped function derivative config rounds start := by
  have goesOn (stopping : Stopping α) (more : Nat) :
      ((run (config.stopping stopping) more
        ((ofConfig function derivative config).search rounds start).1).eval
          function derivative).root? = none := by
    rw [Record.root?, (stuck.eval_run going stopping more).1]
  refine ⟨fun rounds' => ?_, goesOn⟩
  have unsolved :
      (ofConfig function derivative config).solve (rounds + rounds') start =
        none := by
    rw [solve, search_ofConfig_add]
    exact goesOn
      ⟨config.minIterations, config.maxIterations, config.targetPrecision⟩
      rounds'
  exact solve_eq_none_of_le unsolved (Nat.le_add_left rounds' rounds)

/-- A retry that leaves the current point where it is shows that the search was
stuck. -/
theorem stuck_of_retry
    {function derivative : α -> α}
    {config : Config α}
    {rounds : Nat}
    {start : α}
    {turn : Turn α}
    (turns_eq :
      ((ofConfig function derivative config).search (rounds + 1) start).1.turns =
        turn :: ((ofConfig function derivative config).search
          rounds start).1.turns)
    (retry : turn.isRetry = true)
    (stays :
      ((ofConfig function derivative config).search
          (rounds + 1) start).1.state.current =
        ((ofConfig function derivative config).search
          rounds start).1.state.current) :
    ((ofConfig function derivative config).search rounds start).1.state.Stuck
      config function derivative := by
  obtain ⟨-, world', played, extended⟩ := played_of_search_succ turns_eq
  have proposed := congrArg Turn.verdict (withoutTest_of_play played)
  rw [extended] at stays
  cases fits_of_play played with
  | retry => exact ⟨_, proposed.symm.trans (congrArg _ stays)⟩
  | abort | untested | tested => cases retry

/-- After this many rounds, the next one is repeated because of an obstacle. -/
structure Meets
    (finder : Finder σ α)
    (start : α)
    (rounds : Nat)
    (obstacle : Obstacle)
    (turn : Turn α) : Prop where
  turns_eq :
    (finder.search (rounds + 1) start).1.turns =
      turn :: (finder.search rounds start).1.turns
  obstacle_eq : turn.obstacle? = some obstacle

/-- A search that is going on meets the obstacle of the round that it plays
next. -/
theorem meets_of_going
    {finder : Finder σ α}
    {start : α}
    {rounds : Nat}
    {obstacle : Obstacle}
    (going : (finder.search rounds start).1.ending = none)
    (obstacle_eq :
      (finder.play (finder.search rounds start).1.state
        (finder.search rounds start).2).1.obstacle? = some obstacle) :
    finder.Meets start rounds obstacle
      (finder.play (finder.search rounds start).1.state
        (finder.search rounds start).2).1 := by
  refine ⟨?_, obstacle_eq⟩
  rw [finder.search_succ_of_going rounds start going, Record.turns_extend]

/-- The search goes on where its candidate is judged to send it. -/
theorem Meets.judgement
    {finder : Finder σ α}
    {start : α}
    {rounds : Nat}
    {obstacle : Obstacle}
    {turn : Turn α}
    (meets : finder.Meets start rounds obstacle turn) :
    Judgement finder.config (finder.search rounds start).1.state turn.candidate
      (.retry obstacle (finder.search (rounds + 1) start).1.state.current) := by
  obtain ⟨fits, state_eq⟩ := of_search_succ meets.turns_eq
  have judgement := fits.judgement
  obtain ⟨point, verdict_eq⟩ := Turn.verdict_of_obstacle? meets.obstacle_eq
  rw [state_eq, State.after, verdict_eq]
  rwa [verdict_eq] at judgement

/-- A search that is sent back to where it is goes on for ever. -/
theorem Meets.trapped
    {function derivative : α -> α}
    {config : Config α}
    {start : α}
    {rounds : Nat}
    {obstacle : Obstacle}
    {turn : Turn α}
    (meets :
      (ofConfig function derivative config).Meets start rounds obstacle turn)
    (stays :
      ((ofConfig function derivative config).search
          (rounds + 1) start).1.state.current =
        ((ofConfig function derivative config).search
          rounds start).1.state.current) :
    Trapped function derivative config rounds start := by
  obtain ⟨point, verdict_eq⟩ := Turn.verdict_of_obstacle? meets.obstacle_eq
  have retry : turn.isRetry = true := by
    rw [Turn.isRetry, verdict_eq, Verdict.isRetry]
  exact trapped_of_stuck (played_of_search_succ meets.turns_eq).1
    (stuck_of_retry meets.turns_eq retry stays)

/-- In the format of 64 bits, only the zeros are equal without being the same. -/
theorem Meets.trapped_of_beq
    {function derivative : Float -> Float}
    {config : Config Float}
    {start : Float}
    {rounds : Nat}
    {obstacle : Obstacle}
    {turn : Turn Float}
    (meets :
      (ofConfig function derivative config).Meets start rounds obstacle turn)
    (stays :
      (((ofConfig function derivative config).search
          (rounds + 1) start).1.state.current ==
        ((ofConfig function derivative config).search
          rounds start).1.state.current) = true)
    (notZero :
      ((ofConfig function derivative config).search
          rounds start).1.state.current ≠ 0 ∧
        ((ofConfig function derivative config).search
          rounds start).1.state.current ≠ -0) :
    Trapped function derivative config rounds start := by
  obtain ⟨-, -, same⟩ := Float.beq_iff_ne_nan_and_eq.mp stays
  rcases same with same | ⟨-, zero⟩ | ⟨-, zero⟩
  · exact meets.trapped same
  · exact absurd zero notZero.2
  · exact absurd zero notZero.1

/-! ## Searches that go on for ever -/

section Endless

variable {finder : Finder σ α} {start : α}

/-- As long as a search is going on, it can accept one more step. -/
theorem Reaches.accepted_lt_of_going
    {record : Record α}
    {world : σ}
    (reached : finder.Reaches start record world)
    (going : record.ending = none) :
    record.state.accepted <
      max 1 (max finder.config.minIterations finder.config.maxIterations) := by
  refine lt_of_le_of_ne reached.accepted_le fun exhausted => ?_
  rw [reached.accepted_eq] at exhausted
  have inside :
      record.acceptances.length - 1 < record.acceptances.length := by
    omega
  have mayEnd := reached.mayEnd_iff _ _ (List.getElem?_eq_getElem inside)
  have finished := mayEnd.mp ⟨by omega, Or.inr (by omega)⟩
  rw [going] at finished
  cases finished.1

theorem going_of_solve_eq_none
    {rounds : Nat}
    (unsolved : finder.solve rounds start = none) :
    (finder.search rounds start).1.ending = none := by
  rw [← Option.not_isSome_iff_eq_none, ← isSome_solve, unsolved]
  exact Bool.false_ne_true

theorem accepted_le_accepted_succ
    (finder : Finder σ α)
    (start : α)
    (rounds : Nat) :
    (finder.search rounds start).1.state.accepted ≤
      (finder.search (rounds + 1) start).1.state.accepted := by
  rcases finder.search_succ_cases rounds start with
    ⟨-, same⟩ | ⟨-, turn, world', played, extended⟩
  · rw [same]
  · rw [extended]
    cases fits_of_play played with
    | retry | abort => exact le_rfl
    | untested | tested => exact Nat.le_succ _

/-- A round that accepts nothing is a retry, if the search goes on after it. -/
theorem exists_retry_of_accepted_eq
    {rounds : Nat}
    (goesOn : (finder.search (rounds + 1) start).1.ending = none)
    (accepted_eq :
      (finder.search (rounds + 1) start).1.state.accepted =
        (finder.search rounds start).1.state.accepted) :
    ∃ turn,
      (finder.search (rounds + 1) start).1.turns =
          turn :: (finder.search rounds start).1.turns ∧
        turn.isRetry = true := by
  rcases finder.search_succ_cases rounds start with
    ⟨ended, same⟩ | ⟨-, turn, world', played, extended⟩
  · rw [← same, goesOn] at ended
    cases ended
  · rw [extended] at goesOn accepted_eq ⊢
    refine ⟨turn, rfl, ?_⟩
    cases fits_of_play played with
    | retry => rfl
    | abort => cases goesOn
    | untested | tested => exact absurd accepted_eq (Nat.succ_ne_self _)

/-- From some round on, a search that never ends accepts nothing. -/
theorem exists_forall_retry
    (unsolved : ∀ rounds, finder.solve rounds start = none) :
    ∃ rounds, ∀ later, rounds ≤ later ->
      ∃ turn,
        (finder.search (later + 1) start).1.turns =
            turn :: (finder.search later start).1.turns ∧
          turn.isRetry = true := by
  let accepted (rounds : Nat) : Nat :=
    (finder.search rounds start).1.state.accepted
  -- The count never falls and is bounded, so it stays at its greatest value.
  have increases : Monotone accepted :=
    monotone_nat_of_le_succ (finder.accepted_le_accepted_succ start)
  have bounded : BddAbove (Set.range accepted) := by
    refine ⟨max 1 (max finder.config.minIterations finder.config.maxIterations),
      ?_⟩
    rintro _ ⟨rounds, rfl⟩
    exact (finder.search_reaches rounds start).accepted_le
  obtain ⟨_, ⟨rounds, rfl⟩, greatest⟩ :=
    bounded.exists_isGreatest_of_nonempty ⟨_, 0, rfl⟩
  refine ⟨rounds, fun later le =>
    exists_retry_of_accepted_eq (going_of_solve_eq_none (unsolved _)) ?_⟩
  have noMore : accepted (later + 1) ≤ accepted later :=
    (greatest ⟨later + 1, rfl⟩).trans (increases le)
  exact le_antisymm noMore (increases (Nat.le_succ later))

/-- A search that never ends makes any number of retries. -/
theorem exists_le_retries
    (unsolved : ∀ rounds, finder.solve rounds start = none)
    (count : Nat) :
    ∃ rounds, count ≤ (finder.search rounds start).1.state.retries := by
  let bound :=
    max 1 (max finder.config.minIterations finder.config.maxIterations)
  refine ⟨count + bound, ?_⟩
  have reached := finder.search_reaches (count + bound) start
  have going := going_of_solve_eq_none (unsolved (count + bound))
  have accepted_le := reached.accepted_le
  have length_eq := reached.length_turns
  rw [length_turns_of_going _ going, Record.aborts, going] at length_eq
  rw [if_neg (by simp)] at length_eq
  omega

end Endless

/-! ## The law of livelocks -/

/-- What retries change, and how a search of two functions goes on for ever. -/
structure LivelockLaw
    (function derivative : α -> α)
    (config : Config α)
    (start : α) : Prop where
  /-- A retry changes nothing but the current point and the number of retries. -/
  frame (rounds : Nat) (turn : Turn α) :
    let finder := ofConfig function derivative config
    (finder.search (rounds + 1) start).1.turns =
        turn :: (finder.search rounds start).1.turns ->
      turn.isRetry = true ->
      (finder.search (rounds + 1) start).1.ending = none ∧
        ∃ point,
          (finder.search (rounds + 1) start).1.state =
            { (finder.search rounds start).1.state with
              current := point
              retries := (finder.search rounds start).1.state.retries + 1 }
  /-- One that does not even change the current point is made for ever. -/
  trapped (rounds : Nat) (turn : Turn α) :
    let finder := ofConfig function derivative config
    (finder.search (rounds + 1) start).1.turns =
        turn :: (finder.search rounds start).1.turns ->
      turn.isRetry = true ->
      (finder.search (rounds + 1) start).1.state.current =
        (finder.search rounds start).1.state.current ->
      Trapped function derivative config rounds start
  /-- A search that never ends accepts fewer steps than the limits allow, makes any
  number of retries, and from some round on nothing else. -/
  endless :
    let finder := ofConfig function derivative config
    (∀ rounds, finder.solve rounds start = none) ->
      (∀ rounds,
        (finder.search rounds start).1.state.accepted <
          max 1 (max config.minIterations config.maxIterations)) ∧
      (∀ count, ∃ rounds,
        count ≤ (finder.search rounds start).1.state.retries) ∧
      ∃ rounds, ∀ later, rounds ≤ later ->
        ∃ turn,
          (finder.search (later + 1) start).1.turns =
              turn :: (finder.search later start).1.turns ∧
            turn.isRetry = true
  /-- The upper limit holds a search whose candidate is beyond it. -/
  atUpper (rounds : Nat) :
    let record := ((ofConfig function derivative config).search rounds start).1
    let candidate :=
      (config.method.step record.state.current).eval function derivative
    record.ending = none ->
      record.state.current = config.upper ->
      halfway config.upper config.upper = config.upper ->
      isFinite candidate = true ->
      config.upper < candidate ->
      Trapped function derivative config rounds start
  /-- The lower limit holds a search whose candidate is beyond it, unless the
  candidate is beyond the upper limit as well. -/
  atLower (rounds : Nat) :
    let record := ((ofConfig function derivative config).search rounds start).1
    let candidate :=
      (config.method.step record.state.current).eval function derivative
    record.ending = none ->
      record.state.current = config.lower ->
      halfway config.lower config.lower = config.lower ->
      isFinite candidate = true ->
      candidate < config.lower ->
      ¬config.upper < candidate ->
      Trapped function derivative config rounds start

/-- The searches of all pairs of functions obey the law of livelocks. -/
theorem search_livelockLaw
    [LawfulFloatingPoint α]
    (function derivative : α -> α)
    (config : Config α)
    (start : α) :
    LivelockLaw function derivative config start := by
  refine
    { frame := ?_
      trapped := ?_
      endless := ?_
      atUpper := ?_
      atLower := ?_ }
  · intro rounds turn finder turns_eq retry
    obtain ⟨-, world', played, extended⟩ := played_of_search_succ turns_eq
    rw [extended]
    cases fits_of_play played with
    | @retry candidate obstacle point => exact ⟨rfl, point, rfl⟩
    | abort | untested | tested => cases retry
  · intro rounds turn finder turns_eq retry stays
    exact trapped_of_stuck (played_of_search_succ turns_eq).1
      (stuck_of_retry turns_eq retry stays)
  · intro finder unsolved
    refine ⟨fun rounds => ?_, exists_le_retries unsolved,
      exists_forall_retry unsolved⟩
    exact (finder.search_reaches rounds start).accepted_lt_of_going
      (going_of_solve_eq_none (unsolved rounds))
  · intro rounds record candidate going atUpper fixed finite above
    have notInfinite := ((LawfulFloatingPoint.isFinite_iff candidate).mp finite).2
    exact trapped_of_stuck going (.ofUpper atUpper fixed notInfinite above)
  · intro rounds record candidate going atLower fixed finite below notAbove
    have notInfinite := ((LawfulFloatingPoint.isFinite_iff candidate).mp finite).2
    exact trapped_of_stuck going
      (.ofLower atLower fixed notInfinite notAbove below)

/-- A search whose root is above its upper limit, which it reaches by 23 retries and
never leaves. -/
theorem search_livelockLaw_squareRoot :
    let function : Float32 -> Float32 := fun x => x * x - 612.0
    let derivative : Float32 -> Float32 := fun x => 2.0 * x
    let config : Config Float32 := .ofSettings [.limits 0.0 20.0]
    let finder := ofConfig function derivative config
    (finder.search 23 10.0).1.state.current = config.upper ∧
      (finder.search 23 10.0).1.state.retries = 23 ∧
      (∀ rounds, finder.solve rounds 10.0 = none) ∧
      LivelockLaw function derivative config 10.0 := by
  intro function derivative config finder
  have law := search_livelockLaw function derivative config 10.0
  have trapped : Trapped function derivative config 23 10.0 := by
    refine law.atUpper 23 ?_ ?_ ?_ ?_ ?_ <;> decide +kernel
  exact ⟨by decide +kernel, by decide +kernel, trapped.unsolved, law⟩

/-- A lower limit that does not hold a search whose candidate is beyond it, because
the upper limit is below the lower one. -/
theorem search_leaves_lowerLimit :
    let function : Float -> Float := fun _ => 1.0
    let derivative : Float -> Float := fun x => x - 5.0
    let config : Config Float :=
      .ofSettings [.limits 10.0 0.0, .minIterations 1, .maxIterations 1]
    let finder := ofConfig function derivative config
    let record := (finder.search 0 10.0).1
    let candidate :=
      (config.method.step record.state.current).eval function derivative
    record.ending = none ∧
      record.state.current = config.lower ∧
      halfway config.lower config.lower = config.lower ∧
      isFinite candidate = true ∧
      candidate < config.lower ∧
      finder.solve 2 10.0 = some (-1.0 / 0.0) := by
  decide +kernel

end Finder
end RootFinding
