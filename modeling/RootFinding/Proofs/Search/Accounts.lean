import RootFinding.Proofs.FloatingPoint.Binary
import RootFinding.Proofs.Search.Reachable

/-!
# The accounts of a search

A search counts its accepted steps and its retries, and leaves a trace in two
places: the calls of the oracle and the events.  Every round is a step, a retry,
or the abort (`Reaches.length_turns`); it asks what its method asks at the
current point, and for one more value if the candidate is tested
(`Transcribes`).  The calls of a search are those of its rounds in order
(`Reaches.transcribes`), so the counts of a search that has ended say how often
each function was called, and its events how they came about
(`search_accounts`).
-/

namespace RootFinding

open FloatingPoint

/-- The calls of one step of a provided method, with the candidate that it
proposes after the replies. -/
inductive Method.StepCalls [Arithmetic α] (x : α) :
    Method α -> α -> List (Call α) -> Prop where
  | newtonRaphson (value slope : α) :
      StepCalls x .newtonRaphson (x - value / slope)
        [⟨.value x, value⟩, ⟨.slope x, slope⟩]
  | homeier (value slope halfway : α) :
      StepCalls x .homeier (x - value / halfway)
        [⟨.value x, value⟩, ⟨.slope x, slope⟩,
          ⟨.slope (x - 0.5 * value / slope), halfway⟩]

/-- A step over an oracle that keeps its calls adds the calls of a step. -/
theorem Method.stepCalls_run
    [Arithmetic α]
    {method : Method α}
    (provided : method ∈ Method.provided)
    (x : α)
    (oracle : Oracle σ α)
    (world : σ)
    (calls : List (Call α)) :
    ∃ step,
      StepCalls x method
          ((method.step x).run oracle.recorded (world, calls)).1 step ∧
        ((method.step x).run oracle.recorded (world, calls)).2.2 =
          step.reverse ++ calls := by
  rcases Method.mem_provided_iff.mp provided with rfl | rfl
  · exact ⟨_, .newtonRaphson _ _, rfl⟩
  · exact ⟨_, .homeier _ _ _, rfl⟩

namespace Search

/-- The call of the convergence test of a round, if there was one. -/
def Turn.testCalls (turn : Turn α) : List (Call α) :=
  match turn.test with
  | none => []
  | some value => [⟨.value turn.candidate, value⟩]

/-- Calls that belong to rounds: in order, the calls of the step of each of
them at its current point, and the call of its convergence test.  The latest
round comes first, and the latest call last. -/
inductive Transcribes
    [Arithmetic α]
    (method : Method α) : List (Turn α) -> List (Call α) -> Prop where
  | nil : Transcribes method [] []
  | round
      {turns : List (Turn α)} {calls : List (Call α)}
      {turn : Turn α} {step : List (Call α)}
      (earlier : Transcribes method turns calls)
      (stepped : Method.StepCalls turn.current method turn.candidate step) :
      Transcribes method (turn :: turns) (calls ++ (step ++ turn.testCalls))

/-- The state that rounds lead to, the latest round first. -/
def State.afterAll (start : α) (turns : List (Turn α)) : State α :=
  turns.foldr (fun turn state => state.after turn) (.start start)

/-- The number of convergence tests. -/
def Record.tests (record : Record α) : Nat :=
  record.turns.countP (·.test.isSome)

/-- One if a search was aborted, and zero otherwise. -/
def Record.aborts (record : Record α) : Nat :=
  if record.ending = some .aborted then 1 else 0

variable [FloatingPoint α]

/-- A round over an oracle that keeps its calls adds the calls of its step and
of its test. -/
theorem round_stepCalls
    (config : Config α)
    (provided : config.method ∈ Method.provided)
    (state : State α)
    (oracle : Oracle σ α)
    (world : σ)
    (calls : List (Call α)) :
    ∃ step,
      Method.StepCalls state.current config.method
          ((round config state).run oracle.recorded (world, calls)).1.candidate
          step ∧
        ((round config state).run oracle.recorded (world, calls)).2.2 =
          (step ++
            ((round config state).run oracle.recorded
              (world, calls)).1.testCalls).reverse ++ calls := by
  obtain ⟨step, stepped, calls_eq⟩ :=
    Method.stepCalls_run provided state.current oracle world calls
  rw [round_eq_bind, Inquiry.run_bind, Inquiry.run_bind, Inquiry.run_answer]
  generalize (config.method.step state.current).run oracle.recorded
    (world, calls) = proposed at stepped calls_eq
  obtain ⟨candidate, between, _⟩ := proposed
  obtain rfl := calls_eq
  refine ⟨step, stepped, ?_⟩
  unfold testAfter
  cases config.judge state candidate with
  | retry obstacle point => simp [Turn.testCalls]
  | abort => simp [Turn.testCalls]
  | accept recorded =>
      simp only [run_test]
      split
      case isTrue tooFew => simp [Turn.testCalls]
      case isFalse enough => simp [Turn.testCalls, Oracle.recorded]

end Search

/-! ## Counting calls -/

/-- How many of the calls ask for a value. -/
def countValues (calls : List (Call α)) : Nat :=
  calls.countP fun call => call.query.isValue

/-- How many of the calls ask for a slope. -/
def countSlopes (calls : List (Call α)) : Nat :=
  calls.countP fun call => !call.query.isValue

@[simp] theorem countValues_append (first second : List (Call α)) :
    countValues (first ++ second) = countValues first + countValues second :=
  List.countP_append

@[simp] theorem countSlopes_append (first second : List (Call α)) :
    countSlopes (first ++ second) = countSlopes first + countSlopes second :=
  List.countP_append

theorem Method.homeier_ne_newtonRaphson [Arithmetic α] :
    (homeier : Method α) ≠ newtonRaphson := by
  intro same
  have titles : "Homeier" = "NewtonRaphson" := congrArg Method.title same
  exact absurd titles (by decide)

namespace Method.StepCalls

variable [Arithmetic α] {x candidate : α} {method : Method α}
  {step : List (Call α)}

theorem countValues_eq (stepped : StepCalls x method candidate step) :
    countValues step = 1 := by
  cases stepped <;> rfl

theorem countSlopes_newtonRaphson
    (stepped : StepCalls x method candidate step)
    (method_eq : method = .newtonRaphson) :
    countSlopes step = 1 := by
  cases stepped with
  | newtonRaphson => rfl
  | homeier => exact absurd method_eq Method.homeier_ne_newtonRaphson

theorem countSlopes_homeier
    (stepped : StepCalls x method candidate step)
    (method_eq : method = .homeier) :
    countSlopes step = 2 := by
  cases stepped with
  | newtonRaphson =>
      exact absurd method_eq.symm Method.homeier_ne_newtonRaphson
  | homeier => rfl

end Method.StepCalls

namespace Search

theorem Turn.countValues_testCalls (turn : Turn α) :
    countValues turn.testCalls = if turn.test.isSome then 1 else 0 := by
  unfold testCalls
  cases turn.test <;> rfl

theorem Turn.countSlopes_testCalls (turn : Turn α) :
    countSlopes turn.testCalls = 0 := by
  unfold testCalls
  cases turn.test <;> rfl

namespace Transcribes

variable [Arithmetic α] {method : Method α} {turns : List (Turn α)}
  {calls : List (Call α)}

/-- Every round asks for one value, and for another one if it tests its
candidate. -/
theorem countValues_eq (transcribes : Transcribes method turns calls) :
    countValues calls = turns.length + turns.countP (·.test.isSome) := by
  induction transcribes with
  | nil => rfl
  | round earlier stepped hypothesis =>
      rw [countValues_append, countValues_append, hypothesis,
        stepped.countValues_eq, Turn.countValues_testCalls,
        List.length_cons, List.countP_cons]
      omega

/-- Every round asks for as many slopes as a step of the method does. -/
theorem countSlopes_eq
    {slopes : Nat}
    (each : ∀ {x candidate : α} {step : List (Call α)},
      Method.StepCalls x method candidate step -> countSlopes step = slopes)
    (transcribes : Transcribes method turns calls) :
    countSlopes calls = slopes * turns.length := by
  induction transcribes with
  | nil => rfl
  | round earlier stepped hypothesis =>
      rw [countSlopes_append, countSlopes_append, hypothesis, each stepped,
        Turn.countSlopes_testCalls, List.length_cons, Nat.mul_succ,
        Nat.add_zero]

end Transcribes
end Search

namespace Finder.Reaches

open Search

variable [FloatingPoint α]
  {finder : Finder σ α} {start : α} {record : Record α} {world : σ}

/-- A state is what its rounds have led to. -/
theorem state_eq
    (reached : finder.Reaches start record world) :
    record.state = .afterAll start record.turns := by
  induction reached with
  | start => rfl
  | round reached going played hypothesis =>
      rw [Record.state_extend, hypothesis]
      rfl

/-- Every round is an accepted step, a retry, or the abort. -/
theorem length_turns
    (reached : finder.Reaches start record world) :
    record.turns.length =
      record.state.accepted + record.state.retries + record.aborts := by
  induction reached with
  | start => rfl
  | round reached going played hypothesis =>
      have notAborted : Record.aborts _ = 0 := if_neg (by rw [going]; simp)
      rw [notAborted] at hypothesis
      rw [Record.turns_extend, List.length_cons, hypothesis,
        Record.state_extend, Record.aborts, Record.ending_extend]
      cases fits_of_play played with
      | retry => simp; omega
      | abort => simp
      | untested => simp; omega
      | tested =>
          rw [Config.ending?_tested, State.after_accept]
          split <;> simp <;> omega

/-- Accepted steps are tested from the one on that is enough. -/
theorem tests_eq
    (reached : finder.Reaches start record world) :
    record.tests =
      record.state.accepted + 1 - max 1 finder.config.minIterations := by
  induction reached with
  | start =>
      change 0 = 0 + 1 - max 1 finder.config.minIterations
      omega
  | round reached going played hypothesis =>
      rw [Record.tests, Record.turns_extend, List.countP_cons,
        Record.state_extend]
      rw [Record.tests] at hypothesis
      rw [hypothesis]
      cases fits_of_play played with
      | retry => rfl
      | abort => rfl
      | untested judged tooFew =>
          rw [State.after_accept]
          simp only [Option.isSome_none, Bool.false_eq_true, if_false]
          omega
      | tested judged enough =>
          rw [State.after_accept]
          simp only [Option.isSome_some, if_true]
          omega

/-- The calls of a search are those of its rounds. -/
theorem transcribes
    {calls : List (Call α)}
    (provided : finder.config.method ∈ Method.provided)
    (reached : finder.recorded.Reaches start record (world, calls)) :
    Transcribes finder.config.method record.turns calls.reverse := by
  generalize final : (world, calls) = state at reached
  induction reached generalizing world calls with
  | start =>
      obtain ⟨-, rfl⟩ := Prod.mk.inj final
      exact .nil
  | @round record between turn _ reached going played hypothesis =>
      obtain ⟨earlierWorld, earlierCalls⟩ := between
      have earlier := hypothesis rfl
      obtain ⟨step, stepped, calls_eq⟩ := round_stepCalls
        finder.config provided record.state finder.oracle
        earlierWorld earlierCalls
      rw [← final] at played
      have current_eq := (fits_of_play played).current_eq
      change (Search.round finder.config record.state).run finder.oracle.recorded
        (earlierWorld, earlierCalls) = (turn, world, calls) at played
      rw [played] at stepped calls_eq
      dsimp only at stepped calls_eq
      rw [calls_eq, List.reverse_append, List.reverse_reverse]
      rw [← current_eq] at stepped
      exact .round earlier stepped

/-- The round that was played after earlier ones began at the point that these
have led to, and tested its candidate if enough of them were accepted. -/
theorem of_turns_eq
    (reached : finder.Reaches start record world)
    {later : List (Turn α)}
    {turn : Turn α}
    {earlier : List (Turn α)}
    (turns_eq : record.turns = later ++ turn :: earlier) :
    turn.current = (State.afterAll start earlier).current ∧
      (turn.test.isSome = true ↔
        turn.isAccepted = true ∧
          finder.config.minIterations ≤
            earlier.countP Turn.isAccepted + 1) := by
  obtain ⟨before, world', reached', before_turns, fits⟩ :=
    reached.exists_before turns_eq
  have accepted_eq :
      before.state.accepted = earlier.countP Turn.isAccepted := by
    rw [reached'.accepted_eq, Record.acceptances, ← List.countP_eq_length_filter,
      List.countP_reverse, before_turns]
  constructor
  · rw [fits.current_eq, reached'.state_eq, before_turns]
  · rw [← accepted_eq]
    cases fits with
    | retry => simp
    | abort => simp
    | untested judged tooFew => simp; omega
    | tested judged enough => simp [enough]

end Finder.Reaches

/-! ## Events -/

namespace Search

/-- Retries are reported, and no other rounds are. -/
theorem map_event?_retries (turns : List (Turn α)) :
    (turns.filter Turn.isRetry).map Turn.event? =
      (turns.filterMap Turn.event?).map some := by
  induction turns with
  | nil => rfl
  | cons turn turns hypothesis =>
      obtain ⟨current, candidate, verdict, test⟩ := turn
      cases verdict <;>
        simp [List.filter_cons, List.filterMap_cons, Turn.event?, hypothesis]

/-- The reports of rounds are details. -/
theorem level_of_event?
    {turn : Turn α}
    {event : Event α}
    (reported : turn.event? = some event) :
    event.level = .trace := by
  obtain ⟨current, candidate, verdict, test⟩ := turn
  cases verdict with
  | retry => exact Option.some.inj reported ▸ rfl
  | abort => cases reported
  | accept => cases reported

/-- Where a search has ended, and after how many accepted steps and retries. -/
def Record.closing (config : Config α) (record : Record α) : Event α :=
  let summary : SearchSummary α :=
    { current := record.state.current
      iterations := record.state.accepted
      retries := record.state.retries
      method := config.method.name }
  if record.aborts = 1 then .aborted summary else .finished summary

/-- The events of a search that has ended are the reports of its rounds and the
closing event. -/
theorem events_of_ended
    (config : Config α)
    (record : Record α)
    (ended : record.ending.isSome = true) :
    record.events config =
        record.turns.reverse.filterMap Turn.event? ++
          [record.closing config] ∧
      (record.closing config).level = .debug := by
  unfold Record.events Record.closing Record.aborts
  cases ending : record.ending with
  | none =>
      rw [ending] at ended
      cases ended
  | some kind => cases kind <;> exact ⟨rfl, rfl⟩

end Search

namespace Finder

open Search

variable [FloatingPoint α]

/-- What the calls and the events of a search that has ended say of its rounds:
of its accepted steps, its retries, and the abort. -/
structure Accounts
    (finder : Finder σ α)
    (rounds : Nat)
    (start root : α) : Prop where
  /-- The calls are those of the rounds, in order. -/
  transcribes :
    Transcribes finder.config.method
      (finder.search rounds start).1.turns (finder.transcript rounds start)
  /-- Every round begins at the current point. -/
  current_eq (later : List (Turn α)) (turn : Turn α)
      (earlier : List (Turn α)) :
    (finder.search rounds start).1.turns = later ++ turn :: earlier ->
      turn.current = (State.afterAll start earlier).current
  /-- A round tests its candidate exactly when it accepts it and enough steps
  are accepted then. -/
  isSome_test_iff (later : List (Turn α)) (turn : Turn α)
      (earlier : List (Turn α)) :
    (finder.search rounds start).1.turns = later ++ turn :: earlier ->
      (turn.test.isSome = true ↔
        turn.isAccepted = true ∧
          finder.config.minIterations ≤
            earlier.countP Turn.isAccepted + 1)
  /-- The accepted steps are counted. -/
  accepted_eq :
    (finder.search rounds start).1.turns.countP Turn.isAccepted =
      (finder.search rounds start).1.state.accepted
  /-- The retries are counted. -/
  retries_eq :
    (finder.search rounds start).1.turns.countP Turn.isRetry =
      (finder.search rounds start).1.state.retries
  /-- A Newton-Raphson step asks for one slope. -/
  slopes_newtonRaphson :
    finder.config.method = .newtonRaphson ->
      countSlopes (finder.transcript rounds start) =
        (finder.search rounds start).1.state.accepted +
          (finder.search rounds start).1.state.retries +
          (finder.search rounds start).1.aborts
  /-- A step of Homeier's method asks for two slopes. -/
  slopes_homeier :
    finder.config.method = .homeier ->
      countSlopes (finder.transcript rounds start) =
        2 * ((finder.search rounds start).1.state.accepted +
          (finder.search rounds start).1.state.retries +
          (finder.search rounds start).1.aborts)
  /-- A step asks for one value, and so does a test. -/
  values :
    countValues (finder.transcript rounds start) =
      (finder.search rounds start).1.state.accepted +
        (finder.search rounds start).1.state.retries +
        (finder.search rounds start).1.aborts +
        ((finder.search rounds start).1.state.accepted + 1 -
          max 1 finder.config.minIterations)
  /-- One event reports each retry, in order, and a last one the end. -/
  events :
    ∃ details : List (Event α),
      (finder.search rounds start).1.events finder.config =
          details ++ [(finder.search rounds start).1.closing finder.config] ∧
        ((finder.search rounds start).1.turns.reverse.filter
            Turn.isRetry).map Turn.event? = details.map some ∧
        details.length = (finder.search rounds start).1.state.retries ∧
        (∀ event ∈ details, event.level = .trace) ∧
        ((finder.search rounds start).1.closing finder.config).level = .debug
  /-- Checking the answer adds no round and no event. -/
  checked_record :
    (finder.checkedSearch rounds start).1.1 = (finder.search rounds start).1
  /-- Checking the answer takes one more value, at a finite answer. -/
  checked_calls :
    ∃ residual,
      finder.checkedTranscript rounds start =
        finder.transcript rounds start ++
          if isFinite root then [⟨.value root, residual⟩] else []

/-- A check is a search, and a check of its answer. -/
theorem checkedSearch_of_solve
    (finder : Finder σ α)
    {rounds : Nat}
    {start root : α}
    (solved : finder.solve rounds start = some root) :
    finder.checkedSearch rounds start =
      (((finder.search rounds start).1,
        some ((check finder.config root).run finder.oracle
          (finder.search rounds start).2).1),
        ((check finder.config root).run finder.oracle
          (finder.search rounds start).2).2) := by
  unfold checkedSearch checkedFromPoint
  rw [Inquiry.run_bind]
  change Inquiry.run finder.oracle
    (match (finder.search rounds start).1.root? with
      | none => _
      | some root => _) (finder.search rounds start).2 = _
  rw [show (finder.search rounds start).1.root? = some root from solved]
  simp only [Inquiry.run_bind]
  rfl

/-- The check of an answer asks for the value at it, if it is finite. -/
theorem calls_check
    (config : Config α)
    (root : α)
    (oracle : Oracle σ α)
    (world : σ)
    (calls : List (Call α)) :
    ∃ residual,
      ((check config root).run oracle.recorded (world, calls)).2.2.reverse =
        calls.reverse ++
          if isFinite root then [⟨.value root, residual⟩] else [] := by
  refine ⟨(oracle (.value root) world).1, ?_⟩
  unfold check
  split
  case isTrue finite =>
    simp only [Inquiry.value_bind, Inquiry.run_ask]
    split <;> simp [Oracle.recorded]
  case isFalse => simp

/-- The calls of a search are those of its rounds. -/
theorem transcribes_transcript
    (finder : Finder σ α)
    (rounds : Nat)
    (start : α)
    (provided : finder.config.method ∈ Method.provided) :
    Transcribes finder.config.method
      (finder.search rounds start).1.turns
      (finder.transcript rounds start) := by
  have kept := finder.recorded.search_reaches rounds start
  rw [← finder.search_recorded]
  exact kept.transcribes provided

/-- Every round asks for as many slopes as a step does. -/
theorem countSlopes_transcript
    (finder : Finder σ α)
    (rounds : Nat)
    (start : α)
    (provided : finder.config.method ∈ Method.provided)
    {slopes : Nat}
    (each : ∀ {x candidate : α} {step : List (Call α)},
      Method.StepCalls x finder.config.method candidate step ->
        countSlopes step = slopes) :
    countSlopes (finder.transcript rounds start) =
      slopes * ((finder.search rounds start).1.state.accepted +
        (finder.search rounds start).1.state.retries +
        (finder.search rounds start).1.aborts) := by
  have transcribes := finder.transcribes_transcript rounds start provided
  have reached := finder.search_reaches rounds start
  rw [transcribes.countSlopes_eq each, reached.length_turns]

/-- A search reports each of its retries. -/
theorem Reaches.length_reports
    {finder : Finder σ α}
    {start : α}
    {record : Record α}
    {world : σ}
    (reached : finder.Reaches start record world) :
    (record.turns.reverse.filterMap Turn.event?).length =
      record.state.retries := by
  have lengths :=
    congrArg List.length (map_event?_retries record.turns.reverse)
  rw [List.length_map, List.length_map] at lengths
  rw [← lengths, reached.retries_eq, List.filter_reverse, List.length_reverse]

/-- Checking an answer adds the call of the check to the calls of the search. -/
theorem checkedTranscript_of_solve
    (finder : Finder σ α)
    {rounds : Nat}
    {start root : α}
    (solved : finder.solve rounds start = some root) :
    ∃ residual,
      finder.checkedTranscript rounds start =
        finder.transcript rounds start ++
          if isFinite root then [⟨.value root, residual⟩] else [] := by
  have kept : finder.recorded.solve rounds start = some root := by
    rw [solve, search_recorded]
    exact solved
  rw [checkedTranscript, finder.recorded.checkedSearch_of_solve kept,
    transcript]
  exact calls_check finder.config root finder.oracle _ _

/-- The accounts of every search by a provided method that has ended are in
order. -/
theorem search_accounts
    (finder : Finder σ α)
    (rounds : Nat)
    (start root : α)
    (provided : finder.config.method ∈ Method.provided)
    (solved : finder.solve rounds start = some root) :
    finder.Accounts rounds start root := by
  have reached := finder.search_reaches rounds start
  have transcribes := finder.transcribes_transcript rounds start provided
  have ended : (finder.search rounds start).1.ending.isSome := by
    rw [← Record.root?_isSome]
    exact Option.isSome_iff_exists.mpr ⟨root, solved⟩
  refine
    { transcribes := transcribes
      current_eq := fun _ _ _ turns_eq => (reached.of_turns_eq turns_eq).1
      isSome_test_iff := fun _ _ _ turns_eq =>
        (reached.of_turns_eq turns_eq).2
      accepted_eq := ?_
      retries_eq := ?_
      slopes_newtonRaphson := ?_
      slopes_homeier := ?_
      values := ?_
      events := ?_
      checked_record := ?_
      checked_calls := finder.checkedTranscript_of_solve solved }
  · rw [reached.accepted_eq, Record.acceptances,
      ← List.countP_eq_length_filter, List.countP_reverse]
  · rw [reached.retries_eq, List.countP_eq_length_filter]
  · intro method_eq
    rw [finder.countSlopes_transcript rounds start provided fun stepped =>
        stepped.countSlopes_newtonRaphson method_eq,
      Nat.one_mul]
  · intro method_eq
    exact finder.countSlopes_transcript rounds start provided fun stepped =>
      stepped.countSlopes_homeier method_eq
  · rw [transcribes.countValues_eq, reached.length_turns, ← reached.tests_eq]
    rfl
  · obtain ⟨events_eq, level_eq⟩ :=
      events_of_ended finder.config (finder.search rounds start).1 ended
    refine ⟨_, events_eq, map_event?_retries _, reached.length_reports, ?_,
      level_eq⟩
    intro event member
    obtain ⟨turn, -, reported⟩ := List.mem_filterMap.mp member
    exact level_of_event? reported
  · rw [finder.checkedSearch_of_solve solved]

/-- A search by Homeier's method that is sent back once by its lower limit, and
tests its candidates from the second accepted step on. -/
theorem search_accounts_homeier :
    let finder : Finder Unit Float :=
      .ofFunctions (fun x => x * x - 612.0) (fun x => 2.0 * x)
        [.method .homeier, .minIterations 2, .limits 22.0 30.0]
    finder.config.method ∈ Method.provided ∧
      finder.solve 12 10.0 = some 24.73863375370596 ∧
      (finder.search 12 10.0).1.state.accepted = 3 ∧
      (finder.search 12 10.0).1.state.retries = 1 ∧
      finder.Accounts 12 10.0 24.73863375370596 :=
  ⟨by simp [ofFunctions, Config.ofSettings, Config.apply, Method.provided],
    by decide +kernel, by decide +kernel, by decide +kernel,
    search_accounts _ 12 10.0 24.73863375370596
      (by simp [ofFunctions, Config.ofSettings, Config.apply, Method.provided])
      (by decide +kernel)⟩

end Finder
end RootFinding
