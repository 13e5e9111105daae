import RootFinding.Proofs.Search.Classification
import RootFinding.Proofs.Search.Halfway
import RootFinding.Proofs.Search.Limits

/-!
# Points that are asked for

Without heuristics, a search that starts between its limits asks for values between
the limits only, and at infinities that it has accepted.  A clamp moves the current
point and not the candidate, so what rounds preserve is that the current point is
between the limits or an accepted infinity (`Finder.Reaches.located`).  From an
infinity, a provided method proposes the same infinity or NaN, so no clamp is made
there, and all others stay between the limits if the computed points half way do
(`HalfwayWithin`).
-/

namespace RootFinding

open FloatingPoint

/-- A provided method proposes the current point less something. -/
theorem Method.exists_run_step_eq_sub
    [Arithmetic α]
    {method : Method α}
    (provided : method ∈ Method.provided)
    (x : α)
    (oracle : Oracle σ α)
    (world : σ) :
    ∃ step, ((method.step x).run oracle world).1 = x - step := by
  rcases Method.mem_provided_iff.mp provided with rfl | rfl
  · exact ⟨_, rfl⟩
  · exact ⟨_, rfl⟩

namespace Method.StepCalls

variable [Arithmetic α] {x candidate : α} {method : Method α}
  {step : List (Call α)}

/-- A step asks for the value at the point where it begins. -/
theorem point_eq_of_isValue
    (stepped : StepCalls x method candidate step) :
    ∀ call ∈ step, call.query.isValue = true -> call.query.point = x := by
  cases stepped <;> simp [Query.isValue, Query.point]

/-- A Newton-Raphson step asks for nothing elsewhere. -/
theorem point_eq_of_newtonRaphson
    (stepped : StepCalls x method candidate step)
    (method_eq : method = .newtonRaphson) :
    ∀ call ∈ step, call.query.point = x := by
  cases stepped with
  | newtonRaphson => simp [Query.point]
  | homeier => exact absurd method_eq Method.homeier_ne_newtonRaphson

end Method.StepCalls

namespace Search

/-! ## Points between the limits, and accepted infinities -/

variable [FloatingPoint α]

/-- A point between the limits, or an infinity that was accepted in one of these
rounds. -/
inductive Located
    (config : Config α)
    (turns : List (Turn α))
    (x : α) : Prop where
  | within (within : Within config x)
  | infinite {turn : Turn α}
      (infinite : isInfinite x = true)
      (member : turn ∈ turns)
      (accepted : turn.isAccepted = true)
      (candidate_eq : turn.candidate = x)

namespace Located

variable {config : Config α} {turns : List (Turn α)} {x : α}

/-- Further rounds do not matter. -/
theorem mono
    {turns' : List (Turn α)}
    (located : Located config turns x)
    (subset : turns ⊆ turns') :
    Located config turns' x := by
  cases located with
  | within within => exact .within within
  | infinite infinite member accepted candidate_eq =>
      exact .infinite infinite (subset member) accepted candidate_eq

theorem within_of_not_isInfinite
    (located : Located config turns x)
    (notInfinite : isInfinite x = false) :
    Within config x := by
  cases located with
  | within within => exact within
  | infinite infinite =>
      rw [infinite] at notInfinite
      cases notInfinite

end Located

/-- The points half way from between the limits to a limit lie between the
limits. -/
def HalfwayWithin (config : Config α) : Prop :=
  ∀ x, Within config x ->
    Within config (halfway x config.upper) ∧
      Within config (halfway x config.lower)

/-- Nothing but infinities and NaN is proposed at an infinity, so the clamps are
made elsewhere. -/
theorem Located.within_of_sub
    [LawfulFloatingPoint α]
    [LawfulInfinity α]
    {config : Config α}
    {turns : List (Turn α)}
    {x step : α}
    (located : Located config turns x)
    (defined : isNaN (x - step) = false)
    (notInfinite : isInfinite (x - step) = false) :
    Within config x := by
  refine located.within_of_not_isInfinite ?_
  rw [← Bool.not_eq_true]
  intro infinite
  rcases LawfulInfinity.sub_eq (y := step) infinite with undefined | same
  · rw [undefined] at defined
    cases defined
  · rw [LawfulFloatingPoint.beq_comm] at same
    rw [LawfulFloatingPoint.isInfinite_of_beq same infinite] at notInfinite
    cases notInfinite

/-- A round leads from a point between the limits or an accepted infinity to
another one. -/
theorem Located.after
    [LawfulFloatingPoint α]
    [LawfulInfinity α]
    {config : Config α}
    {turns : List (Turn α)}
    {state : State α}
    {turn : Turn α}
    (plain : config.useHeuristics = false)
    (lower : isNaN config.lower = false)
    (upper : isNaN config.upper = false)
    (halfwayWithin : HalfwayWithin config)
    (located : Located config turns state.current)
    (fits : turn.Fits config state)
    (steps : ∃ step, turn.candidate = state.current - step) :
    Located config (turn :: turns) (state.after turn).current := by
  obtain ⟨step, candidate_eq⟩ := steps
  have judgement := fits.judgement
  cases fits with
  | abort => exact located.mono (List.subset_cons_self _ _)
  | untested | tested =>
      -- The candidate is the next point, wherever the search was before.
      rw [State.after_accept]
      cases judgement.permitted lower upper with
      | finite _ within => exact .within within
      | infinite _ infinite => exact .infinite infinite List.mem_cons_self rfl rfl
  | retry =>
      rw [State.after_retry]
      dsimp only at judgement candidate_eq
      rw [candidate_eq] at judgement
      cases judgement with
      | aboveUpper notInfinite above =>
          have defined := (LawfulFloatingPoint.isNaN_of_lt above).2
          have within := located.within_of_sub defined notInfinite
          exact .within (halfwayWithin _ within).1
      | belowLower notInfinite below =>
          have defined := (LawfulFloatingPoint.isNaN_of_lt below).1
          have within := located.within_of_sub defined notInfinite
          exact .within (halfwayWithin _ within).2
      | infinite heuristics | repeated heuristics =>
          rw [plain] at heuristics
          cases heuristics

/-- A round that asks for values between the limits, or at infinities that were
accepted before. -/
structure Turn.AsksInside
    (config : Config α)
    (earlier : List (Turn α))
    (turn : Turn α) : Prop where
  /-- The method begins at such a point. -/
  current : Located config earlier turn.current
  /-- A candidate is tested after it is accepted, and is such a point then. -/
  candidate :
    turn.test.isSome = true ->
      turn.isAccepted = true ∧ Located config (turn :: earlier) turn.candidate

/-- What holds of the points where rounds begin, and of those that are tested, holds
of all points that the rounds ask for, as far as the steps ask for nothing
elsewhere. -/
theorem Transcribes.forall_point
    {method : Method α}
    {property : α -> Prop}
    {selected : Call α -> Prop}
    (each : ∀ {x candidate : α} {step : List (Call α)},
      Method.StepCalls x method candidate step ->
        ∀ call ∈ step, selected call -> call.query.point = x)
    {turns : List (Turn α)}
    {calls : List (Call α)}
    (transcribes : Transcribes method turns calls)
    (holds : ∀ turn ∈ turns,
      property turn.current ∧
        (turn.test.isSome = true -> property turn.candidate)) :
    ∀ call ∈ calls, selected call -> property call.query.point := by
  induction transcribes with
  | nil => simp
  | @round turns calls turn step earlier stepped hypothesis =>
      obtain ⟨began, tested⟩ := holds turn List.mem_cons_self
      intro call member isSelected
      rw [List.mem_append, List.mem_append] at member
      rcases member with before | inStep | inTest
      · exact hypothesis
          (fun turn member => holds turn (List.mem_cons_of_mem _ member))
          call before isSelected
      · rw [each stepped call inStep isSelected]
        exact began
      · unfold Turn.testCalls at inTest
        cases test_eq : turn.test with
        | none =>
            rw [test_eq] at inTest
            cases inTest
        | some value =>
            rw [test_eq, List.mem_singleton] at inTest
            rw [inTest]
            exact tested (by rw [test_eq]; rfl)

end Search

namespace Finder

open Search

variable [FloatingPoint α] [LawfulFloatingPoint α] [LawfulInfinity α]

/-! ## Searches without heuristics -/

section Plain

variable {finder : Finder σ α} {start : α}
  (provided : finder.config.method ∈ Method.provided)
  (plain : finder.config.useHeuristics = false)
  (started : Within finder.config start)
  (halfwayWithin : HalfwayWithin finder.config)

include provided plain started halfwayWithin

/-- The point that a round leads to is inside if it began inside. -/
theorem located_after_of_play
    {record : Record α}
    {world : σ}
    {turn : Turn α}
    {world' : σ}
    (located : Located finder.config record.turns record.state.current)
    (played : finder.play record.state world = (turn, world')) :
    Located finder.config (turn :: record.turns)
      (record.state.after turn).current := by
  have steps :=
    Method.exists_run_step_eq_sub provided record.state.current finder.oracle world
  rw [← candidate_of_play played] at steps
  exact located.after plain (LawfulFloatingPoint.isNaN_of_le started.1).1
    (LawfulFloatingPoint.isNaN_of_le started.2).2 halfwayWithin
    (fits_of_play played) steps

/-- The current point is always between the limits, or an infinity that was accepted
before. -/
theorem Reaches.located
    {record : Record α}
    {world : σ}
    (reached : finder.Reaches start record world) :
    Located finder.config record.turns record.state.current := by
  induction reached with
  | start => exact .within started
  | round reached going played hypothesis =>
      exact located_after_of_play provided plain started halfwayWithin
        hypothesis played

/-- Every round asks for values inside only. -/
theorem Reaches.asksInside
    {record : Record α}
    {world : σ}
    (reached : finder.Reaches start record world)
    {later : List (Turn α)}
    {turn : Turn α}
    {earlier : List (Turn α)}
    (turns_eq : record.turns = later ++ turn :: earlier) :
    turn.AsksInside finder.config earlier := by
  obtain ⟨before, world', world'', reached', before_turns, played⟩ :=
    reached.exists_played turns_eq
  have located := reached'.located provided plain started halfwayWithin
  have after := located_after_of_play provided plain started halfwayWithin
    located played
  have fits := fits_of_play played
  rw [before_turns] at located after
  constructor
  · rw [fits.current_eq]
    exact located
  · intro tested
    cases fits with
    | retry | abort | untested => cases tested
    | tested => exact ⟨rfl, after⟩

/-- So what all rounds ask for is inside. -/
theorem Reaches.located_turns
    {record : Record α}
    {world : σ}
    (reached : finder.Reaches start record world) :
    ∀ turn ∈ record.turns,
      Located finder.config record.turns turn.current ∧
        (turn.test.isSome = true ->
          Located finder.config record.turns turn.candidate) := by
  intro turn member
  obtain ⟨later, earlier, turns_eq⟩ := List.append_of_mem member
  have asks := reached.asksInside provided plain started halfwayWithin turns_eq
  have subset : turn :: earlier ⊆ record.turns := by
    rw [turns_eq]
    exact List.subset_append_right _ _
  exact ⟨asks.current.mono (List.subset_of_cons_subset subset),
    fun tested => (asks.candidate tested).2.mono subset⟩

/-- A finite answer lies between the limits. -/
theorem within_of_solve
    {rounds : Nat}
    {root : α}
    (solved : finder.solve rounds start = some root)
    (finite : isFinite root = true) :
    Within finder.config root := by
  obtain ⟨-, rfl⟩ := finished_of_solve solved finite
  have located := (finder.search_reaches rounds start).located
    provided plain started halfwayWithin
  exact located.within_of_not_isInfinite
    ((LawfulFloatingPoint.isFinite_iff _).mp finite).2

/-- The check of an answer asks for the value at a finite one, between the
limits. -/
theorem mem_checkedTranscript
    {rounds : Nat}
    {call : Call α}
    (member : call ∈ finder.checkedTranscript rounds start) :
    call ∈ finder.transcript rounds start ∨
      call.query.isValue = true ∧ Within finder.config call.query.point := by
  cases solved : finder.solve rounds start with
  | none =>
      rw [finder.checkedTranscript_of_solve_eq_none solved] at member
      exact Or.inl member
  | some root =>
      obtain ⟨residual, calls_eq⟩ := finder.checkedTranscript_of_solve solved
      rw [calls_eq, List.mem_append] at member
      refine member.imp id fun last => ?_
      split at last
      case isTrue finite =>
        rw [List.mem_singleton] at last
        rw [last]
        exact ⟨rfl, within_of_solve provided plain started halfwayWithin
          solved finite⟩
      case isFalse => cases last

end Plain

/-- Where a search asks for values, and Newton-Raphson steps for slopes. -/
structure InsideLaw
    (finder : Finder σ α)
    (rounds : Nat)
    (start : α) : Prop where
  /-- The calls are those of the rounds, in order. -/
  transcribes :
    Transcribes finder.config.method
      (finder.search rounds start).1.turns (finder.transcript rounds start)
  /-- Every round asks for values between the limits, or at infinities that were
  accepted before. -/
  asksInside (later : List (Turn α)) (turn : Turn α)
      (earlier : List (Turn α)) :
    (finder.search rounds start).1.turns = later ++ turn :: earlier ->
      turn.AsksInside finder.config earlier
  /-- So are the points of all calls for values. -/
  value (call : Call α) :
    call ∈ finder.transcript rounds start ->
      call.query.isValue = true ->
      Located finder.config (finder.search rounds start).1.turns
        call.query.point
  /-- Newton-Raphson steps ask for slopes at such points only. -/
  slope (call : Call α) :
    finder.config.method = .newtonRaphson ->
      call ∈ finder.transcript rounds start ->
      Located finder.config (finder.search rounds start).1.turns
        call.query.point
  /-- The check of an answer asks for nothing elsewhere. -/
  checked (call : Call α) :
    call ∈ finder.checkedTranscript rounds start ->
      call ∈ finder.transcript rounds start ∨
        call.query.isValue = true ∧ Within finder.config call.query.point

/-- A search without heuristics by a provided method that starts between its limits
asks for nothing elsewhere, but at infinities that it has accepted. -/
theorem search_insideLaw
    (finder : Finder σ α)
    (rounds : Nat)
    (start : α)
    (provided : finder.config.method ∈ Method.provided)
    (plain : finder.config.useHeuristics = false)
    (started : Within finder.config start)
    (halfwayWithin : HalfwayWithin finder.config) :
    finder.InsideLaw rounds start := by
  have reached := finder.search_reaches rounds start
  have transcribes := finder.transcribes_transcript rounds start provided
  have inside := reached.located_turns provided plain started halfwayWithin
  refine
    { transcribes := transcribes
      asksInside := fun _ _ _ turns_eq =>
        reached.asksInside provided plain started halfwayWithin turns_eq
      value := transcribes.forall_point
        (fun stepped => stepped.point_eq_of_isValue) inside
      slope := ?_
      checked := fun _ member =>
        mem_checkedTranscript provided plain started halfwayWithin member }
  intro call method_eq member
  have each {x candidate : α} {step : List (Call α)}
      (stepped :
        Method.StepCalls x finder.config.method candidate step)
      (call : Call α) (member : call ∈ step) (_ : True) :
      call.query.point = x :=
    stepped.point_eq_of_newtonRaphson method_eq call member
  exact transcribes.forall_point each inside call member trivial

end Finder

/-- If twice the limits do not overflow, the points half way to them lie between
them. -/
theorem Search.halfwayWithin_of_isFinite
    [FloatingPoint α]
    [BinaryFormat α]
    {config : Config α}
    (finite : isFinite (config.lower + config.lower) = true)
    (finite' : isFinite (config.upper + config.upper) = true) :
    HalfwayWithin config := by
  have lawful : LawfulFloatingPoint α := PackedFormat.lawful
  intro x within
  have ordered := lawful.le_trans within.1 within.2
  have lower := lawful.le_refl (lawful.isNaN_of_le within.1).1
  have upper := lawful.le_refl (lawful.isNaN_of_le within.2).2
  exact ⟨BinaryFormat.halfway_within finite finite' within ⟨ordered, upper⟩,
    BinaryFormat.halfway_within finite finite' within ⟨lower, ordered⟩⟩

namespace Finder

open Search

/-- A Newton-Raphson search for the square root of 612 that is sent back once by its
upper limit, and asks for nothing beyond it. -/
theorem search_insideLaw_squareRoot :
    let finder : Finder Unit Float :=
      .ofFunctions (fun x => x * x - 612.0) (fun x => 2.0 * x)
        [.limits 20.0 25.0]
    finder.config.method ∈ Method.provided ∧
      finder.config.useHeuristics = false ∧
      Within finder.config 20.0 ∧
      HalfwayWithin finder.config ∧
      (finder.search 20 20.0).1.state.retries = 1 ∧
      finder.trySolve 20 20.0 = some (.ok 24.738633753705965) ∧
      finder.InsideLaw 20 20.0 := by
  intro finder
  have provided : finder.config.method ∈ Method.provided := List.mem_cons_self
  have plain : finder.config.useHeuristics = false := rfl
  have started : Within finder.config 20.0 := by
    constructor <;> decide +kernel
  have halfwayWithin : HalfwayWithin finder.config :=
    halfwayWithin_of_isFinite (by decide +kernel) (by decide +kernel)
  exact ⟨provided, plain, started, halfwayWithin, by decide +kernel,
    by decide +kernel,
    search_insideLaw finder 20 20.0 provided plain started halfwayWithin⟩

end Finder
end RootFinding
