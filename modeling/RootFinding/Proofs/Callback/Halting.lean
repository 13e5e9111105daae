import RootFinding.Proofs.Callback.Log
import RootFinding.Proofs.Callback.Yielding
import RootFinding.Proofs.Search.Plain

/-!
# Failures end a search

A question to a callback that has failed is answered by NaN.  Both provided methods
propose NaN once either callback has failed by the end of a step
(`Method.PropagatesFailure`), and NaN is beyond no limit, is no infinity, and was never
recorded, so that it gets past every retry and aborts the search.

An evaluation can therefore fail in a step, which aborts the search at once, or in a
convergence test, after which one more round may be begun, to be aborted
(`play_of_failed`).  Either way the search stays for ever in the state that it is in at
the end of the round in which the evaluation has failed (`search_add_of_failed`).
-/

namespace RootFinding

open FloatingPoint

namespace Guarded

/-- If there is an error to be raised, then one of the callbacks has failed. -/
theorem errorOf_of_error?
    {guarded : Guarded σ ε}
    (failed : guarded.error?.isSome = true)
    (x y : α) :
    (guarded.errorOf (.value x)).isSome = true ∨
      (guarded.errorOf (.slope y)).isSome = true := by
  obtain ⟨_, valueError, slopeError⟩ := guarded
  cases valueError with
  | some error => exact Or.inl rfl
  | none => exact Or.inr failed

end Guarded

namespace Callbacks

variable [FloatingPoint α] (callbacks : Callbacks σ ε α)

/-- A callback that has failed by the end of a question has answered it by NaN. -/
theorem guarded_eq_nan
    (query : Query α)
    (guarded : Guarded σ ε)
    (failed :
      ((callbacks.guarded query guarded).2.errorOf query).isSome = true) :
    (callbacks.guarded query guarded).1 = nan := by
  have reply := callbacks.reply_guarded query guarded
  generalize callbacks.guarded query guarded = replied at reply failed ⊢
  cases reply with
  | refused | failed => rfl
  | succeeded sound =>
      rw [Guarded.errorOf_world, sound] at failed
      cases failed

/-- A question does not change the error of the other callback. -/
theorem errorOf_guarded_of_ne
    {query query' : Query α}
    (differ : query.isValue ≠ query'.isValue)
    (guarded : Guarded σ ε) :
    (callbacks.guarded query guarded).2.errorOf query' =
      guarded.errorOf query' := by
  have reply := callbacks.reply_guarded query guarded
  generalize callbacks.guarded query guarded = replied at reply ⊢
  cases reply with
  | refused => rfl
  | succeeded => exact Guarded.errorOf_world ..
  | failed =>
      cases query <;> cases query' <;> first | rfl | exact absurd rfl differ

end Callbacks

/-- An error to be raised is never dropped. -/
theorem Callbacks.error?_isSome_of_run
    [FloatingPoint α]
    (callbacks : Callbacks σ ε α)
    (inquiry : Inquiry α β)
    {guarded : Guarded σ ε}
    (failed : guarded.error?.isSome = true) :
    (inquiry.run callbacks.guarded guarded).2.error?.isSome = true := by
  rw [← Option.ne_none_iff_isSome] at failed ⊢
  exact fun sound => failed (callbacks.error?_of_run inquiry guarded sound)

/-! ## Stepping methods -/

/-- Methods that propose NaN if a callback has failed by the end of a step. -/
def Method.PropagatesFailure [FloatingPoint α] (method : Method α) : Prop :=
  ∀ {σ ε : Type} {callbacks : Callbacks σ ε α} {x : α} {guarded : Guarded σ ε}
    {candidate : α} {guarded' : Guarded σ ε},
    (method.step x).run callbacks.guarded guarded = (candidate, guarded') ->
      guarded'.error?.isSome = true ->
      isNaN candidate = true

section Methods

variable [FloatingPoint α] [LawfulFloatingPoint α] [LawfulQuotient α]

theorem isNaN_step_of_value (x slope : α) :
    isNaN (x - nan / slope) = true :=
  LawfulFloatingPoint.isNaN_sub
    (LawfulQuotient.isNaN_div LawfulFloatingPoint.isNaN_nan)

theorem Method.newtonRaphson_propagatesFailure :
    (newtonRaphson : Method α).PropagatesFailure := by
  intro σ ε callbacks x guarded candidate guarded' stepped failed
  let value := callbacks.guarded (.value x) guarded
  let slope := callbacks.guarded (.slope x) value.2
  obtain ⟨rfl, rfl⟩ : x - value.1 / slope.1 = candidate ∧ slope.2 = guarded' :=
    Prod.mk.inj stepped
  rcases Guarded.errorOf_of_error? failed x x with value_failed | slope_failed
  · rw [callbacks.errorOf_guarded_of_ne (by simp [Query.isValue])]
      at value_failed
    rw [callbacks.guarded_eq_nan _ _ value_failed]
    exact isNaN_step_of_value x slope.1
  · rw [callbacks.guarded_eq_nan _ _ slope_failed]
    exact isNaN_step x value.1

theorem Method.homeier_propagatesFailure :
    (homeier : Method α).PropagatesFailure := by
  intro σ ε callbacks x guarded candidate guarded' stepped failed
  let value := callbacks.guarded (.value x) guarded
  let slope := callbacks.guarded (.slope x) value.2
  let half := x - 0.5 * value.1 / slope.1
  let halfway := callbacks.guarded (.slope half) slope.2
  obtain ⟨rfl, rfl⟩ : x - value.1 / halfway.1 = candidate ∧ halfway.2 = guarded' :=
    Prod.mk.inj stepped
  -- The half step may be anything: the candidate is made of the other two replies.
  rcases Guarded.errorOf_of_error? failed x half with value_failed | slope_failed
  · rw [callbacks.errorOf_guarded_of_ne (by simp [Query.isValue]),
      callbacks.errorOf_guarded_of_ne (by simp [Query.isValue])] at value_failed
    rw [callbacks.guarded_eq_nan _ _ value_failed]
    exact isNaN_step_of_value x halfway.1
  · rw [callbacks.guarded_eq_nan _ _ slope_failed]
    exact isNaN_step x value.1

end Methods

open Search

variable [FloatingPoint α]

/-- The finder whose oracle are guarded callbacks. -/
def Callbacks.finder
    (callbacks : Callbacks σ ε α)
    (world : σ)
    (config : Config α) : Finder (Guarded σ ε) α where
  oracle := callbacks.guarded
  world := .start world
  config := config

/-! ## Rounds -/

/-- The ways in which a round can go if an evaluation has failed by its end. -/
inductive Finder.FailedRound
    (finder : Finder (Guarded σ ε) α)
    (state : State α)
    (guarded : Guarded σ ε)
    (turn : Turn α) : Prop where
  /-- An evaluation of the step has failed, or one before the round. -/
  | inStep {between : Guarded σ ε}
      (stepped :
        (finder.config.method.step state.current).run finder.oracle guarded =
          (turn.candidate, between))
      (failed : between.error?.isSome = true)
      (aborted : turn.verdict = .abort)
  /-- The evaluation of the convergence test has failed, and none before it. -/
  | inTest {between : Guarded σ ε}
      (stepped :
        (finder.config.method.step state.current).run finder.oracle guarded =
          (turn.candidate, between))
      (sound : between.error? = none)
      (accepted : turn.isAccepted = true)
      (tested : turn.test = some nan)

namespace Callbacks

variable {callbacks : Callbacks σ ε α} {world : σ} {config : Config α}

/-- Only the test of a candidate that is accepted can fail, and its value is NaN
then. -/
theorem of_testAfter_failed
    {state : State α}
    {candidate : α}
    {guarded : Guarded σ ε}
    {test : Option α}
    {guarded' : Guarded σ ε}
    (asked :
      (testAfter config state candidate).run callbacks.guarded guarded =
        (test, guarded'))
    (sound : guarded.error? = none)
    (failed : guarded'.error?.isSome = true) :
    (∃ recorded, config.judge state candidate = .accept recorded) ∧
      test = some nan := by
  have changed : guarded ≠ guarded' := by
    rintro rfl
    rw [sound] at failed
    cases failed
  unfold testAfter at asked
  split at asked
  case h_1 recorded judged =>
    refine ⟨⟨recorded, judged⟩, ?_⟩
    rw [run_test] at asked
    split at asked
    case isTrue => exact absurd (Prod.mk.inj asked).2 changed
    case isFalse enough =>
      obtain ⟨rfl, rfl⟩ := Prod.mk.inj asked
      rcases Guarded.errorOf_of_error? failed candidate candidate with
        value_failed | slope_failed
      · exact congrArg some (callbacks.guarded_eq_nan _ _ value_failed)
      · rw [callbacks.errorOf_guarded_of_ne (by simp [Query.isValue])]
          at slope_failed
        have failed_before := guarded.error?_isSome _ slope_failed
        rw [sound] at failed_before
        cases failed_before
  case h_2 => exact absurd (Prod.mk.inj asked).2 changed

variable [LawfulFloatingPoint α]

/-- A round goes in one of these ways if an evaluation has failed by its end. -/
theorem play_of_failed
    (propagates : config.method.PropagatesFailure)
    {state : State α}
    {guarded : Guarded σ ε}
    {turn : Turn α}
    {guarded' : Guarded σ ε}
    (played :
      (callbacks.finder world config).play state guarded = (turn, guarded'))
    (failed : guarded'.error?.isSome = true) :
    (callbacks.finder world config).FailedRound state guarded turn := by
  have judged : config.judge state turn.candidate = turn.verdict :=
    (Finder.fits_of_play played).judged
  obtain ⟨between, stepped, asked⟩ := Finder.exists_between_of_play played
  cases step_error : between.error? with
  | some error =>
      have step_failed : between.error?.isSome = true := by
        rw [step_error]
        rfl
      have undefined := propagates stepped step_failed
      exact .inStep stepped step_failed
        (judged.symm.trans (judge_of_isNaN config state undefined))
  | none =>
      obtain ⟨⟨recorded, accepts⟩, tested⟩ :=
        of_testAfter_failed asked step_error failed
      have verdict_eq := judged.symm.trans accepts
      exact .inTest stepped step_error
        (by rw [Turn.isAccepted, verdict_eq]) tested

/-- A round that begins after an evaluation has failed aborts the search. -/
theorem aborted_of_failed
    (propagates : config.method.PropagatesFailure)
    {state : State α}
    {guarded : Guarded σ ε}
    {turn : Turn α}
    {guarded' : Guarded σ ε}
    (played :
      (callbacks.finder world config).play state guarded = (turn, guarded'))
    (failed : guarded.error?.isSome = true) :
    turn.verdict = .abort := by
  have failed' : guarded'.error?.isSome = true := by
    have kept := callbacks.error?_isSome_of_run (round config state) failed
    rw [show (round config state).run callbacks.guarded guarded =
      (turn, guarded') from played] at kept
    exact kept
  cases play_of_failed propagates played failed' with
  | inStep _ _ aborted => exact aborted
  | inTest stepped sound =>
      have kept := callbacks.error?_isSome_of_run
        (config.method.step state.current) failed
      rw [show (config.method.step state.current).run callbacks.guarded guarded =
        _ from stepped, sound] at kept
      cases kept

end Callbacks

/-! ## Searches -/

namespace Finder

/-- The first evaluation that fails is one of the round after this many. -/
def FailsFirst
    (finder : Finder (Guarded σ ε) α)
    (rounds : Nat)
    (start : α) : Prop :=
  (finder.search rounds start).2.error? = none ∧
    (finder.search (rounds + 1) start).2.error?.isSome = true

/-- If an evaluation has failed, then there is a round in which the first one has. -/
theorem exists_failsFirst
    {finder : Finder (Guarded σ ε) α}
    {rounds : Nat}
    {start : α}
    (sound : finder.world.error? = none)
    (failed : (finder.search rounds start).2.error?.isSome = true) :
    ∃ earlier, earlier < rounds ∧ finder.FailsFirst earlier start := by
  induction rounds with
  | zero =>
      rw [search_zero, sound] at failed
      cases failed
  | succ rounds hypothesis =>
      cases before : (finder.search rounds start).2.error? with
      | none => exact ⟨rounds, Nat.lt_succ_self rounds, before, failed⟩
      | some error =>
          obtain ⟨earlier, less, first⟩ := hypothesis (by rw [before]; rfl)
          exact ⟨earlier, Nat.lt_succ_of_lt less, first⟩

/-- How a search goes on from the round in which the first evaluation has failed. -/
structure Halts
    (finder : Finder (Guarded σ ε) α)
    (rounds : Nat)
    (start : α)
    (turn : Turn α) : Prop where
  /-- The round was played. -/
  turns_eq :
    (finder.search (rounds + 1) start).1.turns =
      turn :: (finder.search rounds start).1.turns
  /-- The evaluation was one of its step, or that of its convergence test. -/
  failed :
    finder.FailedRound (finder.search rounds start).1.state
      (finder.search rounds start).2 turn
  /-- No retry is made from this round on. -/
  retries_eq (later : Nat) :
    rounds ≤ later ->
      (finder.search later start).1.state.retries =
        (finder.search rounds start).1.state.retries
  /-- No step is accepted from this round on, apart from the one whose test has
  failed. -/
  accepted_eq (later : Nat) :
    rounds < later ->
      (finder.search later start).1.state.accepted =
        (finder.search rounds start).1.state.accepted +
          if turn.isAccepted then 1 else 0
  /-- At most one more round is begun, and none unless it was a test that has
  failed. -/
  length_turns_le (later : Nat) :
    rounds < later ->
      (finder.search later start).1.turns.length ≤
        rounds + 1 + if turn.isAccepted then 1 else 0
  /-- The search ends. -/
  ended (later : Nat) :
    rounds + 2 ≤ later ->
      (finder.search later start).1.ending.isSome = true

/-- A round by whose end an evaluation has failed is no retry, and ends the search
unless it accepts a candidate. -/
theorem FailedRound.after
    {finder : Finder (Guarded σ ε) α}
    {record : Record α}
    {guarded : Guarded σ ε}
    {turn : Turn α}
    (fits : turn.Fits finder.config record.state)
    (failed : finder.FailedRound record.state guarded turn) :
    (record.state.after turn).retries = record.state.retries ∧
      (record.state.after turn).accepted =
        record.state.accepted + (if turn.isAccepted then 1 else 0) ∧
      ((record.extend finder.config turn).ending.isSome = true ∨
        turn.isAccepted = true) := by
  cases fits with
  | retry =>
      rcases failed with ⟨-, -, aborted⟩ | ⟨-, -, accepted, -⟩
      · cases aborted
      · cases accepted
  | abort => exact ⟨rfl, rfl, Or.inl rfl⟩
  | untested | tested => exact ⟨rfl, rfl, Or.inr rfl⟩

end Finder

namespace Callbacks

variable [LawfulFloatingPoint α]
  {callbacks : Callbacks σ ε α} {world : σ} {config : Config α}
  {rounds : Nat} {start : α}

/-- After a failure, a search stays in the state in which it is.  It plays at most one
more round, if it has not ended, and has ended then. -/
theorem search_add_of_failed
    (propagates : config.method.PropagatesFailure)
    (failed :
      ((callbacks.finder world config).search
        rounds start).2.error?.isSome = true)
    (more : Nat) :
    let finder := callbacks.finder world config
    let record := (finder.search rounds start).1
    let record' := (finder.search (rounds + more) start).1
    record'.state = record.state ∧
      record'.turns.length ≤
        record.turns.length + (if record.ending.isSome then 0 else 1) ∧
      (0 < more -> record'.ending.isSome = true) := by
  intro finder record record'
  cases more with
  | zero => exact ⟨rfl, Nat.le_add_right .., fun impossible => nomatch impossible⟩
  | succ more =>
      rcases finder.search_succ_cases rounds start with
        ⟨ended, -⟩ | ⟨going, turn, world', played, extended⟩
      · have same : record' = record :=
          congrArg Prod.fst (finder.search_add_of_ended rounds _ start ended)
        rw [same]
        exact ⟨rfl, Nat.le_add_right .., fun _ => ended⟩
      · have aborted := aborted_of_failed propagates played failed
        have ended :
            (finder.search (rounds + 1) start).1.ending.isSome = true := by
          rw [extended, Record.ending_extend, Config.ending?, aborted]
          rfl
        have same : record' = (finder.search (rounds + 1) start).1 := by
          change (finder.search (rounds + (more + 1)) start).1 = _
          rw [Nat.add_comm more, ← Nat.add_assoc,
            finder.search_add_of_ended (rounds + 1) more start ended]
        refine ⟨?_, ?_, fun _ => by rw [same]; exact ended⟩
        · rw [same, extended, Record.state_extend, State.after, aborted]
        · rw [same, extended, show record.ending = none from going]
          exact le_rfl

/-- The first evaluation that fails does so in a round that is played. -/
theorem exists_failedRound
    (propagates : config.method.PropagatesFailure)
    (first : (callbacks.finder world config).FailsFirst rounds start) :
    let finder := callbacks.finder world config
    let record := (finder.search rounds start).1
    record.ending = none ∧
      ∃ turn,
        (finder.search (rounds + 1) start).1 = record.extend config turn ∧
          turn.Fits config record.state ∧
          finder.FailedRound record.state (finder.search rounds start).2 turn := by
  intro finder record
  obtain ⟨sound, failed⟩ := first
  rcases finder.search_succ_cases rounds start with
    ⟨-, same⟩ | ⟨going, turn, world', played, extended⟩
  · rw [same, sound] at failed
    cases failed
  · rw [extended] at failed
    exact ⟨going, turn, congrArg Prod.fst extended, Finder.fits_of_play played,
      play_of_failed propagates played failed⟩

/-- Nothing but the abort follows the round in which the first evaluation has failed,
and not even that unless the round has accepted a candidate. -/
theorem search_of_failsFirst
    (propagates : config.method.PropagatesFailure)
    (first : (callbacks.finder world config).FailsFirst rounds start)
    {turn : Turn α}
    (extended :
      ((callbacks.finder world config).search (rounds + 1) start).1 =
        ((callbacks.finder world config).search rounds start).1.extend
          config turn)
    (ends :
      ((callbacks.finder world config).search
          (rounds + 1) start).1.ending.isSome = true ∨
        turn.isAccepted = true)
    {later : Nat}
    (less : rounds < later) :
    let finder := callbacks.finder world config
    (finder.search later start).1.state =
        (finder.search rounds start).1.state.after turn ∧
      (finder.search later start).1.turns.length ≤
        rounds + 1 + (if turn.isAccepted then 1 else 0) ∧
      (rounds + 2 ≤ later ->
        (finder.search later start).1.ending.isSome = true) := by
  intro finder
  obtain ⟨going, -⟩ := exists_failedRound propagates first
  obtain ⟨more, rfl⟩ := Nat.exists_eq_add_of_le less
  obtain ⟨state_eq, length_le, ended⟩ :=
    search_add_of_failed propagates first.2 more
  have length_eq :
      (finder.search (rounds + 1) start).1.turns.length = rounds + 1 := by
    rw [extended, Record.turns_extend, List.length_cons,
      Finder.length_turns_of_going rounds going]
  refine ⟨?_, ?_, fun le => ended (by omega)⟩
  · rw [state_eq, extended, Record.state_extend]
  · rw [length_eq] at length_le
    refine length_le.trans (Nat.add_le_add_left ?_ _)
    rcases ends with ends | accepted
    · rw [if_pos ends]
      exact Nat.zero_le _
    · rw [if_pos accepted]
      split <;> omega

/-- From the round in which the first evaluation has failed, a search halts. -/
theorem halts_of_failsFirst
    (propagates : config.method.PropagatesFailure)
    (first : (callbacks.finder world config).FailsFirst rounds start) :
    ∃ turn, (callbacks.finder world config).Halts rounds start turn := by
  obtain ⟨-, turn, extended, fits, failed⟩ := exists_failedRound propagates first
  obtain ⟨retries_eq, accepted_eq, ends⟩ := failed.after fits
  have afterwards {later : Nat} (less : rounds < later) :=
    search_of_failsFirst propagates first extended
      (by rw [extended]; exact ends) less
  refine ⟨turn,
    { turns_eq := congrArg Record.turns extended
      failed := failed
      retries_eq := ?_
      accepted_eq := ?_
      length_turns_le := fun later less => (afterwards less).2.1
      ended := fun later le => (afterwards (by omega)).2.2 le }⟩
  · intro later le
    rcases Nat.eq_or_lt_of_le le with rfl | less
    · rfl
    · rw [(afterwards less).1]
      exact retries_eq
  · intro later less
    rw [(afterwards less).1]
    exact accepted_eq

end Callbacks

end RootFinding
