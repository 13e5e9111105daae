import RootFinding.Proofs.Bisection.Rounds
import RootFinding.Proofs.Callback.Halting
import RootFinding.Proofs.Callback.Outcome
import RootFinding.Proofs.Search.Classification

/-!
# Evaluations after a failure

Few evaluations follow one that has failed, and all of them are of the derivative:
the function is not asked for after the derivative has failed, and a step asks for two
slopes at most before its candidate aborts the search.  `Spent` says so of a log.  It
survives the questions of an inquiry that asks for no slope (`YieldsToNaN.spends`), and
a step that begins before the first failure, or right after it
(`Method.Spends`), and so every search and its check (`Callbacks.haltLaw`).
-/

namespace RootFinding

open FloatingPoint

/-- In a log, whose latest evaluation is the first one, at most so many evaluations
follow a failed one, and all of them are of the derivative. -/
def Spent (count : Nat) (log : List (Attempt ε α)) : Prop :=
  ∀ later failed earlier,
    log = later ++ failed :: earlier ->
      failed.error?.isSome = true ->
      later.length ≤ count ∧
        ∀ attempt ∈ later, attempt.query.isValue = false

namespace Spent

variable {count : Nat} {log : List (Attempt ε α)}

theorem mono
    (spent : Spent count log)
    {count' : Nat}
    (le : count ≤ count') :
    Spent count' log := by
  intro later failed earlier log_eq error
  obtain ⟨length_le, slopes⟩ := spent later failed earlier log_eq error
  exact ⟨length_le.trans le, slopes⟩

/-- Nothing follows the latest evaluation, even if it is the first to fail. -/
theorem cons_of_sound
    (sound : ∀ attempt ∈ log, attempt.error? = none)
    (attempt : Attempt ε α) :
    Spent 0 (attempt :: log) := by
  intro later failed earlier log_eq error
  cases later with
  | nil => exact ⟨le_rfl, by simp⟩
  | cons _ later =>
      have member : failed ∈ log := by
        rw [(List.cons.inj log_eq).2]
        simp
      rw [sound failed member] at error
      cases error

theorem of_sound
    (sound : ∀ attempt ∈ log, attempt.error? = none) :
    Spent 0 log := by
  intro later failed earlier log_eq error
  have member : failed ∈ log := by
    rw [log_eq]
    simp
  rw [sound failed member] at error
  cases error

/-- An evaluation of the derivative can follow. -/
theorem cons_slope
    (spent : Spent count log)
    {attempt : Attempt ε α}
    (slope : attempt.query.isValue = false) :
    Spent (count + 1) (attempt :: log) := by
  intro later failed earlier log_eq error
  cases later with
  | nil => exact ⟨Nat.zero_le _, by simp⟩
  | cons last later =>
      obtain ⟨rfl, rest⟩ := List.cons.inj log_eq
      obtain ⟨length_le, slopes⟩ := spent later failed earlier rest error
      exact ⟨Nat.succ_le_succ length_le,
        List.forall_mem_cons.mpr ⟨slope, slopes⟩⟩

theorem of_reverse
    (spent : Spent count log)
    {earlier later : List (Attempt ε α)}
    {failed : Attempt ε α}
    (reverse_eq : log.reverse = earlier ++ failed :: later)
    (error : failed.error?.isSome = true) :
    later.length ≤ count ∧
      ∀ attempt ∈ later, attempt.query.isValue = false := by
  have log_eq : log = later.reverse ++ failed :: earlier.reverse := by
    rw [← List.reverse_reverse log, reverse_eq]
    simp
  simpa using spent _ _ _ log_eq error

end Spent

/-- At most so many evaluations follow a failed one, and every failed one has led to an
error. -/
structure Guarded.Spends
    (guarded : Guarded (σ × List (Attempt ε α)) ε)
    (count : Nat) : Prop where
  spent : Spent count guarded.world.2
  sound :
    guarded.error? = none ->
      ∀ attempt ∈ guarded.world.2, attempt.error? = none

namespace Guarded.Spends

theorem start (world : σ) :
    (Guarded.start (world, []) :
      Guarded (σ × List (Attempt ε α)) ε).Spends 0 where
  spent := .of_sound (by simp [Guarded.start])
  sound := by simp [Guarded.start]

variable {guarded : Guarded (σ × List (Attempt ε α)) ε} {count : Nat}

theorem mono
    (spends : guarded.Spends count)
    {count' : Nat}
    (le : count ≤ count') :
    guarded.Spends count' :=
  ⟨spends.spent.mono le, spends.sound⟩

/-- Before the first failure, nothing follows a failed evaluation. -/
theorem of_sound
    (spends : guarded.Spends count)
    (sound : guarded.error? = none) :
    guarded.Spends 0 :=
  ⟨.of_sound (spends.sound sound), spends.sound⟩

variable [FloatingPoint α] {callbacks : Callbacks σ ε α}

/-- One more evaluation keeps the log sound unless it fails. -/
theorem sound_cons
    (spends : guarded.Spends count)
    {query : Query α}
    (asked : (callbacks.logged.guarded query guarded).2.error? = none) :
    ∀ attempt ∈ (callbacks.logged.guarded query guarded).2.world.2,
      attempt.error? = none := by
  have before := callbacks.logged.error?_of_guarded query guarded asked
  have reply := callbacks.logged.reply_guarded query guarded
  generalize callbacks.logged.guarded query guarded = replied
    at reply asked ⊢
  cases reply with
  | refused => exact spends.sound before
  | succeeded _ result =>
      obtain ⟨result_eq, rfl⟩ := Prod.mk.inj result
      refine List.forall_mem_cons.mpr ⟨?_, spends.sound before⟩
      rw [result_eq]
      rfl
  | @failed error world _ result =>
      have failed := (guarded.fail world error query).error?_isSome query
        (by rw [errorOf_fail]; rfl)
      rw [asked] at failed
      cases failed

/-- Every evaluation can follow if none has failed. -/
theorem ask_of_sound
    (spends : guarded.Spends count)
    (sound : guarded.error? = none)
    (query : Query α) :
    (callbacks.logged.guarded query guarded).2.Spends 0 := by
  refine ⟨?_, spends.sound_cons⟩
  have reply := callbacks.logged.reply_guarded query guarded
  generalize callbacks.logged.guarded query guarded = replied at reply ⊢
  cases reply with
  | refused => exact .of_sound (spends.sound sound)
  | succeeded _ result =>
      obtain ⟨-, rfl⟩ := Prod.mk.inj result
      exact .cons_of_sound (spends.sound sound) _
  | failed _ result =>
      obtain ⟨-, rfl⟩ := Prod.mk.inj result
      rw [world_fail]
      exact .cons_of_sound (spends.sound sound) _

/-- An evaluation of the derivative can follow in any case. -/
theorem ask_slope
    (spends : guarded.Spends count)
    (point : α) :
    (callbacks.logged.guarded (.slope point) guarded).2.Spends (count + 1) := by
  refine ⟨?_, spends.sound_cons⟩
  have reply := callbacks.logged.reply_guarded (.slope point) guarded
  generalize callbacks.logged.guarded (.slope point) guarded = replied
    at reply ⊢
  cases reply with
  | refused => exact spends.spent.mono (Nat.le_succ count)
  | succeeded _ result =>
      obtain ⟨-, rfl⟩ := Prod.mk.inj result
      exact spends.spent.cons_slope rfl
  | failed _ result =>
      obtain ⟨-, rfl⟩ := Prod.mk.inj result
      rw [world_fail]
      exact spends.spent.cons_slope rfl

/-- Unless the derivative has failed, a question about the function is evaluated before
any failure, or not at all. -/
theorem ask_value
    (spends : guarded.Spends 0)
    (noSlopeError : guarded.slopeError = none)
    (point : α) :
    (callbacks.logged.guarded (.value point) guarded).2.Spends 0 := by
  cases valueError : guarded.valueError with
  | some error =>
      rw [callbacks.logged.guarded_of_errorOf (.value point) guarded error valueError]
      exact spends
  | none =>
      have sound : guarded.error? = none := by
        rw [error?, valueError, noSlopeError]
        rfl
      exact spends.ask_of_sound sound _

end Guarded.Spends

open Search

variable [FloatingPoint α]

/-- An inquiry whose answer is impossible if a slope was NaN asks for no slope. -/
theorem Inquiry.AvoidsValues.false_of_false
    {inquiry : Inquiry α β}
    (avoids : inquiry.AvoidsValues fun _ => False) :
    False := by
  induction avoids with
  | answer impossible => exact impossible
  | slope _ hypothesis => exact hypothesis

/-- An inquiry that asks for no slope makes no evaluation after a failed one. -/
theorem Inquiry.YieldsToNaN.spends
    {inquiry : Inquiry α β}
    (yields : inquiry.YieldsToNaN fun _ => False)
    (callbacks : Callbacks σ ε α)
    {guarded : Guarded (σ × List (Attempt ε α)) ε}
    (spends : guarded.Spends 0)
    (noSlopeError : guarded.slopeError = none) :
    (inquiry.run callbacks.logged.guarded guarded).2.Spends 0 ∧
      (inquiry.run callbacks.logged.guarded guarded).2.slopeError = none := by
  induction yields generalizing guarded with
  | answer => exact ⟨spends, noSlopeError⟩
  | @value point next rest hypothesis =>
      have unchanged :
          (callbacks.logged.guarded (.value point) guarded).2.slopeError =
            guarded.slopeError :=
        callbacks.logged.errorOf_guarded_of_ne
          (show (Query.value point).isValue ≠ (Query.slope point).isValue by
            simp [Query.isValue])
          guarded
      exact hypothesis _ (spends.ask_value noSlopeError point)
        (unchanged.trans noSlopeError)
  | slope rest avoids => exact avoids.false_of_false.elim

/-! ## Searches -/

/-- Methods whose steps make at most so many evaluations after a failed one. -/
def Method.Spends (method : Method α) (count : Nat) : Prop :=
  ∀ {σ ε : Type} (callbacks : Callbacks σ ε α) (x : α)
    {guarded : Guarded (σ × List (Attempt ε α)) ε},
    guarded.Spends 0 ->
      guarded.slopeError = none ->
      ((method.step x).run callbacks.logged.guarded guarded).2.Spends count

theorem Method.newtonRaphson_spends :
    (newtonRaphson : Method α).Spends 1 := fun _ x _ spends noSlopeError =>
  (spends.ask_value noSlopeError x).ask_slope x

theorem Method.homeier_spends :
    (homeier : Method α).Spends 2 := fun _ x _ spends noSlopeError =>
  ((spends.ask_value noSlopeError x).ask_slope x).ask_slope _

namespace Callbacks

theorem slopeError_eq_none_of_sound
    {guarded : Guarded σ ε}
    (sound : guarded.error? = none) :
    guarded.slopeError = none := by
  rw [← Option.not_isSome_iff_eq_none] at sound ⊢
  exact fun failed => sound (guarded.error?_isSome (.slope ()) failed)

variable [LawfulFloatingPoint α]
  {callbacks : Callbacks σ ε α} {world : σ} {config : Config α}
  {count : Nat}

/-- After a round, few evaluations follow a failed one, and none does unless the round
aborts the search. -/
theorem spends_of_play
    (propagates : config.method.PropagatesFailure)
    (costs : config.method.Spends count)
    {state : State α}
    {guarded : Guarded (σ × List (Attempt ε α)) ε}
    {turn : Turn α}
    {guarded' : Guarded (σ × List (Attempt ε α)) ε}
    (played :
      (callbacks.logged.finder (world, []) config).play state guarded =
        (turn, guarded'))
    (spends : guarded.Spends 0)
    (noSlopeError : guarded.slopeError = none) :
    guarded'.Spends count ∧
      (turn.verdict ≠ .abort ->
        guarded'.Spends 0 ∧ guarded'.slopeError = none) := by
  have judged : config.judge state turn.candidate = turn.verdict :=
    (Finder.fits_of_play played).judged
  obtain ⟨between, stepped, asked⟩ := Finder.exists_between_of_play played
  have spent : between.Spends count := by
    have spent := costs callbacks state.current spends noSlopeError
    rw [show (config.method.step state.current).run
      callbacks.logged.guarded guarded = _ from stepped] at spent
    exact spent
  cases step_error : between.error? with
  | some error =>
      -- The candidate is NaN, so that nothing is asked for after the step.
      have undefined := propagates stepped (by rw [step_error]; rfl)
      have aborts := judge_of_isNaN config state undefined
      rw [show testAfter (callbacks.logged.finder (world, []) config).config
        state turn.candidate = .answer none by
          change testAfter config state turn.candidate = _
          rw [testAfter, aborts]] at asked
      obtain ⟨-, rfl⟩ := Prod.mk.inj asked
      exact ⟨spent, fun goesOn => absurd (judged.symm.trans aborts) goesOn⟩
  | none =>
      have tested := (testAfter_yieldsToNaN config state turn.candidate).spends
        callbacks (spent.of_sound step_error)
        (slopeError_eq_none_of_sound step_error)
      rw [show (testAfter config state turn.candidate).run
        callbacks.logged.guarded between = _ from asked] at tested
      exact ⟨tested.1.mono (Nat.zero_le count), fun _ => tested⟩

/-- The same is true after any number of rounds. -/
theorem spends_search
    (callbacks : Callbacks σ ε α)
    (world : σ)
    (propagates : config.method.PropagatesFailure)
    (costs : config.method.Spends count)
    (rounds : Nat)
    (start : α) :
    let finder := callbacks.logged.finder (world, []) config
    (finder.search rounds start).2.Spends count ∧
      ((finder.search rounds start).1.ending ≠ some .aborted ->
        (finder.search rounds start).2.Spends 0 ∧
          (finder.search rounds start).2.slopeError = none) := by
  intro finder
  induction rounds with
  | zero =>
      have spends := Guarded.Spends.start (ε := ε) (α := α) world
      exact ⟨spends.mono (Nat.zero_le count), fun _ => ⟨spends, rfl⟩⟩
  | succ rounds hypothesis =>
      rcases finder.search_succ_cases rounds start with
        ⟨-, same⟩ | ⟨going, turn, world', played, extended⟩
      · rw [same]
        exact hypothesis
      · obtain ⟨spends, noSlopeError⟩ := hypothesis.2 (by rw [going]; simp)
        obtain ⟨spends', goesOn⟩ :=
          spends_of_play propagates costs played spends noSlopeError
        rw [extended]
        refine ⟨spends', fun notAborted => goesOn fun aborted => notAborted ?_⟩
        rw [Record.ending_extend, Config.ending?, aborted]

/-- The check of an answer makes no evaluation after a failed one. -/
theorem spends_checkedSearch
    (callbacks : Callbacks σ ε α)
    (world : σ)
    (propagates : config.method.PropagatesFailure)
    (costs : config.method.Spends count)
    (rounds : Nat)
    (start : α) :
    ((callbacks.logged.finder (world, []) config).checkedSearch
      rounds start).2.Spends count := by
  let finder := callbacks.logged.finder (world, []) config
  have searched := callbacks.spends_search world propagates costs rounds start
  change (finder.checkedSearch rounds start).2.Spends count
  cases solved : finder.solve rounds start with
  | none =>
      rw [finder.checkedSearch_of_solve_eq_none solved]
      exact searched.1
  | some root =>
      rw [finder.checkedSearch_of_solve solved]
      rcases (finder.solve_eq_some_iff rounds start root).mp solved with
        ⟨-, rfl⟩ | ⟨finished, -⟩
      · rw [check_nan]
        exact searched.1
      · obtain ⟨spends, noSlopeError⟩ := searched.2 fun aborted => by
          cases finished.symm.trans aborted
        have checked := (check_yieldsToNaN config root).spends callbacks
          spends noSlopeError
        exact checked.1.mono (Nat.zero_le count)

end Callbacks

/-! ## Requests -/

theorem Request.snd_run_inquiry
    (request : Request α)
    (method : Method α)
    (oracle : Oracle σ α)
    (world : σ)
    (rounds : Nat)
    (start : α) :
    ((request.inquiry (request.described method) rounds start).run
        oracle world).2 =
      if request.strict then
        ((request.finder method oracle world).checkedSearch rounds start).2
      else ((request.finder method oracle world).search rounds start).2 := by
  unfold inquiry
  split <;> rw [Inquiry.run_bind] <;> rfl

namespace Callbacks

variable (callbacks : Callbacks σ ε α) (world : σ)

/-- A request has an outcome exactly when its search has ended. -/
theorem isSome_find
    {request : Request α}
    {method : Method α}
    (named : Method.named? request.method = some method)
    (rounds : Nat)
    (start : α) :
    (callbacks.find world request rounds start).1.isSome =
      ((request.finder method callbacks.guarded (.start world)).search
        rounds start).1.ending.isSome := by
  rw [find_eq _ _ named, Option.isSome_map, Request.run_inquiry,
    ← Finder.isSome_solve, Finder.answer]
  split
  · rw [Finder.trySolve_eq_map_solve, Option.isSome_map]
  · rw [Option.isSome_map]

/-- What a request does once an evaluation has failed. -/
structure FindHaltLaw
    (request : Request α)
    (method : Method α)
    (rounds : Nat)
    (start : α) : Prop where
  /-- At most two more evaluations are made, all of them of the derivative. -/
  evaluations (earlier later : List (Attempt ε α)) (failed : Attempt ε α) :
    callbacks.findAttempts world request rounds start =
        earlier ++ failed :: later ->
      failed.error?.isSome = true ->
      later.length ≤ 2 ∧ ∀ attempt ∈ later, attempt.query.isValue = false
  /-- The request has an outcome, if one more round is allowed. -/
  returns (extra : Nat) (failed : Attempt ε α) :
    failed ∈ callbacks.findAttempts world request rounds start ->
      failed.error?.isSome = true ->
      (callbacks.find world request (rounds + 1 + extra) start).1.isSome = true
  /-- The error that a search keeps is that of the first evaluation that has
  failed. -/
  first :
    ((request.finder method callbacks.guarded (.start world)).search
        rounds start).2.error? =
      (callbacks.attempts
        (fromPoint (request.described method) rounds start)
        world).findSome? Attempt.error?
  /-- The search halts from the round on in which the first evaluation has failed. -/
  halts :
    let finder := request.finder method callbacks.guarded (.start world)
    (finder.search rounds start).2.error?.isSome = true ->
      ∃ earlier turn,
        earlier < rounds ∧
          finder.FailsFirst earlier start ∧
          finder.Halts earlier start turn

/-- What a bisection does once an evaluation has failed. -/
structure BisectHaltLaw
    (lower upper : α)
    (strict : Bool) : Prop where
  /-- No more evaluations are made. -/
  evaluations (earlier later : List (Attempt ε α)) (failed : Attempt ε α) :
    callbacks.bisectAttempts world lower upper strict =
        earlier ++ failed :: later ->
      failed.error?.isSome = true ->
      later = []
  /-- The bisection ends within a hundred rounds. -/
  outcome :
    let run := (Bisection.ofBracket ⟨lower, upper⟩).run
      callbacks.guarded (.start world)
    Bisection.Outcome Bisection.limit callbacks.guarded ⟨lower, upper⟩
      (.start world) 100 run.1 run.2

/-- A search ends in the round after a failure, or has ended already. -/
theorem ended_of_raised
    [LawfulFloatingPoint α]
    {callbacks : Callbacks σ ε α}
    {world : σ}
    {request : Request α}
    {method : Method α}
    (propagates : (request.described method).method.PropagatesFailure)
    {rounds : Nat}
    {start : α}
    (raised :
      ((request.inquiry (request.described method) rounds start).run
        callbacks.guarded (.start world)).2.error?.isSome = true) :
    ((request.finder method callbacks.guarded (.start world)).search
      (rounds + 1) start).1.ending.isSome = true := by
  let finder := request.finder method callbacks.guarded (.start world)
  have ends
      (failed : (finder.search rounds start).2.error?.isSome = true) :
      (finder.search (rounds + 1) start).1.ending.isSome = true :=
    (search_add_of_failed propagates failed 1).2.2 Nat.one_pos
  rw [Request.snd_run_inquiry] at raised
  split at raised
  · cases solved : finder.solve rounds start with
    | none =>
        rw [finder.checkedSearch_of_solve_eq_none solved] at raised
        exact ends raised
    | some root =>
        have ended : (finder.search rounds start).1.ending.isSome = true := by
          rw [← finder.isSome_solve, solved]
          rfl
        change (finder.search (rounds + 1) start).1.ending.isSome = true
        rw [finder.search_succ_of_ended rounds start ended]
        exact ended
  · exact ends raised

/-- Few evaluations of a request follow a failed one. -/
theorem spends_inquiry
    [LawfulFloatingPoint α]
    {request : Request α}
    {method : Method α}
    {count : Nat}
    (propagates : (request.described method).method.PropagatesFailure)
    (costs : (request.described method).method.Spends count)
    (rounds : Nat)
    (start : α) :
    ((request.inquiry (request.described method) rounds start).run
      callbacks.logged.guarded (.start (world, []))).2.Spends count := by
  rw [Request.snd_run_inquiry]
  split
  · exact callbacks.spends_checkedSearch world propagates costs rounds start
  · exact (callbacks.spends_search world propagates costs rounds start).1

theorem findHaltLaw
    [LawfulFloatingPoint α]
    {request : Request α}
    {method : Method α}
    (named : Method.named? request.method = some method)
    (propagatesNaN : method.PropagatesNaN)
    (propagatesFailure : method.PropagatesFailure)
    (costs : method.Spends 2)
    (rounds : Nat)
    (start : α) :
    callbacks.FindHaltLaw world request method rounds start := by
  let config := request.described method
  have yields : config.method.PropagatesNaN := propagatesNaN
  have propagates : config.method.PropagatesFailure := propagatesFailure
  let inquiry := request.inquiry config rounds start
  have spends :
      (inquiry.run callbacks.logged.guarded (.start (world, []))).2.Spends 2 :=
    callbacks.spends_inquiry world propagates costs rounds start
  have attempts_eq := callbacks.findAttempts_eq world named rounds start
  refine
    { evaluations := ?_
      returns := ?_
      first := ?_
      halts := ?_ }
  · intro earlier later failed split_eq error
    rw [attempts_eq] at split_eq
    exact spends.spent.of_reverse split_eq error
  · intro extra failed member error
    rw [attempts_eq] at member
    have raised : (inquiry.run callbacks.guarded (.start world)).2.error?.isSome := by
      rw [← callbacks.error?_run, ← Option.ne_none_iff_isSome]
      intro sound
      rw [spends.sound sound failed (List.mem_reverse.mp member)] at error
      cases error
    have ended := ended_of_raised propagates raised
    rw [isSome_find _ _ named, Finder.search_add_of_ended _ _ _ _ ended]
    exact ended
  · exact callbacks.error?_eq_findSome?_attempts
      (run_yieldsToNaN yields rounds (.start start)) world
  · intro finder failed
    obtain ⟨earlier, less, first⟩ := Finder.exists_failsFirst rfl failed
    obtain ⟨turn, halts⟩ := halts_of_failsFirst propagates first
    exact ⟨earlier, turn, less, first, halts⟩

theorem bisectHaltLaw
    (lower upper : α)
    (strict : Bool) :
    callbacks.BisectHaltLaw world lower upper strict where
  evaluations earlier later failed split_eq error := by
    have yields := ofBracket_yieldsToNaN (⟨lower, upper⟩ : Bracket α)
    have spends := (yields.spends callbacks (.start world) rfl).1
    have length_le := (spends.spent.of_reverse split_eq error).1
    exact List.eq_nil_of_length_eq_zero (Nat.le_zero.mp length_le)
  outcome := Bisection.outcome_run _ _ _ _ Bisection.maxIterations

/-- What becomes of everything that can be asked for once an evaluation has failed. -/
structure HaltLaw : Prop where
  newtonRaphson (request : Request α) (rounds : Nat) (start : α) :
    request.method = "newton_raphson" ->
      callbacks.FindHaltLaw world request .newtonRaphson rounds start
  homeier (request : Request α) (rounds : Nat) (start : α) :
    request.method = "homeier" ->
      callbacks.FindHaltLaw world request .homeier rounds start
  bisect (lower upper : α) (strict : Bool) :
    callbacks.BisectHaltLaw world lower upper strict

/-- An evaluation that fails ends everything that can be asked for. -/
theorem haltLaw
    [LawfulFloatingPoint α]
    [LawfulQuotient α] :
    callbacks.HaltLaw world where
  newtonRaphson request rounds start named := by
    have found : Method.named? request.method =
        some (.newtonRaphson : Method α) := by
      rw [named, Method.named?_newtonRaphson]
    exact callbacks.findHaltLaw world found Method.newtonRaphson_propagatesNaN
      Method.newtonRaphson_propagatesFailure
      (fun callbacks x _ spends noSlopeError =>
        (Method.newtonRaphson_spends callbacks x spends noSlopeError).mono
          one_le_two)
      rounds start
  homeier request rounds start named := by
    have found : Method.named? request.method =
        some (.homeier : Method α) := by
      rw [named, Method.named?_homeier]
    exact callbacks.findHaltLaw world found Method.homeier_propagatesNaN
      Method.homeier_propagatesFailure Method.homeier_spends rounds start
  bisect := callbacks.bisectHaltLaw world

/-- A function that fails in the first convergence test, after which one more round of
Homeier's method asks for two slopes. -/
theorem haltLaw_test :
    let callbacks : Callbacks CallCounts String Float :=
      .numbered
        (fun count x =>
          if count < 1 then .ok (x * x - 612.0) else .error "function")
        (fun _ x => .ok (2.0 * x))
    let request : Request Float :=
      { Request.default with method := "homeier", minIterations := 1 }
    let finder := request.finder .homeier callbacks.guarded (.start .zero)
    (callbacks.findAttempts .zero request 2 10.0).map Attempt.error? =
        [none, none, none, some "function", none, none] ∧
      finder.FailsFirst 0 10.0 ∧
      (finder.search 2 10.0).1.state.accepted = 1 ∧
      callbacks.HaltLaw .zero := by
  intro callbacks request finder
  have failsFirst : finder.FailsFirst 0 10.0 :=
    ⟨rfl, by decide +kernel⟩
  exact ⟨by decide +kernel, failsFirst, by decide +kernel,
    haltLaw callbacks CallCounts.zero⟩

end Callbacks

end RootFinding
