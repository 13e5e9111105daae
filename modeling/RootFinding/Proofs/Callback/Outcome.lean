import RootFinding.Proofs.Callback.FirstFailure
import RootFinding.Proofs.FloatingPoint.Binary
import RootFinding.Proofs.Search.Reachable

/-!
# Outcomes of requests

A request over callbacks has the outcome of the search that it describes, unless
an evaluation fails; then its outcome is the error of the first evaluation that
has failed, whichever callback it was of, and strict or not
(`Callbacks.errorLaw`).  The same is true of bisection.
-/

namespace RootFinding

open FloatingPoint

namespace Guarded

/-- An error of a callback is the outcome, whatever the answer is. -/
theorem outcome_of_error
    {guarded : Guarded σ ε}
    {error : ε}
    (failed : guarded.error? = some error)
    (answer : Except ConvergenceError α) :
    guarded.outcome answer = .error (.callback error) := by
  rw [outcome, failed]

/-- Without an error of a callback, the outcome is the answer. -/
theorem outcome_of_none
    {guarded : Guarded σ ε}
    (sound : guarded.error? = none)
    (answer : Except ConvergenceError α) :
    guarded.outcome answer = answer.mapError .convergence := by
  rw [outcome, sound]

end Guarded

/-- The answer of a bisection, checked if it is strict. -/
def Bisection.Progress.answer
    [FloatingPoint α]
    (strict : Bool)
    (progress : Progress α) : Except ConvergenceError α :=
  if strict then progress.check else .ok progress.root

namespace Request

variable [FloatingPoint α]

/-- The configuration that the parameters of a request describe. -/
def described (request : Request α) (method : Method α) : Config α where
  method := method
  lower := (request.bounds.map Prod.fst).getD (-largest)
  upper := (request.bounds.map Prod.snd).getD largest
  minIterations := request.minIterations
  maxIterations := request.maxIterations
  targetPrecision := request.targetPrecision
  useHeuristics := request.heuristics

theorem configWith_eq (request : Request α) (method : Method α) :
    request.configWith method = request.described method := by
  unfold configWith described
  cases request.bounds <;> rfl

theorem config_eq
    {request : Request α}
    {method : Method α}
    (named : Method.named? request.method = some method) :
    (request.config : Except (Failure ε) (Config α)) =
      .ok (request.described method) := by
  rw [config, named, ← configWith_eq]

/-- The finder that answers a request over an oracle. -/
def finder
    (request : Request α)
    (method : Method α)
    (oracle : Oracle σ α)
    (world : σ) : Finder σ α where
  oracle := oracle
  world := world
  config := request.described method

end Request

namespace Finder

variable [FloatingPoint α]

/-- The answer of a search, checked if it is strict. -/
def answer
    (finder : Finder σ α)
    (strict : Bool)
    (rounds : Nat)
    (start : α) : Option (Except ConvergenceError α) :=
  if strict then finder.trySolve rounds start
  else (finder.solve rounds start).map .ok

/-- The calls of a search, with those of its check if it is strict. -/
def calls
    (finder : Finder σ α)
    (strict : Bool)
    (rounds : Nat)
    (start : α) : List (Call α) :=
  if strict then finder.checkedTranscript rounds start
  else finder.transcript rounds start

end Finder

namespace Request

variable [FloatingPoint α]

theorem run_inquiry
    (request : Request α)
    (method : Method α)
    (oracle : Oracle σ α)
    (world : σ)
    (rounds : Nat)
    (start : α) :
    ((request.inquiry (request.described method) rounds start).run
        oracle world).1 =
      (request.finder method oracle world).answer request.strict rounds start := by
  unfold inquiry Finder.answer
  split <;> rw [Inquiry.run_bind] <;> rfl

theorem calls_inquiry
    (request : Request α)
    (method : Method α)
    (oracle : Oracle σ α)
    (world : σ)
    (rounds : Nat)
    (start : α) :
    ((request.inquiry (request.described method) rounds start).run
        oracle.recorded (world, [])).2.2.reverse =
      (request.finder method oracle world).calls request.strict rounds start := by
  unfold inquiry Finder.calls
  split <;> rw [Inquiry.run_bind] <;> rfl

end Request

namespace Callbacks

variable [FloatingPoint α]

/-! ## Searches -/

theorem find_eq
    (callbacks : Callbacks σ ε α)
    (world : σ)
    {request : Request α}
    {method : Method α}
    (named : Method.named? request.method = some method)
    (rounds : Nat)
    (start : α) :
    callbacks.find world request rounds start =
      let run := (request.inquiry (request.described method) rounds start).run
        callbacks.guarded (.start world)
      (run.1.map run.2.outcome, run.2.world) := by
  rw [find, Request.config_eq named]

/-- The evaluations of a request, in order. -/
def findAttempts
    (callbacks : Callbacks σ ε α)
    (world : σ)
    (request : Request α)
    (rounds : Nat)
    (start : α) : List (Attempt ε α) :=
  (callbacks.logged.find (world, []) request rounds start).2.2.reverse

theorem findAttempts_eq
    (callbacks : Callbacks σ ε α)
    (world : σ)
    {request : Request α}
    {method : Method α}
    (named : Method.named? request.method = some method)
    (rounds : Nat)
    (start : α) :
    callbacks.findAttempts world request rounds start =
      callbacks.attempts
        (request.inquiry (request.described method) rounds start) world := by
  rw [findAttempts, find_eq _ _ named]
  rfl

/-- What failures and successes of callbacks make of a request. -/
structure FindLaw
    (callbacks : Callbacks σ ε α)
    (world : σ)
    (request : Request α)
    (method : Method α)
    (rounds : Nat)
    (start : α) : Prop where
  /-- Keeping the evaluations does not change the outcome. -/
  observed :
    (callbacks.logged.find (world, []) request rounds start).1 =
      (callbacks.find world request rounds start).1
  /-- If nothing fails, the outcome and the calls are those of a finder over any
  oracle that replies as the callbacks do. -/
  answered (oracle : Oracle σ α) :
    callbacks.Agrees oracle ->
      (callbacks.findAttempts world request rounds start).findSome?
          Attempt.error? = none ->
      (callbacks.find world request rounds start).1 =
          ((request.finder method oracle world).answer
            request.strict rounds start).map (·.mapError .convergence) ∧
        callbacks.findAttempts world request rounds start =
          ((request.finder method oracle world).calls
            request.strict rounds start).map .ofCall
  /-- If an evaluation fails, the outcome is the error of the first one. -/
  raised (error : ε) :
    (callbacks.findAttempts world request rounds start).findSome?
        Attempt.error? = some error ->
      (callbacks.find world request rounds start).1.isSome = true ->
      (callbacks.find world request rounds start).1 =
        some (.error (.callback error))
  /-- A callback is not evaluated again after it has failed. -/
  silenced :
    (callbacks.findAttempts world request rounds start).Pairwise
      fun earlier later =>
        earlier.error?.isSome = true ->
          later.query.isValue ≠ earlier.query.isValue

theorem findLaw
    [LawfulFloatingPoint α]
    (callbacks : Callbacks σ ε α)
    (world : σ)
    {request : Request α}
    {method : Method α}
    (named : Method.named? request.method = some method)
    (propagates : method.PropagatesNaN)
    (rounds : Nat)
    (start : α) :
    callbacks.FindLaw world request method rounds start := by
  have yields :
      (request.inquiry (request.described method) rounds start).YieldsToNaN
        fun _ => True :=
    request.inquiry_yieldsToNaN propagates rounds start
  have attempts_eq := callbacks.findAttempts_eq world named rounds start
  have first := callbacks.error?_eq_findSome?_attempts yields world
  refine
    { observed := ?_
      answered := ?_
      raised := ?_
      silenced := ?_ }
  · rw [find_eq _ _ named, find_eq _ _ named]
    have same := callbacks.run_logged
      (request.inquiry (request.described method) rounds start)
      (.start (world, []))
    rw [Guarded.map_start] at same
    rw [same]
    rfl
  · intro oracle agrees sound
    rw [attempts_eq] at sound ⊢
    obtain ⟨answer_eq, calls_eq⟩ :=
      run_of_findSome?_eq_none agrees yields world sound
    rw [sound] at first
    constructor
    · rw [find_eq _ _ named, ← request.run_inquiry, ← answer_eq]
      exact congrArg (Option.map · _)
        (funext (Guarded.outcome_of_none first))
    · rw [calls_eq, request.calls_inquiry]
  · intro error failed ended
    rw [attempts_eq] at failed
    rw [failed] at first
    rw [find_eq _ _ named] at ended ⊢
    rw [Option.isSome_map] at ended
    obtain ⟨answer, answer_eq⟩ := Option.isSome_iff_exists.mp ended
    simp only [answer_eq, Option.map_some, Guarded.outcome_of_error first]
  · rw [attempts_eq]
    exact callbacks.pairwise_attempts yields world

/-! ## Bisection -/

theorem bisect_eq
    (callbacks : Callbacks σ ε α)
    (world : σ)
    (lower upper : α)
    (strict : Bool) :
    callbacks.bisect world lower upper strict =
      let run := (Bisection.ofBracket ⟨lower, upper⟩).run
        callbacks.guarded (.start world)
      (run.2.outcome (run.1.answer strict), run.2.world) := rfl

/-- The evaluations of a bisection, in order. -/
def bisectAttempts
    (callbacks : Callbacks σ ε α)
    (world : σ)
    (lower upper : α)
    (strict : Bool) : List (Attempt ε α) :=
  (callbacks.logged.bisect (world, []) lower upper strict).2.2.reverse

/-- What failures and successes of a callback make of a bisection. -/
structure BisectLaw
    (callbacks : Callbacks σ ε α)
    (world : σ)
    (lower upper : α)
    (strict : Bool) : Prop where
  /-- Keeping the evaluations does not change the outcome. -/
  observed :
    (callbacks.logged.bisect (world, []) lower upper strict).1 =
      (callbacks.bisect world lower upper strict).1
  /-- If nothing fails, the outcome and the calls are those of the bisection
  over any oracle that replies as the callback does. -/
  answered (oracle : Oracle σ α) :
    callbacks.Agrees oracle ->
      (callbacks.bisectAttempts world lower upper strict).findSome?
          Attempt.error? = none ->
      (callbacks.bisect world lower upper strict).1 =
          (((Bisection.ofBracket ⟨lower, upper⟩).run
            oracle world).1.answer strict).mapError .convergence ∧
        callbacks.bisectAttempts world lower upper strict =
          ((Bisection.ofBracket ⟨lower, upper⟩).run oracle.recorded
            (world, [])).2.2.reverse.map .ofCall
  /-- If nothing fails of a callback that is a pure function, the outcome is that
  of the bisection of the function. -/
  answered_function (function : α -> α) :
    callbacks.Agrees (.ofFunction function) ->
      (callbacks.bisectAttempts world lower upper strict).findSome?
          Attempt.error? = none ->
      (callbacks.bisect world lower upper strict).1 =
        (if strict then tryBisect function lower upper
          else .ok (RootFinding.bisect function lower upper)).mapError
            .convergence
  /-- If an evaluation fails, the outcome is the error of the first one. -/
  raised (error : ε) :
    (callbacks.bisectAttempts world lower upper strict).findSome?
        Attempt.error? = some error ->
      (callbacks.bisect world lower upper strict).1 =
        .error (.callback error)
  /-- A callback is not evaluated again after it has failed. -/
  silenced :
    (callbacks.bisectAttempts world lower upper strict).Pairwise
      fun earlier later =>
        earlier.error?.isSome = true ->
          later.query.isValue ≠ earlier.query.isValue

/-- Bisection asks for values only, so it yields to NaN. -/
theorem ofBracket_yieldsToNaN (bracket : Bracket α) :
    (Bisection.ofBracket bracket).YieldsToNaN fun _ => False :=
  Bisection.run_yieldsToNaN Bisection.limit Bisection.maxIterations bracket

theorem bisect_of_findSome?_eq_none
    {callbacks : Callbacks σ ε α}
    {oracle : Oracle σ α}
    (agrees : callbacks.Agrees oracle)
    {world : σ}
    {lower upper : α}
    {strict : Bool}
    (sound :
      (callbacks.bisectAttempts world lower upper strict).findSome?
        Attempt.error? = none) :
    (callbacks.bisect world lower upper strict).1 =
        (((Bisection.ofBracket ⟨lower, upper⟩).run
          oracle world).1.answer strict).mapError .convergence ∧
      callbacks.bisectAttempts world lower upper strict =
        ((Bisection.ofBracket ⟨lower, upper⟩).run oracle.recorded
          (world, [])).2.2.reverse.map .ofCall := by
  have yields := ofBracket_yieldsToNaN (⟨lower, upper⟩ : Bracket α)
  have first := callbacks.error?_eq_findSome?_attempts yields world
  obtain ⟨progress_eq, calls_eq⟩ :=
    run_of_findSome?_eq_none agrees yields world sound
  refine ⟨?_, calls_eq⟩
  rw [bisect_eq, ← progress_eq]
  exact Guarded.outcome_of_none (first.trans sound) _

theorem bisectLaw
    (callbacks : Callbacks σ ε α)
    (world : σ)
    (lower upper : α)
    (strict : Bool) :
    callbacks.BisectLaw world lower upper strict := by
  have yields := ofBracket_yieldsToNaN (⟨lower, upper⟩ : Bracket α)
  refine
    { observed := ?_
      answered := fun oracle agrees => bisect_of_findSome?_eq_none agrees
      answered_function := ?_
      raised := ?_
      silenced := callbacks.pairwise_attempts yields world }
  · have same := callbacks.run_logged (Bisection.ofBracket ⟨lower, upper⟩)
      (.start (world, []))
    rw [Guarded.map_start] at same
    rw [bisect_eq, bisect_eq, same]
    rfl
  · intro function agrees sound
    rw [(bisect_of_findSome?_eq_none agrees sound).1, Oracle.run_ofFunction]
    cases strict <;> rfl
  · intro error failed
    have first := callbacks.error?_eq_findSome?_attempts yields world
    rw [bisect_eq]
    exact Guarded.outcome_of_error (first.trans failed) _

end Callbacks

/-! ## All requests -/

/-- What failures and successes of callbacks make of everything that can be
asked for. -/
structure Callbacks.ErrorLaw
    [FloatingPoint α]
    (callbacks : Callbacks σ ε α)
    (world : σ) : Prop where
  newtonRaphson (request : Request α) (rounds : Nat) (start : α) :
    request.method = "newton_raphson" ->
      callbacks.FindLaw world request .newtonRaphson rounds start
  homeier (request : Request α) (rounds : Nat) (start : α) :
    request.method = "homeier" ->
      callbacks.FindLaw world request .homeier rounds start
  bisect (lower upper : α) (strict : Bool) :
    callbacks.BisectLaw world lower upper strict

/-- The first failure in time is raised, and callbacks that do not fail are as
good as functions. -/
theorem Callbacks.errorLaw
    [FloatingPoint α]
    [LawfulFloatingPoint α]
    (callbacks : Callbacks σ ε α)
    (world : σ) :
    callbacks.ErrorLaw world where
  newtonRaphson request rounds start named := by
    have found : Method.named? request.method =
        some (.newtonRaphson : Method α) := by
      rw [named, Method.named?_newtonRaphson]
    exact callbacks.findLaw world found Method.newtonRaphson_propagatesNaN
      rounds start
  homeier request rounds start named := by
    have found : Method.named? request.method =
        some (.homeier : Method α) := by
      rw [named, Method.named?_homeier]
    exact callbacks.findLaw world found Method.homeier_propagatesNaN
      rounds start
  bisect := callbacks.bisectLaw world

/-- A derivative that fails at once, and a function that would fail later. -/
theorem Callbacks.errorLaw_derivative :
    let callbacks : Callbacks CallCounts String Float :=
      .numbered
        (fun count x =>
          if count < 1 then .ok (x * x - 612.0) else .error "function")
        (fun _ _ => .error "derivative")
    (callbacks.findAttempts .zero .default 2 10.0).map Attempt.error? =
        [none, some "derivative"] ∧
      (callbacks.find .zero .default 2 10.0).1.isSome = true ∧
      callbacks.ErrorLaw .zero :=
  ⟨by decide +kernel, by decide +kernel,
    Callbacks.errorLaw _ CallCounts.zero⟩

end RootFinding
