import RootFinding.Proofs.Callback.Outcome
import RootFinding.Proofs.Search.Classification

/-!
# Strict requests

Callbacks that compute two functions and never fail are as good as the functions,
whatever else they do (`Callbacks.run_of_computes`).  The outcome of a strict request
over them is a number exactly when the search ends at a finite point whose residual is
neither NaN nor at least the target precision (`Callbacks.StrictLaw`).  Such a point is
a root, unless the target precision is NaN: nothing is less than NaN, but nothing is at
least NaN either, so the check then refuses no residual but NaN.
-/

namespace RootFinding

open FloatingPoint

namespace Callbacks

/-- Callbacks that never fail and reply by two functions of the point. -/
structure Computes
    (callbacks : Callbacks σ ε α)
    (function derivative : α -> α) : Prop where
  value (point : α) (world : σ) :
    (callbacks (.value point) world).1 = .ok (function point)
  slope (point : α) (world : σ) :
    (callbacks (.slope point) world).1 = .ok (derivative point)

variable [FloatingPoint α]
  {callbacks : Callbacks σ ε α} {function derivative : α -> α}

/-- Over callbacks that compute functions, an inquiry has the answer that it has over
the functions, and nothing fails. -/
theorem run_of_computes
    (computes : callbacks.Computes function derivative)
    (inquiry : Inquiry α β)
    (world : σ) :
    ∃ world',
      inquiry.run callbacks.guarded (.start world) =
        (inquiry.eval function derivative, .start world') := by
  induction inquiry generalizing world with
  | answer => exact ⟨world, rfl⟩
  | ask query next hypothesis =>
      cases query with
      | value point =>
          have replied :
              callbacks.guarded (.value point) (.start world) =
                (function point, .start (callbacks (.value point) world).2) :=
            callbacks.guarded_of_ok (Guarded.errorOf_start world (.value point))
              (Prod.ext (computes.value point world) rfl)
          rw [Inquiry.run_ask, replied]
          exact hypothesis (function point) _
      | slope point =>
          have replied :
              callbacks.guarded (.slope point) (.start world) =
                (derivative point, .start (callbacks (.slope point) world).2) :=
            callbacks.guarded_of_ok (Guarded.errorOf_start world (.slope point))
              (Prod.ext (computes.slope point world) rfl)
          rw [Inquiry.run_ask, replied]
          exact hypothesis (derivative point) _

/-- A request over callbacks that compute functions has the outcome of the search of
the functions. -/
theorem find_of_computes
    (computes : callbacks.Computes function derivative)
    (world : σ)
    {request : Request α}
    {method : Method α}
    (named : Method.named? request.method = some method)
    (rounds : Nat)
    (start : α) :
    (callbacks.find world request rounds start).1 =
      ((Finder.ofConfig function derivative (request.described method)).answer
        request.strict rounds start).map (·.mapError .convergence) := by
  let inquiry := request.inquiry (request.described method) rounds start
  obtain ⟨world', run_eq⟩ := run_of_computes computes inquiry world
  have answer_eq :
      inquiry.eval function derivative =
        (Finder.ofConfig function derivative (request.described method)).answer
          request.strict rounds start := by
    have answered := request.run_inquiry method
      (.ofFunctions function derivative) () rounds start
    rw [Oracle.run_ofFunctions] at answered
    exact answered
  rw [find_eq _ _ named]
  change Option.map
    (inquiry.run callbacks.guarded (.start world)).2.outcome
    (inquiry.run callbacks.guarded (.start world)).1 = _
  rw [run_eq, answer_eq]
  exact congrArg (Option.map · _) (funext (Guarded.outcome_of_none rfl))

end Callbacks

section Checks

variable [FloatingPoint α]

/-- The check of an answer lets a point pass that is finite and whose residual is
neither NaN nor at least the target precision. -/
theorem Search.eval_check_eq_ok_iff
    (config : Config α)
    (function derivative : α -> α)
    (point root : α) :
    (check config point).eval function derivative = .ok root ↔
      point = root ∧
        isFinite root = true ∧
        isNaN (Arithmetic.abs (function root)) = false ∧
        ¬config.targetPrecision ≤ Arithmetic.abs (function root) := by
  cases finite : isFinite point with
  | false =>
      rw [check_of_not_isFinite config finite]
      refine iff_of_false (fun passed => nomatch passed) ?_
      rintro ⟨rfl, finite', -⟩
      rw [finite] at finite'
      cases finite'
  | true =>
      rw [eval_check_of_isFinite config function derivative finite]
      split
      case isTrue refused =>
        rw [Bool.or_eq_true, decide_eq_true_eq] at refused
        refine iff_of_false (fun passed => nomatch passed) ?_
        rintro ⟨rfl, -, defined, small⟩
        rcases refused with undefined | large
        · rw [defined] at undefined
          cases undefined
        · exact small large
      case isFalse accepted =>
        rw [Bool.or_eq_true, decide_eq_true_eq, not_or,
          Bool.not_eq_true] at accepted
        constructor
        · intro passed
          obtain rfl := Except.ok.inj passed
          exact ⟨rfl, finite, accepted⟩
        · rintro ⟨rfl, -⟩
          rfl

/-- A checked search of two functions finds a point exactly when the search ends there
and the check lets it pass. -/
theorem Finder.trySolve_eq_ok_iff
    (function derivative : α -> α)
    (config : Config α)
    (rounds : Nat)
    (start root : α) :
    (ofConfig function derivative config).trySolve rounds start =
        some (.ok root) ↔
      (ofConfig function derivative config).solve rounds start = some root ∧
        isFinite root = true ∧
        isNaN (Arithmetic.abs (function root)) = false ∧
        ¬config.targetPrecision ≤ Arithmetic.abs (function root) := by
  rw [trySolve_ofConfig, Option.map_eq_some_iff]
  constructor
  · rintro ⟨point, solved, passed⟩
    obtain ⟨rfl, accepted⟩ :=
      (Search.eval_check_eq_ok_iff _ _ _ _ _).mp passed
    exact ⟨solved, accepted⟩
  · rintro ⟨solved, accepted⟩
    exact ⟨root, solved,
      (Search.eval_check_eq_ok_iff _ _ _ _ _).mpr ⟨rfl, accepted⟩⟩

end Checks

/-! ## The law of strict requests -/

namespace Callbacks

variable [FloatingPoint α]

/-- A strict request over callbacks that compute functions has the checked answer of
the search of the functions. -/
theorem find_of_strict
    {callbacks : Callbacks σ ε α}
    {function derivative : α -> α}
    (computes : callbacks.Computes function derivative)
    (world : σ)
    {request : Request α}
    {method : Method α}
    (named : Method.named? request.method = some method)
    (strict : request.strict = true)
    (rounds : Nat)
    (start : α) :
    (callbacks.find world request rounds start).1 =
      ((Finder.ofConfig function derivative
        (request.described method)).trySolve rounds start).map
          (·.mapError .convergence) := by
  rw [find_of_computes computes world named, strict]
  rfl

/-- What a strict request answers over callbacks that compute two functions. -/
structure StrictLaw
    (callbacks : Callbacks σ ε α)
    (world : σ)
    (function derivative : α -> α)
    (request : Request α)
    (method : Method α)
    (rounds : Nat)
    (start : α) : Prop where
  /-- There is an outcome exactly when the search of the functions ends. -/
  isSome_eq :
    (callbacks.find world request rounds start).1.isSome =
      ((Finder.ofConfig function derivative
        (request.described method)).solve rounds start).isSome
  /-- The outcome is a number exactly when the search ends there and the check lets
  it pass. -/
  returned_iff (root : α) :
    (callbacks.find world request rounds start).1 = some (.ok root) ↔
      (Finder.ofConfig function derivative
          (request.described method)).solve rounds start = some root ∧
        isFinite root = true ∧
        isNaN (Arithmetic.abs (function root)) = false ∧
        ¬request.targetPrecision ≤ Arithmetic.abs (function root)
  /-- Unless the target precision is NaN, such a number is a root. -/
  returned (root : α) :
    isNaN request.targetPrecision = false ->
      (callbacks.find world request rounds start).1 = some (.ok root) ->
      isFinite root = true ∧
        Arithmetic.abs (function root) < request.targetPrecision
  /-- Every other outcome is a failure to converge. -/
  refused (failure : Failure ε) :
    (callbacks.find world request rounds start).1 = some (.error failure) ->
      ∃ error, failure = .convergence error

/-- Strict requests over callbacks that compute two functions obey the law. -/
theorem strictLaw
    [LawfulFloatingPoint α]
    {callbacks : Callbacks σ ε α}
    {function derivative : α -> α}
    (computes : callbacks.Computes function derivative)
    (world : σ)
    {request : Request α}
    {method : Method α}
    (named : Method.named? request.method = some method)
    (strict : request.strict = true)
    (rounds : Nat)
    (start : α) :
    callbacks.StrictLaw world function derivative request method rounds start := by
  let finder := Finder.ofConfig function derivative (request.described method)
  have outcome_eq :
      (callbacks.find world request rounds start).1 =
        (finder.trySolve rounds start).map (·.mapError .convergence) :=
    find_of_strict computes world named strict rounds start
  have returned_iff (root : α) :
      (callbacks.find world request rounds start).1 = some (.ok root) ↔
        finder.trySolve rounds start = some (.ok root) := by
    rw [outcome_eq, Option.map_eq_some_iff]
    constructor
    · rintro ⟨_ | _, answered, mapped⟩
      · cases mapped
      · rw [answered, Except.ok.inj mapped]
    · intro answered
      exact ⟨_, answered, rfl⟩
  refine
    { isSome_eq := ?_
      returned_iff := fun root =>
        (returned_iff root).trans (Finder.trySolve_eq_ok_iff _ _ _ _ _ _)
      returned := ?_
      refused := ?_ }
  · rw [outcome_eq, Finder.trySolve_ofConfig, Option.isSome_map, Option.isSome_map]
  · intro root defined found
    obtain ⟨-, finite, residual, small⟩ :=
      (Finder.trySolve_eq_ok_iff _ _ _ _ _ _).mp ((returned_iff root).mp found)
    exact ⟨finite, LawfulFloatingPoint.lt_of_not_le residual defined small⟩
  · intro failure failed
    rw [outcome_eq, Option.map_eq_some_iff] at failed
    obtain ⟨error | root, -, mapped⟩ := failed
    · exact ⟨error, (Except.error.inj mapped).symm⟩
    · cases mapped

/-- A strict request over callbacks that count their calls, which returns the root
of 612. -/
theorem strictLaw_squareRoot :
    let function : Float -> Float := fun x => x * x - 612.0
    let derivative : Float -> Float := fun x => 2.0 * x
    let callbacks : Callbacks CallCounts String Float :=
      .numbered (fun _ x => .ok (function x)) (fun _ x => .ok (derivative x))
    let request : Request Float := { Request.default with strict := true }
    callbacks.Computes function derivative ∧
      (callbacks.find .zero request 9 10.0).1 =
        some (.ok 24.73863375370596) ∧
      callbacks.StrictLaw .zero function derivative request .newtonRaphson
        9 10.0 := by
  intro function derivative callbacks request
  have computes : callbacks.Computes function derivative :=
    ⟨fun _ _ => rfl, fun _ _ => rfl⟩
  have law :
      callbacks.StrictLaw .zero function derivative request .newtonRaphson
        9 10.0 :=
    strictLaw computes CallCounts.zero Method.named?_newtonRaphson rfl 9 10.0
  refine ⟨computes, (law.returned_iff _).mpr ?_, law⟩
  decide +kernel

/-- A strict request whose target precision is NaN, and which returns a number that is
not a root. -/
theorem strict_returns_nonroot :
    let function : Float -> Float := fun x => x * x - 612.0
    let derivative : Float -> Float := fun x => 2.0 * x
    let callbacks : Callbacks CallCounts String Float :=
      .numbered (fun _ x => .ok (function x)) (fun _ x => .ok (derivative x))
    let request : Request Float :=
      { Request.default with
        minIterations := 1
        maxIterations := 1
        targetPrecision := nan
        strict := true }
    callbacks.Computes function derivative ∧
      (callbacks.find .zero request 2 10.0).1 = some (.ok 35.6) ∧
      ¬Arithmetic.abs (function 35.6) < request.targetPrecision := by
  intro function derivative callbacks request
  have computes : callbacks.Computes function derivative :=
    ⟨fun _ _ => rfl, fun _ _ => rfl⟩
  have answered :
      (Finder.ofConfig function derivative
        (request.described .newtonRaphson)).trySolve 2 10.0 =
          some (.ok 35.6) := by
    decide +kernel
  refine ⟨computes, ?_, by decide +kernel⟩
  rw [find_of_strict computes CallCounts.zero Method.named?_newtonRaphson rfl]
  exact congrArg (Option.map _) answered

end Callbacks
end RootFinding
