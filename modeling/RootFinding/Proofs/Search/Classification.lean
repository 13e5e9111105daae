import RootFinding.Proofs.Search.Exit
import RootFinding.Proofs.Search.Stopping

/-!
# What a checked answer says of a search

A search does not keep the reason for which it has ended.  The check of its answer
asks for the value at the answer once more, and compares it the other way round.
Over functions, and unless the target precision is NaN, it comes to the same result
as the last convergence test: the two comparisons are complementary
(`converged_eq_false_iff`), and both are about the value at the answer
(`Reaches.lastTest?_of_finished`).  Each checked answer is therefore given exactly
when the search has ended in the way that it names (`search_classificationLaw`).
-/

namespace RootFinding

open FloatingPoint

/-- A value is either close enough to zero, or its magnitude is NaN or at least the
target precision. -/
theorem Config.converged_eq_false_iff
    [FloatingPoint α]
    [LawfulFloatingPoint α]
    {config : Config α}
    (defined : isNaN config.targetPrecision = false)
    (value : α) :
    config.converged value = false ↔
      isNaN (Arithmetic.abs value) = true ∨
        config.targetPrecision ≤ Arithmetic.abs value := by
  rw [Config.converged, decide_eq_false_iff_not]
  constructor
  · intro far
    cases residual : isNaN (Arithmetic.abs value) with
    | true => exact Or.inl rfl
    | false =>
        exact Or.inr (LawfulFloatingPoint.le_of_not_lt defined residual far)
  · rintro (undefined | le) close
    · rw [(LawfulFloatingPoint.isNaN_of_lt close).1] at undefined
      cases undefined
    · exact LawfulFloatingPoint.not_lt_of_le le close

namespace Search

/-- The value of the function in the last round, if that one was tested. -/
def Record.lastTest? (record : Record α) : Option α :=
  record.turns.head?.bind Turn.test

variable [FloatingPoint α]

/-- The last convergence test of a search had this outcome. -/
def Record.TestedAs
    (config : Config α)
    (record : Record α)
    (success : Bool) : Prop :=
  ∃ value, record.lastTest? = some value ∧ config.converged value = success

/-- A test does not both succeed and fail. -/
theorem Record.TestedAs.false_of_testedAs
    {config : Config α}
    {record : Record α}
    (succeeded : record.TestedAs config true)
    (failed : record.TestedAs config false) :
    False := by
  obtain ⟨value, tested, close⟩ := succeeded
  obtain ⟨value', tested', far⟩ := failed
  obtain rfl := Option.some.inj (tested.symm.trans tested')
  rw [close] at far
  cases far

/-- The check of an infinity or of NaN fails without a question. -/
theorem check_of_not_isFinite
    (config : Config α)
    {root : α}
    (notFinite : isFinite root = false) :
    check config root = .answer (.error .nonFinite) := by
  rw [check, notFinite]
  rfl

/-- The check of a finite answer of a function looks at the value there. -/
theorem eval_check_of_isFinite
    (config : Config α)
    (function derivative : α -> α)
    {root : α}
    (finite : isFinite root = true) :
    (check config root).eval function derivative =
      if isNaN (Arithmetic.abs (function root)) ||
          decide (config.targetPrecision ≤ Arithmetic.abs (function root)) then
        .error .iterations
      else .ok root := by
  rw [check, if_pos finite, Inquiry.value_bind, Inquiry.eval_ask_value]
  change Inquiry.eval function derivative (if _ then _ else _) = _
  split <;> rfl

/-- Unless the target precision is NaN, the check of a finite answer repeats the
convergence test there. -/
theorem eval_check_eq_converged
    [LawfulFloatingPoint α]
    {config : Config α}
    (defined : isNaN config.targetPrecision = false)
    (function derivative : α -> α)
    {root : α}
    (finite : isFinite root = true) :
    (check config root).eval function derivative =
      if config.converged (function root) then .ok root
      else .error .iterations := by
  have refused_eq :
      (isNaN (Arithmetic.abs (function root)) ||
          decide (config.targetPrecision ≤ Arithmetic.abs (function root))) =
        !config.converged (function root) := by
    rw [Bool.eq_iff_iff, Bool.or_eq_true, decide_eq_true_eq,
      ← Config.converged_eq_false_iff defined, Bool.not_eq_true']
  rw [eval_check_of_isFinite config function derivative finite, refused_eq]
  cases config.converged (function root) <;> rfl

end Search

namespace Finder

open Search

variable [FloatingPoint α]

/-- Nothing is checked as long as there is no answer. -/
theorem checkedSearch_of_solve_eq_none
    (finder : Finder σ α)
    {rounds : Nat}
    {start : α}
    (unsolved : finder.solve rounds start = none) :
    finder.checkedSearch rounds start =
      (((finder.search rounds start).1, none),
        (finder.search rounds start).2) := by
  have noRoot :
      ((fromPoint finder.config rounds start).run
        finder.oracle finder.world).1.root? = none :=
    unsolved
  unfold checkedSearch checkedFromPoint
  simp only [Inquiry.run_bind, noRoot]
  rfl

/-- As long as there is no answer, the calls are those of the search. -/
theorem checkedTranscript_of_solve_eq_none
    (finder : Finder σ α)
    {rounds : Nat}
    {start : α}
    (unsolved : finder.solve rounds start = none) :
    finder.checkedTranscript rounds start =
      finder.transcript rounds start := by
  have kept : finder.recorded.solve rounds start = none := by
    rw [solve, search_recorded]
    exact unsolved
  rw [checkedTranscript, finder.recorded.checkedSearch_of_solve_eq_none kept,
    transcript]

/-- A checked search has an answer exactly when the search has one, which is then
checked by the oracle in the state in which the search has left it. -/
theorem trySolve_eq_map_solve
    (finder : Finder σ α)
    (rounds : Nat)
    (start : α) :
    finder.trySolve rounds start =
      (finder.solve rounds start).map fun root =>
        ((check finder.config root).run finder.oracle
          (finder.search rounds start).2).1 := by
  cases solved : finder.solve rounds start with
  | some root =>
      rw [trySolve, finder.checkedSearch_of_solve solved]
      rfl
  | none =>
      rw [trySolve, finder.checkedSearch_of_solve_eq_none solved]
      rfl

/-- Over functions, the answer of a search is checked by the functions. -/
theorem trySolve_ofConfig
    (function derivative : α -> α)
    (config : Config α)
    (rounds : Nat)
    (start : α) :
    (ofConfig function derivative config).trySolve rounds start =
      ((ofConfig function derivative config).solve rounds start).map
        fun root => (check config root).eval function derivative := by
  rw [trySolve_eq_map_solve]
  refine congrArg (Option.map · _) (funext fun root => ?_)
  exact congrArg Prod.fst
    (Oracle.run_ofFunctions function derivative (check config root))

/-- Over functions, a search that has finished has tested its answer. -/
theorem Reaches.lastTest?_of_finished
    {function derivative : α -> α}
    {config : Config α}
    {start : α}
    {record : Record α}
    {world : Unit}
    (reached :
      (ofConfig function derivative config).Reaches start record world)
    (finished : record.ending = some .finished) :
    record.lastTest? = some (function record.state.current) := by
  cases reached with
  | start => cases finished
  | round reached going played =>
      cases fits_of_play played with
      | retry => simp at finished
      | abort => simp at finished
      | untested => simp at finished
      | tested =>
          obtain ⟨between, reply⟩ := asked_of_play played rfl
          exact congrArg some (Prod.mk.inj reply).1.symm

/-- A search that has finished although its last test has failed has accepted as
many steps as the limits allow. -/
theorem Reaches.accepted_eq_of_testedAs
    {finder : Finder σ α}
    {start : α}
    {record : Record α}
    {world : σ}
    (reached : finder.Reaches start record world)
    (finished : record.ending = some .finished)
    (failed : record.TestedAs finder.config false) :
    record.state.accepted =
      max 1 (max finder.config.minIterations finder.config.maxIterations) := by
  have bounded := reached.accepted_le
  cases reached with
  | start => cases finished
  | @round earlier _ turn _ reached going played =>
      obtain ⟨accepted, enough, mayStop⟩ :=
        (fits_of_play played).finished_iff.mp finished
      obtain ⟨value, tested, far⟩ := failed
      have exhausted :
          finder.config.maxIterations ≤ earlier.state.accepted + 1 := by
        rcases mayStop with ⟨value', tested', close⟩ | exhausted
        · obtain rfl : value' = value :=
            Option.some.inj (tested'.symm.trans tested)
          rw [Config.converged, decide_eq_true close] at far
          cases far
        · exact exhausted
      have accepted_eq :
          (earlier.extend finder.config turn).state.accepted =
            earlier.state.accepted + 1 := by
        cases fits_of_play played with
        | retry => cases accepted
        | abort => cases accepted
        | untested | tested => rfl
      omega

/-! ## The ways to end, and the checked answers -/

/-- The ways in which a search can have ended, each with the checked answer. -/
inductive Classified
    (config : Config α)
    (record : Record α)
    (root : α) : Except ConvergenceError α -> Prop where
  | nonFinite
      (notFinite : isFinite root = false) :
      Classified config record root (.error .nonFinite)
  | converged
      (finite : isFinite root = true)
      (tested : record.TestedAs config true) :
      Classified config record root (.ok root)
  | exhausted
      (finite : isFinite root = true)
      (tested : record.TestedAs config false) :
      Classified config record root (.error .iterations)

/-- No search has ended in two ways. -/
theorem Classified.answer_eq
    {config : Config α}
    {record : Record α}
    {root : α}
    {answer answer' : Except ConvergenceError α}
    (classified : Classified config record root answer)
    (classified' : Classified config record root answer') :
    answer = answer' := by
  cases classified with
  | nonFinite notFinite =>
      cases classified' with
      | nonFinite => rfl
      | converged finite | exhausted finite =>
          rw [finite] at notFinite
          cases notFinite
  | converged finite tested =>
      cases classified' with
      | nonFinite notFinite =>
          rw [finite] at notFinite
          cases notFinite
      | converged => rfl
      | exhausted _ tested' => exact (tested.false_of_testedAs tested').elim
  | exhausted finite tested =>
      cases classified' with
      | nonFinite notFinite =>
          rw [finite] at notFinite
          cases notFinite
      | converged _ tested' => exact (tested'.false_of_testedAs tested).elim
      | exhausted => rfl

variable [LawfulFloatingPoint α]
  {function derivative : α -> α} {config : Config α}
  {rounds : Nat} {start : α}

/-- A search with a finite answer has finished there. -/
theorem finished_of_solve
    {finder : Finder σ α}
    {rounds : Nat}
    {start root : α}
    (solved : finder.solve rounds start = some root)
    (finite : isFinite root = true) :
    (finder.search rounds start).1.ending = some .finished ∧
      (finder.search rounds start).1.state.current = root := by
  rcases (finder.solve_eq_some_iff rounds start root).mp solved with
    ⟨-, rfl⟩ | finished
  · have defined := ((LawfulFloatingPoint.isFinite_iff _).mp finite).1
    rw [LawfulFloatingPoint.isNaN_nan] at defined
    cases defined
  · exact finished

/-- A finite answer is the point that was tested last. -/
theorem lastTest?_of_solve
    {root : α}
    (solved :
      (ofConfig function derivative config).solve rounds start = some root)
    (finite : isFinite root = true) :
    ((ofConfig function derivative config).search
      rounds start).1.lastTest? = some (function root) := by
  obtain ⟨finished, rfl⟩ := finished_of_solve solved finite
  exact (search_reaches _ rounds start).lastTest?_of_finished finished

/-- The checked answer is the one that belongs to the way in which the search has
ended. -/
theorem classified_of_solve
    (defined : isNaN config.targetPrecision = false)
    {root : α}
    (solved :
      (ofConfig function derivative config).solve rounds start = some root) :
    Classified config
      ((ofConfig function derivative config).search rounds start).1 root
      ((check config root).eval function derivative) := by
  cases finite : isFinite root with
  | false =>
      rw [check_of_not_isFinite config finite]
      exact .nonFinite finite
  | true =>
      have tested := lastTest?_of_solve solved finite
      rw [eval_check_eq_converged defined function derivative finite]
      split
      case isTrue close =>
        exact .converged finite ⟨_, tested, close⟩
      case isFalse far =>
        rw [Bool.not_eq_true] at far
        exact .exhausted finite ⟨_, tested, far⟩

/-- A checked answer is given exactly when the search has ended in the way that
belongs to it. -/
theorem trySolve_eq_some_iff
    (defined : isNaN config.targetPrecision = false)
    (answer : Except ConvergenceError α) :
    (ofConfig function derivative config).trySolve rounds start =
        some answer ↔
      ∃ root,
        (ofConfig function derivative config).solve rounds start =
            some root ∧
          Classified config
            ((ofConfig function derivative config).search rounds start).1
            root answer := by
  rw [trySolve_ofConfig]
  constructor
  · intro answered
    obtain ⟨root, solved, rfl⟩ := Option.map_eq_some_iff.mp answered
    exact ⟨root, solved, classified_of_solve defined solved⟩
  · rintro ⟨root, solved, classified⟩
    have classified' := classified_of_solve defined solved
    rw [solved, Option.map_some]
    generalize (check config root).eval function derivative = answer'
      at classified' ⊢
    exact congrArg some (classified'.answer_eq classified)

/-- What a checked search of two functions says of the way in which the search has
ended. -/
structure ClassificationLaw
    (function derivative : α -> α)
    (config : Config α)
    (rounds : Nat)
    (start : α) : Prop where
  /-- A search that ends is answered. -/
  isSome_trySolve :
    ((ofConfig function derivative config).trySolve rounds start).isSome =
      ((ofConfig function derivative config).solve rounds start).isSome
  /-- A search that ends elsewhere than at NaN or at an infinity has tested its
  answer last. -/
  lastTest (root : α) :
    (ofConfig function derivative config).solve rounds start = some root ->
      isFinite root = true ->
      ((ofConfig function derivative config).search
        rounds start).1.lastTest? = some (function root)
  nonFinite_iff :
    (ofConfig function derivative config).trySolve rounds start =
        some (.error .nonFinite) ↔
      ∃ root,
        (ofConfig function derivative config).solve rounds start =
            some root ∧
          (isNaN root = true ∨ isInfinite root = true)
  /-- An answer is a root exactly when its test has succeeded. -/
  ok_iff (root : α) :
    (ofConfig function derivative config).trySolve rounds start =
        some (.ok root) ↔
      (ofConfig function derivative config).solve rounds start =
          some root ∧
        isFinite root = true ∧
        ((ofConfig function derivative config).search
          rounds start).1.TestedAs config true
  /-- The steps are exhausted exactly when the test of the answer has failed. -/
  iterations_iff :
    (ofConfig function derivative config).trySolve rounds start =
        some (.error .iterations) ↔
      ∃ root,
        (ofConfig function derivative config).solve rounds start =
            some root ∧
          isFinite root = true ∧
          ((ofConfig function derivative config).search
            rounds start).1.TestedAs config false
  /-- Then as many steps were accepted as the limits allow. -/
  accepted_eq :
    (ofConfig function derivative config).trySolve rounds start =
        some (.error .iterations) ->
      ((ofConfig function derivative config).search
          rounds start).1.state.accepted =
        max 1 (max config.minIterations config.maxIterations)
  /-- Settings lead to the answers of the configuration that they describe. -/
  tryFind_eq (settings : List (Setting α)) :
    config = .ofSettings settings ->
      find function derivative rounds start settings =
          (ofConfig function derivative config).solve rounds start ∧
        tryFind function derivative rounds start settings =
          (ofConfig function derivative config).trySolve rounds start

/-- Unless the target precision is NaN, the checked answers of a search of two
functions say how the search has ended. -/
theorem search_classificationLaw
    (function derivative : α -> α)
    (config : Config α)
    (defined : isNaN config.targetPrecision = false)
    (rounds : Nat)
    (start : α) :
    ClassificationLaw function derivative config rounds start := by
  refine
    { isSome_trySolve := ?_
      lastTest := ?_
      nonFinite_iff := ?_
      ok_iff := ?_
      iterations_iff := ?_
      accepted_eq := ?_
      tryFind_eq := ?_ }
  · rw [trySolve_ofConfig, Option.isSome_map]
  · exact fun root => lastTest?_of_solve
  · rw [trySolve_eq_some_iff defined]
    refine exists_congr fun root => and_congr_right fun solved => ?_
    rw [← LawfulFloatingPoint.isFinite_eq_false_iff]
    constructor
    · rintro ⟨⟩
      assumption
    · exact .nonFinite
  · intro root
    rw [trySolve_eq_some_iff defined]
    constructor
    · rintro ⟨_, solved, ⟨⟩⟩
      exact ⟨solved, ‹_›, ‹_›⟩
    · rintro ⟨solved, finite, tested⟩
      exact ⟨root, solved, .converged finite tested⟩
  · rw [trySolve_eq_some_iff defined]
    refine exists_congr fun root => and_congr_right fun solved => ?_
    constructor
    · rintro ⟨⟩
      exact ⟨‹_›, ‹_›⟩
    · rintro ⟨finite, tested⟩
      exact .exhausted finite tested
  · rw [trySolve_eq_some_iff defined]
    rintro ⟨_, solved, ⟨⟩⟩
    case exhausted finite tested =>
      exact (search_reaches _ rounds start).accepted_eq_of_testedAs
        (finished_of_solve solved finite).1 tested
  · rintro settings rfl
    exact ⟨rfl, rfl⟩

/-- A search for a root of a function without roots, which recovers from one infinite
step and then exhausts the five steps that are allowed. -/
theorem search_classificationLaw_rootless :
    let function : Float -> Float := fun x => x * x + 1.0
    let derivative : Float -> Float := fun x => 2.0 * x
    let config : Config Float := .ofSettings [.heuristics, .maxIterations 4]
    let finder := ofConfig function derivative config
    isNaN config.targetPrecision = false ∧
      finder.trySolve 6 1.0 = some (.error .iterations) ∧
      (finder.search 6 1.0).1.state.retries = 1 ∧
      ClassificationLaw function derivative config 6 1.0 := by
  intro function derivative config finder
  have defined : isNaN config.targetPrecision = false := by
    decide +kernel
  exact ⟨defined, by decide +kernel, by decide +kernel,
    search_classificationLaw function derivative config defined 6 1.0⟩

end Finder
end RootFinding
