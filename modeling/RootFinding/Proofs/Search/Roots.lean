import RootFinding.Proofs.FloatingPoint.Zeros
import RootFinding.Proofs.Search.Classification
import RootFinding.Proofs.Search.Livelock

/-!
# Searches that have come to a root

At a root with a slope, a provided method takes a zero away from the current point, so it
proposes the root again (`Search.IsRoot.step_beq`).  Such a step is negligible, and
negligible steps are accepted before the recorded candidates are looked at, so it is
neither refused nor recorded, whatever was recorded before (`Search.IsRoot.judge`).

A search that has come to a root therefore rests there (`Search.IsRoot.rests`): it accepts
the root again until enough steps are accepted, and answers with it
(`Finder.search_rootLaw`).  A provided method and the functions may change the sign of a
zero, so all this holds up to that sign.
-/

namespace RootFinding

open FloatingPoint

namespace Search

variable [FloatingPoint α]
  {config : Config α} {function derivative : α -> α} {x y : α}

/-- A finite root that is not beyond the limits, and where the function has a slope. -/
structure IsRoot
    (config : Config α)
    (function derivative : α -> α)
    (x : α) : Prop where
  finite : isFinite x = true
  notAbove : ¬config.upper < x
  notBelow : ¬x < config.lower
  value : (function x == 0.0) = true
  defined : isNaN (derivative x) = false
  sloped : (derivative x == 0.0) = false

/-- What has become of a record after so many more rounds, if the search rests where it
is. -/
structure Record.Rests
    (config : Config α)
    (record : Record α)
    (rounds : Nat)
    (final : Record α) : Prop where
  /-- All further rounds have accepted the current point again, and recorded nothing. -/
  turns :
    ∃ later, final.turns = later ++ record.turns ∧
      ∀ turn ∈ later,
        turn.verdict = .accept false ∧
          (turn.candidate == record.state.current) = true
  current : (final.state.current == record.state.current) = true
  retries : final.state.retries = record.state.retries
  seen : final.state.seen = record.state.seen
  /-- The search goes on until enough steps are accepted, but for one step at least. -/
  accepted :
    final.state.accepted =
      min (record.state.accepted + rounds)
        (max (record.state.accepted + 1) config.minIterations)
  ending :
    final.ending =
      if max (record.state.accepted + 1) config.minIterations ≤
          record.state.accepted + rounds then
        some .finished
      else none

/-! ## One round -/

section Round

variable [LawfulFloatingPoint α]
  (ignores : IgnoresZeroSign function)
  (ignores' : IgnoresZeroSign derivative)

include ignores' in
/-- Points that equal each other have the same slopes. -/
theorem sloped_of_beq
    (equal : (x == y) = true)
    (defined : isNaN (derivative x) = false)
    (sloped : (derivative x == 0.0) = false) :
    isNaN (derivative y) = false ∧ (derivative y == 0.0) = false := by
  have same := ignores'.beq equal defined
  refine ⟨(LawfulFloatingPoint.isNaN_of_beq same).2, ?_⟩
  rw [← Bool.not_eq_true] at sloped ⊢
  exact fun flat => sloped (LawfulFloatingPoint.beq_trans same flat)

include ignores ignores' in
/-- What equals a root is a root. -/
theorem IsRoot.of_beq
    (isRoot : IsRoot config function derivative x)
    (equal : (x == y) = true) :
    IsRoot config function derivative y := by
  obtain ⟨le, ge⟩ := LawfulFloatingPoint.beq_iff.mp equal
  obtain ⟨defined, sloped⟩ :=
    sloped_of_beq ignores' equal isRoot.defined isRoot.sloped
  refine
    { finite := LawfulFloatingPoint.isFinite_of_beq equal isRoot.finite
      notAbove := fun above =>
        isRoot.notAbove (LawfulFloatingPoint.lt_of_lt_of_le above ge)
      notBelow := fun below =>
        isRoot.notBelow (LawfulFloatingPoint.lt_of_le_of_lt le below)
      value := ?_
      defined := defined
      sloped := sloped }
  have same :=
    ignores.beq equal (LawfulFloatingPoint.isNaN_of_beq isRoot.value).1
  rw [LawfulFloatingPoint.beq_comm] at same
  exact LawfulFloatingPoint.beq_trans same isRoot.value

/-- The convergence test succeeds at a root. -/
theorem IsRoot.converged
    [LawfulZero α]
    (isRoot : IsRoot config function derivative x)
    (positive : 0.0 < config.targetPrecision) :
    config.converged (function x) = true := by
  have zero := LawfulZero.abs_zero isRoot.value
  exact decide_eq_true (LawfulFloatingPoint.lt_of_le_of_lt
    (LawfulFloatingPoint.beq_iff.mp zero).1 positive)

include ignores' in
/-- From a root, a provided method proposes the root again. -/
theorem IsRoot.step_beq
    [LawfulZero α]
    (isRoot : IsRoot config function derivative x)
    {method : Method α}
    (provided : method ∈ Method.provided) :
    ((method.step x).eval function derivative == x) = true := by
  have defined := ((LawfulFloatingPoint.isFinite_iff x).mp isRoot.finite).1
  rcases Method.mem_provided_iff.mp provided with rfl | rfl
  · rw [Method.eval_newtonRaphson]
    exact LawfulZero.sub_div_beq defined isRoot.value isRoot.defined isRoot.sloped
  · -- The half step leaves the root where it is as well, so there is a slope after it.
    have half : (x - 0.5 * function x / derivative x == x) = true :=
      LawfulZero.sub_div_beq defined (LawfulZero.half_zero isRoot.value)
        isRoot.defined isRoot.sloped
    rw [LawfulFloatingPoint.beq_comm] at half
    obtain ⟨defined', sloped'⟩ :=
      sloped_of_beq ignores' half isRoot.defined isRoot.sloped
    rw [Method.eval_homeier]
    exact LawfulZero.sub_div_beq defined isRoot.value defined' sloped'

/-- A root that is proposed where the search stands is accepted and not recorded,
whatever was recorded before. -/
theorem IsRoot.judge
    {candidate : α}
    (isRoot : IsRoot config function derivative candidate)
    (state : State α)
    (equal : (candidate == state.current) = true) :
    config.judge state candidate = .accept false := by
  obtain ⟨defined, notInfinite⟩ :=
    (LawfulFloatingPoint.isFinite_iff candidate).mp isRoot.finite
  have short :=
    LawfulFloatingPoint.not_negligibleStep_lt_of_beq isRoot.finite equal
  have judgement := judgement_judge config state candidate
  generalize config.judge state candidate = verdict at judgement ⊢
  cases judgement with
  | aboveUpper _ above => exact absurd above isRoot.notAbove
  | belowLower _ below => exact absurd below isRoot.notBelow
  | undefined undefined =>
      rw [defined] at undefined
      cases undefined
  | infinite _ infinite =>
      rw [notInfinite] at infinite
      cases infinite
  | repeated _ _ _ long => exact absurd long short
  | fresh _ _ _ _ long => exact absurd long short
  | negligible => rfl
  | plain => rfl

end Round

/-! ## Further rounds -/

omit [FloatingPoint α] in
/-- The test of a candidate is the value there, once enough candidates are accepted. -/
theorem eval_test
    (config : Config α)
    (function derivative : α -> α)
    (accepted : Nat)
    (point : α) :
    (config.test accepted point).eval function derivative =
      if accepted < config.minIterations then none else some (function point) := by
  unfold Config.test
  split <;> rfl

/-- An accepted candidate is tested. -/
theorem eval_round_of_accept
    {state : State α}
    {recorded : Bool}
    (accepts :
      config.judge state ((config.method.step state.current).eval function derivative) =
        .accept recorded) :
    (round config state).eval function derivative =
      ⟨state.current, (config.method.step state.current).eval function derivative,
        .accept recorded,
        if state.accepted + 1 < config.minIterations then none
        else some (function
          ((config.method.step state.current).eval function derivative))⟩ := by
  rw [round_eq_bind, Inquiry.eval_bind, Inquiry.eval_bind, Inquiry.eval_answer,
    testAfter, accepts, eval_test]

namespace Record.Rests

variable {record next final : Record α} {rounds : Nat}

/-- A search that is going on rests for no rounds. -/
theorem refl
    (defined : isNaN record.state.current = false)
    (going : record.ending = none) :
    record.Rests config 0 record where
  turns := ⟨[], rfl, by simp⟩
  current := beq_self_of_isNaN_eq_false defined
  retries := rfl
  seen := rfl
  accepted := by omega
  ending := by
    rw [going, if_neg (by omega)]

/-- A search that has ended with its first round stays where it is. -/
theorem stay
    (first : record.Rests config 1 next)
    (ended : next.ending.isSome) :
    record.Rests config (rounds + 1) next := by
  have enough :
      max (record.state.accepted + 1) config.minIterations ≤
        record.state.accepted + 1 := by
    by_contra tooFew
    rw [first.ending, if_neg tooFew] at ended
    cases ended
  have accepted_eq := first.accepted
  refine
    { turns := first.turns
      current := first.current
      retries := first.retries
      seen := first.seen
      accepted := by omega
      ending := ?_ }
  rw [first.ending, if_pos enough, if_pos (by omega)]

/-- If it goes on after its first round, the other rounds follow. -/
theorem cons
    [LawfulFloatingPoint α]
    (first : record.Rests config 1 next)
    (going : next.ending = none)
    (others : next.Rests config rounds final) :
    record.Rests config (rounds + 1) final := by
  have tooFew :
      ¬max (record.state.accepted + 1) config.minIterations ≤
        record.state.accepted + 1 := by
    intro enough
    rw [first.ending, if_pos enough] at going
    cases going
  have accepted_eq : next.state.accepted = record.state.accepted + 1 := by
    rw [first.accepted]
    omega
  -- More than one step is missing, so the first one does not change their number.
  have bound_eq :
      max (next.state.accepted + 1) config.minIterations =
        max (record.state.accepted + 1) config.minIterations := by
    omega
  refine
    { turns := ?_
      current := LawfulFloatingPoint.beq_trans others.current first.current
      retries := others.retries.trans first.retries
      seen := others.seen.trans first.seen
      accepted := ?_
      ending := ?_ }
  · obtain ⟨turns, turns_eq, resting⟩ := first.turns
    obtain ⟨later, later_eq, resting'⟩ := others.turns
    refine ⟨later ++ turns, ?_, ?_⟩
    · rw [later_eq, turns_eq, List.append_assoc]
    · intro turn member
      rcases List.mem_append.mp member with after | last
      · obtain ⟨verdict_eq, same⟩ := resting' turn after
        exact ⟨verdict_eq, LawfulFloatingPoint.beq_trans same first.current⟩
      · exact resting turn last
  · rw [others.accepted, bound_eq, accepted_eq, Nat.add_assoc, Nat.add_comm 1]
  · rw [others.ending, bound_eq, accepted_eq, Nat.add_assoc, Nat.add_comm 1]

end Record.Rests

section Run

variable [LawfulFloatingPoint α] [LawfulZero α]
  (provided : config.method ∈ Method.provided)
  (positive : 0.0 < config.targetPrecision)
  (ignores : IgnoresZeroSign function)
  (ignores' : IgnoresZeroSign derivative)

include provided positive ignores ignores'

/-- At a root, a search rests for one round, and is at a root after it. -/
theorem IsRoot.rests_round
    {record : Record α}
    (isRoot : IsRoot config function derivative record.state.current) :
    let turn := (round config record.state).eval function derivative
    record.Rests config 1 (record.extend config turn) ∧
      IsRoot config function derivative
        (record.extend config turn).state.current := by
  intro turn
  let candidate := (config.method.step record.state.current).eval function derivative
  have same : (candidate == record.state.current) = true :=
    isRoot.step_beq ignores' provided
  have isRoot' : IsRoot config function derivative candidate := by
    rw [LawfulFloatingPoint.beq_comm] at same
    exact isRoot.of_beq ignores ignores' same
  have turn_eq : turn = _ :=
    eval_round_of_accept (isRoot'.judge record.state same)
  rw [turn_eq]
  refine ⟨?_, isRoot'⟩
  refine
    { turns := ⟨_, rfl, List.forall_mem_singleton.mpr ⟨rfl, same⟩⟩
      current := same
      retries := rfl
      seen := rfl
      accepted := ?_
      ending := ?_ }
  · exact (min_eq_left (le_max_left _ _)).symm
  · rw [Record.ending_extend]
    by_cases tooFew : record.state.accepted + 1 < config.minIterations
    · rw [if_pos tooFew, Config.ending?_untested, if_neg (by omega)]
    · rw [if_neg tooFew, Config.ending?_tested, isRoot'.converged positive,
        Bool.true_or, if_pos rfl, if_pos (by omega)]

/-- At a root, a search rests for any number of rounds. -/
theorem IsRoot.rests
    {record : Record α}
    (isRoot : IsRoot config function derivative record.state.current)
    (going : record.ending = none)
    (rounds : Nat) :
    record.Rests config rounds
      ((run config rounds record).eval function derivative) := by
  induction rounds generalizing record with
  | zero =>
      exact .refl ((LawfulFloatingPoint.isFinite_iff _).mp isRoot.finite).1 going
  | succ rounds hypothesis =>
      obtain ⟨first, isRoot'⟩ :=
        isRoot.rests_round provided positive ignores ignores'
      rw [run_succ_of_ending_eq_none _ _ _ going, Inquiry.eval_bind]
      cases ending_eq : (record.extend config
          ((round config record.state).eval function derivative)).ending with
      | none => exact first.cons ending_eq (hypothesis isRoot' ending_eq)
      | some ending =>
          have ended : (record.extend config
              ((round config record.state).eval function derivative)).ending.isSome := by
            rw [ending_eq]
            rfl
          rw [run_of_ending_isSome _ _ _ ended]
          exact first.stay ended

end Run

/-- A record with other recorded candidates. -/
def Record.withSeen (record : Record α) (seen : List α) : Record α :=
  { record with state := { record.state with seen := seen } }

end Search

namespace Finder

open Search

variable [FloatingPoint α]
  {function derivative : α -> α} {config : Config α} {rounds : Nat} {start : α}

/-! ## Answers -/

section Resting

variable
  (resting : ∀ extra,
    ((ofConfig function derivative config).search rounds start).1.Rests config extra
      ((ofConfig function derivative config).search (rounds + extra) start).1)

include resting

/-- A search that rests has an answer once enough steps are accepted. -/
theorem exists_solve_of_rests :
    let finder := ofConfig function derivative config
    let accepted := (finder.search rounds start).1.state.accepted
    ∃ root,
      finder.solve
          (rounds + (max (accepted + 1) config.minIterations - accepted)) start =
        some root := by
  intro finder accepted
  have enough :
      max (accepted + 1) config.minIterations ≤
        accepted + (max (accepted + 1) config.minIterations - accepted) := by
    omega
  have finished := (resting _).ending.trans (if_pos enough)
  exact ⟨_, (finder.solve_eq_some_iff _ start _).mpr (Or.inr ⟨finished, rfl⟩)⟩

/-- Its answer is where it rests, after the least number of steps that is enough. -/
theorem beq_of_solve_of_rests
    {rounds' : Nat}
    {root : α}
    (solved :
      (ofConfig function derivative config).solve rounds' start = some root) :
    let finder := ofConfig function derivative config
    let record := (finder.search rounds start).1
    (root == record.state.current) = true ∧
      (finder.search rounds' start).1.state.accepted =
        max (record.state.accepted + 1) config.minIterations := by
  intro finder record
  -- More rounds change nothing, so there are at least as many as lead to the root.
  have ended : (finder.search rounds' start).1.ending.isSome := by
    rw [← isSome_solve, solved]
    rfl
  have later := finder.search_add_of_ended rounds' rounds start ended
  rw [Nat.add_comm] at later
  have rests := resting rounds'
  rw [later] at rests
  have ending_eq := rests.ending
  rcases (finder.solve_eq_some_iff rounds' start root).mp solved with
    ⟨aborted, -⟩ | ⟨finished, rfl⟩
  · rw [aborted] at ending_eq
    split at ending_eq <;> cases ending_eq
  · refine ⟨rests.current, ?_⟩
    have enough :
        max (record.state.accepted + 1) config.minIterations ≤
          record.state.accepted + rounds' := by
      by_contra tooFew
      rw [finished, if_neg tooFew] at ending_eq
      cases ending_eq
    rw [rests.accepted, min_eq_right enough]

end Resting

/-- A root that is an answer passes the check. -/
theorem trySolve_of_isRoot
    [LawfulFloatingPoint α]
    [LawfulZero α]
    {root : α}
    (solved :
      (ofConfig function derivative config).solve rounds start = some root)
    (positive : 0.0 < config.targetPrecision)
    (isRoot : IsRoot config function derivative root) :
    (ofConfig function derivative config).trySolve rounds start =
      some (.ok root) := by
  have defined := (LawfulFloatingPoint.isNaN_of_lt positive).2
  rw [trySolve_ofConfig, solved, Option.map_some,
    eval_check_eq_converged defined function derivative isRoot.finite,
    if_pos (isRoot.converged positive)]

/-- What becomes of a search that has come to a root after this many rounds, and is
going on. -/
structure RootLaw
    (function derivative : α -> α)
    (config : Config α)
    (rounds : Nat)
    (start : α) : Prop where
  /-- It rests at the root from there on, whatever was recorded before, and whatever the
  greatest number of steps is. -/
  rests (seen : List α) (count extra : Nat) :
    let config' := config.withMaxIterations count
    let record :=
      ((ofConfig function derivative config).search rounds start).1.withSeen seen
    record.Rests config' extra ((run config' extra record).eval function derivative)
  /-- So does the search as it is. -/
  search (extra : Nat) :
    let finder := ofConfig function derivative config
    (finder.search rounds start).1.Rests config extra
      (finder.search (rounds + extra) start).1
  /-- Once enough steps are accepted, but after one further step at least, it answers
  with the root. -/
  solve :
    let finder := ofConfig function derivative config
    let accepted := (finder.search rounds start).1.state.accepted
    ∃ root,
      finder.solve
          (rounds + (max (accepted + 1) config.minIterations - accepted)) start =
        some root
  /-- Every answer is the root, is checked, and has taken so many steps. -/
  answer (rounds' : Nat) (root : α) :
    let finder := ofConfig function derivative config
    let record := (finder.search rounds start).1
    finder.solve rounds' start = some root ->
      (root == record.state.current) = true ∧
        (finder.search rounds' start).1.state.accepted =
          max (record.state.accepted + 1) config.minIterations ∧
        finder.trySolve rounds' start = some (.ok root)

/-- The searches of two functions that ignore the sign of zero, by a provided method,
obey the law of roots, with heuristics and without. -/
theorem search_rootLaw
    [LawfulFloatingPoint α]
    [LawfulZero α]
    (function derivative : α -> α)
    (config : Config α)
    (rounds : Nat)
    (start : α)
    (provided : config.method ∈ Method.provided)
    (positive : 0.0 < config.targetPrecision)
    (ignores : IgnoresZeroSign function)
    (ignores' : IgnoresZeroSign derivative)
    (going :
      ((ofConfig function derivative config).search rounds start).1.ending = none)
    (isRoot :
      IsRoot config function derivative
        ((ofConfig function derivative config).search rounds start).1.state.current) :
    RootLaw function derivative config rounds start := by
  have rests (seen : List α) (count extra : Nat) :
      let config' := config.withMaxIterations count
      let record :=
        ((ofConfig function derivative config).search rounds start).1.withSeen seen
      record.Rests config' extra
        ((run config' extra record).eval function derivative) := by
    intro config' record
    have isRoot' : IsRoot config' function derivative record.state.current :=
      { isRoot with }
    have provided' : config'.method ∈ Method.provided := provided
    have positive' : 0.0 < config'.targetPrecision := positive
    exact isRoot'.rests provided' positive' ignores ignores' going extra
  have search (extra : Nat) :
      let finder := ofConfig function derivative config
      (finder.search rounds start).1.Rests config extra
        (finder.search (rounds + extra) start).1 := by
    intro finder
    rw [search_ofConfig_add]
    exact isRoot.rests provided positive ignores ignores' going extra
  refine
    { rests := rests
      search := search
      solve := exists_solve_of_rests search
      answer := ?_ }
  intro rounds' root finder record solved
  obtain ⟨same, accepted_eq⟩ := beq_of_solve_of_rests search solved
  refine ⟨same, accepted_eq, ?_⟩
  rw [LawfulFloatingPoint.beq_comm] at same
  exact trySolve_of_isRoot solved positive (isRoot.of_beq ignores ignores' same)

/-- A search for the square root of four that is sent back once by its upper limit, comes
to the root with its fifth step, and is asked for nine steps, though no more than three
are allowed otherwise. -/
theorem search_rootLaw_squareRoot :
    let function : Float -> Float := fun x => x * x - 4.0
    let derivative : Float -> Float := fun x => 2.0 * x
    let config : Config Float :=
      .ofSettings
        [.limits 0.0 2.1, .heuristics, .minIterations 9, .maxIterations 3]
    let finder := ofConfig function derivative config
    (finder.search 6 3.0).1.state.current = 2.0 ∧
      (finder.search 6 3.0).1.state.accepted = 5 ∧
      (finder.search 6 3.0).1.state.retries = 1 ∧
      finder.solve 10 3.0 = some 2.0 ∧
      (finder.search 10 3.0).1.state.accepted = 9 ∧
      RootLaw function derivative config 6 3.0 := by
  intro function derivative config finder
  have isRoot : IsRoot config function derivative 2.0 :=
    { finite := by decide +kernel
      notAbove := by decide +kernel
      notBelow := by decide +kernel
      value := by decide +kernel
      defined := by decide +kernel
      sloped := by decide +kernel }
  have current_eq :
      ((ofConfig function derivative config).search 6 3.0).1.state.current = 2.0 := by
    decide +kernel
  rw [← current_eq] at isRoot
  have law : RootLaw function derivative config 6 3.0 :=
    search_rootLaw function derivative config 6 3.0 List.mem_cons_self
      (by decide +kernel)
      ((ignoresZeroSign_iff function).mpr (Or.inl (by decide +kernel)))
      ((ignoresZeroSign_iff derivative).mpr (Or.inl (by decide +kernel)))
      (by decide +kernel) isRoot
  exact ⟨by decide +kernel, by decide +kernel, by decide +kernel, by decide +kernel,
    by decide +kernel, law⟩

end Finder
end RootFinding
