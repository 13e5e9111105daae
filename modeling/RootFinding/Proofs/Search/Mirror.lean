import RootFinding.Proofs.FloatingPoint.Mirror
import RootFinding.Proofs.Search.Roots

/-!
# Searches in the mirror

A function seen in the mirror has the value at a point that it has at the negative of the
point, and the negative of the slope there.  A provided method proposes opposite
candidates from opposite points (`mirrors_step`).  Seen in the mirror, the upper limit is
the lower one, so a candidate that the one refuses is the opposite of a candidate that the
other refuses, and the points half way to the limits are opposite as well
(`judge_mirrors`).  The limits are tested in a fixed order, but if they are not crossed, no
candidate is beyond both of them.

Two searches that begin at opposite points therefore stay opposite, round by round
(`mirrors_run`), and come to opposite answers (`Finder.search_mirrorLaw`).  All this is up
to the sign of a zero, which the function may pass on to its values, but which the slope
must not depend on: that sign decides to which infinity a step leads.
-/

namespace RootFinding

open FloatingPoint

/-- The limit on the other side. -/
def Obstacle.mirror : Obstacle -> Obstacle
  | .upperLimit => .lowerLimit
  | .lowerLimit => .upperLimit
  | obstacle => obstacle

section Mirror

variable [FloatingPoint α]

/-- A function seen in the mirror. -/
def mirrored (function : α -> α) (x : α) : α :=
  function (-x)

/-- The slope of a function that is seen in the mirror. -/
def mirroredSlope (derivative : α -> α) (x : α) : α :=
  -derivative (-x)

/-- The same parameters, with the limits seen in the mirror. -/
def Config.mirror (config : Config α) : Config α :=
  { config with lower := -config.upper, upper := -config.lower }

/-- The same verdict on opposite candidates.  If the one is sent back by a limit, then the
other is sent back by the other limit, and to the opposite point. -/
inductive Verdict.Mirrors : Verdict α -> Verdict α -> Prop where
  | retry
      (obstacle : Obstacle)
      {point point' : α}
      (opposite : Opposite point point') :
      Mirrors (.retry obstacle point) (.retry obstacle.mirror point')
  | abort : Mirrors .abort .abort
  | accept
      (recorded : Bool) :
      Mirrors (.accept recorded) (.accept recorded)

namespace Search

/-- Opposite points after the same counts. -/
structure State.Mirrors (state state' : State α) : Prop where
  current : Opposite state.current state'.current
  accepted : state'.accepted = state.accepted
  retries : state'.retries = state.retries
  seen : List.Forall₂ Opposite state.seen state'.seen

/-- Rounds at opposite points, with opposite candidates and the same test. -/
structure Turn.Mirrors (turn turn' : Turn α) : Prop where
  current : Opposite turn.current turn'.current
  candidate : Opposite turn.candidate turn'.candidate
  verdict : turn.verdict.Mirrors turn'.verdict
  test : Option.Rel Alike turn.test turn'.test

/-- The same number of rounds, opposite one by one, and the same ending. -/
structure Record.Mirrors (record record' : Record α) : Prop where
  state : record.state.Mirrors record'.state
  turns : List.Forall₂ Turn.Mirrors record.turns record'.turns
  ending : record'.ending = record.ending

theorem State.mirrors_start
    {start start' : α}
    (opposite : Opposite start start') :
    (State.start start).Mirrors (.start start') where
  current := opposite
  accepted := rfl
  retries := rfl
  seen := .nil

theorem Record.mirrors_start
    {start start' : α}
    (opposite : Opposite start start') :
    (Record.start start).Mirrors (.start start') where
  state := State.mirrors_start opposite
  turns := .nil
  ending := rfl

/-- Opposite rounds lead from opposite states to opposite states. -/
theorem State.Mirrors.after
    {state state' : State α}
    (mirrors : state.Mirrors state')
    {turn turn' : Turn α}
    (mirrors' : turn.Mirrors turn') :
    (state.after turn).Mirrors (state'.after turn') := by
  obtain ⟨current, candidate, verdict, test⟩ := turn
  obtain ⟨current', candidate', verdict', test'⟩ := turn'
  cases mirrors'.verdict with
  | retry obstacle opposite =>
      exact ⟨opposite, mirrors.accepted, congrArg Nat.succ mirrors.retries, mirrors.seen⟩
  | abort => exact mirrors
  | accept recorded =>
      refine ⟨mirrors'.candidate, congrArg Nat.succ mirrors.accepted, mirrors.retries, ?_⟩
      cases recorded with
      | false => exact mirrors.seen
      | true => exact .cons mirrors'.candidate mirrors.seen

/-! ## One round -/

variable [LawfulFloatingPoint α] [LawfulAlike α] [LawfulMirror α]
  {config : Config α} {function derivative : α -> α}

open LawfulAlike

/-- The point half way to a limit is opposite to the point half way to its negative. -/
theorem opposite_halfway
    {x x' : α}
    (opposite : Opposite x x')
    (limit : α) :
    Opposite (halfway x limit) (halfway x' (-limit)) := by
  have sum : Opposite (x + limit) (x' + -limit) := opposite.add (.refl (-limit))
  exact sum.mul_left 0.5

/-- From opposite points, a provided method proposes opposite candidates. -/
theorem mirrors_step
    (provided : config.method ∈ Method.provided)
    (preserves : PreservesAlike function)
    (identifies : IdentifiesAlike derivative)
    {x x' : α}
    (opposite : Opposite x x') :
    Opposite
      ((config.method.step x).eval function derivative)
      ((config.mirror.method.step x').eval
        (mirrored function) (mirroredSlope derivative)) := by
  change Opposite _ ((config.method.step x').eval _ _)
  have value_alike : Alike (mirrored function x') (function x) :=
    preserves _ _ opposite.neg_alike
  have slope_eq {y y' : α} (opposite : Opposite y y') :
      mirroredSlope derivative y' = -derivative y :=
    congrArg (-·) (identifies _ _ opposite.neg_alike)
  rcases Method.mem_provided_iff.mp provided with method_eq | method_eq
  · rw [method_eq, Method.eval_newtonRaphson, Method.eval_newtonRaphson,
      slope_eq opposite]
    exact opposite.sub (.div value_alike _)
  · -- The half Newton steps are opposite as well, so the slopes there are negatives.
    have halfway_opposite :
        Opposite (x - 0.5 * function x / derivative x)
          (x' - 0.5 * mirrored function x' / mirroredSlope derivative x') := by
      rw [slope_eq opposite]
      exact opposite.sub (.div (mul_congr (.refl 0.5) value_alike) _)
    rw [method_eq, Method.eval_homeier, Method.eval_homeier, slope_eq halfway_opposite]
    exact opposite.sub (.div value_alike _)

/-- If the limits are not crossed, then opposite candidates are judged alike, with the
limits exchanged. -/
theorem judge_mirrors
    (heuristics : config.useHeuristics = false)
    (ordered : config.lower ≤ config.upper)
    {state state' : State α}
    (current : Opposite state.current state'.current)
    {candidate candidate' : α}
    (opposite : Opposite candidate candidate') :
    (config.judge state candidate).Mirrors
      (config.mirror.judge state' candidate') := by
  have above_iff : config.mirror.upper < candidate' ↔ candidate < config.lower :=
    ((Alike.refl (-config.lower)).lt_iff opposite).trans LawfulMirror.neg_lt_neg_iff
  have below_iff : candidate' < config.mirror.lower ↔ config.upper < candidate :=
    (opposite.lt_iff (.refl (-config.upper))).trans LawfulMirror.neg_lt_neg_iff
  have plain : config.mirror.useHeuristics = false := heuristics
  simp only [Config.judge, opposite.isInfinite_eq, opposite.isNaN_eq, above_iff, below_iff,
    heuristics, plain]
  cases isInfinite candidate with
  | true =>
      -- Neither limit refuses an infinity.
      cases isNaN candidate with
      | true => exact .abort
      | false => exact .accept false
  | false =>
      by_cases above : config.upper < candidate
      · have notBelow : ¬candidate < config.lower :=
          LawfulFloatingPoint.not_lt_of_le
            (LawfulFloatingPoint.le_of_lt
              (LawfulFloatingPoint.lt_of_le_of_lt ordered above))
        simp only [above, notBelow]
        exact .retry .upperLimit (opposite_halfway current config.upper)
      · by_cases below : candidate < config.lower
        · simp only [above, below]
          exact .retry .lowerLimit (opposite_halfway current config.lower)
        · simp only [above, below]
          cases isNaN candidate with
          | true => exact .abort
          | false => exact .accept false

omit [LawfulAlike α] in
/-- Opposite candidates are tested alike. -/
theorem mirrors_test
    (preserves : PreservesAlike function)
    (accepted : Nat)
    {x x' : α}
    (opposite : Opposite x x') :
    Option.Rel Alike
      ((config.test accepted x).eval function derivative)
      ((config.mirror.test accepted x').eval
        (mirrored function) (mirroredSlope derivative)) := by
  rw [eval_test, eval_test]
  change Option.Rel Alike _ (if accepted < config.minIterations then _ else _)
  split
  case isTrue tooFew => exact .none
  case isFalse enough => exact .some (preserves _ _ opposite.neg_alike).symm

/-- Rounds at opposite states are opposite. -/
theorem mirrors_round
    (provided : config.method ∈ Method.provided)
    (heuristics : config.useHeuristics = false)
    (ordered : config.lower ≤ config.upper)
    (preserves : PreservesAlike function)
    (identifies : IdentifiesAlike derivative)
    {state state' : State α}
    (mirrors : state.Mirrors state') :
    Turn.Mirrors
      ((round config state).eval function derivative)
      ((round config.mirror state').eval
        (mirrored function) (mirroredSlope derivative)) := by
  have opposite := mirrors_step provided preserves identifies mirrors.current
  have verdict := judge_mirrors heuristics ordered mirrors.current opposite
  rw [round_eq_bind, round_eq_bind, Inquiry.eval_bind, Inquiry.eval_bind,
    Inquiry.eval_bind, Inquiry.eval_bind]
  refine ⟨mirrors.current, opposite, verdict, ?_⟩
  unfold testAfter
  generalize config.judge state _ = judged at verdict ⊢
  generalize config.mirror.judge state' _ = judged' at verdict ⊢
  cases verdict with
  | retry => exact .none
  | abort => exact .none
  | accept recorded =>
      rw [mirrors.accepted]
      exact mirrors_test preserves _ opposite

omit [LawfulMirror α] in
/-- Opposite rounds end a search alike. -/
theorem ending?_mirrors
    {state state' : State α}
    (accepted : state'.accepted = state.accepted)
    {turn turn' : Turn α}
    (mirrors : turn.Mirrors turn') :
    config.mirror.ending? state' turn' = config.ending? state turn := by
  obtain ⟨current, candidate, verdict, test⟩ := turn
  obtain ⟨current', candidate', verdict', test'⟩ := turn'
  obtain ⟨-, -, verdict, test⟩ := mirrors
  cases verdict with
  | retry => rfl
  | abort => rfl
  | accept recorded =>
      cases test with
      | none => rfl
      | some alike =>
          have converged_eq : config.mirror.converged _ = config.converged _ :=
            decide_eq_decide.mpr
              ((abs_congr alike.symm).lt_iff (.refl config.targetPrecision))
          rw [Config.ending?_tested, Config.ending?_tested, converged_eq, accepted]
          rfl

/-! ## Runs -/

/-- Runs from opposite records are opposite. -/
theorem mirrors_run
    (provided : config.method ∈ Method.provided)
    (heuristics : config.useHeuristics = false)
    (ordered : config.lower ≤ config.upper)
    (preserves : PreservesAlike function)
    (identifies : IdentifiesAlike derivative)
    (rounds : Nat)
    {record record' : Record α}
    (mirrors : record.Mirrors record') :
    Record.Mirrors
      ((run config rounds record).eval function derivative)
      ((run config.mirror rounds record').eval
        (mirrored function) (mirroredSlope derivative)) := by
  induction rounds generalizing record record' with
  | zero => exact mirrors
  | succ rounds hypothesis =>
      cases ending_eq : record.ending with
      | some ending =>
          have ended : record.ending.isSome := by
            rw [ending_eq]
            rfl
          have ended' : record'.ending.isSome := by
            rw [mirrors.ending, ended]
          rw [run_of_ending_isSome _ _ _ ended, run_of_ending_isSome _ _ _ ended']
          exact mirrors
      | none =>
          have ending_eq' : record'.ending = none := by
            rw [mirrors.ending, ending_eq]
          rw [run_succ_of_ending_eq_none _ _ _ ending_eq,
            run_succ_of_ending_eq_none _ _ _ ending_eq',
            Inquiry.eval_bind, Inquiry.eval_bind]
          have mirrors' :=
            mirrors_round provided heuristics ordered preserves identifies mirrors.state
          have after := mirrors.state.after mirrors'
          exact hypothesis
            ⟨after, .cons mirrors' mirrors.turns, ending?_mirrors after.accepted mirrors'⟩

omit [LawfulAlike α] in
/-- Opposite records have opposite answers. -/
theorem Record.Mirrors.root?
    {record record' : Record α}
    (mirrors : record.Mirrors record') :
    Option.Rel Opposite record.root? record'.root? := by
  unfold Record.root?
  rw [mirrors.ending]
  cases record.ending with
  | none => exact .none
  | some ending =>
      cases ending with
      | aborted =>
          have undefined : isNaN (nan : α) = true := LawfulFloatingPoint.isNaN_nan
          exact .some (Or.inr ⟨undefined, (LawfulMirror.isNaN_neg _).trans undefined⟩)
      | finished => exact .some mirrors.state.current

end Search

namespace Finder

open Search

/-- What a search has in common with the search in the mirror. -/
structure MirrorLaw
    (function derivative : α -> α)
    (config : Config α)
    (start : α)
    (rounds : Nat) : Prop where
  /-- The rounds are opposite one by one: their points and candidates are, what one limit
  refuses is what the other limit refuses in the mirror, and as many candidates have been
  accepted and refused. -/
  record :
    Record.Mirrors
      ((ofConfig function derivative config).search rounds start).1
      ((ofConfig (mirrored function) (mirroredSlope derivative) config.mirror).search
        rounds (-start)).1
  /-- The answers are opposite, or both NaN, or neither search has one yet. -/
  solve :
    Option.Rel Opposite
      ((ofConfig function derivative config).solve rounds start)
      ((ofConfig (mirrored function) (mirroredSlope derivative) config.mirror).solve
        rounds (-start))

variable [LawfulFloatingPoint α] [LawfulAlike α] [LawfulMirror α]

/-- A search by a provided method, without heuristics and between limits that are not
crossed, is opposite to the search in the mirror. -/
theorem search_mirrorLaw
    (function derivative : α -> α)
    (config : Config α)
    (provided : config.method ∈ Method.provided)
    (heuristics : config.useHeuristics = false)
    (ordered : config.lower ≤ config.upper)
    (preserves : PreservesAlike function)
    (identifies : IdentifiesAlike derivative)
    (start : α)
    (rounds : Nat) :
    MirrorLaw function derivative config start rounds := by
  have search_eq (function derivative : α -> α) (config : Config α) (start : α) :
      ((ofConfig function derivative config).search rounds start).1 =
        (run config rounds (.start start)).eval function derivative :=
    congrArg Prod.fst (Oracle.run_ofFunctions function derivative _)
  have mirrors := mirrors_run provided heuristics ordered preserves identifies rounds
    (Record.mirrors_start (.refl (-start)))
  rw [← search_eq, ← search_eq] at mirrors
  exact ⟨mirrors, mirrors.root?⟩

/-- A search that is sent back six times by its upper limit and twice by its lower limit,
in turns, before it finds the only root. -/
theorem search_mirrorLaw_cubic :
    let function : Float -> Float := fun x => x * x * x - 2.0 * x + 2.0
    let derivative : Float -> Float := fun x => 3.0 * (x * x) - 2.0
    let config : Config Float := .ofSettings [.limits (-2.0) 1.0, .minIterations 2]
    let refusals (obstacle : Obstacle) : Nat :=
      ((ofConfig function derivative config).search 13 0.4).1.turns.countP fun turn =>
        turn.obstacle? == some obstacle
    config.method ∈ Method.provided ∧
      config.useHeuristics = false ∧
      config.lower ≤ config.upper ∧
      PreservesAlike function ∧
      IdentifiesAlike derivative ∧
      refusals .upperLimit = 6 ∧
      refusals .lowerLimit = 2 ∧
      (ofConfig function derivative config).solve 13 0.4 = some (-1.7692923542386365) ∧
      MirrorLaw function derivative config 0.4 13 := by
  intro function derivative config refusals
  have provided : config.method ∈ Method.provided :=
    Method.mem_provided_iff.mpr (Or.inl rfl)
  have ordered : config.lower ≤ config.upper := by
    decide +kernel
  have preserves : PreservesAlike function :=
    preservesAlike_of_zeros (Or.inl (by decide +kernel))
  have identifies : IdentifiesAlike derivative :=
    identifiesAlike_of_zeros (by decide +kernel)
  exact ⟨provided, rfl, ordered, preserves, identifies, by decide +kernel,
    by decide +kernel, by decide +kernel,
    search_mirrorLaw function derivative config provided rfl ordered preserves identifies
      0.4 13⟩

end Finder
end Mirror
end RootFinding
