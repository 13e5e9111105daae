import RootFinding.Proofs.FloatingPoint.Laws
import RootFinding.Search.Record

/-!
# Judgements of candidates

The checks of a round form a decision list.  `Judgement` gives one constructor
to each way through it, with everything that is known of the candidate there,
so that a fact about rounds is proved by cases on a judgement instead of by
unfolding the checks.  `Turn.Fits` says what a round can be whatever the oracle
replies; every round that is played fits the state it began in
(`round_fits`).
-/

namespace RootFinding

open FloatingPoint

namespace Search

variable [FloatingPoint α]

/-- A candidate that neither limit refuses.  Infinities pass both of them. -/
def Admits (config : Config α) (candidate : α) : Prop :=
  isInfinite candidate = true ∨
    ¬config.upper < candidate ∧ ¬candidate < config.lower

/-- The ways in which a candidate can be judged, each with what is known of the
candidate there. -/
inductive Judgement
    (config : Config α)
    (state : State α)
    (candidate : α) : Verdict α -> Prop where
  | aboveUpper
      (notInfinite : isInfinite candidate = false)
      (above : config.upper < candidate) :
      Judgement config state candidate
        (.retry .upperLimit (halfway state.current config.upper))
  | belowLower
      (notInfinite : isInfinite candidate = false)
      (below : candidate < config.lower) :
      Judgement config state candidate
        (.retry .lowerLimit (halfway state.current config.lower))
  | undefined
      (undefined : isNaN candidate = true) :
      Judgement config state candidate .abort
  | infinite
      (heuristics : config.useHeuristics = true)
      (infinite : isInfinite candidate = true) :
      Judgement config state candidate
        (.retry .infiniteStep
          (if 0.0 < candidate then nudgeUp state.current
            else nudgeDown state.current))
  | repeated
      (heuristics : config.useHeuristics = true)
      (defined : isNaN candidate = false)
      (notInfinite : isInfinite candidate = false)
      (long : negligibleStep < Arithmetic.abs (candidate - state.current))
      (seen : state.seen.any (· == candidate) = true) :
      Judgement config state candidate
        (.retry .cycle
          (if candidate == state.current then nudgeUp state.current
            else halfway candidate state.current))
  | fresh
      (heuristics : config.useHeuristics = true)
      (defined : isNaN candidate = false)
      (notInfinite : isInfinite candidate = false)
      (admitted : Admits config candidate)
      (long : negligibleStep < Arithmetic.abs (candidate - state.current))
      (unseen : state.seen.any (· == candidate) = false) :
      Judgement config state candidate (.accept true)
  | negligible
      (heuristics : config.useHeuristics = true)
      (defined : isNaN candidate = false)
      (notInfinite : isInfinite candidate = false)
      (admitted : Admits config candidate)
      (short : ¬negligibleStep < Arithmetic.abs (candidate - state.current)) :
      Judgement config state candidate (.accept false)
  | plain
      (heuristics : config.useHeuristics = false)
      (defined : isNaN candidate = false)
      (admitted : Admits config candidate) :
      Judgement config state candidate (.accept false)

private theorem judgement_judgeWithHeuristics
    (config : Config α)
    (state : State α)
    (candidate : α)
    (heuristics : config.useHeuristics = true)
    (defined : isNaN candidate = false)
    (admitted : Admits config candidate) :
    Judgement config state candidate
      (Config.judgeWithHeuristics state candidate) := by
  unfold Config.judgeWithHeuristics
  split
  case isTrue infinite =>
    exact .infinite heuristics infinite
  case isFalse notInfinite =>
    rw [Bool.not_eq_true] at notInfinite
    split
    case isTrue long =>
      split
      case isTrue seen =>
        exact .repeated heuristics defined notInfinite long seen
      case isFalse unseen =>
        rw [Bool.not_eq_true] at unseen
        exact .fresh heuristics defined notInfinite admitted long unseen
    case isFalse short =>
      exact .negligible heuristics defined notInfinite admitted short

/-- Every verdict is one of the judgements. -/
theorem judgement_judge
    (config : Config α)
    (state : State α)
    (candidate : α) :
    Judgement config state candidate (config.judge state candidate) := by
  simp only [Config.judge]
  split
  case isTrue refused =>
    simp only [Bool.and_eq_true, Bool.not_eq_true', decide_eq_true_eq] at refused
    exact .aboveUpper refused.1 refused.2
  case isFalse notAbove =>
    split
    case isTrue refused =>
      simp only [Bool.and_eq_true, Bool.not_eq_true', decide_eq_true_eq] at refused
      exact .belowLower refused.1 refused.2
    case isFalse notBelow =>
      have admitted : Admits config candidate := by
        cases infinite : isInfinite candidate with
        | true => exact Or.inl infinite
        | false =>
            right
            simpa [infinite] using And.intro notAbove notBelow
      split
      case isTrue undefined =>
        exact .undefined undefined
      case isFalse defined =>
        rw [Bool.not_eq_true] at defined
        split
        case isTrue heuristics =>
          exact judgement_judgeWithHeuristics config state candidate
            heuristics defined admitted
        case isFalse heuristics =>
          rw [Bool.not_eq_true] at heuristics
          exact .plain heuristics defined admitted

namespace Judgement

/-- An accepted candidate is admitted by the limits and is not NaN; with
heuristics, it is not infinite either. -/
theorem of_accept
    {config : Config α}
    {state : State α}
    {candidate : α}
    {recorded : Bool}
    (judgement : Judgement config state candidate (.accept recorded)) :
    isNaN candidate = false ∧ Admits config candidate ∧
      (config.useHeuristics = true -> isInfinite candidate = false) := by
  cases judgement with
  | fresh _ defined notInfinite admitted =>
      exact ⟨defined, admitted, fun _ => notInfinite⟩
  | negligible _ defined notInfinite admitted =>
      exact ⟨defined, admitted, fun _ => notInfinite⟩
  | plain heuristics defined admitted =>
      refine ⟨defined, admitted, fun enabled => ?_⟩
      rw [heuristics] at enabled
      cases enabled

/-- With heuristics, the candidates that are recorded are those that were
reached by a step that is not negligible. -/
theorem recorded_eq
    {config : Config α}
    {state : State α}
    {candidate : α}
    {recorded : Bool}
    (judgement : Judgement config state candidate (.accept recorded))
    (heuristics : config.useHeuristics = true) :
    recorded =
      decide (negligibleStep < Arithmetic.abs (candidate - state.current)) := by
  cases judgement with
  | fresh _ _ _ _ long => exact (decide_eq_true long).symm
  | negligible _ _ _ _ short => exact (decide_eq_false short).symm
  | plain disabled =>
      rw [heuristics] at disabled
      cases disabled

/-- With heuristics, a candidate that is accepted by a step that is not
negligible was not recorded before. -/
theorem unseen_of_accept
    {config : Config α}
    {state : State α}
    {candidate : α}
    {recorded : Bool}
    (judgement : Judgement config state candidate (.accept recorded))
    (heuristics : config.useHeuristics = true)
    (long : negligibleStep < Arithmetic.abs (candidate - state.current)) :
    ∀ x ∈ state.seen, (x == candidate) = false := by
  cases judgement with
  | fresh _ _ _ _ _ unseen => simpa using unseen
  | negligible _ _ _ _ short => exact absurd long short
  | plain disabled =>
      rw [heuristics] at disabled
      cases disabled

end Judgement

/-- A candidate that is NaN is judged to end the search. -/
theorem judge_of_isNaN
    [LawfulFloatingPoint α]
    (config : Config α)
    (state : State α)
    {candidate : α}
    (undefined : isNaN candidate = true) :
    config.judge state candidate = .abort := by
  have judgement := judgement_judge config state candidate
  generalize config.judge state candidate = verdict at judgement ⊢
  cases judgement with
  | undefined => rfl
  | aboveUpper _ above =>
      rw [(LawfulFloatingPoint.isNaN_of_lt above).2] at undefined
      cases undefined
  | belowLower _ below =>
      rw [(LawfulFloatingPoint.isNaN_of_lt below).1] at undefined
      cases undefined
  | infinite _ infinite =>
      rw [LawfulFloatingPoint.isNaN_of_isInfinite infinite] at undefined
      cases undefined
  | repeated _ defined | fresh _ defined | negligible _ defined
  | plain _ defined =>
      rw [defined] at undefined
      cases undefined

/-! ## Rounds -/

/-- The rounds that can follow a state, whatever the oracle replies.  A
candidate is tested when enough of them are accepted. -/
inductive Turn.Fits
    (config : Config α)
    (state : State α) : Turn α -> Prop where
  | retry {candidate : α} {obstacle : Obstacle} {point : α}
      (judged : config.judge state candidate = .retry obstacle point) :
      Fits config state
        ⟨state.current, candidate, .retry obstacle point, none⟩
  | abort {candidate : α}
      (judged : config.judge state candidate = .abort) :
      Fits config state ⟨state.current, candidate, .abort, none⟩
  | untested {candidate : α} {recorded : Bool}
      (judged : config.judge state candidate = .accept recorded)
      (tooFew : state.accepted + 1 < config.minIterations) :
      Fits config state ⟨state.current, candidate, .accept recorded, none⟩
  | tested {candidate : α} {recorded : Bool} {value : α}
      (judged : config.judge state candidate = .accept recorded)
      (enough : config.minIterations ≤ state.accepted + 1) :
      Fits config state
        ⟨state.current, candidate, .accept recorded, some value⟩

namespace Turn.Fits

theorem current_eq
    {config : Config α}
    {state : State α}
    {turn : Turn α}
    (fits : turn.Fits config state) :
    turn.current = state.current := by
  cases fits <;> rfl

theorem judged
    {config : Config α}
    {state : State α}
    {turn : Turn α}
    (fits : turn.Fits config state) :
    config.judge state turn.candidate = turn.verdict := by
  cases fits <;> assumption

theorem judgement
    {config : Config α}
    {state : State α}
    {turn : Turn α}
    (fits : turn.Fits config state) :
    Judgement config state turn.candidate turn.verdict := by
  rw [← fits.judged]
  exact judgement_judge config state turn.candidate

end Turn.Fits

/-- The test that follows the judgement of a candidate: none unless it is
accepted. -/
def testAfter
    (config : Config α)
    (state : State α)
    (candidate : α) : Inquiry α (Option α) :=
  match config.judge state candidate with
  | .accept _ => config.test (state.accepted + 1) candidate
  | _ => .answer none

/-- A round is a step, a judgement, and a test. -/
theorem round_eq_bind
    (config : Config α)
    (state : State α) :
    round config state =
      config.method.step state.current >>= fun candidate =>
        testAfter config state candidate >>= fun test =>
          .answer
            ⟨state.current, candidate, config.judge state candidate, test⟩ := by
  unfold round testAfter
  congr 1
  funext candidate
  cases config.judge state candidate <;> rfl

omit [FloatingPoint α] in
/-- A test is one question about the candidate, once enough candidates are
accepted. -/
theorem run_test
    (config : Config α)
    (accepted : Nat)
    (point : α)
    (oracle : Oracle σ α)
    (world : σ) :
    (config.test accepted point).run oracle world =
      if accepted < config.minIterations then (none, world)
      else
        (some (oracle (.value point) world).1,
          (oracle (.value point) world).2) := by
  unfold Config.test
  split <;> rfl

/-- The rounds that are played fit the states in which they begin. -/
theorem round_fits
    (config : Config α)
    (state : State α)
    (oracle : Oracle σ α)
    (world : σ) :
    ((round config state).run oracle world).1.Fits config state := by
  rw [round_eq_bind, Inquiry.run_bind, Inquiry.run_bind, Inquiry.run_answer]
  generalize (config.method.step state.current).run oracle world = proposed
  obtain ⟨candidate, world'⟩ := proposed
  unfold testAfter
  cases judged : config.judge state candidate with
  | retry obstacle point => exact .retry judged
  | abort => exact .abort judged
  | accept recorded =>
      simp only [run_test]
      split
      case isTrue tooFew =>
        exact .untested judged tooFew
      case isFalse enough =>
        exact .tested judged (Nat.le_of_not_lt enough)

end Search
end RootFinding
