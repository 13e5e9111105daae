import RootFinding.Callback
import RootFinding.Proofs.Search.Judgement

/-!
# Inquiries that yield to NaN

A failed derivative replies NaN from then on.  An inquiry yields to NaN if it
asks for no more values of the function once that has happened.  Both provided
methods do, because the candidate is NaN as soon as one of the slopes is; so do
the rounds of a search, which is aborted by such a candidate, and the check of
an answer, which needs no value at NaN.  Bisection asks for no slope at all.

Like a postcondition, the parameter of `AvoidsValues` and `YieldsToNaN` says
what is known of an answer that was given although a slope was NaN, which is
what the rest of an inquiry has to rely on (`YieldsToNaN.bind`).
-/

namespace RootFinding

open FloatingPoint

namespace Inquiry

variable [FloatingPoint α]

/-- Inquiries that ask for no value if every slope is NaN, and whose answer then
has a property. -/
inductive AvoidsValues (property : β -> Prop) : Inquiry α β -> Prop where
  | answer {result : β} (holds : property result) :
      AvoidsValues property (.answer result)
  | slope {point : α} {next : α -> Inquiry α β}
      (rest : AvoidsValues property (next nan)) :
      AvoidsValues property (.ask (.slope point) next)

/-- Inquiries that ask for no more values from a slope on that is NaN, if all
later ones are, and whose answer then has a property. -/
inductive YieldsToNaN (property : β -> Prop) : Inquiry α β -> Prop where
  | answer {result : β} : YieldsToNaN property (.answer result)
  | value {point : α} {next : α -> Inquiry α β}
      (rest : ∀ reply, YieldsToNaN property (next reply)) :
      YieldsToNaN property (.ask (.value point) next)
  | slope {point : α} {next : α -> Inquiry α β}
      (rest : ∀ reply, YieldsToNaN property (next reply))
      (yields : AvoidsValues property (next nan)) :
      YieldsToNaN property (.ask (.slope point) next)

theorem AvoidsValues.bind
    {first : β -> Prop}
    {second : γ -> Prop}
    {inquiry : Inquiry α β}
    {continuation : β -> Inquiry α γ}
    (avoids : inquiry.AvoidsValues first)
    (continues : ∀ result, first result ->
      (continuation result).AvoidsValues second) :
    (inquiry >>= continuation).AvoidsValues second := by
  induction avoids with
  | answer holds => exact continues _ holds
  | slope rest hypothesis => exact .slope hypothesis

theorem YieldsToNaN.bind
    {first : β -> Prop}
    {second : γ -> Prop}
    {inquiry : Inquiry α β}
    {continuation : β -> Inquiry α γ}
    (yields : inquiry.YieldsToNaN first)
    (continues : ∀ result, (continuation result).YieldsToNaN second)
    (avoids : ∀ result, first result ->
      (continuation result).AvoidsValues second) :
    (inquiry >>= continuation).YieldsToNaN second := by
  induction yields with
  | answer => exact continues _
  | value rest hypothesis => exact .value hypothesis
  | slope rest quiet hypothesis =>
      exact .slope hypothesis (quiet.bind avoids)

/-- After an inquiry that asks for no slope, only the rest has to yield. -/
theorem YieldsToNaN.bind_of_false
    {property : γ -> Prop}
    {inquiry : Inquiry α β}
    {continuation : β -> Inquiry α γ}
    (yields : inquiry.YieldsToNaN fun _ => False)
    (continues : ∀ result, (continuation result).YieldsToNaN property) :
    (inquiry >>= continuation).YieldsToNaN property :=
  yields.bind continues fun _ impossible => impossible.elim

end Inquiry

open Inquiry

variable [FloatingPoint α]

/-! ## Stepping methods -/

/-- Methods that propose NaN once a slope is NaN. -/
def Method.PropagatesNaN (method : Method α) : Prop :=
  ∀ x, (method.step x).YieldsToNaN fun candidate => isNaN candidate = true

section Methods

variable [LawfulFloatingPoint α]

theorem isNaN_step (x value : α) :
    isNaN (x - value / nan) = true :=
  LawfulFloatingPoint.isNaN_sub
    (LawfulFloatingPoint.isNaN_div LawfulFloatingPoint.isNaN_nan)

theorem Method.newtonRaphson_propagatesNaN :
    (newtonRaphson : Method α).PropagatesNaN := by
  intro x
  refine .value fun value => .slope (fun slope => .answer) ?_
  exact .answer (isNaN_step x value)

theorem Method.homeier_propagatesNaN :
    (homeier : Method α).PropagatesNaN := by
  intro x
  refine .value fun value => .slope ?_ ?_
  · intro slope
    refine .slope (fun halfway => .answer) ?_
    exact .answer (isNaN_step x value)
  · -- The half step is NaN already, but its slope is asked for all the same.
    exact .slope (.answer (isNaN_step x value))

end Methods

/-! ## Searches -/

namespace Search

/-- The test of a candidate asks for no slope. -/
theorem testAfter_yieldsToNaN
    (config : Config α)
    (state : State α)
    (candidate : α) :
    (testAfter config state candidate).YieldsToNaN fun _ => False := by
  unfold testAfter
  cases config.judge state candidate with
  | retry => exact .answer
  | abort => exact .answer
  | accept recorded =>
      change (config.test (state.accepted + 1) candidate).YieldsToNaN _
      unfold Config.test
      split
      case isTrue => exact .answer
      case isFalse => exact .value fun _ => .answer

/-- The check of an answer asks for no slope. -/
theorem check_yieldsToNaN
    (config : Config α)
    (root : α) :
    (check config root).YieldsToNaN fun _ => False := by
  unfold check
  split
  case isTrue =>
    refine .value fun value => ?_
    change YieldsToNaN _ (if _ then _ else _)
    split <;> exact .answer
  case isFalse => exact .answer

variable [LawfulFloatingPoint α]

/-- A round is aborted once a slope is NaN. -/
theorem round_yieldsToNaN
    {config : Config α}
    (propagates : config.method.PropagatesNaN)
    (state : State α) :
    (round config state).YieldsToNaN fun turn => turn.verdict = .abort := by
  rw [round_eq_bind]
  refine (propagates state.current).bind ?_ ?_
  · intro candidate
    exact (testAfter_yieldsToNaN config state candidate).bind_of_false
      fun _ => .answer
  · intro candidate undefined
    have aborts := judge_of_isNaN config state undefined
    rw [testAfter, aborts]
    exact .answer rfl

/-- A search is aborted once a slope is NaN. -/
theorem run_yieldsToNaN
    {config : Config α}
    (propagates : config.method.PropagatesNaN)
    (rounds : Nat)
    (record : Record α) :
    (run config rounds record).YieldsToNaN
      fun record => record.ending = some .aborted := by
  induction rounds generalizing record with
  | zero => exact .answer
  | succ rounds hypothesis =>
      cases ending : record.ending with
      | some _ =>
          rw [run_of_ending_isSome _ _ _ (by rw [ending]; rfl)]
          exact .answer
      | none =>
          rw [run_succ_of_ending_eq_none _ _ _ ending]
          refine (round_yieldsToNaN propagates record.state).bind
            (fun turn => hypothesis (record.extend config turn)) ?_
          rintro ⟨current, candidate, verdict, test⟩ rfl
          rw [run_of_ending_isSome _ _ _ rfl]
          exact .answer rfl

/-- The check of NaN asks for nothing. -/
theorem check_nan (config : Config α) :
    check config nan = .answer (.error .nonFinite) := by
  have notFinite : isFinite (nan : α) ≠ true := by
    intro finite
    have defined := ((LawfulFloatingPoint.isFinite_iff nan).mp finite).1
    rw [LawfulFloatingPoint.isNaN_nan] at defined
    cases defined
  rw [check, if_neg notFinite]
  rfl

/-- A checked search asks for no more values once a slope is NaN. -/
theorem checkedFromPoint_yieldsToNaN
    {config : Config α}
    (propagates : config.method.PropagatesNaN)
    (rounds : Nat)
    (start : α) :
    (checkedFromPoint config rounds start).YieldsToNaN fun _ => True := by
  refine (run_yieldsToNaN propagates rounds (.start start)).bind ?_ ?_
  · intro record
    cases record.root? with
    | none => exact .answer
    | some root =>
        exact (check_yieldsToNaN config root).bind_of_false fun _ => .answer
  · intro record aborted
    have root_eq : record.root? = some nan := by
      rw [Record.root?, aborted]
    rw [root_eq]
    change (check config nan >>= _).AvoidsValues _
    rw [check_nan]
    exact .answer trivial

end Search

/-- The inquiry of a request asks for no more values once a slope is NaN. -/
theorem Request.inquiry_yieldsToNaN
    [LawfulFloatingPoint α]
    (request : Request α)
    {config : Config α}
    (propagates : config.method.PropagatesNaN)
    (rounds : Nat)
    (start : α) :
    (request.inquiry config rounds start).YieldsToNaN fun _ => True := by
  unfold inquiry
  split
  case isTrue =>
    exact (Search.checkedFromPoint_yieldsToNaN propagates rounds start).bind
      (fun _ => .answer) (fun _ _ => .answer trivial)
  case isFalse =>
    exact (Search.run_yieldsToNaN propagates rounds (.start start)).bind
      (fun _ => .answer) (fun _ _ => .answer trivial)

/-! ## Bisection -/

namespace Bisection

/-- Bisection asks for no slope. -/
theorem run_yieldsToNaN
    (limit : Bracket α -> α)
    (rounds : Nat)
    (bracket : Bracket α) :
    (run limit rounds bracket).YieldsToNaN fun _ => False := by
  induction rounds generalizing bracket with
  | zero => exact .answer
  | succ rounds hypothesis =>
      have halved : (halve limit bracket).YieldsToNaN fun _ => False := by
        refine .value fun value => ?_
        change YieldsToNaN _ (if _ then _ else _)
        split
        case isTrue => exact .answer
        case isFalse => exact .value fun _ => .answer
      refine halved.bind_of_false ?_
      intro progress
      cases progress with
      | found => exact .answer
      | narrowed narrower => exact hypothesis narrower

end Bisection
end RootFinding
