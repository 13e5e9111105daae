import RootFinding.Proofs.Bisection.Endings
import RootFinding.Proofs.FloatingPoint.Laws

/-!
# Signs at the ends of a bracket

Bisection compares the sign at the midpoint with the one at the lower end.  The
lower end only moves to a point of the same sign, and the upper end only to a
point of another sign, so the sign at the lower end never changes
(`Reaches.signsKept`).  It is therefore enough to ask for it once:
`askedOnce` is the bisection that does so, and comes to the same outcome over
every function (`eval_askedOnce`).  That zero is its own sign, and the sign of
NaN as well, plays no part in this.
-/

namespace RootFinding

/-- A zero of either sign has the sign `0`. -/
theorem sign_of_beq_zero
    [FloatingPoint α]
    [LawfulFloatingPoint α]
    {x : α}
    (zero : (x == 0.0) = true) :
    sign x = 0 := by
  obtain ⟨le, ge⟩ := LawfulFloatingPoint.beq_iff.mp zero
  exact sign_of_not_lt
    (LawfulFloatingPoint.not_lt_of_le ge) (LawfulFloatingPoint.not_lt_of_le le)

/-- NaN has the sign `0`. -/
theorem sign_of_isNaN
    [FloatingPoint α]
    [LawfulFloatingPoint α]
    {x : α}
    (undefined : FloatingPoint.isNaN x = true) :
    sign x = 0 := by
  refine sign_of_not_lt (fun negative => ?_) (fun positive => ?_)
  · rw [(LawfulFloatingPoint.isNaN_of_lt negative).1] at undefined
    cases undefined
  · rw [(LawfulFloatingPoint.isNaN_of_lt positive).2] at undefined
    cases undefined

namespace Bisection

variable [Arithmetic α]
  {limit : Bracket α -> α}
  {function : α -> α}
  {bracket : Bracket α}

/-- The signs that bisection keeps: the one at the lower end, and at an upper end
that has moved, that it is another one. -/
structure SignsKept
    (function : α -> α)
    (bracket narrower : Bracket α) : Prop where
  lower :
    sign (function narrower.lower) = sign (function bracket.lower)
  upper :
    narrower.upper = bracket.upper ∨
      sign (function narrower.upper) ≠ sign (function bracket.lower)

theorem SignsKept.refl (function : α -> α) (bracket : Bracket α) :
    SignsKept function bracket bracket :=
  ⟨rfl, Or.inl rfl⟩

/-- A round keeps the signs. -/
theorem Halved.signsKept
    {current narrower : Bracket α}
    {world world' : σ}
    (halved :
      Halved limit (.ofFunction function) current world
        (.narrowed narrower) world')
    (kept : SignsKept function bracket current) :
    SignsKept function bracket narrower := by
  cases halved with
  | lower asked goesOn asked_lower agrees =>
      obtain ⟨rfl, -⟩ := Prod.mk.inj asked
      obtain ⟨rfl, -⟩ := Prod.mk.inj asked_lower
      exact ⟨agrees.trans kept.lower, kept.upper⟩
  | upper asked goesOn asked_lower differs =>
      obtain ⟨rfl, -⟩ := Prod.mk.inj asked
      obtain ⟨rfl, -⟩ := Prod.mk.inj asked_lower
      refine ⟨kept.lower, Or.inr ?_⟩
      rw [← kept.lower]
      exact differs

/-- All rounds keep the signs. -/
theorem Reaches.signsKept
    {world : σ}
    {rounds : Nat}
    {narrower : Bracket α}
    {world' : σ}
    (reached :
      Reaches limit (.ofFunction function) bracket world
        rounds narrower world') :
    SignsKept function bracket narrower := by
  induction reached with
  | start => exact .refl function bracket
  | round reached played hypothesis =>
      exact (halved_of_run played).signsKept hypothesis

/-- Ends of different signs stay ends of different signs. -/
theorem SignsKept.differ
    {narrower : Bracket α}
    (kept : SignsKept function bracket narrower)
    (differ :
      sign (function bracket.lower) ≠ sign (function bracket.upper)) :
    sign (function narrower.lower) ≠ sign (function narrower.upper) := by
  rw [kept.lower]
  rcases kept.upper with unmoved | moved
  · rw [unmoved]
    exact differ
  · exact moved.symm

/-- What is known of a point that bisection has found: it is a zero, or the
midpoint of a bracket that was reached and is narrow enough. -/
theorem eval_run_found
    {rounds : Nat}
    {point : α}
    (found :
      (run limit rounds bracket).eval function function = .found point) :
    (function point == 0.0) = true ∨
      ∃ earlier < rounds, ∃ narrower,
        bracketAfter? limit function bracket earlier = some narrower ∧
          point = narrower.midpoint ∧
          narrower.halfWidth < limit narrower := by
  obtain ⟨earlier, inTime, ends⟩ := eval_run_eq_found_iff.mp found
  cases ends with
  | @intro current after ends =>
      exact ends.imp_right fun narrow =>
        ⟨earlier, inTime, current, after, rfl, narrow⟩

/-! ## Asking once for the sign at the lower end -/

/-- One round of a bisection that knows the sign at the lower end. -/
def halveKnowing
    (limit : Bracket α -> α)
    (lowerSign : Int)
    (bracket : Bracket α) : Inquiry α (Progress α) := do
  let point := bracket.midpoint
  let value ← .value point
  if value == 0.0 || decide (bracket.halfWidth < limit bracket) then
    return .found point
  else
    return .narrowed (bracket.narrow point (sign value == lowerSign))

/-- At most the given number of rounds of a bisection that knows the sign at the
lower end. -/
def runKnowing
    (limit : Bracket α -> α)
    (lowerSign : Int) :
    Nat -> Bracket α -> Inquiry α (Progress α)
  | 0, bracket => return .narrowed bracket
  | rounds + 1, bracket => do
      match ← halveKnowing limit lowerSign bracket with
      | .found point => return .found point
      | .narrowed narrower => runKnowing limit lowerSign rounds narrower

/-- The bisection that asks for the value at the lower end once, before its
first round. -/
def askedOnce
    (limit : Bracket α -> α)
    (rounds : Nat)
    (bracket : Bracket α) : Inquiry α (Progress α) := do
  let lowerValue ← .value bracket.lower
  runKnowing limit (sign lowerValue) rounds bracket

/-- Over a function, it does not matter whether a round asks for the sign at the
lower end or knows it. -/
theorem eval_halveKnowing
    (limit : Bracket α -> α)
    (function : α -> α)
    (bracket : Bracket α) :
    (halveKnowing limit (sign (function bracket.lower)) bracket).eval
        function function =
      (halve limit bracket).eval function function := by
  simp only [halveKnowing, halve, Inquiry.value_bind, Inquiry.eval_ask_value]
  split <;> rfl

/-- Over a function, asking once for the sign at the lower end is as good as
asking in every round. -/
theorem eval_askedOnce
    (limit : Bracket α -> α)
    (function : α -> α)
    (rounds : Nat)
    (bracket : Bracket α) :
    (askedOnce limit rounds bracket).eval function function =
      (run limit rounds bracket).eval function function := by
  change (runKnowing limit (sign (function bracket.lower)) rounds bracket).eval
    function function = _
  induction rounds generalizing bracket with
  | zero => rfl
  | succ rounds hypothesis =>
      rw [runKnowing, run, Inquiry.eval_bind, Inquiry.eval_bind,
        eval_halveKnowing]
      cases progress :
          (halve limit bracket).eval function function with
      | found point => rfl
      | narrowed narrower =>
          -- The known sign is also the one at the lower end of the next bracket.
          have played :
              (halve limit bracket).run (.ofFunction function) () =
                (.narrowed narrower, ()) := by
            rw [Oracle.run_ofFunction, progress]
          have kept := (halved_of_run played).signsKept
            (.refl function bracket)
          rw [← kept.lower]
          exact hypothesis narrower

end Bisection
end RootFinding
