import RootFinding.Proofs.Bisection.Rounds

/-!
# Where a bisection ends

The rule for the half width says when a bisection may end, and nothing else.  The
bisection of a function finds a point exactly if one of its rounds ends there
(`eval_run_eq_found_iff`), and no bracket is reached after that round
(`EndsAfter.le_of_bracketAfter?`).  A rule that lets more rounds end changes none of
the brackets that are still reached (`Reaches.of_looser`), and the bisection ends in
the same round or in an earlier one (`EndsAfter.exists_of_looser`,
`EndsAfter.le_of_looser`).

The two rules that are in use are `constantLimit` and `raisedLimit` (`limit_eq`).
-/

namespace RootFinding
namespace Bisection

/-- The rule by which all brackets have the same limit. -/
def constantLimit (tolerance : α) (_ : Bracket α) : α :=
  tolerance

/-- The rule of a coarse format raises the tolerance, and the one of any other format
is constant. -/
theorem limit_eq [FloatingPoint α] :
    (limit : Bracket α -> α) =
      if isCoarse α then raisedLimit tolerance FloatingPoint.epsilon
      else constantLimit tolerance := by
  funext bracket
  unfold limit
  cases isCoarse α <;> rfl

variable [Arithmetic α]
  {limit looser : Bracket α -> α}
  {function : α -> α}
  {bracket : Bracket α}

/-- A round goes in only one way. -/
theorem Halved.run_eq
    {oracle : Oracle σ α}
    {world : σ}
    {progress : Progress α}
    {world' : σ}
    (halved : Halved limit oracle bracket world progress world') :
    (halve limit bracket).run oracle world = (progress, world') := by
  rw [halve, Inquiry.value_bind, Inquiry.run_ask]
  cases halved with
  | found asked ends =>
      rw [asked, if_pos (by simpa [Ends] using ends)]
      rfl
  | lower asked goesOn asked_lower agrees =>
      rw [asked, if_neg (by simpa [Ends] using goesOn), Inquiry.value_bind,
        Inquiry.run_ask, asked_lower, beq_iff_eq.mpr agrees]
      rfl
  | upper asked goesOn asked_lower differs =>
      rw [asked, if_neg (by simpa [Ends] using goesOn), Inquiry.value_bind,
        Inquiry.run_ask, asked_lower, beq_eq_false_iff_ne.mpr differs]
      rfl

/-! ## The round in which a bisection ends -/

/-- The bisection of a function does not end in the first rounds, and ends in the next
one at this point. -/
inductive EndsAfter
    (limit : Bracket α -> α)
    (function : α -> α)
    (bracket : Bracket α)
    (rounds : Nat) : α -> Prop where
  | intro {current : Bracket α}
      (after : bracketAfter? limit function bracket rounds = some current)
      (ends : Ends limit current (function current.midpoint)) :
      EndsAfter limit function bracket rounds current.midpoint

/-- The point is found as soon as the round is played. -/
theorem EndsAfter.eval_run
    {rounds : Nat}
    {point : α}
    (ends : EndsAfter limit function bracket rounds point)
    (extra : Nat) :
    (run limit (rounds + (extra + 1)) bracket).eval function function =
      .found point := by
  cases ends with
  | @intro current after ends =>
      have reached := bracketAfter?_eq_some_iff.mp after
      have halved :
          Halved limit (.ofFunction function) current ()
            (.found current.midpoint) () := .found rfl ends
      have played := reached.run_add (extra + 1)
      rw [run, Inquiry.run_bind, halved.run_eq, Oracle.run_ofFunction] at played
      exact (Prod.mk.inj played).1

/-- No bracket is reached after the round in which a bisection ends. -/
theorem EndsAfter.le_of_bracketAfter?
    {rounds later : Nat}
    {point : α}
    {narrower : Bracket α}
    (ends : EndsAfter limit function bracket rounds point)
    (after : bracketAfter? limit function bracket later = some narrower) :
    later ≤ rounds := by
  refine Nat.le_of_not_lt fun tooLate => ?_
  obtain ⟨extra, rfl⟩ := Nat.exists_eq_add_of_lt tooLate
  rw [bracketAfter?, Nat.add_assoc, ends.eval_run] at after
  cases after

/-- A bisection finds a point exactly if one of its rounds ends there. -/
theorem eval_run_eq_found_iff
    {rounds : Nat}
    {point : α} :
    (run limit rounds bracket).eval function function = .found point ↔
      ∃ earlier < rounds, EndsAfter limit function bracket earlier point := by
  constructor
  · intro found
    have outcome := outcome_run limit (.ofFunction function) bracket () rounds
    rw [Oracle.run_ofFunction, found] at outcome
    cases outcome with
    | @found earlier current _ _ _ inTime reached played =>
        refine ⟨earlier, inTime, ?_⟩
        cases halved_of_run played with
        | found asked ends =>
            obtain ⟨rfl, -⟩ := Prod.mk.inj asked
            exact .intro (bracketAfter?_eq_some_iff.mpr reached) ends
  · rintro ⟨earlier, inTime, ends⟩
    obtain ⟨extra, rfl⟩ := Nat.exists_eq_add_of_lt inTime
    exact ends.eval_run extra

/-- A bisection ends in one of its first rounds, or comes to a bracket after them. -/
theorem exists_endsAfter_or_bracketAfter?
    (limit : Bracket α -> α)
    (function : α -> α)
    (bracket : Bracket α)
    (rounds : Nat) :
    (∃ earlier < rounds, ∃ point,
        EndsAfter limit function bracket earlier point) ∨
      ∃ narrower,
        bracketAfter? limit function bracket rounds = some narrower := by
  cases progress : (run limit rounds bracket).eval function function with
  | found point =>
      obtain ⟨earlier, inTime, ends⟩ := eval_run_eq_found_iff.mp progress
      exact Or.inl ⟨earlier, inTime, point, ends⟩
  | narrowed narrower =>
      exact Or.inr ⟨narrower, by rw [bracketAfter?, progress]⟩

/-! ## Rules by which more rounds may end -/

section Looser

variable
  (loosens :
    ∀ current value, Ends limit current value -> Ends looser current value)

include loosens

/-- A round that goes on by the looser rule goes on in the same way by the other
one. -/
theorem Halved.of_looser
    {oracle : Oracle σ α}
    {world : σ}
    {narrower : Bracket α}
    {world' : σ}
    (halved :
      Halved looser oracle bracket world (.narrowed narrower) world') :
    Halved limit oracle bracket world (.narrowed narrower) world' := by
  cases halved with
  | lower asked goesOn asked_lower agrees =>
      exact .lower asked (fun ends => goesOn (loosens _ _ ends)) asked_lower
        agrees
  | upper asked goesOn asked_lower differs =>
      exact .upper asked (fun ends => goesOn (loosens _ _ ends)) asked_lower
        differs

/-- The brackets that are reached by the looser rule are reached by the other one. -/
theorem Reaches.of_looser
    {oracle : Oracle σ α}
    {world : σ}
    {rounds : Nat}
    {narrower : Bracket α}
    {world' : σ}
    (reached : Reaches looser oracle bracket world rounds narrower world') :
    Reaches limit oracle bracket world rounds narrower world' := by
  induction reached with
  | start => exact .start
  | round reached played hypothesis =>
      exact .round hypothesis ((halved_of_run played).of_looser loosens).run_eq

theorem bracketAfter?_of_looser
    {rounds : Nat}
    {narrower : Bracket α}
    (after : bracketAfter? looser function bracket rounds = some narrower) :
    bracketAfter? limit function bracket rounds = some narrower :=
  bracketAfter?_eq_some_iff.mpr
    ((bracketAfter?_eq_some_iff.mp after).of_looser loosens)

/-- The bisection by the looser rule does not end in a later round. -/
theorem EndsAfter.le_of_looser
    {rounds rounds' : Nat}
    {point point' : α}
    (ends : EndsAfter limit function bracket rounds point)
    (ends' : EndsAfter looser function bracket rounds' point') :
    rounds' ≤ rounds := by
  cases ends' with
  | intro after =>
      exact ends.le_of_bracketAfter? (bracketAfter?_of_looser loosens after)

/-- It ends if the bisection by the other rule does. -/
theorem EndsAfter.exists_of_looser
    {rounds : Nat}
    {point : α}
    (ends : EndsAfter limit function bracket rounds point) :
    ∃ earlier point', EndsAfter looser function bracket earlier point' := by
  rcases exists_endsAfter_or_bracketAfter? looser function bracket (rounds + 1)
    with ⟨earlier, -, point', ends'⟩ | ⟨narrower, after⟩
  · exact ⟨earlier, point', ends'⟩
  · -- The bracket would be reached by the other rule as well, which has ended.
    have tooLate :=
      ends.le_of_bracketAfter? (bracketAfter?_of_looser loosens after)
    exact absurd tooLate (Nat.not_succ_le_self rounds)

end Looser

end Bisection
end RootFinding
