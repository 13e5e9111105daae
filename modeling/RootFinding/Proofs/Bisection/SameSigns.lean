import RootFinding.Proofs.Bisection.Bracketing
import RootFinding.Proofs.FloatingPoint.Negation

/-!
# Functions of the same signs

Bisection looks at a value in two ways only: whether it is zero, and whether its sign
is that of another value.  Two functions that are zero at the same points, and whose
signs are the same everywhere or opposite everywhere, are therefore bisected alike:
each round asks both for the same points and leads to the same bracket
(`SameSigns.run_halve`), and so do all rounds (`SameSigns.run_run`).  The ends of the
bracket play no part in this, so they may be in either order, infinite, or NaN.

A function and its negative are such functions, and so are a function and a rescaled
one, as long as the scale keeps signs and zeros (`signLaw`).
-/

namespace RootFinding

/-- Replies by a function, and keeps the questions, the latest one first. -/
def Oracle.listing (function : α -> α) : Oracle (List (Query α)) α :=
  fun query asked => (function query.point, query :: asked)

/-- Listing the questions is forgetting the replies of recorded calls. -/
theorem Oracle.run_listing
    (function : α -> α)
    (inquiry : Inquiry α β)
    (world : σ)
    (calls : List (Call α)) :
    inquiry.run (listing function) (calls.map Call.query) =
      ((inquiry.run (ofFunction function).recorded (world, calls)).1,
        (inquiry.run (ofFunction function).recorded
          (world, calls)).2.2.map Call.query) :=
  inquiry.run_image (fun state => state.2.map Call.query) (fun _ _ => rfl)
    (world, calls)

namespace Bisection

/-- A round asks for the midpoint, and for the lower end if it goes on. -/
theorem run_halve_listing
    [Arithmetic α]
    (function : α -> α)
    (limit : Bracket α -> α)
    (bracket : Bracket α)
    (asked : List (Query α)) :
    (halve limit bracket).run (.listing function) asked =
      if function bracket.midpoint == 0.0 ||
          decide (bracket.halfWidth < limit bracket) then
        (.found bracket.midpoint, .value bracket.midpoint :: asked)
      else
        (.narrowed
          (bracket.narrow bracket.midpoint
            (sign (function bracket.midpoint) == sign (function bracket.lower))),
          .value bracket.lower :: .value bracket.midpoint :: asked) := by
  change Inquiry.run _
    (if (function bracket.midpoint == 0.0 ||
        decide (bracket.halfWidth < limit bracket)) = true then _ else _) _ = _
  split <;> rfl

/-- Two functions that are zero at the same points, and whose signs are the same
everywhere or opposite everywhere. -/
structure SameSigns
    [Arithmetic α]
    (function other : α -> α) : Prop where
  beq_zero (x : α) : (other x == 0.0) = (function x == 0.0)
  signs :
    (∀ x, sign (other x) = sign (function x)) ∨
      ∀ x, sign (other x) = -sign (function x)

namespace SameSigns

section Rounds

variable [Arithmetic α] {function other : α -> α}

/-- The signs at two points agree for both functions or for neither. -/
theorem beq_sign (same : SameSigns function other) (x y : α) :
    (sign (other x) == sign (other y)) =
      (sign (function x) == sign (function y)) := by
  rw [Bool.eq_iff_iff, beq_iff_eq, beq_iff_eq]
  rcases same.signs with equal | opposite
  · rw [equal, equal]
  · rw [opposite, opposite, neg_inj]

/-- A round asks both functions for the same points and comes to the same. -/
theorem run_halve
    (same : SameSigns function other)
    (limit : Bracket α -> α)
    (bracket : Bracket α)
    (asked : List (Query α)) :
    (halve limit bracket).run (.listing other) asked =
      (halve limit bracket).run (.listing function) asked := by
  rw [run_halve_listing, run_halve_listing, same.beq_zero, same.beq_sign]

/-- So do all rounds. -/
theorem run_run
    (same : SameSigns function other)
    (limit : Bracket α -> α)
    (rounds : Nat)
    (bracket : Bracket α)
    (asked : List (Query α)) :
    (run limit rounds bracket).run (.listing other) asked =
      (run limit rounds bracket).run (.listing function) asked := by
  induction rounds generalizing bracket asked with
  | zero => rfl
  | succ rounds hypothesis =>
      rw [run, Inquiry.run_bind, Inquiry.run_bind, same.run_halve]
      generalize (halve limit bracket).run (.listing function) asked = halved
      obtain ⟨progress, asked'⟩ := halved
      cases progress with
      | found point => rfl
      | narrowed narrower => exact hypothesis narrower asked'

end Rounds
end SameSigns

/-! ## Bisections that cannot be told apart -/

section Law

variable [FloatingPoint α]

/-- Two functions that are bisected alike. -/
structure BisectedAlike
    (function other : α -> α)
    (lower upper : α) : Prop where
  /-- They are asked for the same points in the same order. -/
  queries_eq :
    (transcript (.ofFunction other) () ⟨lower, upper⟩).map Call.query =
      (transcript (.ofFunction function) () ⟨lower, upper⟩).map Call.query
  /-- The bisections find the same point, or come to the same bracket. -/
  eval_eq :
    (ofBracket ⟨lower, upper⟩).eval other other =
      (ofBracket ⟨lower, upper⟩).eval function function
  /-- They have the same answer. -/
  bisect_eq : bisect other lower upper = bisect function lower upper
  /-- They have the same checked answer. -/
  tryBisect_eq : tryBisect other lower upper = tryBisect function lower upper

/-- Functions of the same signs are bisected alike. -/
theorem SameSigns.bisectedAlike
    {function other : α -> α}
    (same : SameSigns function other)
    (lower upper : α) :
    BisectedAlike function other lower upper := by
  have listed := same.run_run limit maxIterations ⟨lower, upper⟩ []
  have listing (function : α -> α) :=
    Oracle.run_listing function (ofBracket ⟨lower, upper⟩) () []
  have runs := ((listing other).symm.trans listed).trans (listing function)
  obtain ⟨answers, queries⟩ := Prod.mk.inj runs
  have eval_eq :
      (ofBracket ⟨lower, upper⟩).eval other other =
        (ofBracket ⟨lower, upper⟩).eval function function := by
    have unrecorded (function : α -> α) :=
      (Oracle.run_recorded (.ofFunction function)
        (ofBracket ⟨lower, upper⟩) () []).trans
          (Oracle.run_ofFunction function _ ())
    have other_eq := (Prod.mk.inj (unrecorded other)).1
    have function_eq := (Prod.mk.inj (unrecorded function)).1
    rw [← other_eq, ← function_eq, answers]
  refine
    { queries_eq := ?_
      eval_eq := eval_eq
      bisect_eq := by rw [bisect, bisect, eval_eq]
      tryBisect_eq := by rw [tryBisect, tryBisect, eval_eq] }
  rw [transcript, transcript, List.map_reverse, List.map_reverse, queries]

/-- Bisection looks at nothing but zeros and signs. -/
structure SignLaw (lower upper : α) : Prop where
  /-- Functions of the same signs are bisected alike. -/
  sameSigns (function other : α -> α) :
    SameSigns function other -> BisectedAlike function other lower upper
  /-- A function and its negative are bisected alike. -/
  negative (function : α -> α) :
    BisectedAlike function (fun x => -function x) lower upper
  /-- A scale that keeps signs and zeros changes nothing. -/
  rescaled (function scale : α -> α) :
    (∀ y, sign (scale y) = sign y) ->
      (∀ y, (scale y == 0.0) = (y == 0.0)) ->
      BisectedAlike function (fun x => scale (function x)) lower upper

/-- The bisections between every two ends obey the law of signs. -/
theorem signLaw
    [LawfulFloatingPoint α]
    [LawfulNegation α]
    (lower upper : α) :
    SignLaw lower upper where
  sameSigns _ _ same := same.bisectedAlike lower upper
  negative function :=
    SameSigns.bisectedAlike
      { beq_zero := fun x => LawfulNegation.neg_beq_zero (function x)
        signs := Or.inr fun x => sign_neg (function x) }
      lower upper
  rescaled function _ signs zeros :=
    SameSigns.bisectedAlike
      { beq_zero := fun x => zeros (function x)
        signs := Or.inl fun x => signs (function x) }
      lower upper

end Law

/-- A number is not equal to a larger one. -/
theorem beq_eq_false_of_lt
    [FloatingPoint α]
    [LawfulFloatingPoint α]
    {x y : α}
    (less : x < y) :
    (x == y) = false := by
  rw [← Bool.not_eq_true, LawfulFloatingPoint.beq_iff]
  exact fun equal => (LawfulFloatingPoint.lt_iff.mp less).2 equal.2

/-- The bisection for the square root of 612, whose values may be replaced by one and
minus one, and negated. -/
theorem signLaw_squareRoot :
    let function : Float -> Float := fun x => x * x - 612.0
    let scale : Float -> Float := fun y =>
      if y < 0.0 then -1.0 else if 0.0 < y then 1.0 else y
    (∀ y, sign (scale y) = sign y) ∧
      (∀ y, (scale y == 0.0) = (y == 0.0)) ∧
      SameSigns function (fun x => -scale (function x)) ∧
      bisect function 1.0 50.0 = 24.73863375370172 ∧
      SignLaw (1.0 : Float) 50.0 := by
  intro function scale
  have signs (y : Float) : sign (scale y) = sign y := by
    rw [sign, sign]
    by_cases negative : y < 0.0
    · rw [show scale y = -1.0 from if_pos negative, if_pos negative]
      decide +kernel
    · by_cases positive : 0.0 < y
      · rw [show scale y = 1.0 from (if_neg negative).trans (if_pos positive),
          if_neg negative, if_pos positive]
        decide +kernel
      · rw [show scale y = y from (if_neg negative).trans (if_neg positive)]
  have zeros (y : Float) : (scale y == 0.0) = (y == 0.0) := by
    by_cases negative : y < 0.0
    · rw [show scale y = -1.0 from if_pos negative, beq_eq_false_of_lt negative]
      decide +kernel
    · by_cases positive : 0.0 < y
      · rw [show scale y = 1.0 from (if_neg negative).trans (if_pos positive),
          LawfulFloatingPoint.beq_comm y, beq_eq_false_of_lt positive]
        decide +kernel
      · rw [show scale y = y from (if_neg negative).trans (if_neg positive)]
  refine ⟨signs, zeros, ?_, by decide +kernel, signLaw 1.0 50.0⟩
  exact
    { beq_zero := fun x => (LawfulNegation.neg_beq_zero _).trans (zeros _)
      signs := Or.inr fun x => (sign_neg _).trans (congrArg _ (signs _)) }

end Bisection
end RootFinding
