import RootFinding.Proofs.Bisection.Midpoints
import RootFinding.Proofs.Bisection.Signs

/-!
# Brackets of a bisection

What bisection guarantees of its brackets without looking at the width.  The
signs at the ends are kept over every function, whatever the order of the ends
(`Reaches.signsKept`).  If the ends are in order, and midpoints of ordered pairs
lie between the two, then every bracket lies in the one before, and with it
every point that is asked for (`Reaches.nested`, `Outcome.contains_calls`).
That midpoints lie between is a property of the arithmetic, which fails where a
sum overflows; it is assumed of the pairs inside of the first bracket only, and
the binary formats have it where they do not overflow.
-/

namespace RootFinding

open FloatingPoint

namespace Bisection

variable [FloatingPoint α]
  {limit : Bracket α -> α}
  {oracle : Oracle σ α}
  {bracket : Bracket α}
  {world : σ}

/-- An ordered bracket inside of another one. -/
structure Nested (bracket narrower : Bracket α) : Prop where
  lower : bracket.lower ≤ narrower.lower
  ordered : narrower.lower ≤ narrower.upper
  upper : narrower.upper ≤ bracket.upper

variable [LawfulFloatingPoint α]

theorem Nested.refl
    (ordered : bracket.lower ≤ bracket.upper) :
    Nested bracket bracket := by
  have defined := LawfulFloatingPoint.isNaN_of_le ordered
  exact ⟨LawfulFloatingPoint.le_refl defined.1, ordered,
    LawfulFloatingPoint.le_refl defined.2⟩

theorem Nested.trans
    {middle narrower : Bracket α}
    (outer : Nested bracket middle)
    (inner : Nested middle narrower) :
    Nested bracket narrower where
  lower := LawfulFloatingPoint.le_trans outer.lower inner.lower
  ordered := inner.ordered
  upper := LawfulFloatingPoint.le_trans inner.upper outer.upper

theorem Nested.contains
    {narrower : Bracket α}
    {x : α}
    (nested : Nested bracket narrower)
    (contains : narrower.Contains x) :
    bracket.Contains x :=
  ⟨LawfulFloatingPoint.le_trans nested.lower contains.1,
    LawfulFloatingPoint.le_trans contains.2 nested.upper⟩

omit [LawfulFloatingPoint α] in
/-- The midpoint of a nested bracket lies in it. -/
theorem Nested.contains_midpoint
    {narrower : Bracket α}
    (between : bracket.MidpointsBetween)
    (nested : Nested bracket narrower) :
    narrower.Contains narrower.midpoint :=
  between narrower.lower narrower.upper
    nested.lower nested.ordered nested.upper

/-- A round leads to a bracket inside of the current one if that holds its
midpoint. -/
theorem Halved.nested_of_contains
    {current narrower : Bracket α}
    {world' : σ}
    (contains : current.Contains current.midpoint)
    (ordered : current.lower ≤ current.upper)
    (halved :
      Halved limit oracle current world (.narrowed narrower) world') :
    Nested current narrower := by
  have same := Nested.refl ordered
  cases halved with
  | lower => exact ⟨contains.1, contains.2, same.upper⟩
  | upper => exact ⟨same.lower, contains.1, contains.2⟩

/-- A round leads from a nested bracket to a bracket inside of it. -/
theorem Halved.nested
    {current narrower : Bracket α}
    {world' : σ}
    (between : bracket.MidpointsBetween)
    (nested : Nested bracket current)
    (halved :
      Halved limit oracle current world (.narrowed narrower) world') :
    Nested current narrower :=
  halved.nested_of_contains (nested.contains_midpoint between) nested.ordered

/-- The brackets that are reached are nested in the first one. -/
theorem Reaches.nested
    {rounds : Nat}
    {narrower : Bracket α}
    {world' : σ}
    (between : bracket.MidpointsBetween)
    (ordered : bracket.lower ≤ bracket.upper)
    (reached : Reaches limit oracle bracket world rounds narrower world') :
    Nested bracket narrower := by
  induction reached with
  | start => exact .refl ordered
  | round reached played hypothesis =>
      exact hypothesis.trans
        ((halved_of_run played).nested between hypothesis)

/-! ## The points that are asked for -/

/-- The calls of a bisection, in order. -/
def transcript
    (oracle : Oracle σ α)
    (world : σ)
    (bracket : Bracket α) : List (Call α) :=
  ((ofBracket bracket).run oracle.recorded (world, [])).2.2.reverse

omit [LawfulFloatingPoint α] in
/-- A round asks for values at the midpoint and at the lower end. -/
theorem Halved.point_of_mem
    {progress : Progress α}
    {calls calls' : List (Call α)}
    {world' : σ}
    (halved :
      Halved limit oracle.recorded bracket (world, calls)
        progress (world', calls')) :
    ∀ call ∈ calls', call ∈ calls ∨
      call.query.point = bracket.midpoint ∨
      call.query.point = bracket.lower := by
  intro call member
  cases halved with
  | found asked =>
      obtain ⟨-, asked⟩ := Prod.mk.inj asked
      obtain ⟨-, rfl⟩ := Prod.mk.inj asked
      rcases List.mem_cons.mp member with rfl | earlier
      · exact Or.inr (Or.inl rfl)
      · exact Or.inl earlier
  | lower asked goesOn asked_lower | upper asked goesOn asked_lower =>
      obtain ⟨-, asked⟩ := Prod.mk.inj asked
      obtain rfl := asked
      obtain ⟨-, asked_lower⟩ := Prod.mk.inj asked_lower
      obtain ⟨-, rfl⟩ := Prod.mk.inj asked_lower
      rcases List.mem_cons.mp member with rfl | before
      · exact Or.inr (Or.inr rfl)
      · rcases List.mem_cons.mp before with rfl | earlier
        · exact Or.inr (Or.inl rfl)
        · exact Or.inl earlier

/-- A round in a nested bracket asks for points of the first bracket. -/
theorem Halved.contains_calls
    {current : Bracket α}
    {progress : Progress α}
    {calls calls' : List (Call α)}
    {world' : σ}
    (between : bracket.MidpointsBetween)
    (nested : Nested bracket current)
    (halved :
      Halved limit oracle.recorded current (world, calls)
        progress (world', calls'))
    (contains : ∀ call ∈ calls, bracket.Contains call.query.point) :
    ∀ call ∈ calls', bracket.Contains call.query.point := by
  have same := Nested.refl nested.ordered
  intro call member
  rcases halved.point_of_mem call member with earlier | midpoint | lower
  · exact contains call earlier
  · rw [midpoint]
    exact nested.contains (nested.contains_midpoint between)
  · rw [lower]
    exact nested.contains ⟨same.lower, nested.ordered⟩

theorem Reaches.contains_calls
    {rounds : Nat}
    {narrower : Bracket α}
    {final : σ × List (Call α)}
    (between : bracket.MidpointsBetween)
    (ordered : bracket.lower ≤ bracket.upper)
    (reached :
      Reaches limit oracle.recorded bracket (world, []) rounds
        narrower final) :
    ∀ call ∈ final.2, bracket.Contains call.query.point := by
  induction reached with
  | start => simp
  | round reached played hypothesis =>
      exact (halved_of_run played).contains_calls between
        (reached.nested between ordered) hypothesis

/-- A bisection asks for points of its bracket only. -/
theorem Outcome.contains_calls
    {rounds : Nat}
    {progress : Progress α}
    {final : σ × List (Call α)}
    (between : bracket.MidpointsBetween)
    (ordered : bracket.lower ≤ bracket.upper)
    (outcome :
      Outcome limit oracle.recorded bracket (world, []) rounds
        progress final) :
    ∀ call ∈ final.2, bracket.Contains call.query.point := by
  cases outcome with
  | found inTime reached played =>
      exact (halved_of_run played).contains_calls between
        (reached.nested between ordered)
        (reached.contains_calls between ordered)
  | narrowed reached =>
      exact reached.contains_calls between ordered

/-- A point that is found lies in the bracket. -/
theorem Outcome.contains_of_found
    {rounds : Nat}
    {point : α}
    {final : σ}
    (between : bracket.MidpointsBetween)
    (ordered : bracket.lower ≤ bracket.upper)
    (outcome :
      Outcome limit oracle bracket world rounds (.found point) final) :
    bracket.Contains point := by
  cases outcome with
  | found inTime reached played =>
      have nested := reached.nested between ordered
      cases halved_of_run played with
      | found => exact nested.contains (nested.contains_midpoint between)

/-! ## Bisections of functions -/

/-- Every bracket but the first one lies in the bracket before it. -/
theorem nested_of_bracketAfter?_succ
    {function : α -> α}
    {rounds : Nat}
    {narrower : Bracket α}
    (between : bracket.MidpointsBetween)
    (ordered : bracket.lower ≤ bracket.upper)
    (after :
      bracketAfter? limit function bracket (rounds + 1) = some narrower) :
    ∃ current,
      bracketAfter? limit function bracket rounds = some current ∧
        Nested current narrower := by
  cases bracketAfter?_eq_some_iff.mp after with
  | round reached played =>
      refine ⟨_, bracketAfter?_eq_some_iff.mpr reached, ?_⟩
      exact (halved_of_run played).nested between
        (reached.nested between ordered)

/-- The points that the bisection of a function asks for lie in its bracket. -/
theorem contains_of_mem_transcript
    {function : α -> α}
    {call : Call α}
    (between : bracket.MidpointsBetween)
    (ordered : bracket.lower ≤ bracket.upper)
    (member : call ∈ transcript (.ofFunction function) () bracket) :
    bracket.Contains call.query.point := by
  have outcome := outcome_run Bisection.limit
    (Oracle.ofFunction function).recorded bracket ((), []) maxIterations
  exact outcome.contains_calls between ordered call
    (List.mem_reverse.mp member)

/-- The answer of the bisection of a function lies in its bracket, unless it is
NaN. -/
theorem contains_bisect
    {function : α -> α}
    (between : bracket.MidpointsBetween)
    (ordered : bracket.lower ≤ bracket.upper)
    (defined :
      isNaN (bisect function bracket.lower bracket.upper) = false) :
    bracket.Contains (bisect function bracket.lower bracket.upper) := by
  have outcome := outcome_run Bisection.limit
    (.ofFunction function) bracket () maxIterations
  rw [Oracle.run_ofFunction] at outcome
  rw [bisect, ofBracket] at defined ⊢
  generalize (run Bisection.limit maxIterations bracket).eval
    function function = progress at outcome defined ⊢
  cases progress with
  | found point => exact outcome.contains_of_found between ordered
  | narrowed narrower =>
      rw [Progress.root, LawfulFloatingPoint.isNaN_nan] at defined
      cases defined

/-! ## The law of brackets -/

/-- What the brackets of the bisection of a function are, for ends in either
order and of any signs. -/
structure BracketLaw (function : α -> α) (bracket : Bracket α) : Prop where
  /-- Zeros and NaN have a sign of their own. -/
  sign_eq_zero (x : α) :
    (x == 0.0) = true ∨ isNaN x = true -> sign x = 0
  /-- The sign at the lower end stays the same. -/
  sign_lower (rounds : Nat) (narrower : Bracket α) :
    bracketAfter? Bisection.limit function bracket rounds = some narrower ->
      sign (function narrower.lower) = sign (function bracket.lower)
  /-- The upper end moves to points of another sign only. -/
  sign_upper (rounds : Nat) (narrower : Bracket α) :
    bracketAfter? Bisection.limit function bracket rounds = some narrower ->
      narrower.upper = bracket.upper ∨
        sign (function narrower.upper) ≠ sign (function bracket.lower)
  /-- Ends of different signs stay ends of different signs. -/
  signs_differ (rounds : Nat) (narrower : Bracket α) :
    sign (function bracket.lower) ≠ sign (function bracket.upper) ->
      bracketAfter? Bisection.limit function bracket rounds =
        some narrower ->
      sign (function narrower.lower) ≠ sign (function narrower.upper)
  /-- A point that is found is a zero, or the midpoint of a bracket whose ends
  differ in sign and which is narrow enough. -/
  found (point : α) :
    sign (function bracket.lower) ≠ sign (function bracket.upper) ->
      (ofBracket bracket).eval function function = .found point ->
      (function point == 0.0) = true ∨
        ∃ rounds < maxIterations, ∃ narrower,
          bracketAfter? Bisection.limit function bracket rounds =
              some narrower ∧
            point = narrower.midpoint ∧
            sign (function narrower.lower) ≠
              sign (function narrower.upper) ∧
            narrower.halfWidth < Bisection.limit narrower
  /-- Asking once for the sign at the lower end leads to the same outcome. -/
  askedOnce_eq :
    (askedOnce Bisection.limit maxIterations bracket).eval
        function function =
      (ofBracket bracket).eval function function
  /-- From one round to the next, the lower end does not decrease and the upper
  end does not increase. -/
  monotone (rounds : Nat) (narrower : Bracket α) :
    bracket.lower ≤ bracket.upper ->
      bracket.MidpointsBetween ->
      bracketAfter? Bisection.limit function bracket (rounds + 1) =
        some narrower ->
      ∃ current,
        bracketAfter? Bisection.limit function bracket rounds =
            some current ∧
          current.lower ≤ narrower.lower ∧ narrower.upper ≤ current.upper
  /-- All points that are asked for lie in the bracket. -/
  contains_call (call : Call α) :
    bracket.lower ≤ bracket.upper ->
      bracket.MidpointsBetween ->
      call ∈ transcript (.ofFunction function) () bracket ->
      bracket.Contains call.query.point
  /-- The answer lies in the bracket, unless it is NaN. -/
  contains_answer :
    bracket.lower ≤ bracket.upper ->
      bracket.MidpointsBetween ->
      isNaN (bisect function bracket.lower bracket.upper) = false ->
      bracket.Contains (bisect function bracket.lower bracket.upper)

/-- The brackets of every bisection obey this law. -/
theorem bracketLaw (function : α -> α) (bracket : Bracket α) :
    BracketLaw function bracket := by
  refine
    { sign_eq_zero := ?_
      sign_lower := ?_
      sign_upper := ?_
      signs_differ := ?_
      found := ?_
      askedOnce_eq := eval_askedOnce _ function maxIterations bracket
      monotone := ?_
      contains_call := ?_
      contains_answer := ?_ }
  · rintro x (zero | undefined)
    · exact sign_of_beq_zero zero
    · exact sign_of_isNaN undefined
  · intro rounds narrower after
    exact (bracketAfter?_eq_some_iff.mp after).signsKept.lower
  · intro rounds narrower after
    exact (bracketAfter?_eq_some_iff.mp after).signsKept.upper
  · intro rounds narrower differ after
    exact (bracketAfter?_eq_some_iff.mp after).signsKept.differ differ
  · intro point differ found
    rcases eval_run_found found with
      zero | ⟨rounds, inTime, narrower, after, point_eq, narrow⟩
    · exact Or.inl zero
    · have kept := (bracketAfter?_eq_some_iff.mp after).signsKept
      exact Or.inr ⟨rounds, inTime, narrower, after, point_eq,
        kept.differ differ, narrow⟩
  · intro rounds narrower ordered between after
    obtain ⟨current, before, nested⟩ :=
      nested_of_bracketAfter?_succ between ordered after
    exact ⟨current, before, nested.lower, nested.upper⟩
  · intro call ordered between member
    exact contains_of_mem_transcript between ordered member
  · intro ordered between defined
    exact contains_bisect between ordered defined

/-- The bisection for the square root of 612, whose bracket is in order, has ends
of different signs, and holds no two points whose sum overflows. -/
theorem bracketLaw_squareRoot :
    let function : Float -> Float := fun x => x * x - 612.0
    let bracket : Bracket Float := ⟨1.0, 50.0⟩
    bracket.lower ≤ bracket.upper ∧
      bracket.MidpointsBetween ∧
      sign (function bracket.lower) ≠ sign (function bracket.upper) ∧
      isNaN (bisect function bracket.lower bracket.upper) = false ∧
      BracketLaw function bracket := by
  intro function bracket
  have between : bracket.MidpointsBetween :=
    RoundedFormat.midpointsBetween_of_isFinite (by decide +kernel)
      (by decide +kernel)
  exact ⟨by decide +kernel, between, by decide +kernel, by decide +kernel,
    bracketLaw function bracket⟩

end Bisection
end RootFinding
