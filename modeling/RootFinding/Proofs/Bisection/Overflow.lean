import RootFinding.Proofs.Bisection.Bracketing

/-!
# Bisections that overflow

The sum of the ends of a bracket may be infinite although the ends are finite, and
then so is the midpoint.  An infinite end never becomes finite again: every later
midpoint is computed from it.  So the brackets that are reached are nested in the
first one as long as their ends are finite (`Reaches.nested_of_isFinite`), and a
point that is found lies in the first bracket if it is finite.

It need not be finite.  The check of an answer refuses NaN and lets infinities pass,
so beyond half of the largest number a checked bisection can succeed with an infinity
(`tryBisect_overflowLaw`).
-/

namespace RootFinding

open FloatingPoint

namespace Bisection

open PackedFormat RoundedFormat BinaryFormat

variable [FloatingPoint α] [BinaryFormat α]
  {limit : Bracket α -> α}
  {oracle : Oracle σ α}
  {bracket : Bracket α}
  {world : σ}

/-- Both ends are finite. -/
def IsFinite (bracket : Bracket α) : Prop :=
  isFinite bracket.lower = true ∧ isFinite bracket.upper = true

/-- A finite midpoint has finite ends. -/
theorem isFinite_of_isFinite_midpoint
    (finite : isFinite bracket.midpoint = true) :
    IsFinite bracket := by
  rw [isFinite_iff_unpack] at finite
  rw [IsFinite, isFinite_iff_unpack, isFinite_iff_unpack]
  exact unpack_isFinite_of_add (unpack_isFinite_of_div finite)

omit [BinaryFormat α] in
/-- A round that leads to finite ends has computed a finite midpoint. -/
theorem Halved.isFinite_midpoint
    {current narrower : Bracket α}
    {world' : σ}
    (finite : IsFinite narrower)
    (halved :
      Halved limit oracle current world (.narrowed narrower) world') :
    isFinite current.midpoint = true := by
  cases halved with
  | lower => exact finite.1
  | upper => exact finite.2

variable [LawfulFloatingPoint α]

/-- The brackets that are reached are nested in the first one as long as their ends
are finite. -/
theorem Reaches.nested_of_isFinite
    {rounds : Nat}
    {narrower : Bracket α}
    {world' : σ}
    (ordered : bracket.lower ≤ bracket.upper)
    (reached : Reaches limit oracle bracket world rounds narrower world')
    (finite : IsFinite narrower) :
    Nested bracket narrower := by
  induction reached with
  | start => exact .refl ordered
  | round reached played hypothesis =>
      have halved := halved_of_run played
      -- The midpoint is finite, so the ends have been finite before.
      have finite_midpoint := halved.isFinite_midpoint finite
      have nested := hypothesis (isFinite_of_isFinite_midpoint finite_midpoint)
      have contains := contains_midpoint_of_isFinite
        (unpack_isFinite finite_midpoint) nested.ordered
      exact nested.trans (halved.nested_of_contains contains nested.ordered)

/-- A finite point that is found lies in the bracket. -/
theorem Outcome.contains_of_isFinite
    {rounds : Nat}
    {point : α}
    {final : σ}
    (ordered : bracket.lower ≤ bracket.upper)
    (outcome :
      Outcome limit oracle bracket world rounds (.found point) final)
    (finite : isFinite point = true) :
    bracket.Contains point := by
  cases outcome with
  | found inTime reached played =>
      cases halved_of_run played with
      | found =>
          have nested := reached.nested_of_isFinite ordered
            (isFinite_of_isFinite_midpoint finite)
          exact nested.contains (contains_midpoint_of_isFinite
            (unpack_isFinite finite) nested.ordered)

/-- A finite answer lies in the bracket. -/
theorem contains_bisect_of_isFinite
    {function : α -> α}
    (ordered : bracket.lower ≤ bracket.upper)
    (finite :
      isFinite (bisect function bracket.lower bracket.upper) = true) :
    bracket.Contains (bisect function bracket.lower bracket.upper) := by
  have outcome := outcome_run Bisection.limit
    (.ofFunction function) bracket () maxIterations
  rw [Oracle.run_ofFunction] at outcome
  rw [bisect, ofBracket] at finite ⊢
  generalize (run Bisection.limit maxIterations bracket).eval
    function function = progress at outcome finite ⊢
  cases progress with
  | found point => exact outcome.contains_of_isFinite ordered finite
  | narrowed narrower =>
      have defined := ((LawfulFloatingPoint.isFinite_iff _).mp finite).1
      rw [Progress.root, LawfulFloatingPoint.isNaN_nan] at defined
      cases defined

omit [BinaryFormat α] [LawfulFloatingPoint α] in
/-- A checked bisection succeeds with every answer but NaN. -/
theorem tryBisect_eq_ok_iff
    {function : α -> α}
    {lower upper root : α} :
    tryBisect function lower upper = .ok root ↔
      bisect function lower upper = root ∧ isNaN root = false := by
  rw [tryBisect, Progress.check, ← bisect]
  split
  case isTrue undefined =>
    simp only [reduceCtorEq, false_iff, not_and]
    rintro rfl
    rw [undefined]
    exact Bool.true_eq_false.mp
  case isFalse defined =>
    rw [Bool.not_eq_true] at defined
    simp only [Except.ok.injEq]
    constructor
    · rintro rfl
      exact ⟨rfl, defined⟩
    · exact And.left

/-! ## The law of overflows -/

/-- Where checked bisections of an ordered bracket succeed. -/
structure OverflowLaw
    (function : α -> α)
    (lower upper : α) : Prop where
  /-- A finite root lies in the bracket. -/
  contains (root : α) :
    tryBisect function lower upper = .ok root ->
      isFinite root = true ->
      lower ≤ root ∧ root ≤ upper
  /-- Every other one is an infinity, after an overflow. -/
  overflows (root : α) :
    tryBisect function lower upper = .ok root ->
      isFinite root = false ->
      isInfinite root = true ∧
        (isFinite (lower + lower) = false ∨ isFinite (upper + upper) = false)
  /-- If twice the ends do not overflow, every root is finite and lies in the
  bracket. -/
  finite (root : α) :
    isFinite (lower + lower) = true ->
      isFinite (upper + upper) = true ->
      tryBisect function lower upper = .ok root ->
      isFinite root = true ∧ lower ≤ root ∧ root ≤ upper

/-- Checked bisections of every ordered bracket obey this law. -/
theorem tryBisect_overflowLaw
    (function : α -> α)
    {lower upper : α}
    (ordered : lower ≤ upper) :
    OverflowLaw function lower upper := by
  have finite (root : α)
      (noOverflow : isFinite (lower + lower) = true)
      (noOverflow' : isFinite (upper + upper) = true)
      (answered : tryBisect function lower upper = .ok root) :
      isFinite root = true ∧ lower ≤ root ∧ root ≤ upper := by
    obtain ⟨rfl, defined⟩ := tryBisect_eq_ok_iff.mp answered
    have between : (Bracket.mk lower upper).MidpointsBetween :=
      midpointsBetween_of_isFinite noOverflow noOverflow'
    have contains := contains_bisect between ordered defined
    have finite_lower := (of_isFinite_add_self noOverflow).1
    have finite_upper := (of_isFinite_add_self noOverflow').1
    refine ⟨?_, contains⟩
    rw [isFinite_iff_unpack]
    exact unpack_isFinite_of_le finite_lower finite_upper contains.1 contains.2
  refine
    { contains := ?_
      overflows := ?_
      finite := finite }
  · intro root answered finite
    obtain ⟨rfl, -⟩ := tryBisect_eq_ok_iff.mp answered
    have contains : (Bracket.mk lower upper).Contains (bisect function lower upper) :=
      contains_bisect_of_isFinite ordered finite
    exact contains
  · intro root answered notFinite
    obtain ⟨-, defined⟩ := tryBisect_eq_ok_iff.mp answered
    constructor
    · rw [LawfulFloatingPoint.isFinite_eq_false_iff, defined] at notFinite
      exact notFinite.resolve_left Bool.false_ne_true
    · by_contra noOverflow
      rw [not_or, Bool.not_eq_false, Bool.not_eq_false] at noOverflow
      have bounds := finite root noOverflow.1 noOverflow.2 answered
      rw [bounds.1] at notFinite
      cases notFinite

/-- The bisection for the square root of 612, which finds a root in its bracket. -/
theorem tryBisect_overflowLaw_squareRoot :
    let function : Float -> Float := fun x => x * x - 612.0
    (1.0 : Float) ≤ 50.0 ∧
      tryBisect function 1.0 50.0 = .ok 24.73863375370172 ∧
      OverflowLaw function 1.0 50.0 := by
  intro function
  have ordered : (1.0 : Float) ≤ 50.0 := by decide +kernel
  exact ⟨ordered, by decide +kernel, tryBisect_overflowLaw function ordered⟩

/-- A checked bisection between finite ends of different signs that succeeds with an
infinity, although the function is zero half way between them. -/
theorem tryBisect_eq_infinity :
    let unit : Float := 4.49423283715579e307
    let function : Float -> Float := fun x => (x / unit - 2.0) * (5.0 - x / unit)
    isFinite unit = true ∧
      isFinite (3.0 * unit) = true ∧
      unit ≤ 3.0 * unit ∧
      sign (function unit) = -1 ∧
      sign (function (3.0 * unit)) = 1 ∧
      function (2.0 * unit) = 0.0 ∧
      tryBisect function unit (3.0 * unit) = .ok (1.0 / 0.0) ∧
      ¬isFinite (1.0 / 0.0 : Float) = true := by
  decide +kernel

end Bisection
end RootFinding
