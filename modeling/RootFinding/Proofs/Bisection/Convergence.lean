import RootFinding.Proofs.ExactArithmetic
import RootFinding.Proofs.Bisection.Endings
import RootFinding.Proofs.FloatingPoint.Values

/-!
# Convergence of bisection

Without rounding, every round halves the width of the bracket, over any oracle and by
any rule for the half width at which a bisection may end (`Reaches.width_eq`).  By a
constant limit, the width alone therefore says in which round a bisection ends at the
latest (`exists_endsAfter`), and a bisection that meets no zero does not end earlier
(`eval_run_of_wide`).

The brackets keep a root if the signs of the function tell on which side of it a point
is (`Reaches.mem_interval`), as those of strictly monotone functions do.  The midpoint
at which the bisection ends is then closer to the root than the limit.

The rule of a format is one of the two that the law of convergence is about
(`ofBracket_eq_run`).  The comparison of the two rules does not rest on exact arithmetic:
in every format with the usual order, no bracket is reached that the constant tolerance
would not lead to (`bracketAfter?_of_limit`), and a root is found whenever the constant
tolerance would find one (`exists_found_of_tolerance`).
-/

namespace RootFinding

/-- The points between the ends of a bracket. -/
def Bracket.interval (bracket : Bracket ℚ) : Set ℚ :=
  Set.Icc bracket.lower bracket.upper

theorem Bracket.midpoint_mem_interval
    {bracket : Bracket ℚ}
    (ordered : bracket.lower ≤ bracket.upper) :
    bracket.midpoint ∈ bracket.interval := by
  rw [midpoint_eq]
  constructor <;> linarith

namespace Bisection

section Exact

variable {limit : Bracket ℚ -> ℚ} {tolerance : ℚ} {function : ℚ -> ℚ}
  {bracket : Bracket ℚ} {root : ℚ}

theorem ends_iff (value : ℚ) :
    Ends limit bracket value ↔
      value = 0 ∨ (bracket.upper - bracket.lower) / 2 < limit bracket := by
  rw [Ends, Bracket.halfWidth_eq, beq_iff_eq]
  norm_num

/-! ## Widths -/

section Widths

variable {oracle : Oracle σ ℚ} {world : σ} {narrower : Bracket ℚ} {world' : σ}
  {rounds : Nat}

/-- A round halves the width. -/
theorem Halved.width_eq
    (halved :
      Halved limit oracle bracket world (.narrowed narrower) world') :
    narrower.upper - narrower.lower = (bracket.upper - bracket.lower) / 2 := by
  cases halved with
  | lower | upper =>
      rw [Bracket.midpoint_eq]
      ring

/-- The width is halved as often as there are rounds. -/
theorem Reaches.width_eq
    (reached : Reaches limit oracle bracket world rounds narrower world') :
    narrower.upper - narrower.lower =
      (bracket.upper - bracket.lower) / 2 ^ rounds := by
  induction reached with
  | start => rw [pow_zero, div_one]
  | round reached played hypothesis =>
      rw [(halved_of_run played).width_eq, hypothesis, pow_succ, div_div]

/-- A round goes on only if the half width is not below the limit. -/
theorem Halved.limit_le
    (halved :
      Halved limit oracle bracket world (.narrowed narrower) world') :
    limit bracket ≤ (bracket.upper - bracket.lower) / 2 := by
  cases halved with
  | lower asked goesOn | upper asked goesOn =>
      rw [ends_iff, not_or] at goesOn
      exact not_lt.mp goesOn.2

/-- By a constant limit, no bracket is reached that is narrower. -/
theorem Reaches.tolerance_le
    (reached :
      Reaches (constantLimit tolerance) oracle bracket world (rounds + 1)
        narrower world') :
    tolerance ≤ (bracket.upper - bracket.lower) / 2 ^ (rounds + 1) := by
  cases reached with
  | round reached played =>
      have goesOn := (halved_of_run played).limit_le
      rwa [reached.width_eq, div_div, ← pow_succ] at goesOn

end Widths

/-- By a constant limit, a bisection ends in the round whose half width is below the
limit, if it has not ended before. -/
theorem exists_endsAfter
    (function : ℚ -> ℚ)
    {rounds : Nat}
    (narrow :
      (bracket.upper - bracket.lower) / 2 ^ (rounds + 1) < tolerance) :
    ∃ earlier ≤ rounds, ∃ point,
      EndsAfter (constantLimit tolerance) function bracket earlier point := by
  rcases exists_endsAfter_or_bracketAfter? (constantLimit tolerance) function
    bracket (rounds + 1) with ⟨earlier, inTime, point, ends⟩ | ⟨narrower, after⟩
  · exact ⟨earlier, Nat.le_of_lt_succ inTime, point, ends⟩
  · have wide := (bracketAfter?_eq_some_iff.mp after).tolerance_le
    exact absurd narrow (not_lt.mpr wide)

/-- A bisection does not end after a round whose half width is below the limit. -/
theorem EndsAfter.le_of_narrow
    {rounds later : Nat}
    {point : ℚ}
    (ends : EndsAfter (constantLimit tolerance) function bracket rounds point)
    (narrow :
      (bracket.upper - bracket.lower) / 2 ^ (later + 1) < tolerance) :
    rounds ≤ later := by
  obtain ⟨earlier, inTime, point', ends'⟩ := exists_endsAfter function narrow
  cases ends with
  | intro after => exact (ends'.le_of_bracketAfter? after).trans inTime

/-- A bisection that meets no zero does not end before the half width is below the
limit. -/
theorem eval_run_of_wide
    (positive : 0 < tolerance)
    {rounds : Nat}
    (wide : 2 ^ rounds * tolerance ≤ bracket.upper - bracket.lower)
    (noZero :
      ∀ earlier < rounds, ∀ narrower,
        bracketAfter? (constantLimit tolerance) function bracket earlier =
            some narrower ->
          function narrower.midpoint ≠ 0) :
    ∃ narrower,
      (run (constantLimit tolerance) rounds bracket).eval function function =
        .narrowed narrower := by
  cases progress :
      (run (constantLimit tolerance) rounds bracket).eval
        function function with
  | narrowed narrower => exact ⟨narrower, rfl⟩
  | found point =>
      obtain ⟨earlier, inTime, ends⟩ := eval_run_eq_found_iff.mp progress
      cases ends with
      | @intro current after ends =>
          have width_eq := (bracketAfter?_eq_some_iff.mp after).width_eq
          have narrow :=
            ((ends_iff _).mp ends).resolve_left
              (noZero earlier inTime current after)
          rw [width_eq, div_div, ← pow_succ, constantLimit,
            div_lt_iff₀' (by positivity)] at narrow
          have le : (2 : ℚ) ^ (earlier + 1) ≤ 2 ^ rounds :=
            pow_le_pow_right₀ one_le_two inTime
          have bounded := mul_le_mul_of_nonneg_right le positive.le
          exact absurd narrow (not_lt.mpr (bounded.trans wide))

/-! ## Roots -/

/-- The signs of a function tell on which side of the root a point of the bracket
is. -/
def Separates
    (function : ℚ -> ℚ)
    (bracket : Bracket ℚ)
    (root : ℚ) : Prop :=
  ∃ orientation : Int, orientation ≠ 0 ∧
    ∀ x ∈ bracket.interval,
      sign (function x) = orientation * sign (x - root)

namespace Separates

/-- The signs of an increasing function do. -/
theorem of_strictMonoOn
    (increasing : StrictMonoOn function bracket.interval)
    (member : root ∈ bracket.interval)
    (zero : function root = 0) :
    Separates function bracket root := by
  refine ⟨1, one_ne_zero, fun x inside => ?_⟩
  rw [one_mul]
  rcases lt_trichotomy x root with below | rfl | above
  · have negative := increasing inside member below
    rw [zero] at negative
    rw [sign_of_lt_zero negative, sign_of_lt_zero (sub_neg.mpr below)]
  · rw [zero, sub_self]
  · have positive := increasing member inside above
    rw [zero] at positive
    rw [sign_of_zero_lt positive, sign_of_zero_lt (sub_pos.mpr above)]

/-- The signs of a decreasing function do. -/
theorem of_strictAntiOn
    (decreasing : StrictAntiOn function bracket.interval)
    (member : root ∈ bracket.interval)
    (zero : function root = 0) :
    Separates function bracket root := by
  refine ⟨-1, by decide, fun x inside => ?_⟩
  rcases lt_trichotomy x root with below | rfl | above
  · have positive := decreasing inside member below
    rw [zero] at positive
    rw [sign_of_zero_lt positive, sign_of_lt_zero (sub_neg.mpr below)]
    rfl
  · rw [zero, sub_self, sign_zero, mul_zero]
  · have negative := decreasing member inside above
    rw [zero] at negative
    rw [sign_of_lt_zero negative, sign_of_zero_lt (sub_pos.mpr above)]
    rfl

/-- The root is the only zero. -/
theorem eq_of_zero
    {x : ℚ}
    (separates : Separates function bracket root)
    (inside : x ∈ bracket.interval)
    (zero : function x = 0) :
    x = root := by
  obtain ⟨orientation, nonzero, tells⟩ := separates
  have told := tells x inside
  rw [zero, sign_zero, eq_comm, mul_eq_zero] at told
  exact sub_eq_zero.mp ((sign_eq_zero_iff _).mp (told.resolve_left nonzero))

/-- Points of the same sign are on the same side. -/
theorem sign_eq_iff
    {x y : ℚ}
    (separates : Separates function bracket root)
    (inside : x ∈ bracket.interval)
    (inside' : y ∈ bracket.interval) :
    sign (function x) = sign (function y) ↔
      sign (x - root) = sign (y - root) := by
  obtain ⟨orientation, nonzero, tells⟩ := separates
  rw [tells x inside, tells y inside']
  exact mul_right_inj' nonzero

end Separates

/-- A round in an inner bracket that holds the root leads to another one. -/
theorem Halved.mem_interval
    {outer narrower : Bracket ℚ}
    {world world' : σ}
    (separates : Separates function outer root)
    (subset : bracket.interval ⊆ outer.interval)
    (member : root ∈ bracket.interval)
    (halved :
      Halved limit (.ofFunction function) bracket world
        (.narrowed narrower) world') :
    root ∈ narrower.interval ∧ narrower.interval ⊆ bracket.interval := by
  have ordered := member.1.trans member.2
  have middle := Bracket.midpoint_mem_interval ordered
  have same :=
    separates.sign_eq_iff (subset middle) (subset ⟨le_rfl, ordered⟩)
  cases halved with
  | lower asked goesOn asked_lower agrees =>
      obtain ⟨rfl, -⟩ := Prod.mk.inj asked
      obtain ⟨rfl, -⟩ := Prod.mk.inj asked_lower
      -- The lower end is not above the root, so the midpoint is not either.
      have side := (sign_le_zero_iff _).mpr (sub_nonpos.mpr member.1)
      rw [← same.mp agrees, sign_le_zero_iff, sub_nonpos] at side
      exact ⟨⟨side, member.2⟩, Set.Icc_subset_Icc middle.1 le_rfl⟩
  | upper asked goesOn asked_lower differs =>
      obtain ⟨rfl, -⟩ := Prod.mk.inj asked
      obtain ⟨rfl, -⟩ := Prod.mk.inj asked_lower
      refine ⟨⟨member.1, ?_⟩, Set.Icc_subset_Icc le_rfl middle.2⟩
      -- Below the root, the midpoint would be on the side of the lower end.
      by_contra above
      have below := sub_neg.mpr (not_le.mp above)
      have below' := sub_neg.mpr (middle.1.trans_lt (not_le.mp above))
      exact differs (same.mpr
        ((sign_of_lt_zero below).trans (sign_of_lt_zero below').symm))

/-- All brackets hold the root. -/
theorem Reaches.mem_interval
    {world : σ}
    {rounds : Nat}
    {narrower : Bracket ℚ}
    {world' : σ}
    (separates : Separates function bracket root)
    (member : root ∈ bracket.interval)
    (reached :
      Reaches limit (.ofFunction function) bracket world
        rounds narrower world') :
    root ∈ narrower.interval ∧ narrower.interval ⊆ bracket.interval := by
  induction reached with
  | start => exact ⟨member, subset_rfl⟩
  | round reached played hypothesis =>
      obtain ⟨inside, subset⟩ := hypothesis
      obtain ⟨inside', subset'⟩ :=
        (halved_of_run played).mem_interval separates subset inside
      exact ⟨inside', subset'.trans subset⟩

/-- The point at which a bisection ends is closer to the root than the limit. -/
theorem EndsAfter.abs_sub_lt
    {rounds : Nat}
    {point : ℚ}
    (positive : 0 < tolerance)
    (separates : Separates function bracket root)
    (member : root ∈ bracket.interval)
    (ends : EndsAfter (constantLimit tolerance) function bracket rounds point) :
    |point - root| < tolerance := by
  cases ends with
  | @intro current after ends =>
      obtain ⟨inside, subset⟩ :=
        (bracketAfter?_eq_some_iff.mp after).mem_interval separates member
      rcases (ends_iff _).mp ends with zero | narrow
      · have middle := Bracket.midpoint_mem_interval (inside.1.trans inside.2)
        rw [separates.eq_of_zero (subset middle) zero, sub_self, abs_zero]
        exact positive
      · rw [constantLimit] at narrow
        rw [Bracket.midpoint_eq, abs_lt]
        constructor <;> linarith [inside.1, inside.2]

/-! ## The law of convergence -/

/-- How the bisections of a function converge that end at this half width. -/
structure ConvergenceLaw
    (tolerance : ℚ)
    (function : ℚ -> ℚ)
    (bracket : Bracket ℚ) : Prop where
  /-- Every round halves the width, by whatever rule a bisection ends. -/
  width (limit : Bracket ℚ -> ℚ) (rounds : Nat) (narrower : Bracket ℚ) :
    bracketAfter? limit function bracket rounds = some narrower ->
      narrower.upper - narrower.lower =
        (bracket.upper - bracket.lower) / 2 ^ rounds
  /-- If the bracket is narrow enough, a midpoint is found, at the latest in the first
  round whose half width is below the limit. -/
  returns :
    bracket.upper - bracket.lower < 2 ^ 100 * tolerance ->
      ∃ rounds < maxIterations, ∃ point,
        EndsAfter (constantLimit tolerance) function bracket rounds point ∧
        (run (constantLimit tolerance) maxIterations bracket).eval
          function function = .found point ∧
        ∀ later,
          (bracket.upper - bracket.lower) / 2 ^ (later + 1) < tolerance ->
            rounds ≤ later
  /-- If it is not, then none is found, unless the function is zero at one. -/
  fails :
    2 ^ 100 * tolerance ≤ bracket.upper - bracket.lower ->
      (∀ rounds < maxIterations, ∀ narrower,
        bracketAfter? (constantLimit tolerance) function bracket rounds =
            some narrower ->
          function narrower.midpoint ≠ 0) ->
      ∃ narrower,
        (run (constantLimit tolerance) maxIterations bracket).eval
          function function = .narrowed narrower
  /-- What is found is close to the root of a strictly monotone function, even to one
  at an end. -/
  near (root point : ℚ) :
    StrictMonoOn function bracket.interval ∨
        StrictAntiOn function bracket.interval ->
      root ∈ bracket.interval ->
      function root = 0 ->
      (run (constantLimit tolerance) maxIterations bracket).eval
        function function = .found point ->
      |point - root| < tolerance
  /-- A raised limit does not change the brackets that are reached. -/
  raised_bracket (epsilon : ℚ) (rounds : Nat) (narrower : Bracket ℚ) :
    bracketAfter? (raisedLimit tolerance epsilon) function bracket rounds =
        some narrower ->
      bracketAfter? (constantLimit tolerance) function bracket rounds =
        some narrower
  /-- By a raised limit, a bisection ends in the same round or in an earlier one. -/
  raised_ends (epsilon : ℚ) (rounds : Nat) (point : ℚ) :
    EndsAfter (constantLimit tolerance) function bracket rounds point ->
      (∃ earlier point',
        EndsAfter (raisedLimit tolerance epsilon) function bracket
          earlier point') ∧
      ∀ earlier point',
        EndsAfter (raisedLimit tolerance epsilon) function bracket
          earlier point' ->
        earlier ≤ rounds

/-- A raised limit lets more rounds end. -/
theorem Ends.raised
    {value : ℚ}
    (epsilon : ℚ)
    (ends : Ends (constantLimit tolerance) bracket value) :
    Ends (raisedLimit tolerance epsilon) bracket value := by
  refine ends.imp_right fun narrow => narrow.trans_le ?_
  rw [raisedLimit, Arithmetic.larger_eq_max]
  exact le_max_left _ _

/-- The bisections of every function obey the law of convergence. -/
theorem convergenceLaw
    (tolerance : ℚ)
    (function : ℚ -> ℚ)
    (bracket : Bracket ℚ)
    (positive : 0 < tolerance) :
    ConvergenceLaw tolerance function bracket := by
  refine
    { width := fun limit rounds narrower after =>
        (bracketAfter?_eq_some_iff.mp after).width_eq
      returns := ?_
      fails := fun wide noZero => eval_run_of_wide positive wide noZero
      near := ?_
      raised_bracket := fun epsilon rounds narrower after =>
        bracketAfter?_of_looser (fun _ _ ends => ends.raised epsilon) after
      raised_ends := ?_ }
  · intro narrow
    -- The hundredth round is the last one.
    have narrow' :
        (bracket.upper - bracket.lower) / 2 ^ (99 + 1) < tolerance := by
      rwa [div_lt_iff₀' (by positivity)]
    obtain ⟨rounds, inTime, point, ends⟩ := exists_endsAfter function narrow'
    have inTime' : rounds < maxIterations := Nat.lt_succ_of_le inTime
    exact ⟨rounds, inTime', point, ends,
      eval_run_eq_found_iff.mpr ⟨rounds, inTime', ends⟩,
      fun later => ends.le_of_narrow⟩
  · intro root point monotone member zero found
    obtain ⟨rounds, -, ends⟩ := eval_run_eq_found_iff.mp found
    refine ends.abs_sub_lt positive ?_ member
    rcases monotone with increasing | decreasing
    · exact .of_strictMonoOn increasing member zero
    · exact .of_strictAntiOn decreasing member zero
  · intro epsilon rounds point ends
    have loosens (current : Bracket ℚ) (value : ℚ)
        (ends : Ends (constantLimit tolerance) current value) :
        Ends (raisedLimit tolerance epsilon) current value :=
      ends.raised epsilon
    exact ⟨ends.exists_of_looser loosens,
      fun earlier point' ends' => ends.le_of_looser loosens ends'⟩

/-- The exact bisection for the square root of one ninth, with the tolerance of the
format of 64 bits. -/
theorem convergenceLaw_squareRoot :
    let precise : ℚ :=
      Unpacked.value (PackedFormat.unpack (Bisection.tolerance : Float))
    let function : ℚ -> ℚ := fun x => x * x - 1 / 9
    let bracket : Bracket ℚ := ⟨0, 1⟩
    0 < precise ∧
      bracket.upper - bracket.lower < 2 ^ 100 * precise ∧
      StrictMonoOn function bracket.interval ∧
      (∃ point,
        (run (constantLimit precise) maxIterations bracket).eval
            function function = .found point ∧
          |point - 1 / 3| < precise) ∧
      ConvergenceLaw precise function bracket := by
  intro precise function bracket
  have positive : 0 < precise := by decide +kernel
  have narrow : bracket.upper - bracket.lower < 2 ^ 100 * precise := by
    decide +kernel
  have increasing : StrictMonoOn function bracket.interval := by
    intro x inside y _ less
    have nonneg : 0 ≤ x := inside.1
    exact sub_lt_sub_right (mul_self_lt_mul_self nonneg less) _
  have law := convergenceLaw precise function bracket positive
  obtain ⟨rounds, -, point, -, found, -⟩ := law.returns narrow
  have near : |point - 1 / 3| < precise := by
    refine law.near (1 / 3) point (Or.inl increasing) ?_ ?_ found
    · constructor <;> norm_num [bracket]
    · norm_num [function]
  exact ⟨positive, narrow, increasing, ⟨point, found, near⟩, law⟩

end Exact

/-! ## The rule of a format -/

section Formats

variable [FloatingPoint α]

/-- The bisection of a bracket goes by the raised limit in a coarse format, and by the
constant one in any other. -/
theorem ofBracket_eq_run (bracket : Bracket α) :
    ofBracket bracket =
      run
        (if isCoarse α then raisedLimit tolerance FloatingPoint.epsilon
          else constantLimit tolerance)
        maxIterations bracket := by
  rw [ofBracket, limit_eq]

example : isCoarse Float = false := by decide +kernel

example : isCoarse Float32 = true := by decide +kernel

variable [LawfulFloatingPoint α] {function : α -> α} {bracket : Bracket α}

/-- Whatever the format, its rule lets all rounds end that the tolerance lets end. -/
theorem Ends.of_tolerance
    {value : α}
    (ends : Ends (constantLimit tolerance) bracket value) :
    Ends limit bracket value := by
  rw [limit_eq]
  cases isCoarse α with
  | true => exact ends.imp_right fun narrow => LawfulFloatingPoint.lt_larger narrow _
  | false => exact ends

/-- A bracket that is reached by the rule of the format is reached by the constant
tolerance as well. -/
theorem bracketAfter?_of_limit
    {rounds : Nat}
    {narrower : Bracket α}
    (after : bracketAfter? limit function bracket rounds = some narrower) :
    bracketAfter? (constantLimit tolerance) function bracket rounds = some narrower :=
  bracketAfter?_of_looser (fun _ _ ends => ends.of_tolerance) after

/-- A root is found if the constant tolerance would find one. -/
theorem exists_found_of_tolerance
    {point : α}
    (found :
      (run (constantLimit tolerance) maxIterations bracket).eval function function =
        .found point) :
    ∃ point', (ofBracket bracket).eval function function = .found point' := by
  have loosens (current : Bracket α) (value : α)
      (ends : Ends (constantLimit tolerance) current value) :
      Ends limit current value :=
    ends.of_tolerance
  obtain ⟨rounds, inTime, ends⟩ := eval_run_eq_found_iff.mp found
  obtain ⟨earlier, point', ends'⟩ := ends.exists_of_looser loosens
  have inTime' : earlier < maxIterations :=
    (ends.le_of_looser loosens ends').trans_lt inTime
  exact ⟨point', eval_run_eq_found_iff.mpr ⟨earlier, inTime', ends'⟩⟩

end Formats

end Bisection
end RootFinding
