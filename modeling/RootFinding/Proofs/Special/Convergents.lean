import RootFinding.Proofs.ExactArithmetic
import RootFinding.Proofs.Special.ContinuedFraction
import RootFinding.Special.BetaFraction

/-!
# The convergents of the incomplete beta fraction

The loop of the incomplete beta function keeps the ratios of successive numerators and of
successive denominators of a continued fraction, and never forms these themselves.  In
exact arithmetic, as long as no ratio vanishes or is replaced (`Regular`), the state after
every round follows from the recurrences of the fraction (`Regular.tracks`): its value is
the convergent up to the terms of so many pairs, and its change is the ratio of this one
to the convergent before.

The fraction is stated apart from the loop, by its numerators (`partialNumerator`).
The term in front of all pairs is taken before the first round, and every round takes two
terms, each by the same step (`Convergent.Tracks.append`).

`fractionLaw` also says what the loop returns: the first convergent that is `Close` to the
one before, if there is one in time.
-/

namespace RootFinding
namespace BetaFraction

open GenContFract

/-! ## The fraction -/

section Fraction

variable {K : Type} [Field K]

/-- The numerators of the fraction: one, the term in front of all pairs, and the terms of
the pairs in turn. -/
def partialNumerator (x a b : K) (index : Nat) : K :=
  let pair : K := (index / 2 : Nat)
  if index = 0 then 1
  else if index = 1 then -(a + b) * x / (a + 1)
  else if index % 2 = 0 then
    pair * (b - pair) * x / ((a + 2 * pair - 1) * (a + 2 * pair))
  else
    -(a + pair) * (a + b + pair) * x /
      ((a + 2 * pair) * (a + 2 * pair + 1))

/-- The fraction `1 / (1 + t 1 / (1 + t 2 / (1 + ...)))` with these numerators. -/
def fraction (x a b : K) : GenContFract K where
  h := 0
  s := Stream'.Seq.ofStream fun index => ⟨partialNumerator x a b index, 1⟩

variable (x a b : K)

theorem fraction_get? (index : Nat) :
    (fraction x a b).s.get? index = some ⟨partialNumerator x a b index, 1⟩ :=
  rfl

@[simp] theorem nums_zero : (fraction x a b).nums 0 = 0 := rfl

@[simp] theorem nums_one : (fraction x a b).nums 1 = 1 := by
  rw [first_num_eq (fraction_get? x a b 0)]
  simp [fraction, partialNumerator]

@[simp] theorem dens_one : (fraction x a b).dens 1 = 1 :=
  first_den_eq (fraction_get? x a b 0)

/-- The recurrence of the numerators. -/
theorem nums_add_two (index : Nat) :
    (fraction x a b).nums (index + 2) =
      (fraction x a b).nums (index + 1)
        + partialNumerator x a b (index + 1) * (fraction x a b).nums index := by
  rw [nums_recurrence (fraction_get? x a b (index + 1)) rfl rfl, one_mul]

/-- The recurrence of the denominators. -/
theorem dens_add_two (index : Nat) :
    (fraction x a b).dens (index + 2) =
      (fraction x a b).dens (index + 1)
        + partialNumerator x a b (index + 1) * (fraction x a b).dens index := by
  rw [dens_recurrence (fraction_get? x a b (index + 1)) rfl rfl, one_mul]

/-- From the inside outwards, the fraction divides by one more than the fractions that
start with each of its terms but the first. -/
theorem dividesInside_iff (terms : Nat) :
    ContinuedFraction.DividesInside (fraction x a b).s terms ↔
      ∀ index < terms,
        1 + convs'Aux ((fraction x a b).s.drop (index + 1)) (terms - (index + 1)) ≠ 0 :=
  ⟨fun divides index less => divides index less _ (fraction_get? x a b index),
    fun divides index less pair pair_eq => by
      cases pair_eq
      exact divides index less⟩

/-- The ratio of two convergents from those of their numerators and denominators. -/
theorem convs_div_convs (terms : Nat) :
    (fraction x a b).convs (terms + 1) / (fraction x a b).convs terms =
      (fraction x a b).dens terms / (fraction x a b).dens (terms + 1)
        * ((fraction x a b).nums (terms + 1) / (fraction x a b).nums terms) := by
  rw [conv_eq_num_div_den, conv_eq_num_div_den, div_div_div_eq, div_mul_div_comm,
    mul_comm (GenContFract.nums _ _)]

end Fraction

variable {K : Type} [Field K] [LinearOrder K]

/-- The one of the algorithm is that of the field. -/
theorem one_eq [IsStrictOrderedRing K] : (1.0 : K) = 1 := by
  norm_num

section Terms

variable [IsStrictOrderedRing K] (x a b : K)

theorem partialNumerator_one :
    partialNumerator x a b 1 = -firstTerm x a b := by
  norm_num [partialNumerator, firstTerm]
  ring

theorem partialNumerator_even (pairs : Nat) :
    partialNumerator x a b (2 * pairs + 2) =
      evenTerm x a b (Arithmetic.ofNat (pairs + 1)) := by
  have half : (2 * pairs + 2) / 2 = pairs + 1 := by omega
  have even : (2 * pairs + 2) % 2 = 0 := by omega
  have notFirst : 2 * pairs + 2 ≠ 1 := by omega
  norm_num [partialNumerator, evenTerm, half, even, notFirst]

theorem partialNumerator_odd (pairs : Nat) :
    partialNumerator x a b (2 * pairs + 3) =
      oddTerm x a b (Arithmetic.ofNat (pairs + 1)) := by
  have half : (2 * pairs + 3) / 2 = pairs + 1 := by omega
  have odd : (2 * pairs + 3) % 2 = 1 := by omega
  have notFirst : 2 * pairs + 3 ≠ 1 := by omega
  norm_num [partialNumerator, oddTerm, half, odd, notFirst]

end Terms

/-! ## The rounds of the loop -/

section Rounds

variable [Arithmetic α] (smallest x a b : α)

/-- The loop returns the value of the first round that is settled. -/
theorem evaluate_eq_find? :
    evaluate smallest x a b =
      ((List.range' 1 maxIterations).find? fun pairs =>
        (convergent smallest x a b pairs).isSettled).map fun pairs =>
          (convergent smallest x a b pairs).value := by
  rw [evaluate_eq_findSome?]
  induction List.range' 1 maxIterations with
  | nil => rfl
  | cons pairs rounds hypothesis =>
      rw [List.map_cons, List.findSome?_cons, List.find?_cons, hypothesis]
      cases (convergent smallest x a b pairs).isSettled <;> rfl

variable {smallest x a b}

/-- As long as no round is settled, the loop goes on from the last of them. -/
theorem evaluate_eq_settle
    {taken : Nat}
    (inTime : taken ≤ maxIterations)
    (unsettled :
      ∀ pairs, 1 ≤ pairs -> pairs ≤ taken ->
        (convergent smallest x a b pairs).isSettled = false) :
    evaluate smallest x a b =
      settle smallest x a b (maxIterations - taken) (taken + 1)
        (convergent smallest x a b taken) := by
  induction taken with
  | zero => rfl
  | succ taken hypothesis =>
      have last := unsettled (taken + 1) taken.succ_pos le_rfl
      have left : maxIterations - taken = maxIterations - (taken + 1) + 1 := by omega
      rw [hypothesis (by omega) fun pairs positive le =>
        unsettled pairs positive (le.trans taken.le_succ), left, settle]
      exact if_neg (Bool.eq_false_iff.mp last)

/-- The loop returns the value of a settled round that no other one comes before. -/
theorem evaluate_of_isSettled
    {pairs : Nat}
    (positive : 1 ≤ pairs)
    (inTime : pairs ≤ maxIterations)
    (settled : (convergent smallest x a b pairs).isSettled = true)
    (unsettled :
      ∀ earlier, 1 ≤ earlier -> earlier < pairs ->
        (convergent smallest x a b earlier).isSettled = false) :
    evaluate smallest x a b = some (convergent smallest x a b pairs).value := by
  have member : pairs ∈ List.range' 1 maxIterations :=
    List.mem_range'_1.mpr ⟨positive, by omega⟩
  have found :
      (List.range' 1 maxIterations).find? (fun pairs =>
        (convergent smallest x a b pairs).isSettled) = some pairs :=
    List.find?_range'_eq_some.mpr ⟨settled, member, fun earlier positive' less =>
      (Bool.not_eq_true' _).mpr (unsettled earlier positive' less)⟩
  rw [evaluate_eq_find?, found]
  rfl

/-- What it returns is the value of such a round. -/
theorem exists_isSettled_of_evaluate
    {value : α}
    (returned : evaluate smallest x a b = some value) :
    ∃ pairs, 1 ≤ pairs ∧ pairs ≤ maxIterations ∧
      value = (convergent smallest x a b pairs).value ∧
      (convergent smallest x a b pairs).isSettled = true ∧
      ∀ earlier, 1 ≤ earlier -> earlier < pairs ->
        (convergent smallest x a b earlier).isSettled = false := by
  rw [evaluate_eq_find?, Option.map_eq_some_iff] at returned
  obtain ⟨pairs, found, rfl⟩ := returned
  obtain ⟨settled, member, unsettled⟩ := List.find?_range'_eq_some.mp found
  obtain ⟨positive, less⟩ := List.mem_range'_1.mp member
  exact ⟨pairs, positive, by omega, rfl, settled, fun earlier positive' less' =>
    (Bool.not_eq_true' _).mp (unsettled earlier positive' less')⟩

/-- If no round is settled, the loop fails. -/
theorem evaluate_eq_none
    (unsettled :
      ∀ pairs, 1 ≤ pairs -> pairs ≤ maxIterations ->
        (convergent smallest x a b pairs).isSettled = false) :
    evaluate smallest x a b = none := by
  rw [evaluate_eq_settle le_rfl unsettled, Nat.sub_self]
  rfl

end Rounds

/-! ## The state of the loop -/

/-- A divisor that does not vanish and is not replaced. -/
def Kept (smallest divisor : K) : Prop :=
  nonZero smallest divisor = divisor ∧ divisor ≠ 0

instance (smallest divisor : K) : Decidable (Kept smallest divisor) :=
  inferInstanceAs (Decidable (_ ∧ _))

/-- Nothing is replaced when a term is appended. -/
def Convergent.Takes
    (smallest : K)
    (convergent : Convergent K)
    (term : K) : Prop :=
  Kept smallest (1.0 + term * convergent.denominators) ∧
    Kept smallest (1.0 + term / convergent.numerators)

instance (smallest : K) (convergent : Convergent K) (term : K) :
    Decidable (convergent.Takes smallest term) :=
  inferInstanceAs (Decidable (_ ∧ _))

/-- Nothing is replaced, and no divisor vanishes, up to this many pairs of terms. -/
structure Regular (smallest x a b : K) (pairs : Nat) : Prop where
  first : Kept smallest (1.0 - firstTerm x a b)
  even (index : Nat) :
    index < pairs ->
      (convergent smallest x a b index).Takes smallest
        (evenTerm x a b (Arithmetic.ofNat (index + 1)))
  odd (index : Nat) :
    index < pairs ->
      ((convergent smallest x a b index).append smallest
        (evenTerm x a b (Arithmetic.ofNat (index + 1)))).Takes smallest
          (oddTerm x a b (Arithmetic.ofNat (index + 1)))

/-- What the loop keeps, in terms of the numerators and denominators of the fraction up
to its first so many terms. -/
structure Convergent.Tracks
    (x a b : K)
    (terms : Nat)
    (convergent : Convergent K) : Prop where
  numerators_eq :
    convergent.numerators =
      (fraction x a b).nums (terms + 1) / (fraction x a b).nums terms
  denominators_eq :
    convergent.denominators =
      (fraction x a b).dens terms / (fraction x a b).dens (terms + 1)
  change_eq :
    convergent.change =
      (fraction x a b).convs (terms + 1) / (fraction x a b).convs terms
  value_eq : convergent.value = (fraction x a b).convs (terms + 1)
  nums_ne_zero :
    (fraction x a b).nums terms ≠ 0 ∧ (fraction x a b).nums (terms + 1) ≠ 0
  dens_ne_zero :
    (fraction x a b).dens terms ≠ 0 ∧ (fraction x a b).dens (terms + 1) ≠ 0

theorem Regular.of_le
    {smallest x a b : K}
    {earlier pairs : Nat}
    (regular : Regular smallest x a b pairs)
    (le : earlier ≤ pairs) :
    Regular smallest x a b earlier where
  first := regular.first
  even index less := regular.even index (less.trans_le le)
  odd index less := regular.odd index (less.trans_le le)

section Tracking

variable [IsStrictOrderedRing K] {smallest x a b : K}

/-- Before the loop, the fraction is taken up to its first term. -/
theorem first_tracks
    (kept : Kept smallest (1.0 - firstTerm x a b)) :
    (first smallest x a b).Tracks x a b 1 := by
  obtain ⟨same, nonzero⟩ := kept
  have num_eq : (fraction x a b).nums 2 = 1 := by
    rw [nums_add_two, nums_one, nums_zero, mul_zero, add_zero]
  have den_eq : (fraction x a b).dens 2 = 1.0 - firstTerm x a b := by
    rw [dens_add_two, zero_add, dens_one, zeroth_den_eq_one, partialNumerator_one,
      mul_one, one_eq, sub_eq_add_neg]
  have value_eq : (first smallest x a b).value = (fraction x a b).convs 2 := by
    rw [conv_eq_num_div_den, num_eq, den_eq]
    exact congrArg₂ (· / ·) one_eq same
  have conv_eq : (fraction x a b).convs 1 = 1 := by
    rw [conv_eq_num_div_den, nums_one, dens_one, div_one]
  refine
    { numerators_eq := ?_
      denominators_eq := ?_
      change_eq := ?_
      value_eq := value_eq
      nums_ne_zero := ⟨?_, ?_⟩
      dens_ne_zero := ⟨?_, ?_⟩ }
  · rw [num_eq, nums_one, div_one]
    exact one_eq
  · rw [den_eq, dens_one]
    exact congrArg₂ (· / ·) one_eq same
  · rw [conv_eq, div_one]
    exact value_eq
  · rw [nums_one]
    exact one_ne_zero
  · rw [num_eq]
    exact one_ne_zero
  · rw [dens_one]
    exact one_ne_zero
  · rw [den_eq]
    exact nonzero

/-- Half a round takes one more term of the fraction. -/
theorem Convergent.Tracks.append
    {convergent : Convergent K}
    {terms : Nat}
    {term : K}
    (tracks : convergent.Tracks x a b terms)
    (takes : convergent.Takes smallest term)
    (term_eq : partialNumerator x a b (terms + 1) = term) :
    (convergent.append smallest term).Tracks x a b (terms + 1) := by
  obtain ⟨⟨same, nonzero⟩, ⟨same', nonzero'⟩⟩ := takes
  have num_ne := tracks.nums_ne_zero.2
  have den_ne := tracks.dens_ne_zero.2
  -- The divisors are the ratios of the next numerators and denominators.
  have den_ratio :
      1.0 + term * convergent.denominators =
        (fraction x a b).dens (terms + 2) / (fraction x a b).dens (terms + 1) := by
    rw [tracks.denominators_eq, dens_add_two, term_eq, one_eq, add_div, div_self den_ne,
      mul_div_assoc]
  have num_ratio :
      1.0 + term / convergent.numerators =
        (fraction x a b).nums (terms + 2) / (fraction x a b).nums (terms + 1) := by
    rw [tracks.numerators_eq, nums_add_two, term_eq, one_eq, add_div, div_self num_ne,
      div_div_eq_mul_div]
  have denominators_eq :
      (convergent.append smallest term).denominators =
        (fraction x a b).dens (terms + 1) / (fraction x a b).dens (terms + 2) := by
    rw [← inv_div, ← den_ratio, ← one_div]
    exact congrArg₂ (· / ·) one_eq same
  have numerators_eq :
      (convergent.append smallest term).numerators =
        (fraction x a b).nums (terms + 2) / (fraction x a b).nums (terms + 1) :=
    same'.trans num_ratio
  have change_eq :
      (convergent.append smallest term).change =
        (fraction x a b).convs (terms + 2) / (fraction x a b).convs (terms + 1) := by
    rw [convs_div_convs, ← denominators_eq, ← numerators_eq]
    rfl
  have conv_ne : (fraction x a b).convs (terms + 1) ≠ 0 := div_ne_zero num_ne den_ne
  refine
    { numerators_eq := numerators_eq
      denominators_eq := denominators_eq
      change_eq := change_eq
      value_eq := ?_
      nums_ne_zero := ⟨num_ne, ?_⟩
      dens_ne_zero := ⟨den_ne, ?_⟩ }
  · calc (convergent.append smallest term).value
        = convergent.value * (convergent.append smallest term).change := rfl
      _ = (fraction x a b).convs (terms + 2) := by
          rw [tracks.value_eq, change_eq, mul_div_cancel₀ _ conv_ne]
  · rw [num_ratio] at nonzero'
    exact (div_ne_zero_iff.mp nonzero').1
  · rw [den_ratio] at nonzero
    exact (div_ne_zero_iff.mp nonzero).1

/-- After so many rounds, the fraction is taken up to the terms of so many pairs. -/
theorem Regular.tracks
    {pairs : Nat}
    (regular : Regular smallest x a b pairs) :
    (convergent smallest x a b pairs).Tracks x a b (2 * pairs + 1) := by
  induction pairs with
  | zero => exact first_tracks regular.first
  | succ pairs hypothesis =>
      have tracks := hypothesis (regular.of_le pairs.le_succ)
      have half := tracks.append (regular.even pairs pairs.lt_succ_self)
        (partialNumerator_even x a b pairs)
      exact half.append (regular.odd pairs pairs.lt_succ_self)
        (partialNumerator_odd x a b pairs)

/-- In exact arithmetic, a round is settled if it has changed the value by less than
the tolerance. -/
theorem Convergent.isSettled_iff (convergent : Convergent K) :
    convergent.isSettled = true ↔ |convergent.change - 1| < 3 / 10 ^ 14 := by
  have tolerance_eq : (tolerance : K) = 3 / 10 ^ 14 := by norm_num [tolerance]
  rw [isSettled, decide_eq_true_iff, tolerance_eq, one_eq]
  exact Iff.rfl

/-- The last two convergents up to so many pairs of terms are the same, but for the
tolerance. -/
def Close (x a b : K) (pairs : Nat) : Prop :=
  |(fraction x a b).convs (2 * pairs + 2) / (fraction x a b).convs (2 * pairs + 1) - 1| <
    3 / 10 ^ 14

instance (x a b : K) (pairs : Nat) : Decidable (Close x a b pairs) :=
  inferInstanceAs (Decidable (_ < _))

/-- The rounds that are settled are those whose convergents are close. -/
theorem Regular.isSettled_iff
    {pairs : Nat}
    (regular : Regular smallest x a b pairs) :
    (convergent smallest x a b pairs).isSettled = true ↔ Close x a b pairs := by
  rw [Convergent.isSettled_iff, regular.tracks.change_eq, Close]

/-- Rounds whose convergents are not close are not settled. -/
theorem Regular.unsettled
    {pairs earlier : Nat}
    (regular : Regular smallest x a b pairs)
    (le : earlier ≤ pairs)
    (apart : ¬Close x a b earlier) :
    (convergent smallest x a b earlier).isSettled = false :=
  Bool.eq_false_iff.mpr fun settled =>
    apart ((regular.of_le le).isSettled_iff.mp settled)

end Tracking

/-! ## The law -/

/-- What the loop computes, in terms of the fraction. -/
structure FractionLaw (smallest x a b : K) : Prop where
  /-- If it has not returned within so many rounds, it goes on from the state after the
  last of them. -/
  loop (pairs : Nat) :
    pairs ≤ maxIterations ->
      Regular smallest x a b pairs ->
      (∀ earlier, 1 ≤ earlier -> earlier ≤ pairs -> ¬Close x a b earlier) ->
      evaluate smallest x a b =
        settle smallest x a b (maxIterations - pairs) (pairs + 1)
          (convergent smallest x a b pairs)
  /-- The value in this state is the convergent up to the terms of so many pairs. -/
  value (pairs : Nat) :
    Regular smallest x a b pairs ->
      (convergent smallest x a b pairs).value =
        (fraction x a b).nums (2 * pairs + 2) / (fraction x a b).dens (2 * pairs + 2)
  /-- It is the fraction from the inside outwards, if no divisor vanishes there. -/
  nested (pairs : Nat) :
    Regular smallest x a b pairs ->
      ContinuedFraction.DividesInside (fraction x a b).s (2 * pairs + 2) ->
      (convergent smallest x a b pairs).value =
        (fraction x a b).convs' (2 * pairs + 2)
  /-- The change is the ratio of the last two convergents. -/
  change (pairs : Nat) :
    Regular smallest x a b pairs ->
      (convergent smallest x a b pairs).change =
        (fraction x a b).convs (2 * pairs + 2) / (fraction x a b).convs (2 * pairs + 1)
  /-- The convergents that are divided do not vanish, and neither do their
  denominators. -/
  proper (pairs : Nat) :
    Regular smallest x a b pairs ->
      (fraction x a b).convs (2 * pairs + 1) ≠ 0 ∧
        (fraction x a b).dens (2 * pairs + 1) ≠ 0 ∧
        (fraction x a b).dens (2 * pairs + 2) ≠ 0
  /-- The loop returns the first convergent that is close to the one before. -/
  returns (pairs : Nat) :
    1 ≤ pairs ->
      pairs ≤ maxIterations ->
      Regular smallest x a b pairs ->
      Close x a b pairs ->
      (∀ earlier, 1 ≤ earlier -> earlier < pairs -> ¬Close x a b earlier) ->
      evaluate smallest x a b = some ((fraction x a b).convs (2 * pairs + 2))
  /-- If there is none, it fails. -/
  fails :
    Regular smallest x a b maxIterations ->
      (∀ pairs, 1 ≤ pairs -> pairs ≤ maxIterations -> ¬Close x a b pairs) ->
      evaluate smallest x a b = none
  /-- What it returns is such a convergent. -/
  found (value : K) :
    evaluate smallest x a b = some value ->
      ∃ pairs, 1 ≤ pairs ∧ pairs ≤ maxIterations ∧
        (Regular smallest x a b pairs ->
          value = (fraction x a b).convs (2 * pairs + 2) ∧
            Close x a b pairs ∧
            ∀ earlier, 1 ≤ earlier -> earlier < pairs -> ¬Close x a b earlier)

/-- The loop computes the convergents of the fraction, in every ordered field. -/
theorem fractionLaw
    [IsStrictOrderedRing K]
    (smallest x a b : K) :
    FractionLaw smallest x a b where
  loop pairs inTime regular apart :=
    evaluate_eq_settle inTime fun earlier positive le =>
      regular.unsettled le (apart earlier positive le)
  value pairs regular := by
    rw [regular.tracks.value_eq, conv_eq_num_div_den]
  nested pairs regular divides :=
    regular.tracks.value_eq.trans
      (ContinuedFraction.convs_eq_convs'_of_dividesInside 0 divides)
  change pairs regular := regular.tracks.change_eq
  proper pairs regular :=
    ⟨div_ne_zero regular.tracks.nums_ne_zero.1 regular.tracks.dens_ne_zero.1,
      regular.tracks.dens_ne_zero⟩
  returns pairs positive inTime regular close apart := by
    rw [← regular.tracks.value_eq]
    exact evaluate_of_isSettled positive inTime (regular.isSettled_iff.mpr close)
      fun earlier positive' less =>
        regular.unsettled less.le (apart earlier positive' less)
  fails regular apart :=
    evaluate_eq_none fun pairs positive inTime =>
      regular.unsettled inTime (apart pairs positive inTime)
  found value returned := by
    obtain ⟨pairs, positive, inTime, rfl, settled, unsettled⟩ :=
      exists_isSettled_of_evaluate returned
    refine ⟨pairs, positive, inTime, fun regular => ?_⟩
    refine ⟨regular.tracks.value_eq, regular.isSettled_iff.mp settled, ?_⟩
    intro earlier positive' less close
    have settled' := (regular.of_le less.le).isSettled_iff.mpr close
    exact Bool.eq_false_iff.mp (unsettled earlier positive' less) settled'

/-- The fraction of one third, two, and three, whose terms vanish from the third pair
on. -/
theorem fractionLaw_third :
    Regular (5e-324 : ℚ) (1 / 3) 2 3 3 ∧
      ContinuedFraction.DividesInside (fraction (1 / 3 : ℚ) 2 3).s 8 ∧
      Close (1 / 3 : ℚ) 2 3 3 ∧
      evaluate (5e-324 : ℚ) (1 / 3) 2 3 = some (33 / 16) ∧
      (fraction (1 / 3 : ℚ) 2 3).convs' 8 = 33 / 16 ∧
      FractionLaw (5e-324 : ℚ) (1 / 3) 2 3 := by
  have law := fractionLaw (5e-324 : ℚ) (1 / 3) 2 3
  have regular : Regular (5e-324 : ℚ) (1 / 3) 2 3 3 :=
    { first := by decide +kernel
      even := by decide +kernel
      odd := by decide +kernel }
  have divides : ContinuedFraction.DividesInside (fraction (1 / 3 : ℚ) 2 3).s 8 :=
    (dividesInside_iff _ _ _ 8).mpr (by decide +kernel)
  have close : Close (1 / 3 : ℚ) 2 3 3 := by decide +kernel
  have apart : ∀ earlier < 3, 1 ≤ earlier -> ¬Close (1 / 3 : ℚ) 2 3 earlier := by
    decide +kernel
  have nested_eq : (fraction (1 / 3 : ℚ) 2 3).convs' 8 = 33 / 16 := by decide +kernel
  have returned : evaluate (5e-324 : ℚ) (1 / 3) 2 3 = some (33 / 16) :=
    calc evaluate (5e-324 : ℚ) (1 / 3) 2 3
        = some ((fraction (1 / 3 : ℚ) 2 3).convs 8) :=
          law.returns 3 (by decide) (by decide) regular close fun earlier positive less =>
            apart earlier less positive
      _ = some (convergent (5e-324 : ℚ) (1 / 3) 2 3 3).value := by
          rw [law.value 3 regular, conv_eq_num_div_den]
      _ = some (33 / 16) := by rw [law.nested 3 regular divides, nested_eq]
  exact ⟨regular, divides, close, returned, nested_eq, law⟩

end BetaFraction
end RootFinding
