import Mathlib.Algebra.ContinuedFractions.ContinuantsRecurrence
import Mathlib.Algebra.ContinuedFractions.TerminatedStable
import Mathlib.Tactic.Ring

/-!
# Two ways to evaluate a continued fraction

The convergents of a continued fraction follow from the recurrences of its continuants,
and also from the fraction itself, evaluated from the inside outwards.  The second way
divides by numbers that the first one does not meet.  Where none of these vanishes, both
ways come to the same result (`ContinuedFraction.convs_eq_convs'_of_dividesInside`),
whatever the signs of the terms are.

The proof cuts off the first bar of the fraction, which turns the continuants of the rest
into those of the whole (`ContinuedFraction.contsAux_succ`).
-/

namespace RootFinding
namespace ContinuedFraction

open GenContFract

variable {K : Type} [Field K] {pairs : Stream'.Seq (Pair K)} {first : Pair K}

/-- The continuants of a fraction are made of those of the fraction below its first
bar. -/
theorem contsAux_succ
    (head : K)
    (first_eq : pairs.get? 0 = some first)
    (n : Nat) :
    let inner : GenContFract K := ⟨first.b, pairs.tail⟩
    contsAux ⟨head, pairs⟩ (n + 1) =
      ⟨head * (inner.contsAux n).a + first.a * (inner.contsAux n).b,
        (inner.contsAux n).a⟩ := by
  intro inner
  induction n using Nat.twoStepInduction with
  | zero => simp
  | one =>
      rw [second_contAux_eq first_eq, first_contAux_eq_h_one, mul_comm head, mul_one]
  | more n hypothesis hypothesis' =>
      have next_eq : inner.s.get? n = pairs.get? (n + 1) := Stream'.Seq.get?_tail ..
      cases next : pairs.get? (n + 1) with
      | none =>
          have ended : inner.TerminatedAt n := next_eq.trans next
          have ended' : (GenContFract.mk head pairs).TerminatedAt (n + 1) := next
          rw [contsAux_stable_step_of_terminated ended,
            contsAux_stable_step_of_terminated ended', hypothesis']
      | some pair =>
          rw [contsAux_recurrence next hypothesis hypothesis',
            contsAux_recurrence (next_eq.trans next) rfl rfl]
          congr 1
          ring

/-- A convergent is the head and a quotient by the convergent below the first bar. -/
theorem convs_succ
    (head : K)
    (first_eq : pairs.get? 0 = some first)
    {n : Nat}
    (nonzero : convs ⟨first.b, pairs.tail⟩ n ≠ 0) :
    convs ⟨head, pairs⟩ (n + 1) =
      head + first.a / convs ⟨first.b, pairs.tail⟩ n := by
  have conts_eq := contsAux_succ head first_eq (n + 1)
  have num_eq :
      nums ⟨head, pairs⟩ (n + 1) =
        head * nums ⟨first.b, pairs.tail⟩ n
          + first.a * dens ⟨first.b, pairs.tail⟩ n :=
    congrArg Pair.a conts_eq
  have den_eq :
      dens ⟨head, pairs⟩ (n + 1) = nums ⟨first.b, pairs.tail⟩ n :=
    congrArg Pair.b conts_eq
  rw [conv_eq_num_div_den] at nonzero
  rw [conv_eq_num_div_den, num_eq, den_eq, conv_eq_num_div_den, add_div,
    mul_div_cancel_right₀ _ (div_ne_zero_iff.mp nonzero).1, div_div_eq_mul_div]

/-- No divisor vanishes when a fraction of `n` pairs is evaluated from the inside
outwards. -/
def DividesInside (pairs : Stream'.Seq (Pair K)) (n : Nat) : Prop :=
  ∀ index < n, ∀ pair, pairs.get? index = some pair ->
    pair.b + convs'Aux (pairs.drop (index + 1)) (n - (index + 1)) ≠ 0

/-- The part of the fraction below its first bar divides by the other divisors only. -/
theorem DividesInside.tail
    {n : Nat}
    (divides : DividesInside pairs (n + 1)) :
    DividesInside pairs.tail n := by
  intro index less pair pair_eq
  rw [Stream'.Seq.get?_tail] at pair_eq
  rw [Stream'.Seq.dropn_tail]
  have divides' := divides (index + 1) (Nat.succ_lt_succ less) pair pair_eq
  rwa [Nat.succ_sub_succ] at divides'

/-- The convergents by the recurrences of the continuants are those from the inside
outwards, if no divisor vanishes there. -/
theorem convs_eq_convs'_of_dividesInside
    (head : K)
    {n : Nat}
    (divides : DividesInside pairs n) :
    convs ⟨head, pairs⟩ n = convs' ⟨head, pairs⟩ n := by
  induction n generalizing head pairs with
  | zero => rw [zeroth_conv_eq_h, zeroth_conv'_eq_h]
  | succ n hypothesis =>
      cases first_eq : pairs.get? 0 with
      | none =>
          have ended : (GenContFract.mk head pairs).TerminatedAt 0 := first_eq
          rw [convs_stable_of_terminated n.succ.zero_le ended,
            convs'_stable_of_terminated n.succ.zero_le ended, zeroth_conv_eq_h,
            zeroth_conv'_eq_h]
      | some first =>
          -- The fraction below the first bar has the same convergent both ways.
          have inner := hypothesis first.b divides.tail
          have nonzero : convs' ⟨first.b, pairs.tail⟩ n ≠ 0 :=
            divides 0 n.succ_pos first first_eq
          rw [← inner] at nonzero
          rw [convs_succ head first_eq nonzero, inner, convs', convs',
            convs'Aux_succ_some first_eq]

end ContinuedFraction
end RootFinding
