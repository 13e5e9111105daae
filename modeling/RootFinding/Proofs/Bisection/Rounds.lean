import RootFinding.Bisection
import RootFinding.Oracle

/-!
# Rounds of a bisection

A bisection goes from one bracket to the next until it has found a point or has
used up its rounds.  `Bisection.Reaches` says which brackets are reached, over
any oracle and any rule for the half width at which a bisection may end, and
`Bisection.Outcome` what a number of rounds can come to (`outcome_run`).
`Halved` gives one constructor to each way in which a single round can go, with
the replies that lead there.

Over a function, `Bisection.bracketAfter?` is the bracket after a number of
rounds, if the bisection has not ended by then.
-/

namespace RootFinding
namespace Bisection

variable [Arithmetic α]
  {limit : Bracket α -> α}
  {oracle : Oracle σ α}
  {bracket : Bracket α}
  {world : σ}

/-- A value at the midpoint ends the bisection if it is zero or if half the width
is below the limit. -/
def Ends
    (limit : Bracket α -> α)
    (bracket : Bracket α)
    (value : α) : Prop :=
  (value == 0.0) = true ∨ bracket.halfWidth < limit bracket

/-- The ways in which a round can go. -/
inductive Halved
    (limit : Bracket α -> α)
    (oracle : Oracle σ α)
    (bracket : Bracket α)
    (world : σ) : Progress α -> σ -> Prop where
  | found {value : α} {world' : σ}
      (asked : oracle (.value bracket.midpoint) world = (value, world'))
      (ends : Ends limit bracket value) :
      Halved limit oracle bracket world (.found bracket.midpoint) world'
  | lower {value : α} {between : σ} {lowerValue : α} {world' : σ}
      (asked : oracle (.value bracket.midpoint) world = (value, between))
      (goesOn : ¬Ends limit bracket value)
      (asked_lower :
        oracle (.value bracket.lower) between = (lowerValue, world'))
      (agrees : sign value = sign lowerValue) :
      Halved limit oracle bracket world
        (.narrowed ⟨bracket.midpoint, bracket.upper⟩) world'
  | upper {value : α} {between : σ} {lowerValue : α} {world' : σ}
      (asked : oracle (.value bracket.midpoint) world = (value, between))
      (goesOn : ¬Ends limit bracket value)
      (asked_lower :
        oracle (.value bracket.lower) between = (lowerValue, world'))
      (differs : sign value ≠ sign lowerValue) :
      Halved limit oracle bracket world
        (.narrowed ⟨bracket.lower, bracket.midpoint⟩) world'

/-- Every round goes in one of these ways. -/
theorem halved_of_run
    {progress : Progress α}
    {world' : σ}
    (played : (halve limit bracket).run oracle world = (progress, world')) :
    Halved limit oracle bracket world progress world' := by
  simp only [halve, Inquiry.value_bind, Inquiry.run_ask] at played
  split at played
  case isTrue ends =>
    simp only [Bool.or_eq_true, decide_eq_true_eq] at ends
    obtain ⟨rfl, rfl⟩ := Prod.mk.inj played
    exact .found rfl ends
  case isFalse goesOn =>
    simp only [Bool.or_eq_true, decide_eq_true_eq] at goesOn
    simp only [Inquiry.run_ask] at played
    generalize asked_lower : oracle (.value bracket.lower) _ = replied at played
    obtain ⟨lowerValue, between⟩ := replied
    obtain ⟨rfl, rfl⟩ := Prod.mk.inj played
    by_cases agrees :
        sign (oracle (.value bracket.midpoint) world).1 = sign lowerValue
    · rw [beq_iff_eq.mpr agrees]
      exact .lower rfl goesOn asked_lower agrees
    · rw [beq_eq_false_iff_ne.mpr agrees]
      exact .upper rfl goesOn asked_lower agrees

/-- The brackets that are reached after a number of rounds, with the states in
which the oracle is then. -/
inductive Reaches
    (limit : Bracket α -> α)
    (oracle : Oracle σ α)
    (bracket : Bracket α)
    (world : σ) : Nat -> Bracket α -> σ -> Prop where
  | start : Reaches limit oracle bracket world 0 bracket world
  | round
      {rounds : Nat} {current : Bracket α} {between : σ}
      {narrower : Bracket α} {world' : σ}
      (reached : Reaches limit oracle bracket world rounds current between)
      (played :
        (halve limit current).run oracle between =
          (.narrowed narrower, world')) :
      Reaches limit oracle bracket world (rounds + 1) narrower world'

/-- What a number of rounds can come to. -/
inductive Outcome
    (limit : Bracket α -> α)
    (oracle : Oracle σ α)
    (bracket : Bracket α)
    (world : σ)
    (rounds : Nat) : Progress α -> σ -> Prop where
  | found
      {earlier : Nat} {current : Bracket α} {between : σ}
      {point : α} {world' : σ}
      (inTime : earlier < rounds)
      (reached : Reaches limit oracle bracket world earlier current between)
      (played :
        (halve limit current).run oracle between = (.found point, world')) :
      Outcome limit oracle bracket world rounds (.found point) world'
  | narrowed {narrower : Bracket α} {world' : σ}
      (reached : Reaches limit oracle bracket world rounds narrower world') :
      Outcome limit oracle bracket world rounds (.narrowed narrower) world'

/-- The rounds that follow earlier ones belong to the same bisection. -/
theorem Reaches.outcome_run
    {earlier : Nat}
    {current : Bracket α}
    {between : σ}
    (reached : Reaches limit oracle bracket world earlier current between)
    (rounds : Nat) :
    Outcome limit oracle bracket world (earlier + rounds)
      ((run limit rounds current).run oracle between).1
      ((run limit rounds current).run oracle between).2 := by
  induction rounds generalizing earlier current between with
  | zero => exact .narrowed reached
  | succ rounds hypothesis =>
      rw [run, Inquiry.run_bind]
      generalize played : (halve limit current).run oracle between = result
      obtain ⟨progress, world'⟩ := result
      cases progress with
      | found point => exact .found (by omega) reached played
      | narrowed narrower =>
          have later := hypothesis (.round reached played)
          rwa [Nat.add_assoc, Nat.add_comm 1 rounds] at later

/-- A bisection comes to one of these outcomes. -/
theorem outcome_run
    (limit : Bracket α -> α)
    (oracle : Oracle σ α)
    (bracket : Bracket α)
    (world : σ)
    (rounds : Nat) :
    Outcome limit oracle bracket world rounds
      ((run limit rounds bracket).run oracle world).1
      ((run limit rounds bracket).run oracle world).2 := by
  have outcome :=
    (Reaches.start : Reaches limit oracle bracket world 0 bracket world)
      |>.outcome_run rounds
  rwa [Nat.zero_add] at outcome

/-- From a bracket that is reached, a bisection goes on as if it began there. -/
theorem Reaches.run_add
    {earlier : Nat}
    {current : Bracket α}
    {between : σ}
    (reached : Reaches limit oracle bracket world earlier current between)
    (rounds : Nat) :
    (run limit (earlier + rounds) bracket).run oracle world =
      (run limit rounds current).run oracle between := by
  induction reached generalizing rounds with
  | start => rw [Nat.zero_add]
  | round reached played hypothesis =>
      rw [Nat.add_assoc, hypothesis, Nat.add_comm 1 rounds, run,
        Inquiry.run_bind, played]

/-- A bracket that is reached is the one that a bisection comes to. -/
theorem Reaches.run_eq
    {rounds : Nat}
    {narrower : Bracket α}
    {world' : σ}
    (reached : Reaches limit oracle bracket world rounds narrower world') :
    (run limit rounds bracket).run oracle world = (.narrowed narrower, world') :=
  reached.run_add 0

/-! ## Bisection of a function -/

/-- The bracket after a number of rounds, if no point is found by then. -/
def bracketAfter?
    (limit : Bracket α -> α)
    (function : α -> α)
    (bracket : Bracket α)
    (rounds : Nat) : Option (Bracket α) :=
  match (run limit rounds bracket).eval function function with
  | .found _ => none
  | .narrowed narrower => some narrower

theorem bracketAfter?_eq_some_iff
    {function : α -> α}
    {rounds : Nat}
    {narrower : Bracket α} :
    bracketAfter? limit function bracket rounds = some narrower ↔
      Reaches limit (.ofFunction function) bracket () rounds narrower () := by
  have run_eq := Oracle.run_ofFunction function (run limit rounds bracket) ()
  constructor
  · intro after
    have outcome := outcome_run limit (.ofFunction function) bracket () rounds
    rw [run_eq] at outcome
    unfold bracketAfter? at after
    generalize (run limit rounds bracket).eval function function = progress
      at after outcome
    cases outcome with
    | found => cases after
    | narrowed reached => exact Option.some.inj after ▸ reached
  · intro reached
    rw [reached.run_eq] at run_eq
    rw [bracketAfter?, ← (Prod.mk.inj run_eq).1]

end Bisection
end RootFinding
