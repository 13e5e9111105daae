import RootFinding.Proofs.Search.Inside
import RootFinding.Proofs.Search.Termination

/-!
# Searches that have come to an infinity

Nothing can be taken away from an infinity, and without heuristics no candidate that
is infinite or NaN is refused for now.  A provided method therefore proposes the same
infinity again or ends the search with NaN (`Search.Turn.Fits.absorbed`), so a search
that has come to an infinity stays there, makes no retry, and ends
(`Finder.search_absorptionLaw`).  It never answers with a finite value, even if the
convergence test succeeds at the infinity.
-/

namespace RootFinding

open FloatingPoint

namespace Search

variable [FloatingPoint α]

/-- A round that begins at an infinity and proposes nothing but that infinity or
NaN. -/
structure Turn.Absorbed (infinity : α) (turn : Turn α) : Prop where
  current : (turn.current == infinity) = true
  candidate :
    isNaN turn.candidate = true ∨ (turn.candidate == infinity) = true
  noRetry : turn.isRetry = false

variable [LawfulFloatingPoint α]

/-- Without heuristics, infinities and NaN are not refused for now. -/
theorem isRetry_judge_of_not_isFinite
    {config : Config α}
    (plain : config.useHeuristics = false)
    (state : State α)
    {candidate : α}
    (notFinite : isFinite candidate = false) :
    (config.judge state candidate).isRetry = false := by
  rcases (LawfulFloatingPoint.isFinite_eq_false_iff candidate).mp notFinite with
    undefined | infinite
  · rw [judge_of_isNaN config state undefined]
    rfl
  · refine isRetry_judge config state candidate ?_ ?_ ?_
    · intro notInfinite
      rw [infinite] at notInfinite
      cases notInfinite
    · intro heuristics
      rw [plain] at heuristics
      cases heuristics
    · intro heuristics
      rw [plain] at heuristics
      cases heuristics

/-- A value that is NaN or equals an infinity is not finite. -/
theorem isFinite_of_isNaN_or_beq
    {infinity x : α}
    (infinite : isInfinite infinity = true)
    (same : isNaN x = true ∨ (x == infinity) = true) :
    isFinite x = false := by
  refine (LawfulFloatingPoint.isFinite_eq_false_iff x).mpr
    (same.imp_right fun equal => ?_)
  rw [LawfulFloatingPoint.beq_comm] at equal
  exact LawfulFloatingPoint.isInfinite_of_beq equal infinite

/-- A value that equals an infinity, less anything, is NaN or equals that infinity
still. -/
theorem isNaN_or_beq_of_sub
    [LawfulInfinity α]
    {infinity x : α}
    (infinite : isInfinite infinity = true)
    (equal : (x == infinity) = true)
    (step : α) :
    isNaN (x - step) = true ∨ (x - step == infinity) = true := by
  have infinite' : isInfinite x = true := by
    rw [LawfulFloatingPoint.beq_comm] at equal
    exact LawfulFloatingPoint.isInfinite_of_beq equal infinite
  exact (LawfulInfinity.sub_eq (y := step) infinite').imp_right fun same =>
    LawfulFloatingPoint.beq_trans same equal

/-- A round that begins at an infinity is absorbed, if the candidate is the current
point less something, and the search stays there. -/
theorem Turn.Fits.absorbed
    [LawfulInfinity α]
    {config : Config α}
    {state : State α}
    {turn : Turn α}
    {infinity : α}
    (fits : turn.Fits config state)
    (plain : config.useHeuristics = false)
    (infinite : isInfinite infinity = true)
    (current : (state.current == infinity) = true)
    (steps : ∃ step, turn.candidate = state.current - step) :
    turn.Absorbed infinity ∧
      ((state.after turn).current == infinity) = true ∧
      (state.after turn).retries = state.retries := by
  have candidate :
      isNaN turn.candidate = true ∨ (turn.candidate == infinity) = true := by
    obtain ⟨step, candidate_eq⟩ := steps
    rw [candidate_eq]
    exact isNaN_or_beq_of_sub infinite current step
  have notRefused :=
    isRetry_judge_of_not_isFinite plain state
      (isFinite_of_isNaN_or_beq infinite candidate)
  rw [fits.judged] at notRefused
  have judgement := fits.judgement
  cases fits with
  | retry => cases notRefused
  | abort => exact ⟨⟨current, candidate, rfl⟩, current, rfl⟩
  | untested | tested =>
      -- What is accepted is not NaN, so it is the infinity.
      have same := candidate.resolve_left (by rw [judgement.of_accept.1]; simp)
      exact ⟨⟨current, candidate, rfl⟩, same, rfl⟩

end Search

namespace Finder

open Search

variable [FloatingPoint α] {finder : Finder σ α} {start : α}

/-- All rounds of a longer search that a shorter one lacks are absorbed. -/
structure AbsorbedSince
    (finder : Finder σ α)
    (start infinity : α)
    (rounds extra : Nat) : Prop where
  turns :
    ∃ later,
      (finder.search (rounds + extra) start).1.turns =
          later ++ (finder.search rounds start).1.turns ∧
        ∀ turn ∈ later, turn.Absorbed infinity
  current :
    ((finder.search (rounds + extra) start).1.state.current == infinity) = true
  retries :
    (finder.search (rounds + extra) start).1.state.retries =
      (finder.search rounds start).1.state.retries

variable [LawfulFloatingPoint α] [LawfulInfinity α]

section Absorbed

variable {rounds : Nat}
  (provided : finder.config.method ∈ Method.provided)
  (plain : finder.config.useHeuristics = false)
  (infinite :
    isInfinite (finder.search rounds start).1.state.current = true)

include provided plain infinite

/-- From an infinity on, all rounds are absorbed. -/
theorem absorbedSince_of_isInfinite (extra : Nat) :
    finder.AbsorbedSince start
      (finder.search rounds start).1.state.current rounds extra := by
  induction extra with
  | zero =>
      have le := LawfulFloatingPoint.le_refl
        (LawfulFloatingPoint.isNaN_of_isInfinite infinite)
      exact ⟨⟨[], rfl, by simp⟩, LawfulFloatingPoint.beq_iff.mpr ⟨le, le⟩, rfl⟩
  | succ extra hypothesis =>
      obtain ⟨⟨later, turns_eq, absorbed⟩, current, retries_eq⟩ := hypothesis
      rcases finder.search_succ_cases (rounds + extra) start with
        ⟨-, same⟩ | ⟨-, turn, world', played, extended⟩
      · have search_eq :
            finder.search (rounds + (extra + 1)) start =
              finder.search (rounds + extra) start := same
        refine { turns := ⟨later, ?_, absorbed⟩, current := ?_, retries := ?_ }
        · rw [search_eq, turns_eq]
        · rw [search_eq, current]
        · rw [search_eq, retries_eq]
      · have steps :=
          Method.exists_run_step_eq_sub provided
            (finder.search (rounds + extra) start).1.state.current
            finder.oracle (finder.search (rounds + extra) start).2
        rw [← candidate_of_play played] at steps
        obtain ⟨turn_absorbed, current', retries_eq'⟩ :=
          (fits_of_play played).absorbed plain infinite current steps
        have search_eq :
            finder.search (rounds + (extra + 1)) start =
              ((finder.search (rounds + extra) start).1.extend finder.config turn,
                world') := extended
        refine
          { turns := ⟨turn :: later, ?_, ?_⟩
            current := ?_
            retries := ?_ }
        · rw [search_eq, Record.turns_extend, turns_eq, List.cons_append]
        · exact List.forall_mem_cons.mpr ⟨turn_absorbed, absorbed⟩
        · rw [search_eq, Record.state_extend, current']
        · rw [search_eq, Record.state_extend, retries_eq', retries_eq]

/-- An answer of a search that comes to an infinity is that infinity or NaN, however
many rounds it is allowed. -/
theorem isNaN_or_beq_of_solve
    {rounds' : Nat}
    {root : α}
    (solved : finder.solve rounds' start = some root) :
    isNaN root = true ∨
      (root == (finder.search rounds start).1.state.current) = true := by
  have solved_later := finder.solve_add rounds' rounds start root solved
  rw [Nat.add_comm] at solved_later
  rcases (finder.solve_eq_some_iff _ start root).mp solved_later with
    ⟨-, rfl⟩ | ⟨-, rfl⟩
  · exact Or.inl LawfulFloatingPoint.isNaN_nan
  · exact Or.inr
      (absorbedSince_of_isInfinite provided plain infinite rounds').current

end Absorbed

/-- What becomes of a search that has come to an infinity after this many rounds. -/
structure AbsorptionLaw
    (finder : Finder σ α)
    (rounds : Nat)
    (start : α) : Prop where
  /-- All later rounds begin at that infinity and propose it again, or NaN, and none
  of them is a retry. -/
  absorbed (extra : Nat) :
    finder.AbsorbedSince start
      (finder.search rounds start).1.state.current rounds extra
  /-- The search has an answer after as many further rounds as steps are allowed. -/
  solve :
    ∃ root,
      finder.solve
        (rounds +
          max 1 (max finder.config.minIterations finder.config.maxIterations))
        start = some root
  /-- Every answer is that infinity or NaN. -/
  root (rounds' : Nat) (root : α) :
    finder.solve rounds' start = some root ->
      (isNaN root = true ∨
          (root == (finder.search rounds start).1.state.current) = true) ∧
        isFinite root = false
  /-- The checked search fails, as soon as there is an answer. -/
  checked (rounds' : Nat) :
    (finder.solve rounds' start).isSome = true ->
      finder.trySolve rounds' start = some (.error .nonFinite)

/-- The searches without heuristics by the provided methods obey the law of
absorption, whatever the limits are and the oracle replies. -/
theorem search_absorptionLaw
    (finder : Finder σ α)
    (rounds : Nat)
    (start : α)
    (provided : finder.config.method ∈ Method.provided)
    (plain : finder.config.useHeuristics = false)
    (infinite :
      isInfinite (finder.search rounds start).1.state.current = true) :
    finder.AbsorptionLaw rounds start := by
  have absorbed :=
    absorbedSince_of_isInfinite provided plain infinite
  have answered (rounds' : Nat) (root : α)
      (solved : finder.solve rounds' start = some root) :=
    isNaN_or_beq_of_solve provided plain infinite solved
  refine
    { absorbed := absorbed
      solve := ?_
      root := fun rounds' root solved =>
        ⟨answered rounds' root solved,
          isFinite_of_isNaN_or_beq infinite (answered rounds' root solved)⟩
      checked := ?_ }
  · have ended :=
      finder.isSome_ending_of_retries_eq rounds start (absorbed _).retries
    exact Option.isSome_iff_exists.mp ((finder.isSome_solve _ start).trans ended)
  · intro rounds' isSome
    obtain ⟨root, solved⟩ := Option.isSome_iff_exists.mp isSome
    have notFinite :=
      isFinite_of_isNaN_or_beq infinite (answered rounds' root solved)
    rw [trySolve_eq_map_solve, solved, Option.map_some,
      check_of_not_isFinite finder.config notFinite, Inquiry.run_answer]

/-- A search that a vanishing slope sends to an infinity, where the function is close
enough to zero. -/
theorem search_absorptionLaw_bump :
    let finder : Finder Unit Float :=
      .ofFunctions
        (fun x => 1.0 / (1.0 + x * x))
        (fun x => if x == 1.0 then 0.0 else 1.0)
        [.limits (-10.0) 10.0]
    finder.config.method ∈ Method.provided ∧
      finder.config.useHeuristics = false ∧
      isInfinite (finder.search 1 1.0).1.state.current = true ∧
      finder.solve 5 1.0 = some (-1.0 / 0.0) ∧
      finder.AbsorptionLaw 1 1.0 := by
  intro finder
  have provided : finder.config.method ∈ Method.provided := List.mem_cons_self
  have plain : finder.config.useHeuristics = false := rfl
  have infinite :
      isInfinite (finder.search 1 1.0).1.state.current = true := by
    decide +kernel
  exact ⟨provided, plain, infinite, by decide +kernel,
    search_absorptionLaw finder 1 1.0 provided plain infinite⟩

end Finder
end RootFinding
