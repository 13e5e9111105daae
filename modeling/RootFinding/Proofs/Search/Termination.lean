import RootFinding.Proofs.Search.Livelock

/-!
# Searches that end

A round accepts a step, ends the search, or is a retry.  The accepted steps are
bounded, so a search that makes no retry for as many rounds as steps are allowed has
ended (`isSome_ending_of_retries_eq`).

Without heuristics, only a limit can refuse a candidate for now, and no limit refuses
NaN or an infinity.  Limits that no finite value is beyond therefore refuse nothing
(`Config.Unlimited.unhindered`), and the search ends in time, whatever the method and
the function do (`terminates_of_unlimited`).
-/

namespace RootFinding

open FloatingPoint

/-- No finite value is beyond the limits. -/
structure Config.Unlimited [FloatingPoint α] (config : Config α) : Prop where
  upper (x : α) : isFinite x = true -> ¬config.upper < x
  lower (x : α) : isFinite x = true -> ¬x < config.lower

namespace Config.Unlimited

variable [FloatingPoint α] {config : Config α}

/-- No finite value is beyond limits that are NaN, or at least as large as the
largest finite values. -/
theorem of_limits
    [LawfulFloatingPoint α]
    (upper :
      config.upper = largest ∨ largest < config.upper ∨
        isNaN config.upper = true)
    (lower :
      config.lower = -largest ∨ config.lower < -largest ∨
        isNaN config.lower = true) :
    config.Unlimited where
  upper x finite above := by
    have bounded := ((isFinite_iff_le x).mp finite).2
    rcases upper with default | infinite | undefined
    · rw [default] at above
      exact LawfulFloatingPoint.not_lt_of_le bounded above
    · exact LawfulFloatingPoint.not_lt_of_le
        (LawfulFloatingPoint.le_trans bounded
          (LawfulFloatingPoint.le_of_lt infinite)) above
    · rw [(LawfulFloatingPoint.isNaN_of_lt above).1] at undefined
      cases undefined
  lower x finite below := by
    have bounded := ((isFinite_iff_le x).mp finite).1
    rcases lower with default | infinite | undefined
    · rw [default] at below
      exact LawfulFloatingPoint.not_lt_of_le bounded below
    · exact LawfulFloatingPoint.not_lt_of_le
        (LawfulFloatingPoint.le_trans
          (LawfulFloatingPoint.le_of_lt infinite) bounded) below
    · rw [(LawfulFloatingPoint.isNaN_of_lt below).2] at undefined
      cases undefined

/-- Without heuristics, such limits hinder no search. -/
theorem unhindered
    (unlimited : config.Unlimited)
    (plain : config.useHeuristics = false)
    (turns : List (Search.Turn α)) :
    Search.Unhindered config turns where
  within _ _ finite := ⟨unlimited.upper _ finite, unlimited.lower _ finite⟩
  finite heuristics := by
    rw [plain] at heuristics
    cases heuristics
  distinct heuristics := by
    rw [plain] at heuristics
    cases heuristics

end Config.Unlimited

namespace Finder

open Search

variable [FloatingPoint α] {finder : Finder σ α} {start : α}

/-- A search plays at most as many rounds as it may. -/
theorem length_turns_le
    (finder : Finder σ α)
    (rounds : Nat)
    (start : α) :
    (finder.search rounds start).1.turns.length ≤ rounds := by
  induction rounds with
  | zero => exact le_rfl
  | succ rounds hypothesis =>
      rcases finder.search_succ_cases rounds start with
        ⟨-, same⟩ | ⟨-, turn, world', -, extended⟩
      · rw [same]
        exact hypothesis.trans (Nat.le_succ rounds)
      · rw [extended]
        exact Nat.succ_le_succ hypothesis

/-- A search that makes no retry for as many rounds as steps are allowed has
ended. -/
theorem isSome_ending_of_retries_eq
    (finder : Finder σ α)
    (rounds : Nat)
    (start : α)
    (retries_eq :
      (finder.search
          (rounds +
            max 1 (max finder.config.minIterations finder.config.maxIterations))
          start).1.state.retries =
        (finder.search rounds start).1.state.retries) :
    (finder.search
      (rounds +
        max 1 (max finder.config.minIterations finder.config.maxIterations))
      start).1.ending.isSome := by
  generalize bound_eq :
    max 1 (max finder.config.minIterations finder.config.maxIterations) = bound
    at retries_eq ⊢
  by_contra unended
  have going := Option.not_isSome_iff_eq_none.mp unended
  have going_before : (finder.search rounds start).1.ending = none := by
    rw [← Option.not_isSome_iff_eq_none]
    intro ended
    rw [finder.search_add_of_ended rounds bound start ended] at unended
    exact unended ended
  -- Both searches have played all their rounds, and the later ones are accepted.
  have reached := finder.search_reaches (rounds + bound) start
  have length_eq := reached.length_turns
  have length_eq_before := (finder.search_reaches rounds start).length_turns
  rw [length_turns_of_going _ going, Record.aborts, if_neg (by simp [going])]
    at length_eq
  rw [length_turns_of_going _ going_before, Record.aborts,
    if_neg (by simp [going_before])] at length_eq_before
  have accepted_lt := reached.accepted_lt_of_going going
  rw [bound_eq] at accepted_lt
  omega

/-- A search that makes no retry, and ends within as many rounds as steps are
allowed. -/
structure Terminates (finder : Finder σ α) (start : α) : Prop where
  /-- No round is a retry. -/
  noRetry (rounds : Nat) :
    (finder.search rounds start).1.state.retries = 0 ∧
      ∀ turn ∈ (finder.search rounds start).1.turns, turn.isRetry = false
  /-- The rounds, in each of which the method is asked for one step, are at most as
  many as the larger limit, or one if both limits are zero. -/
  length_turns_le (rounds : Nat) :
    (finder.search rounds start).1.turns.length ≤
      max 1 (max finder.config.minIterations finder.config.maxIterations)
  /-- The search has an answer after so many rounds. -/
  solve :
    ∃ root,
      finder.solve
        (max 1 (max finder.config.minIterations finder.config.maxIterations))
        start = some root

/-- A search without heuristics terminates if no finite value is beyond its
limits. -/
theorem terminates_of_unlimited
    [LawfulFloatingPoint α]
    (plain : finder.config.useHeuristics = false)
    (unlimited : finder.config.Unlimited) :
    finder.Terminates start := by
  have retries_eq (rounds : Nat) :
      (finder.search rounds start).1.state.retries = 0 :=
    retries_eq_zero rounds (unlimited.unhindered plain _)
  have ended := finder.isSome_ending_of_retries_eq 0 start (retries_eq _)
  rw [Nat.zero_add] at ended
  refine
    { noRetry := fun rounds => ⟨retries_eq rounds, ?_⟩
      length_turns_le := fun rounds => ?_
      solve := ?_ }
  · have counted := (finder.search_reaches rounds start).retries_eq
    rw [retries_eq, eq_comm, List.length_eq_zero_iff, List.filter_eq_nil_iff]
      at counted
    exact fun turn member => Bool.eq_false_iff.mpr (counted turn member)
  · rcases le_total rounds
        (max 1 (max finder.config.minIterations finder.config.maxIterations)) with
      few | many
    · exact (finder.length_turns_le rounds start).trans few
    · obtain ⟨extra, rfl⟩ := Nat.exists_eq_add_of_le many
      rw [finder.search_add_of_ended _ extra start ended]
      exact finder.length_turns_le _ start
  · exact Option.isSome_iff_exists.mp
      ((Record.root?_isSome _).trans ended)

/-- Without heuristics, a search that no limit sends back terminates. -/
structure TerminationLaw (finder : Finder σ α) (start : α) : Prop where
  /-- It terminates if no finite value is beyond its limits. -/
  terminates :
    finder.config.useHeuristics = false ->
      finder.config.Unlimited ->
      finder.Terminates start
  /-- The default limits are such limits, and so are infinite ones and NaN. -/
  unlimited :
    (finder.config.upper = largest ∨ largest < finder.config.upper ∨
      isNaN finder.config.upper = true) ->
    (finder.config.lower = -largest ∨ finder.config.lower < -largest ∨
      isNaN finder.config.lower = true) ->
    finder.config.Unlimited

/-- The searches of all finders obey the law of termination, whatever the method and
the oracle are. -/
theorem search_terminationLaw
    [LawfulFloatingPoint α]
    (finder : Finder σ α)
    (start : α) :
    finder.TerminationLaw start where
  terminates := terminates_of_unlimited
  unlimited := Config.Unlimited.of_limits

/-- A search that returns to its start every second step, between a lower limit that
is NaN and an infinite upper one, is ended by the number of its steps. -/
theorem search_terminationLaw_cycle :
    let finder : Finder Unit Float :=
      .ofFunctions
        (fun x => x * x * x - 2.0 * x + 2.0)
        (fun x => 3.0 * x * x - 2.0)
        [.limits (0.0 / 0.0) (1.0 / 0.0)]
    finder.TerminationLaw 0.0 ∧
      finder.Terminates 0.0 ∧
      finder.solve 24 0.0 = none ∧
      finder.solve 25 0.0 = some 1.0 := by
  intro finder
  have law := search_terminationLaw finder 0.0
  refine ⟨law, law.terminates rfl (law.unlimited ?_ ?_), ?_, ?_⟩
  · exact Or.inr (Or.inl (by decide +kernel))
  · exact Or.inr (Or.inr (by decide +kernel))
  · decide +kernel
  · decide +kernel

end Finder
end RootFinding
