import RootFinding.Proofs.FloatingPoint.Binary
import RootFinding.Proofs.Search.Reachable

/-!
# The limits of a search

The current point of a search may lie beyond the limits: it may start there, and
a retry may move it there.  Only an accepted point may not, unless it is
infinite.  `Permitted` says which points the checks let through; it is a
property of single points, so it carries over from one round to every search
(`Finder.Reaches.permitted_of_mem_iterates`), and an answer that is not NaN is
one of the accepted points.
-/

namespace RootFinding

open FloatingPoint

namespace Search

variable [FloatingPoint α]

/-- A point between the limits, or at one of them. -/
def Within (config : Config α) (x : α) : Prop :=
  config.lower ≤ x ∧ x ≤ config.upper

/-- The points that a search may accept. -/
inductive Permitted (config : Config α) (x : α) : Prop where
  | finite
      (finite : isFinite x = true)
      (within : Within config x)
  | infinite
      (heuristics : config.useHeuristics = false)
      (infinite : isInfinite x = true)

variable [LawfulFloatingPoint α]

/-- Only permitted points are accepted, if neither limit is NaN. -/
theorem Judgement.permitted
    {config : Config α}
    {state : State α}
    {candidate : α}
    {recorded : Bool}
    (lower : isNaN config.lower = false)
    (upper : isNaN config.upper = false)
    (judgement : Judgement config state candidate (.accept recorded)) :
    Permitted config candidate := by
  obtain ⟨defined, admitted, notInfinite⟩ := judgement.of_accept
  cases infinite : isInfinite candidate with
  | true =>
      refine .infinite ?_ infinite
      cases heuristics : config.useHeuristics with
      | true =>
          rw [notInfinite heuristics] at infinite
          cases infinite
      | false => rfl
  | false =>
      refine .finite ?_ ?_
      · exact (LawfulFloatingPoint.isFinite_iff candidate).mpr
          ⟨defined, infinite⟩
      · rcases admitted with beyond | ⟨notAbove, notBelow⟩
        · rw [beyond] at infinite
          cases infinite
        · exact ⟨LawfulFloatingPoint.le_of_not_lt lower defined notBelow,
            LawfulFloatingPoint.le_of_not_lt defined upper notAbove⟩

namespace Permitted

variable {config : Config α} {x : α}

theorem within_of_isFinite
    (permitted : Permitted config x)
    (finite : isFinite x = true) :
    Within config x := by
  cases permitted with
  | finite _ within => exact within
  | infinite _ infinite =>
      rw [((LawfulFloatingPoint.isFinite_iff x).mp finite).2] at infinite
      cases infinite

omit [LawfulFloatingPoint α] in
theorem isFinite_of_heuristics
    (permitted : Permitted config x)
    (heuristics : config.useHeuristics = true) :
    isFinite x = true := by
  cases permitted with
  | finite finite => exact finite
  | infinite disabled =>
      rw [heuristics] at disabled
      cases disabled

omit [LawfulFloatingPoint α] in
theorem isInfinite_of_not_within
    (permitted : Permitted config x)
    (outside : ¬Within config x) :
    isInfinite x = true := by
  cases permitted with
  | finite _ within => exact absurd within outside
  | infinite _ infinite => exact infinite

/-- Limits in the wrong order permit no finite point. -/
theorem isFinite_of_upper_lt_lower
    (permitted : Permitted config x)
    (crossed : config.upper < config.lower) :
    isFinite x = false := by
  rw [← Bool.not_eq_true]
  intro finite
  have within := permitted.within_of_isFinite finite
  have ordered := LawfulFloatingPoint.le_trans within.1 within.2
  exact LawfulFloatingPoint.not_lt_of_le ordered crossed

end Permitted
end Search

namespace Finder

open Search

variable [FloatingPoint α] [LawfulFloatingPoint α]

theorem Reaches.permitted_of_mem_iterates
    {finder : Finder σ α}
    {start : α}
    {record : Record α}
    {world : σ}
    (lower : isNaN finder.config.lower = false)
    (upper : isNaN finder.config.upper = false)
    (reached : finder.Reaches start record world) :
    ∀ x ∈ record.iterates, Permitted finder.config x :=
  reached.forall_iterates fun judgement => judgement.permitted lower upper

/-- What the limits guarantee of a search. -/
structure Confined
    (finder : Finder σ α)
    (rounds : Nat)
    (start : α) : Prop where
  /-- Finite points are accepted between the limits only. -/
  within_of_isFinite (x : α) :
    x ∈ (finder.search rounds start).1.iterates ->
      isFinite x = true ->
      Within finder.config x
  /-- With heuristics, only finite points are accepted. -/
  isFinite_of_heuristics (x : α) :
    finder.config.useHeuristics = true ->
      x ∈ (finder.search rounds start).1.iterates ->
      isFinite x = true
  /-- With heuristics, an answer is NaN or a finite point between the limits. -/
  answer_with_heuristics (root : α) :
    finder.config.useHeuristics = true ->
      finder.solve rounds start = some root ->
      isInfinite root = false ∧
        (isNaN root = true ∨
          isFinite root = true ∧ Within finder.config root)
  /-- Only infinities are accepted elsewhere than between the limits. -/
  isInfinite_of_not_within (x : α) :
    x ∈ (finder.search rounds start).1.iterates ->
      ¬Within finder.config x ->
      isInfinite x = true
  /-- Only infinities and NaN are answers elsewhere than between the limits. -/
  answer_of_not_within (root : α) :
    finder.solve rounds start = some root ->
      ¬Within finder.config root ->
      isNaN root = true ∨ isInfinite root = true
  /-- Limits in the wrong order leave no finite point to accept. -/
  isFinite_of_upper_lt_lower (x : α) :
    finder.config.upper < finder.config.lower ->
      x ∈ (finder.search rounds start).1.iterates ->
      isFinite x = false
  /-- Limits in the wrong order leave no finite answer. -/
  answer_of_upper_lt_lower (root : α) :
    finder.config.upper < finder.config.lower ->
      finder.solve rounds start = some root ->
      isFinite root = false

/-- The limits of a finder confine its searches, if neither of them is NaN. -/
theorem search_confined
    (finder : Finder σ α)
    (rounds : Nat)
    (start : α)
    (lower : isNaN finder.config.lower = false)
    (upper : isNaN finder.config.upper = false) :
    finder.Confined rounds start := by
  have reached := finder.search_reaches rounds start
  have permitted := reached.permitted_of_mem_iterates lower upper
  refine
    { within_of_isFinite := fun x member finite =>
        (permitted x member).within_of_isFinite finite
      isFinite_of_heuristics := fun x heuristics member =>
        (permitted x member).isFinite_of_heuristics heuristics
      answer_with_heuristics := ?_
      isInfinite_of_not_within := fun x member outside =>
        (permitted x member).isInfinite_of_not_within outside
      answer_of_not_within := ?_
      isFinite_of_upper_lt_lower := fun x crossed member =>
        (permitted x member).isFinite_of_upper_lt_lower crossed
      answer_of_upper_lt_lower := ?_ }
  · intro root heuristics solved
    rcases isNaN_or_mem_iterates_of_solve solved with undefined | member
    · refine ⟨?_, Or.inl undefined⟩
      rw [← Bool.not_eq_true]
      intro infinite
      rw [LawfulFloatingPoint.isNaN_of_isInfinite infinite] at undefined
      cases undefined
    · have finite := (permitted root member).isFinite_of_heuristics heuristics
      exact ⟨((LawfulFloatingPoint.isFinite_iff root).mp finite).2,
        Or.inr ⟨finite, (permitted root member).within_of_isFinite finite⟩⟩
  · intro root solved outside
    rcases isNaN_or_mem_iterates_of_solve solved with undefined | member
    · exact Or.inl undefined
    · exact Or.inr ((permitted root member).isInfinite_of_not_within outside)
  · intro root crossed solved
    rcases isNaN_or_mem_iterates_of_solve solved with undefined | member
    · rw [← Bool.not_eq_true, LawfulFloatingPoint.isFinite_iff, undefined]
      intro finite
      cases finite.1
    · exact (permitted root member).isFinite_of_upper_lt_lower crossed

/-- The search for the square root of 612 between 20 and 30 that starts below
the lower limit. -/
theorem search_confined_squareRoot :
    let finder : Finder Unit Float :=
      .ofFunctions (fun x => x * x - 612.0) (fun x => 2.0 * x)
        [.limits 20.0 30.0, .heuristics]
    isNaN finder.config.lower = false ∧
      isNaN finder.config.upper = false ∧
      finder.solve 10 10.0 = some 24.73863375370596 ∧
      finder.Confined 10 10.0 :=
  ⟨by decide +kernel, by decide +kernel, by decide +kernel,
    search_confined _ 10 10.0 (by decide +kernel) (by decide +kernel)⟩

end Finder
end RootFinding
