import RootFinding.Proofs.FloatingPoint.Binary
import RootFinding.Proofs.Search.Reachable

/-!
# The history of a search with heuristics

A search with heuristics keeps a list of points against cycles.  The current
point is moved by retries as well, so the list is not the list of visited
points: it holds exactly the accepted points that were reached by steps that
are not negligible (`Reaches.seen_eq`).  That its entries differ is preserved
by every round, because a candidate that is in the list is never accepted by
such a step.
-/

namespace RootFinding

open FloatingPoint

namespace Search

variable [FloatingPoint α]

/-- Whether the step of a round is longer than a negligible one. -/
def Turn.isLong (turn : Turn α) : Bool :=
  decide (negligibleStep < Arithmetic.abs (turn.candidate - turn.current))

/-- The rounds in which a candidate was accepted by a step that is not
negligible, in order. -/
def Record.longAcceptances (record : Record α) : List (Turn α) :=
  record.acceptances.filter Turn.isLong

theorem Record.longAcceptances_extend
    (config : Config α)
    (record : Record α)
    (turn : Turn α) :
    (record.extend config turn).longAcceptances =
      record.longAcceptances ++
        if turn.isAccepted && turn.isLong then [turn] else [] := by
  unfold longAcceptances
  rw [acceptances_extend, List.filter_append]
  cases turn.isAccepted <;> cases long : turn.isLong <;> simp [long]

theorem Record.mem_longAcceptances
    {record : Record α}
    {turn : Turn α} :
    turn ∈ record.longAcceptances ↔
      turn ∈ record.turns ∧ turn.isAccepted = true ∧ turn.isLong = true := by
  simp [longAcceptances, acceptances, and_comm]

/-- With heuristics, an accepted candidate is recorded exactly when its step is
not negligible. -/
theorem Turn.Fits.seen_after
    {config : Config α}
    {state : State α}
    {turn : Turn α}
    (heuristics : config.useHeuristics = true)
    (fits : turn.Fits config state) :
    (state.after turn).seen =
      if turn.isAccepted && turn.isLong then turn.candidate :: state.seen
      else state.seen := by
  have judgement := fits.judgement
  cases fits with
  | retry => rfl
  | abort => rfl
  | untested | tested =>
      simp [judgement.recorded_eq heuristics, Turn.isLong]

/-- A candidate that is accepted by a step that is not negligible is not in the
list. -/
theorem Turn.Fits.unseen
    {config : Config α}
    {state : State α}
    {turn : Turn α}
    (heuristics : config.useHeuristics = true)
    (fits : turn.Fits config state)
    (accepted : turn.isAccepted = true)
    (long : turn.isLong = true) :
    ∀ x ∈ state.seen, (x == turn.candidate) = false := by
  rw [Turn.isLong, fits.current_eq, decide_eq_true_eq] at long
  have judgement := fits.judgement
  cases fits with
  | retry => cases accepted
  | abort => cases accepted
  | untested | tested => exact judgement.unseen_of_accept heuristics long

end Search

namespace Finder.Reaches

open Search

variable [FloatingPoint α]
  {finder : Finder σ α} {start : α} {record : Record α} {world : σ}

/-- The list holds the points that were reached by steps that are not
negligible. -/
theorem seen_eq
    (heuristics : finder.config.useHeuristics = true)
    (reached : finder.Reaches start record world) :
    record.state.seen.reverse =
      record.longAcceptances.map Turn.candidate := by
  induction reached with
  | start => rfl
  | @round record world turn world' reached going played hypothesis =>
      have fits := fits_of_play played
      rw [Record.state_extend, fits.seen_after heuristics,
        Record.longAcceptances_extend, List.map_append, ← hypothesis]
      split <;> simp

/-- An entry of the list is the candidate of an earlier round that accepted it
by a step that is not negligible. -/
theorem exists_of_mem_seen
    (heuristics : finder.config.useHeuristics = true)
    (reached : finder.Reaches start record world)
    {x : α}
    (member : x ∈ record.state.seen) :
    ∃ turn ∈ record.longAcceptances, turn.candidate = x := by
  rw [← List.mem_reverse, reached.seen_eq heuristics] at member
  exact List.mem_map.mp member

theorem mem_iterates_of_mem_seen
    (heuristics : finder.config.useHeuristics = true)
    (reached : finder.Reaches start record world)
    {x : α}
    (member : x ∈ record.state.seen) :
    x ∈ record.iterates := by
  obtain ⟨turn, kept, rfl⟩ := reached.exists_of_mem_seen heuristics member
  exact List.mem_map_of_mem (List.mem_filter.mp kept).1

/-- The entries of the list differ from each other. -/
theorem pairwise_longAcceptances
    (heuristics : finder.config.useHeuristics = true)
    (reached : finder.Reaches start record world) :
    record.longAcceptances.Pairwise
      fun first second => (first.candidate == second.candidate) = false := by
  induction reached with
  | start => exact List.Pairwise.nil
  | @round record world turn world' reached going played hypothesis =>
      rw [Record.longAcceptances_extend]
      split
      case isTrue kept =>
        rw [Bool.and_eq_true] at kept
        have unseen := (fits_of_play played).unseen heuristics kept.1 kept.2
        refine List.pairwise_append.mpr
          ⟨hypothesis, List.pairwise_singleton _ _, ?_⟩
        intro first member second last
        rw [List.mem_singleton.mp last]
        apply unseen
        rw [← List.mem_reverse, reached.seen_eq heuristics]
        exact List.mem_map_of_mem member
      case isFalse =>
        rw [List.append_nil]
        exact hypothesis

/-- The list is not longer than the sequence of accepted points. -/
theorem length_seen_le
    (heuristics : finder.config.useHeuristics = true)
    (reached : finder.Reaches start record world) :
    record.state.seen.length ≤ record.acceptances.length := by
  rw [← List.length_reverse, reached.seen_eq heuristics, List.length_map]
  exact List.length_filter_le _ _

/-- An entry of the list is finite and not beyond a limit. -/
theorem of_mem_seen
    (heuristics : finder.config.useHeuristics = true)
    (reached : finder.Reaches start record world)
    {x : α}
    (member : x ∈ record.state.seen) :
    isNaN x = false ∧ isInfinite x = false ∧
      ¬finder.config.upper < x ∧ ¬x < finder.config.lower := by
  have accepted : ∀ x ∈ record.iterates,
      isNaN x = false ∧ Admits finder.config x ∧
        (finder.config.useHeuristics = true -> isInfinite x = false) :=
    reached.forall_iterates fun judgement => judgement.of_accept
  obtain ⟨defined, admitted, notInfinite⟩ :=
    accepted x (reached.mem_iterates_of_mem_seen heuristics member)
  refine ⟨defined, notInfinite heuristics, ?_⟩
  rcases admitted with infinite | admitted
  · rw [notInfinite heuristics] at infinite
    cases infinite
  · exact admitted

variable [LawfulFloatingPoint α]

/-- A cycle is a return to an earlier accepted point, and never to the current
one. -/
theorem cycle_of_retry
    (heuristics : finder.config.useHeuristics = true)
    (reached : finder.Reaches start record world)
    {later : List (Turn α)}
    {turn : Turn α}
    {earlier : List (Turn α)}
    {point : α}
    (turns_eq : record.turns = later ++ turn :: earlier)
    (retry : turn.verdict = .retry .cycle point) :
    (∃ visit ∈ earlier, visit.isAccepted = true ∧ visit.isLong = true ∧
      (visit.candidate == turn.candidate) = true) ∧
    (turn.candidate == turn.current) = false ∧
    point = halfway turn.candidate turn.current := by
  obtain ⟨before, world', reached', before_turns, fits⟩ :=
    reached.exists_before turns_eq
  have judgement := fits.judgement
  rw [retry] at judgement
  rw [fits.current_eq]
  cases judgement with
  | repeated _ defined notInfinite long seen =>
      have finite : isFinite turn.candidate = true :=
        (LawfulFloatingPoint.isFinite_iff _).mpr ⟨defined, notInfinite⟩
      have notCurrent : (turn.candidate == before.state.current) = false := by
        rw [← Bool.not_eq_true]
        intro equal
        exact LawfulFloatingPoint.not_negligibleStep_lt_of_beq finite equal long
      refine ⟨?_, notCurrent, if_neg (Bool.not_eq_true _ ▸ notCurrent)⟩
      obtain ⟨x, member, equal⟩ := List.any_eq_true.mp seen
      obtain ⟨visit, kept, rfl⟩ := reached'.exists_of_mem_seen heuristics member
      obtain ⟨visited, accepted, long⟩ := Record.mem_longAcceptances.mp kept
      rw [before_turns] at visited
      exact ⟨visit, visited, accepted, long, equal⟩

/-- A candidate that was refused for another reason than a cycle equals no entry
of the list. -/
theorem unseen_of_retry
    (heuristics : finder.config.useHeuristics = true)
    (reached : finder.Reaches start record world)
    {turn : Turn α}
    {obstacle : Obstacle}
    {point : α}
    (member : turn ∈ record.turns)
    (retry : turn.verdict = .retry obstacle point)
    (other : obstacle ≠ .cycle) :
    ∀ x ∈ record.state.seen, (x == turn.candidate) = false := by
  intro x seen
  obtain ⟨-, notInfinite, notAbove, notBelow⟩ :=
    reached.of_mem_seen heuristics seen
  obtain ⟨later, earlier, turns_eq⟩ := List.append_of_mem member
  obtain ⟨before, world', -, -, fits⟩ := reached.exists_before turns_eq
  have judgement := fits.judgement
  rw [retry] at judgement
  rw [← Bool.not_eq_true]
  intro equal
  obtain ⟨le, ge⟩ := LawfulFloatingPoint.beq_iff.mp equal
  cases judgement with
  | aboveUpper _ above =>
      exact notAbove (LawfulFloatingPoint.lt_of_lt_of_le above ge)
  | belowLower _ below =>
      exact notBelow (LawfulFloatingPoint.lt_of_le_of_lt le below)
  | infinite _ infinite =>
      rw [LawfulFloatingPoint.beq_comm] at equal
      rw [LawfulFloatingPoint.isInfinite_of_beq equal infinite] at notInfinite
      cases notInfinite
  | repeated => exact other rfl

end Finder.Reaches

namespace Finder

open Search

variable [FloatingPoint α]

/-- What the list against cycles is, and what follows from it. -/
structure HistoryLaw
    (finder : Finder σ α)
    (rounds : Nat)
    (start : α) : Prop where
  /-- The list holds the points that were accepted by steps that are not
  negligible, in order. -/
  seen_eq :
    (finder.search rounds start).1.state.seen.reverse =
      (finder.search rounds start).1.longAcceptances.map Turn.candidate
  /-- A step begins at the current point of its moment. -/
  current_eq (turn : Turn α) :
    (finder.search (rounds + 1) start).1.turns =
        turn :: (finder.search rounds start).1.turns ->
      turn.current = (finder.search rounds start).1.state.current
  isFinite_of_mem (x : α) :
    x ∈ (finder.search rounds start).1.state.seen -> isFinite x = true
  pairwise_seen :
    (finder.search rounds start).1.state.seen.Pairwise
      fun x y => (x == y) = false
  length_seen_le :
    (finder.search rounds start).1.state.seen.length ≤
      (finder.search rounds start).1.state.accepted
  /-- No point is accepted twice by steps that are not negligible. -/
  pairwise_longAcceptances :
    (finder.search rounds start).1.longAcceptances.Pairwise
      fun first second => (first.candidate == second.candidate) = false
  /-- A cycle is a return to an earlier accepted point, and never to the current
  one; the search goes on half way between the two. -/
  cycle (later : List (Turn α)) (turn : Turn α) (earlier : List (Turn α))
      (point : α) :
    (finder.search rounds start).1.turns = later ++ turn :: earlier ->
      turn.verdict = .retry .cycle point ->
      (∃ visit ∈ earlier, visit.isAccepted = true ∧ visit.isLong = true ∧
        (visit.candidate == turn.candidate) = true) ∧
      (turn.candidate == turn.current) = false ∧
      point = halfway turn.candidate turn.current
  /-- A retry leaves the list as it is. -/
  seen_of_retry (turn : Turn α) :
    (finder.search (rounds + 1) start).1.turns =
        turn :: (finder.search rounds start).1.turns ->
      turn.isRetry = true ->
      (finder.search (rounds + 1) start).1.state.seen =
        (finder.search rounds start).1.state.seen
  /-- A candidate that was beyond a limit or infinite is never in the list. -/
  unseen_of_retry (turn : Turn α) (obstacle : Obstacle) (point : α) :
    turn ∈ (finder.search rounds start).1.turns ->
      turn.verdict = .retry obstacle point ->
      obstacle ≠ .cycle ->
      ∀ x ∈ (finder.search rounds start).1.state.seen,
        (x == turn.candidate) = false

/-- The list of every search with heuristics obeys this law. -/
theorem search_historyLaw
    [LawfulFloatingPoint α]
    (finder : Finder σ α)
    (rounds : Nat)
    (start : α)
    (heuristics : finder.config.useHeuristics = true) :
    finder.HistoryLaw rounds start := by
  have reached := finder.search_reaches rounds start
  have seen_eq := reached.seen_eq heuristics
  have distinct := reached.pairwise_longAcceptances heuristics
  refine
    { seen_eq := seen_eq
      current_eq := fun turn turns_eq => (of_search_succ turns_eq).1.current_eq
      isFinite_of_mem := ?_
      pairwise_seen := ?_
      length_seen_le := ?_
      pairwise_longAcceptances := distinct
      cycle := fun later turn earlier point =>
        reached.cycle_of_retry heuristics
      seen_of_retry := ?_
      unseen_of_retry := fun turn obstacle point =>
        reached.unseen_of_retry heuristics }
  · intro x member
    obtain ⟨defined, notInfinite, -⟩ := reached.of_mem_seen heuristics member
    exact (LawfulFloatingPoint.isFinite_iff x).mpr ⟨defined, notInfinite⟩
  · rw [← List.pairwise_reverse, seen_eq, List.pairwise_map]
    refine distinct.imp ?_
    intro first second differ
    rw [LawfulFloatingPoint.beq_comm, differ]
  · rw [reached.accepted_eq]
    exact reached.length_seen_le heuristics
  · intro turn turns_eq retry
    obtain ⟨fits, state_eq⟩ := of_search_succ turns_eq
    rw [state_eq]
    cases fits with
    | retry => rfl
    | abort | untested | tested => cases retry

/-- Newton steps for `x ^ 3 - 2 * x + 2` that return from zero to one, which was
accepted before. -/
theorem search_historyLaw_cycle :
    let finder : Finder Unit Float :=
      .ofFunctions (fun x => x * x * x - 2.0 * x + 2.0)
        (fun x => 3.0 * x * x - 2.0) [.heuristics]
    finder.config.useHeuristics = true ∧
      (finder.search 3 0.0).1.state.seen = [0.0, 1.0] ∧
      (finder.search 3 0.0).1.state.current = 0.5 ∧
      finder.HistoryLaw 3 0.0 :=
  ⟨rfl, by decide +kernel, by decide +kernel, search_historyLaw _ 3 0.0 rfl⟩

end Finder
end RootFinding
