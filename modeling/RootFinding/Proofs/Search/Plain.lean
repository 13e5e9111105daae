import RootFinding.Proofs.FloatingPoint.Binary
import RootFinding.Proofs.Search.Accounts
import RootFinding.Proofs.Search.History

/-!
# Plain searches

The plain search between the largest finite values, without heuristics, has
nothing to refuse but NaN.  Limits and heuristics only ever add retries to it:
a round that is not a retry is judged as in the plain search, except that the
candidate may be recorded (`forget_judge`).  A search that makes no retry is
therefore the plain one (`search_plain`), and it makes none as long as the plain
search proposes no candidate that would be refused (`retries_eq_zero`).
-/

namespace RootFinding

open FloatingPoint

/-- The configuration with the same method and the same stopping parameters that
leaves everything else at the defaults. -/
def Config.plain [FloatingPoint α] (config : Config α) : Config α :=
  { Config.default with
    method := config.method
    minIterations := config.minIterations
    maxIterations := config.maxIterations
    targetPrecision := config.targetPrecision }

/-- The finder of the same function with the plain configuration. -/
def Finder.plain [FloatingPoint α] (finder : Finder σ α) : Finder σ α :=
  { finder with config := finder.config.plain }

/-- Forget whether a candidate is recorded. -/
def Verdict.forget : Verdict α -> Verdict α
  | .retry obstacle point => .retry obstacle point
  | .abort => .abort
  | .accept _ => .accept false

namespace Search

/-- Forget whether the candidate of a round is recorded. -/
def Turn.forget (turn : Turn α) : Turn α :=
  { turn with verdict := turn.verdict.forget }

/-- Forget the recorded candidates. -/
def State.forget (state : State α) : State α :=
  { state with seen := [] }

/-- Forget everything about recorded candidates. -/
def Record.forget (record : Record α) : Record α where
  state := record.state.forget
  turns := record.turns.map Turn.forget
  ending := record.ending

/-- There was no retry if none is counted after a round. -/
theorem State.retries_after_eq_zero
    {state : State α}
    {turn : Turn α}
    (noRetry : (state.after turn).retries = 0) :
    state.retries = 0 ∧ turn.verdict.isRetry = false := by
  obtain ⟨current, candidate, verdict, test⟩ := turn
  cases verdict with
  | retry => cases noRetry
  | abort => exact ⟨noRetry, rfl⟩
  | accept => exact ⟨noRetry, rfl⟩

/-- A round that is no retry is not counted as one. -/
theorem State.retries_after
    {state : State α}
    {turn : Turn α}
    (noRetry : turn.verdict.isRetry = false) :
    (state.after turn).retries = state.retries := by
  obtain ⟨current, candidate, verdict, test⟩ := turn
  cases verdict with
  | retry => cases noRetry
  | abort => rfl
  | accept => rfl

theorem State.forget_after (state : State α) (turn : Turn α) :
    (state.after turn).forget = state.forget.after turn.forget := by
  obtain ⟨current, candidate, verdict, test⟩ := turn
  cases verdict <;> rfl

variable [FloatingPoint α]

/-- Without a history, a further round is the same round. -/
theorem Record.forget_extend
    (config : Config α)
    (record : Record α)
    (turn : Turn α) :
    (record.extend config turn).forget =
      record.forget.extend config.plain turn.forget := by
  have ending_eq :
      config.ending? (record.state.after turn) turn =
        config.plain.ending? (record.forget.state.after turn.forget)
          turn.forget := by
    obtain ⟨current, candidate, verdict, test⟩ := turn
    cases verdict with
    | retry => rfl
    | abort => rfl
    | accept => cases test <;> rfl
  simp only [Record.forget, Record.extend, State.forget_after, ending_eq,
    List.map_cons]

/-! ## Judgements -/

/-- The plain configuration refuses nothing but NaN. -/
theorem judge_plain
    (config : Config α)
    (state : State α)
    (candidate : α) :
    config.plain.judge state candidate =
      if isNaN candidate = true then .abort else .accept false := by
  have judgement := judgement_judge config.plain state candidate
  generalize config.plain.judge state candidate = verdict at judgement ⊢
  cases judgement with
  | aboveUpper notInfinite above =>
      have infinite := (isInfinite_iff_lt candidate).mpr (Or.inl above)
      rw [infinite] at notInfinite
      cases notInfinite
  | belowLower notInfinite below =>
      have infinite := (isInfinite_iff_lt candidate).mpr (Or.inr below)
      rw [infinite] at notInfinite
      cases notInfinite
  | undefined undefined => rw [if_pos undefined]
  | plain heuristics defined => simp [defined]
  | infinite heuristics => cases heuristics
  | repeated heuristics => cases heuristics
  | fresh heuristics => cases heuristics
  | negligible heuristics => cases heuristics

/-- A candidate that is not refused for now is judged as in the plain
configuration, but for being recorded. -/
theorem forget_judge
    (config : Config α)
    (state : State α)
    (candidate : α)
    (noRetry : (config.judge state candidate).isRetry = false)
    (state' : State α) :
    (config.judge state candidate).forget =
      config.plain.judge state' candidate := by
  rw [judge_plain]
  have judgement := judgement_judge config state candidate
  generalize config.judge state candidate = verdict at judgement noRetry ⊢
  cases verdict with
  | retry => cases noRetry
  | abort =>
      cases judgement with
      | undefined undefined => rw [if_pos undefined]; rfl
  | accept =>
      rw [judgement.of_accept.1]
      rfl

/-- A candidate within the limits that is finite or NaN and returns to no
recorded point is not refused for now; without heuristics, it may be infinite
or a return. -/
theorem isRetry_judge
    (config : Config α)
    (state : State α)
    (candidate : α)
    (within : isInfinite candidate = false -> Admits config candidate)
    (finite : config.useHeuristics = true -> isInfinite candidate = false)
    (unseen :
      config.useHeuristics = true ->
        negligibleStep < Arithmetic.abs (candidate - state.current) ->
        state.seen.any (· == candidate) = false) :
    (config.judge state candidate).isRetry = false := by
  have judgement := judgement_judge config state candidate
  generalize config.judge state candidate = verdict at judgement ⊢
  cases judgement with
  | aboveUpper notInfinite above =>
      rcases within notInfinite with infinite | admitted
      · rw [notInfinite] at infinite
        cases infinite
      · exact absurd above admitted.1
  | belowLower notInfinite below =>
      rcases within notInfinite with infinite | admitted
      · rw [notInfinite] at infinite
        cases infinite
      · exact absurd below admitted.2
  | infinite heuristics infinite =>
      rw [finite heuristics] at infinite
      cases infinite
  | repeated heuristics defined notInfinite long seen =>
      rw [unseen heuristics long] at seen
      cases seen
  | undefined | fresh | negligible | plain => rfl

/-- A candidate that is not refused for now is tested as in the plain search. -/
theorem testAfter_plain
    (config : Config α)
    (state : State α)
    (candidate : α)
    (noRetry : (config.judge state candidate).isRetry = false) :
    testAfter config.plain state.forget candidate =
      testAfter config state candidate := by
  have same := forget_judge config state candidate noRetry state.forget
  unfold testAfter
  rw [← same]
  cases judged : config.judge state candidate with
  | retry => rfl
  | abort => rfl
  | accept => rfl

end Search

namespace Finder

open Search

variable [FloatingPoint α] {finder : Finder σ α} {start : α}

/-- A round that is not a retry is played by the plain finder as well. -/
theorem play_plain
    {state : State α}
    {world : σ}
    {turn : Turn α}
    {world' : σ}
    (played : finder.play state world = (turn, world'))
    (noRetry : turn.verdict.isRetry = false) :
    finder.plain.play state.forget world = (turn.forget, world') := by
  rw [play, round_eq_bind, Inquiry.run_bind, Inquiry.run_bind,
    Inquiry.run_answer] at played ⊢
  change (_, _) = _ at played
  generalize proposed :
    (finder.config.method.step state.current).run finder.oracle world = step
    at played
  obtain ⟨candidate, between⟩ := step
  obtain ⟨rfl, rfl⟩ := Prod.mk.inj played
  have proposed_plain :
      (finder.plain.config.method.step state.forget.current).run
        finder.plain.oracle world = (candidate, between) := proposed
  rw [proposed_plain]
  dsimp only at noRetry ⊢
  rw [show finder.plain.config = finder.config.plain from rfl,
    testAfter_plain _ _ _ noRetry,
    ← forget_judge _ _ _ noRetry state.forget]
  rfl

/-- As long as a search has made no retry, it is the plain one. -/
theorem search_plain
    (rounds : Nat)
    (noRetry : (finder.search rounds start).1.state.retries = 0) :
    finder.plain.search rounds start =
      ((finder.search rounds start).1.forget,
        (finder.search rounds start).2) := by
  induction rounds with
  | zero => rfl
  | succ rounds hypothesis =>
      rcases finder.search_succ_cases rounds start with
        ⟨ended, same⟩ | ⟨going, turn, world', played, extended⟩
      · rw [same] at noRetry ⊢
        have plain := hypothesis noRetry
        rw [search_succ_of_ended, plain]
        rw [plain]
        exact ended
      · rw [extended] at noRetry ⊢
        obtain ⟨earlier, notRetry⟩ := State.retries_after_eq_zero noRetry
        have plain := hypothesis earlier
        have played_plain := play_plain played notRetry
        rw [search_succ_of_going _ rounds start (by rw [plain]; exact going),
          plain, show (Record.forget _).state = State.forget _ from rfl,
          played_plain, Record.forget_extend]
        rfl

/-- A further round, if there is one, leaves the earlier ones as they are. -/
theorem turns_suffix (finder : Finder σ α) (rounds : Nat) (start : α) :
    (finder.search rounds start).1.turns <:+
      (finder.search (rounds + 1) start).1.turns := by
  rcases finder.search_succ_cases rounds start with
    ⟨-, same⟩ | ⟨-, turn, world', -, extended⟩
  · rw [same]
  · rw [extended]
    exact List.suffix_cons _ _

end Finder

/-! ## Candidates that are not refused -/

namespace Search

variable [FloatingPoint α]

/-- Rounds whose candidates a configuration does not refuse for now: finite ones
are within the limits, and with heuristics all of them are finite or NaN, and
no two that are reached by steps that are not negligible are equal. -/
structure Unhindered (config : Config α) (turns : List (Turn α)) : Prop where
  within :
    ∀ turn ∈ turns, isFinite turn.candidate = true ->
      ¬config.upper < turn.candidate ∧ ¬turn.candidate < config.lower
  finite :
    config.useHeuristics = true ->
      ∀ turn ∈ turns,
        isFinite turn.candidate = true ∨ isNaN turn.candidate = true
  distinct :
    config.useHeuristics = true ->
      turns.Pairwise fun later earlier =>
        later.isLong = true -> earlier.isLong = true ->
          (later.candidate == earlier.candidate) = false

theorem Unhindered.of_suffix
    {config : Config α}
    {earlier turns : List (Turn α)}
    (unhindered : Unhindered config turns)
    (isSuffix : earlier <:+ turns) :
    Unhindered config earlier where
  within turn member := unhindered.within turn (isSuffix.subset member)
  finite heuristics turn member :=
    unhindered.finite heuristics turn (isSuffix.subset member)
  distinct heuristics :=
    (unhindered.distinct heuristics).sublist isSuffix.sublist

/-- The point of a round and the candidate that was proposed there. -/
def Turn.proposal (turn : Turn α) : α × α :=
  (turn.current, turn.candidate)

omit [FloatingPoint α] in
theorem map_proposal_forget (turns : List (Turn α)) :
    (turns.map Turn.forget).map Turn.proposal = turns.map Turn.proposal := by
  rw [List.map_map]
  rfl

/-- Whether rounds are hindered depends on what was proposed in them only. -/
theorem Unhindered.congr
    {config : Config α}
    {turns turns' : List (Turn α)}
    (unhindered : Unhindered config turns)
    (same : turns.map Turn.proposal = turns'.map Turn.proposal) :
    Unhindered config turns' := by
  have proposed {turn : Turn α} (member : turn ∈ turns') :
      ∃ turn' ∈ turns, turn'.candidate = turn.candidate := by
    have mapped := List.mem_map_of_mem (f := Turn.proposal) member
    rw [← same] at mapped
    obtain ⟨turn', member', proposal_eq⟩ := List.mem_map.mp mapped
    exact ⟨turn', member', (Prod.mk.inj proposal_eq).2⟩
  refine
    { within := fun turn member => ?_
      finite := fun heuristics turn member => ?_
      distinct := fun heuristics => ?_ }
  · obtain ⟨turn', member', candidate_eq⟩ := proposed member
    rw [← candidate_eq]
    exact unhindered.within turn' member'
  · obtain ⟨turn', member', candidate_eq⟩ := proposed member
    rw [← candidate_eq]
    exact unhindered.finite heuristics turn' member'
  · let differ : α × α -> α × α -> Prop := fun later earlier =>
      negligibleStep < Arithmetic.abs (later.2 - later.1) ->
        negligibleStep < Arithmetic.abs (earlier.2 - earlier.1) ->
          (later.2 == earlier.2) = false
    have distinct := unhindered.distinct heuristics
    simp only [Turn.isLong, decide_eq_true_eq] at distinct ⊢
    have mapped : (turns.map Turn.proposal).Pairwise differ :=
      List.pairwise_map.mpr distinct
    rw [same] at mapped
    exact List.pairwise_map.mp mapped

end Search

namespace Finder

open Search

variable [FloatingPoint α] [LawfulFloatingPoint α]
  {finder : Finder σ α} {start : α}

/-- A round is no retry if its candidate does not hinder the plain search. -/
theorem isRetry_of_unhindered
    {record : Record α}
    {world : σ}
    {turn : Turn α}
    {world' : σ}
    (reached : finder.Reaches start record world)
    (played : finder.play record.state world = (turn, world'))
    (unhindered :
      Unhindered finder.config (turn :: record.turns)) :
    turn.verdict.isRetry = false := by
  have fits := fits_of_play played
  rw [← fits.judged]
  refine isRetry_judge finder.config record.state turn.candidate ?_ ?_ ?_
  · intro notInfinite
    cases undefined : isNaN turn.candidate with
    | true =>
        -- NaN is beyond neither limit, since it compares with nothing.
        refine Or.inr ⟨fun above => ?_, fun below => ?_⟩
        · rw [(LawfulFloatingPoint.isNaN_of_lt above).2] at undefined
          cases undefined
        · rw [(LawfulFloatingPoint.isNaN_of_lt below).1] at undefined
          cases undefined
    | false =>
        have finite := (LawfulFloatingPoint.isFinite_iff turn.candidate).mpr
          ⟨undefined, notInfinite⟩
        exact Or.inr (unhindered.within turn List.mem_cons_self finite)
  · intro heuristics
    rcases unhindered.finite heuristics turn List.mem_cons_self with
      finite | undefined
    · exact ((LawfulFloatingPoint.isFinite_iff _).mp finite).2
    · rw [← Bool.not_eq_true]
      intro infinite
      rw [LawfulFloatingPoint.isNaN_of_isInfinite infinite] at undefined
      cases undefined
  · intro heuristics long
    have distinct :=
      (List.pairwise_cons.mp (unhindered.distinct heuristics)).1
    rw [← fits.current_eq] at long
    rw [List.any_eq_false]
    intro x seen equal
    obtain ⟨visit, kept, rfl⟩ := reached.exists_of_mem_seen heuristics seen
    obtain ⟨visited, -, visit_long⟩ := Record.mem_longAcceptances.mp kept
    rw [LawfulFloatingPoint.beq_comm,
      distinct visit visited (decide_eq_true long) visit_long] at equal
    cases equal

omit [LawfulFloatingPoint α] in
/-- In the same state, the plain search proposes the same candidate. -/
theorem proposal_of_play_plain
    {state : State α}
    {world : σ}
    {turn turn' : Turn α}
    {final final' : σ}
    (played : finder.play state world = (turn, final))
    (played_plain : finder.plain.play state.forget world = (turn', final')) :
    turn'.proposal = turn.proposal := by
  refine Prod.ext ?_ ?_
  · exact (fits_of_play played_plain).current_eq.trans
      (fits_of_play played).current_eq.symm
  · exact (candidate_of_play played_plain).trans
      (candidate_of_play played).symm

/-- A search makes no retry as long as the plain search is not hindered. -/
theorem retries_eq_zero
    (rounds : Nat)
    (unhindered :
      Unhindered finder.config (finder.plain.search rounds start).1.turns) :
    (finder.search rounds start).1.state.retries = 0 := by
  induction rounds with
  | zero => rfl
  | succ rounds hypothesis =>
      have noRetry := hypothesis
        (unhindered.of_suffix (finder.plain.turns_suffix rounds start))
      have plain := search_plain rounds noRetry
      rcases finder.search_succ_cases rounds start with
        ⟨-, same⟩ | ⟨going, turn, world', played, extended⟩
      · rw [same]
        exact noRetry
      · rcases finder.plain.search_succ_cases rounds start with
          ⟨ended, -⟩ | ⟨-, turn', _, played_plain, extended_plain⟩
        · rw [plain, show (Record.forget _).ending = _ from going] at ended
          cases ended
        · rw [plain] at played_plain
          rw [extended_plain, plain] at unhindered
          have proposal_eq := proposal_of_play_plain played played_plain
          have proposed :
              (((finder.search rounds start).1.forget.extend
                finder.plain.config turn').turns.map Turn.proposal) =
                (turn :: (finder.search rounds start).1.turns).map
                  Turn.proposal := by
            rw [Record.turns_extend, List.map_cons, List.map_cons, proposal_eq]
            exact congrArg _ (map_proposal_forget _)
          have notRetry :=
            isRetry_of_unhindered (finder.search_reaches rounds start) played
              (unhindered.congr proposed)
          rw [extended]
          exact (State.retries_after notRetry).trans noRetry

/-! ## Steps of a search without retries -/

omit [LawfulFloatingPoint α] in
/-- A search that is going on has played all its rounds. -/
theorem length_turns_of_going
    (rounds : Nat)
    (going : (finder.search rounds start).1.ending = none) :
    (finder.search rounds start).1.turns.length = rounds := by
  induction rounds with
  | zero => rfl
  | succ rounds hypothesis =>
      rcases finder.search_succ_cases rounds start with
        ⟨ended, same⟩ | ⟨earlier, turn, world', -, extended⟩
      · rw [same] at going
        rw [going] at ended
        cases ended
      · rw [extended, Record.turns_extend, List.length_cons,
          hypothesis earlier]

omit [LawfulFloatingPoint α] in
/-- A search without retries that is going on has accepted a point in every
round. -/
theorem length_iterates_of_going
    (rounds : Nat)
    (going : (finder.search rounds start).1.ending = none)
    (noRetry : (finder.search rounds start).1.state.retries = 0) :
    (finder.search rounds start).1.iterates.length = rounds := by
  have reached := finder.search_reaches rounds start
  have turns_eq := reached.length_turns
  rw [length_turns_of_going rounds going, reached.accepted_eq, noRetry,
    Record.aborts, going] at turns_eq
  rw [Record.iterates, List.length_map]
  simpa using turns_eq.symm

omit [LawfulFloatingPoint α] in
/-- Without a retry, the current point is the last accepted one, or the start. -/
theorem Reaches.getElem?_current
    {record : Record α}
    {world : σ}
    (reached : finder.Reaches start record world)
    (noRetry : record.state.retries = 0) :
    (start :: record.iterates)[record.iterates.length]? =
      some record.state.current := by
  induction reached with
  | start => rfl
  | round reached going played hypothesis =>
      have earlier := hypothesis (State.retries_after_eq_zero noRetry).1
      rw [Record.iterates_extend]
      cases fits_of_play played with
      | retry => cases noRetry
      | abort => simpa using earlier
      | untested | tested => simp

omit [LawfulFloatingPoint α] in
/-- Without a retry, the candidate of a further round is the step from the last
accepted point. -/
theorem step_of_played
    {rounds : Nat}
    {point : α}
    {turn : Turn α}
    {world' : σ}
    (noRetry : (finder.search rounds start).1.state.retries = 0)
    (played :
      finder.play (finder.search rounds start).1.state
        (finder.search rounds start).2 = (turn, world'))
    (point_eq :
      (start :: (finder.search rounds start).1.iterates)[
        (finder.search rounds start).1.iterates.length]? = some point) :
    ((finder.config.method.step point).run
      finder.oracle (finder.search rounds start).2).1 = turn.candidate := by
  have reached := finder.search_reaches rounds start
  rw [reached.getElem?_current noRetry] at point_eq
  rw [← Option.some.inj point_eq, candidate_of_play played]

omit [LawfulFloatingPoint α] in
/-- Without a retry, every accepted point is the step from the one before, with
the oracle in the state in which the earlier rounds have left it. -/
theorem step_of_noRetry
    (rounds : Nat)
    (noRetry : (finder.search rounds start).1.state.retries = 0)
    {index : Nat}
    {point next : α}
    (point_eq :
      (start :: (finder.search rounds start).1.iterates)[index]? = some point)
    (next_eq : (finder.search rounds start).1.iterates[index]? = some next) :
    ((finder.config.method.step point).run
      finder.oracle (finder.search index start).2).1 = next := by
  induction rounds with
  | zero => cases next_eq
  | succ rounds hypothesis =>
      rcases finder.search_succ_cases rounds start with
        ⟨-, same⟩ | ⟨going, turn, world', played, extended⟩
      · rw [same] at noRetry point_eq next_eq
        exact hypothesis noRetry point_eq next_eq
      · rw [extended] at noRetry point_eq next_eq
        rw [Record.iterates_extend] at point_eq next_eq
        obtain ⟨earlier, -⟩ := State.retries_after_eq_zero noRetry
        have length_eq := length_iterates_of_going rounds going earlier
        rcases Nat.lt_or_ge index (finder.search rounds start).1.iterates.length
          with before | last
        · rw [← List.cons_append,
            List.getElem?_append_left (by simp; omega)] at point_eq
          rw [List.getElem?_append_left before] at next_eq
          exact hypothesis earlier point_eq next_eq
        · -- The last accepted point is the candidate of this round.
          rw [List.getElem?_append_right last] at next_eq
          obtain ⟨index_eq, rfl⟩ :
              index = (finder.search rounds start).1.iterates.length ∧
                turn.candidate = next := by
            cases kind : turn.isAccepted with
            | false => simp [kind] at next_eq
            | true =>
                simp only [kind, if_true, List.getElem?_singleton] at next_eq
                split at next_eq
                case isTrue same => exact ⟨by omega, Option.some.inj next_eq⟩
                case isFalse => cases next_eq
          rw [index_eq, ← List.cons_append,
            List.getElem?_append_left (by simp)] at point_eq
          rw [index_eq, length_eq]
          exact step_of_played earlier played point_eq

/-! ## Limits and heuristics as an extension -/

/-- Two finders play the same rounds, but for what is recorded, ask the same
questions in the same order, and have the same answer. -/
structure SameRun
    (finder finder' : Finder σ α)
    (rounds : Nat)
    (start : α) : Prop where
  turns :
    (finder.search rounds start).1.turns.map Turn.forget =
      (finder'.search rounds start).1.turns.map Turn.forget
  transcript :
    finder.transcript rounds start = finder'.transcript rounds start
  solve :
    finder.solve rounds start = finder'.solve rounds start

omit [LawfulFloatingPoint α] in
/-- A search that makes no retry is the same run as the plain one. -/
theorem sameRun_plain
    (rounds : Nat)
    (noRetry : (finder.search rounds start).1.state.retries = 0) :
    finder.SameRun finder.plain rounds start := by
  have same := search_plain rounds noRetry
  refine { turns := ?_, transcript := ?_, solve := ?_ }
  · rw [same]
    change _ = ((finder.search rounds start).1.turns.map Turn.forget).map _
    rw [List.map_map]
    refine List.map_congr_left fun turn _ => ?_
    obtain ⟨current, candidate, verdict, test⟩ := turn
    cases verdict <;> rfl
  · rw [← finder.search_recorded] at noRetry
    have kept := search_plain rounds noRetry
    exact congrArg (fun final => final.2.2.reverse) kept.symm
  · rw [solve, solve, same]
    rfl

/-- Limits and heuristics extend the plain search: all they can do is retry. -/
structure Conservative
    (finder : Finder σ α)
    (rounds : Nat)
    (start : α) : Prop where
  /-- Without a retry, the first accepted point is the step from the start, and
  every other one the step from the one before, with the oracle in the state in
  which the earlier rounds have left it. -/
  step (index : Nat) (point next : α) :
    (finder.search rounds start).1.state.retries = 0 ->
      (start :: (finder.search rounds start).1.iterates)[index]? =
        some point ->
      (finder.search rounds start).1.iterates[index]? = some next ->
      ((finder.config.method.step point).run
        finder.oracle (finder.search index start).2).1 = next
  /-- Without a retry, the search is the plain one. -/
  sameRun_of_noRetry :
    (finder.search rounds start).1.state.retries = 0 ->
      finder.SameRun finder.plain rounds start
  /-- As long as the plain search is not hindered, there is no retry. -/
  sameRun_of_unhindered :
    Unhindered finder.config (finder.plain.search rounds start).1.turns ->
      (finder.search rounds start).1.state.retries = 0 ∧
        finder.SameRun finder.plain rounds start

/-- The limits and the heuristics of every finder extend the plain search. -/
theorem search_conservative
    (finder : Finder σ α)
    (rounds : Nat)
    (start : α) :
    finder.Conservative rounds start where
  step _ _ _ noRetry := step_of_noRetry rounds noRetry
  sameRun_of_noRetry := sameRun_plain rounds
  sameRun_of_unhindered unhindered :=
    have noRetry := retries_eq_zero rounds unhindered
    ⟨noRetry, sameRun_plain rounds noRetry⟩

/-- The search for the square root of 612 with limits that are not met and with
heuristics. -/
theorem search_conservative_squareRoot :
    let finder : Finder Unit Float :=
      .ofFunctions (fun x => x * x - 612.0) (fun x => 2.0 * x)
        [.limits 0.0 50.0, .heuristics]
    Unhindered finder.config (finder.plain.search 9 10.0).1.turns ∧
      finder.solve 9 10.0 = some 24.73863375370596 ∧
      finder.Conservative 9 10.0 :=
  ⟨{ within := by decide +kernel
     finite := fun _ => by decide +kernel
     distinct := fun _ => by decide +kernel },
    by decide +kernel, search_conservative _ 9 10.0⟩

end Finder
end RootFinding
