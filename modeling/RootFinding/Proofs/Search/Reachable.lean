import RootFinding.Finder
import RootFinding.Proofs.Search.Judgement

/-!
# Reachable records

A search is at first where it started, and goes on by rounds until it has ended.
`Finder.Reaches` says so inductively; the record of every search is reachable
(`Finder.search_reaches`), whatever the number of rounds, so that what holds at
the start and survives a round holds at every moment of every search.

The calls of a search are those of the same search over an oracle that keeps
them (`Finder.transcript`).
-/

namespace RootFinding

open Search

namespace Finder

variable [FloatingPoint α]

/-- One round of a search, and the state in which it leaves the oracle. -/
def play
    (finder : Finder σ α)
    (state : State α)
    (world : σ) : Turn α × σ :=
  (round finder.config state).run finder.oracle world

theorem fits_of_play
    {finder : Finder σ α}
    {state : State α}
    {world : σ}
    {turn : Turn α}
    {world' : σ}
    (played : finder.play state world = (turn, world')) :
    turn.Fits finder.config state := by
  have fits := round_fits finder.config state finder.oracle world
  rw [show (round finder.config state).run finder.oracle world =
    (turn, world') from played] at fits
  exact fits

/-- A round is a step and a test. -/
theorem exists_between_of_play
    {finder : Finder σ α}
    {state : State α}
    {world : σ}
    {turn : Turn α}
    {world' : σ}
    (played : finder.play state world = (turn, world')) :
    ∃ between,
      (finder.config.method.step state.current).run finder.oracle world =
          (turn.candidate, between) ∧
        (testAfter finder.config state turn.candidate).run
            finder.oracle between = (turn.test, world') := by
  rw [play, round_eq_bind, Inquiry.run_bind, Inquiry.run_bind,
    Inquiry.run_answer] at played
  obtain ⟨rfl, rfl⟩ := Prod.mk.inj played
  exact ⟨_, rfl, rfl⟩

/-- The candidate of a round is what the method proposes at the current
point. -/
theorem candidate_of_play
    {finder : Finder σ α}
    {state : State α}
    {world : σ}
    {turn : Turn α}
    {world' : σ}
    (played : finder.play state world = (turn, world')) :
    turn.candidate =
      ((finder.config.method.step state.current).run
        finder.oracle world).1 := by
  obtain ⟨between, stepped, -⟩ := exists_between_of_play played
  rw [stepped]

/-- The test of a round is its last question. -/
theorem asked_of_play
    {finder : Finder σ α}
    {state : State α}
    {world : σ}
    {turn : Turn α}
    {world' : σ}
    {value : α}
    (played : finder.play state world = (turn, world'))
    (tested : turn.test = some value) :
    ∃ between,
      finder.oracle (.value turn.candidate) between = (value, world') := by
  obtain ⟨between, -, asked⟩ := exists_between_of_play played
  refine ⟨between, ?_⟩
  rw [tested] at asked
  unfold testAfter at asked
  split at asked
  case h_1 recorded judged =>
    rw [run_test] at asked
    split at asked
    case isTrue => cases (Prod.mk.inj asked).1
    case isFalse enough =>
      obtain ⟨value_eq, rfl⟩ := Prod.mk.inj asked
      exact Prod.ext (Option.some.inj value_eq) rfl
  case h_2 => cases (Prod.mk.inj asked).1

/-- The records that a search passes through, with the states in which the
oracle is then. -/
inductive Reaches
    (finder : Finder σ α)
    (start : α) : Record α -> σ -> Prop where
  | start : Reaches finder start (.start start) finder.world
  | round {record : Record α} {world : σ} {turn : Turn α} {world' : σ}
      (reached : Reaches finder start record world)
      (going : record.ending = none)
      (played : finder.play record.state world = (turn, world')) :
      Reaches finder start (record.extend finder.config turn) world'

@[simp] theorem search_zero
    (finder : Finder σ α)
    (start : α) :
    finder.search 0 start = (.start start, finder.world) := rfl

/-- Rounds may be allotted in two parts. -/
theorem search_add
    (finder : Finder σ α)
    (rounds extra : Nat)
    (start : α) :
    finder.search (rounds + extra) start =
      (run finder.config extra (finder.search rounds start).1).run
        finder.oracle (finder.search rounds start).2 := by
  rw [search, fromPoint, run_add, Inquiry.run_bind]
  rfl

/-- One more round is played after a search that is going on. -/
theorem search_succ_of_going
    (finder : Finder σ α)
    (rounds : Nat)
    (start : α)
    (going : (finder.search rounds start).1.ending = none) :
    finder.search (rounds + 1) start =
      ((finder.search rounds start).1.extend finder.config
          (finder.play (finder.search rounds start).1.state
            (finder.search rounds start).2).1,
        (finder.play (finder.search rounds start).1.state
          (finder.search rounds start).2).2) := by
  rw [search_add, run_succ_of_ending_eq_none _ _ _ going, Inquiry.run_bind]
  rfl

/-- A search that has ended stays as it is. -/
theorem search_add_of_ended
    (finder : Finder σ α)
    (rounds extra : Nat)
    (start : α)
    (ended : (finder.search rounds start).1.ending.isSome) :
    finder.search (rounds + extra) start = finder.search rounds start :=
  run_add_of_ending_isSome finder.config rounds extra (.start start)
    finder.oracle finder.world ended

theorem search_succ_of_ended
    (finder : Finder σ α)
    (rounds : Nat)
    (start : α)
    (ended : (finder.search rounds start).1.ending.isSome) :
    finder.search (rounds + 1) start = finder.search rounds start :=
  finder.search_add_of_ended rounds 1 start ended

/-- One more round leaves a search that has ended as it is, and otherwise plays
one more turn. -/
theorem search_succ_cases
    (finder : Finder σ α)
    (rounds : Nat)
    (start : α) :
    (finder.search rounds start).1.ending.isSome ∧
        finder.search (rounds + 1) start = finder.search rounds start ∨
      (finder.search rounds start).1.ending = none ∧
        ∃ turn world',
          finder.play (finder.search rounds start).1.state
              (finder.search rounds start).2 = (turn, world') ∧
            finder.search (rounds + 1) start =
              ((finder.search rounds start).1.extend finder.config turn,
                world') := by
  cases ending : (finder.search rounds start).1.ending with
  | some kind =>
      have ended : (finder.search rounds start).1.ending.isSome := by
        rw [ending]
        rfl
      exact Or.inl ⟨rfl, finder.search_succ_of_ended rounds start ended⟩
  | none =>
      exact Or.inr ⟨rfl, _, _, rfl, finder.search_succ_of_going rounds start ending⟩

/-- A search passes through reachable records only. -/
theorem search_reaches
    (finder : Finder σ α)
    (rounds : Nat)
    (start : α) :
    finder.Reaches start
      (finder.search rounds start).1 (finder.search rounds start).2 := by
  induction rounds with
  | zero => exact .start
  | succ rounds hypothesis =>
      cases ending : (finder.search rounds start).1.ending with
      | none =>
          rw [search_succ_of_going finder rounds start ending]
          exact .round hypothesis ending rfl
      | some _ =>
          rw [search_succ_of_ended finder rounds start (by rw [ending]; rfl)]
          exact hypothesis

/-- Accepted candidates are counted, and nothing else is. -/
theorem Reaches.accepted_eq
    {finder : Finder σ α}
    {start : α}
    {record : Record α}
    {world : σ}
    (reached : finder.Reaches start record world) :
    record.state.accepted = record.acceptances.length := by
  induction reached with
  | start => rfl
  | round reached going played hypothesis =>
      rw [Record.acceptances_extend, List.length_append, ← hypothesis]
      cases fits_of_play played <;> simp

/-- Retries are counted, and nothing else is. -/
theorem Reaches.retries_eq
    {finder : Finder σ α}
    {start : α}
    {record : Record α}
    {world : σ}
    (reached : finder.Reaches start record world) :
    record.state.retries = (record.turns.filter Turn.isRetry).length := by
  induction reached with
  | start => rfl
  | round reached going played hypothesis =>
      cases fits_of_play played <;> simp [List.filter_cons, hypothesis]

/-- Every round of a record was played after a reachable record that holds the
earlier rounds. -/
theorem Reaches.exists_played
    {finder : Finder σ α}
    {start : α}
    {record : Record α}
    {world : σ}
    (reached : finder.Reaches start record world)
    {later : List (Turn α)}
    {turn : Turn α}
    {earlier : List (Turn α)}
    (turns_eq : record.turns = later ++ turn :: earlier) :
    ∃ before world' world'', finder.Reaches start before world' ∧
      before.turns = earlier ∧
      finder.play before.state world' = (turn, world'') := by
  induction reached generalizing later with
  | start =>
      have absurd : ([] : List (Turn α)) ≠ later ++ turn :: earlier := by simp
      exact (absurd turns_eq).elim
  | @round record world last world' reached going played hypothesis =>
      rw [Record.turns_extend] at turns_eq
      cases later with
      | nil =>
          obtain ⟨rfl, rfl⟩ := List.cons.inj turns_eq
          exact ⟨record, world, world', reached, rfl, played⟩
      | cons _ later =>
          exact hypothesis (List.cons.inj turns_eq).2

/-- Every round of a record fits the state that the earlier rounds have led to. -/
theorem Reaches.exists_before
    {finder : Finder σ α}
    {start : α}
    {record : Record α}
    {world : σ}
    (reached : finder.Reaches start record world)
    {later : List (Turn α)}
    {turn : Turn α}
    {earlier : List (Turn α)}
    (turns_eq : record.turns = later ++ turn :: earlier) :
    ∃ before world', finder.Reaches start before world' ∧
      before.turns = earlier ∧ turn.Fits finder.config before.state := by
  obtain ⟨before, world', _, reached', before_turns, played⟩ :=
    reached.exists_played turns_eq
  exact ⟨before, world', reached', before_turns, fits_of_play played⟩

/-- If a longer search has one more round, then that round was played after the
shorter search, which was going on. -/
theorem played_of_search_succ
    {finder : Finder σ α}
    {rounds : Nat}
    {start : α}
    {turn : Turn α}
    (turns_eq :
      (finder.search (rounds + 1) start).1.turns =
        turn :: (finder.search rounds start).1.turns) :
    (finder.search rounds start).1.ending = none ∧
      ∃ world',
        finder.play (finder.search rounds start).1.state
            (finder.search rounds start).2 = (turn, world') ∧
          finder.search (rounds + 1) start =
            ((finder.search rounds start).1.extend finder.config turn,
              world') := by
  rcases finder.search_succ_cases rounds start with
    ⟨-, same⟩ | ⟨going, last, world', played, extended⟩
  · rw [same] at turns_eq
    exact absurd turns_eq.symm (List.cons_ne_self _ _)
  · rw [extended] at turns_eq
    obtain ⟨rfl, -⟩ := List.cons.inj turns_eq
    exact ⟨going, world', played, extended⟩

/-- The last round of a longer search fits the state in which the shorter one
ends, and leads on from there. -/
theorem of_search_succ
    {finder : Finder σ α}
    {rounds : Nat}
    {start : α}
    {turn : Turn α}
    (turns_eq :
      (finder.search (rounds + 1) start).1.turns =
        turn :: (finder.search rounds start).1.turns) :
    turn.Fits finder.config (finder.search rounds start).1.state ∧
      (finder.search (rounds + 1) start).1.state =
        (finder.search rounds start).1.state.after turn := by
  obtain ⟨-, world', played, extended⟩ := played_of_search_succ turns_eq
  rw [extended]
  exact ⟨fits_of_play played, rfl⟩

/-- What holds of every candidate that can be accepted holds of every accepted
point. -/
theorem Reaches.forall_iterates
    {finder : Finder σ α}
    {start : α}
    {property : α -> Prop}
    (accepts : ∀ {state : State α} {candidate : α} {recorded : Bool},
      Judgement finder.config state candidate (.accept recorded) ->
        property candidate)
    {record : Record α}
    {world : σ}
    (reached : finder.Reaches start record world) :
    ∀ x ∈ record.iterates, property x := by
  induction reached with
  | start => simp [Record.iterates, Record.acceptances, Record.start]
  | round reached going played hypothesis =>
      rw [Record.iterates_extend]
      intro x member
      rcases List.mem_append.mp member with earlier | last
      · exact hypothesis x earlier
      · have judgement := (fits_of_play played).judgement
        cases fits_of_play played with
        | retry => simp at last
        | abort => simp at last
        | untested | tested =>
            simp only [Turn.isAccepted_accept, if_true,
              List.mem_singleton] at last
            rw [last]
            exact accepts judgement

/-- A search that has finished is at the last accepted point. -/
theorem Reaches.getLast?_iterates
    {finder : Finder σ α}
    {start : α}
    {record : Record α}
    {world : σ}
    (reached : finder.Reaches start record world)
    (finished : record.ending = some .finished) :
    record.iterates.getLast? = some record.state.current := by
  cases reached with
  | start => cases finished
  | round reached going played =>
      rw [Record.iterates_extend]
      cases fits_of_play played with
      | retry => simp at finished
      | abort => simp at finished
      | untested | tested => simp

/-- A search has an answer exactly when it has ended. -/
theorem isSome_solve
    (finder : Finder σ α)
    (rounds : Nat)
    (start : α) :
    (finder.solve rounds start).isSome =
      (finder.search rounds start).1.ending.isSome :=
  Record.root?_isSome _

/-- A search has an answer when it has ended: NaN after an abort, and the
current point otherwise. -/
theorem solve_eq_some_iff
    (finder : Finder σ α)
    (rounds : Nat)
    (start root : α) :
    finder.solve rounds start = some root ↔
      (finder.search rounds start).1.ending = some .aborted ∧
          FloatingPoint.nan = root ∨
        (finder.search rounds start).1.ending = some .finished ∧
          (finder.search rounds start).1.state.current = root := by
  unfold solve Record.root?
  cases (finder.search rounds start).1.ending with
  | none => simp
  | some ending => cases ending <;> simp

/-- An answer is NaN or an accepted point. -/
theorem isNaN_or_mem_iterates_of_solve
    [LawfulFloatingPoint α]
    {finder : Finder σ α}
    {rounds : Nat}
    {start root : α}
    (solved : finder.solve rounds start = some root) :
    FloatingPoint.isNaN root = true ∨
      root ∈ (finder.search rounds start).1.iterates := by
  rcases (finder.solve_eq_some_iff rounds start root).mp solved with
    ⟨aborted, rfl⟩ | ⟨finished, rfl⟩
  · exact Or.inl LawfulFloatingPoint.isNaN_nan
  · have reached := finder.search_reaches rounds start
    exact Or.inr (List.mem_of_getLast? (reached.getLast?_iterates finished))

/-! ## Transcripts -/

/-- The finder whose oracle keeps every call. -/
def recorded (finder : Finder σ α) : Finder (σ × List (Call α)) α where
  oracle := finder.oracle.recorded
  world := (finder.world, [])
  config := finder.config

/-- The calls of a search, in order. -/
def transcript
    (finder : Finder σ α)
    (rounds : Nat)
    (start : α) : List (Call α) :=
  (finder.recorded.search rounds start).2.2.reverse

/-- The calls of a checked search, in order. -/
def checkedTranscript
    (finder : Finder σ α)
    (rounds : Nat)
    (start : α) : List (Call α) :=
  (finder.recorded.checkedSearch rounds start).2.2.reverse

/-- Keeping the calls does not change a search. -/
theorem search_recorded
    (finder : Finder σ α)
    (rounds : Nat)
    (start : α) :
    (finder.recorded.search rounds start).1 =
      (finder.search rounds start).1 :=
  congrArg Prod.fst
    (Oracle.run_recorded finder.oracle
      (fromPoint finder.config rounds start) finder.world [])

end Finder
end RootFinding
