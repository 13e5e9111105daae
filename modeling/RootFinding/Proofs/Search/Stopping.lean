import RootFinding.Proofs.FloatingPoint.Binary
import RootFinding.Proofs.Search.Accounts

/-!
# Where a search stops

The numbers of accepted steps and the target precision say when a search stops,
and nothing else.  Over functions, the rounds of a search without their
convergence tests are an initial part of its `course`, which goes on for ever and
does not depend on where the search stops (`Reaches.turns_eq_course`).  Any two
searches that differ in nothing else therefore play the same rounds as long as
both of them go on.

If only the greatest number of steps is raised, even the tests are the same, so a
search that was not stopped by it ends in the same way (`search_eq_of_settled`);
this is true of every oracle.
-/

namespace RootFinding

open FloatingPoint

/-- When a search stops. -/
structure Stopping (α : Type) where
  /-- Convergence is not tested before this many accepted steps. -/
  minIterations : Nat
  /-- The search ends after this many accepted steps, converged or not. -/
  maxIterations : Nat
  /-- The magnitude below which a value of the function counts as zero. -/
  targetPrecision : α

/-- Stop at other times, and change nothing else. -/
def Config.stopping (config : Config α) (stopping : Stopping α) : Config α :=
  { config with
    minIterations := stopping.minIterations
    maxIterations := stopping.maxIterations
    targetPrecision := stopping.targetPrecision }

/-- The finder of two functions with a configuration. -/
def Finder.ofConfig
    (function derivative : α -> α)
    (config : Config α) : Finder Unit α where
  oracle := .ofFunctions function derivative
  world := ()
  config := config

namespace Search

/-- A round without its convergence test. -/
def Turn.withoutTest (turn : Turn α) : Turn α :=
  { turn with test := none }

/-- A test does not decide where a search goes on. -/
theorem State.after_withoutTest (state : State α) (turn : Turn α) :
    state.after turn.withoutTest = state.after turn := rfl

theorem State.afterAll_map_withoutTest
    (start : α)
    (turns : List (Turn α)) :
    afterAll start (turns.map Turn.withoutTest) = afterAll start turns := by
  unfold afterAll
  rw [List.foldr_map]
  simp only [after_withoutTest]

/-- The rounds of a record, apart from their tests, are the first ones of another
record, and its accepted points are the first ones of the other. -/
structure Record.Begins (record record' : Record α) : Prop where
  turns :
    record.turns.map Turn.withoutTest <:+ record'.turns.map Turn.withoutTest
  iterates : record.iterates <+: record'.iterates

/-- The accepted points do not depend on the tests. -/
theorem Record.iterates_eq_map_withoutTest (record : Record α) :
    record.iterates =
      ((record.turns.map Turn.withoutTest).reverse.filter
        Turn.isAccepted).map Turn.candidate := by
  rw [← List.map_reverse, List.filter_map, List.map_map]
  rfl

theorem Record.Begins.of_suffix
    {record record' : Record α}
    (turns :
      record.turns.map Turn.withoutTest <:+
        record'.turns.map Turn.withoutTest) :
    record.Begins record' where
  turns := turns
  iterates := by
    rw [iterates_eq_map_withoutTest, iterates_eq_map_withoutTest]
    exact ((List.reverse_prefix.mpr turns).filter _).map _

variable [FloatingPoint α]

/-- A search that was not stopped by the greatest number of steps: it was
aborted, or its last convergence test has succeeded. -/
inductive Record.Settled (config : Config α) (record : Record α) : Prop where
  | aborted
      (ending : record.ending = some .aborted)
  | converged {value : α}
      (tested : record.turns.head?.bind Turn.test = some value)
      (close : Arithmetic.abs value < config.targetPrecision)

/-- A round after which a search goes on, or has settled, ends in the same way
when more steps are allowed. -/
theorem Record.extend_withMaxIterations
    {config : Config α}
    {count : Nat}
    (le : config.maxIterations ≤ count)
    {record : Record α}
    {turn : Turn α}
    (settled :
      (record.extend config turn).ending = none ∨
        (record.extend config turn).Settled config) :
    record.extend (config.withMaxIterations count) turn =
      record.extend config turn := by
  obtain ⟨current, candidate, verdict, test⟩ := turn
  cases verdict with
  | retry => rfl
  | abort => rfl
  | accept recorded =>
      cases test with
      | none => rfl
      | some value =>
          have close_or_below :
              config.converged value = true ∨
                record.state.accepted + 1 < config.maxIterations := by
            rcases settled with going | ⟨aborted⟩ | ⟨tested, close⟩
            · simp at going
              exact Or.inr going.2
            · simp at aborted
            · obtain rfl := Option.some.inj tested
              exact Or.inl (decide_eq_true close)
          have exhausted_eq :
              (config.converged value ||
                  decide (count ≤ record.state.accepted + 1)) =
                (config.converged value ||
                  decide (config.maxIterations ≤ record.state.accepted + 1)) := by
            rcases close_or_below with close | below
            · rw [close, Bool.true_or, Bool.true_or]
            · rw [decide_eq_false (by omega), decide_eq_false (by omega)]
          have ending_eq :=
            congrArg (fun ended => if ended then some Ending.finished else none)
              exhausted_eq
          exact congrArg (Record.mk _ _) ending_eq

/-- What a round makes of a state, apart from its convergence test. -/
def proposedTurn
    (config : Config α)
    (function derivative : α -> α)
    (state : State α) : Turn α :=
  let candidate := (config.method.step state.current).eval function derivative
  ⟨state.current, candidate, config.judge state candidate, none⟩

/-- The first rounds of a search that never stops, the latest one first. -/
def course
    (config : Config α)
    (function derivative : α -> α)
    (start : α) : Nat -> List (Turn α)
  | 0 => []
  | rounds + 1 =>
      let earlier := course config function derivative start rounds
      proposedTurn config function derivative (.afterAll start earlier) ::
        earlier

@[simp] theorem length_course
    (config : Config α)
    (function derivative : α -> α)
    (start : α)
    (rounds : Nat) :
    (course config function derivative start rounds).length = rounds := by
  induction rounds with
  | zero => rfl
  | succ rounds hypothesis => exact congrArg Nat.succ hypothesis

/-- The course of a search contains its shorter courses. -/
theorem course_suffix
    (config : Config α)
    (function derivative : α -> α)
    (start : α)
    {rounds rounds' : Nat}
    (le : rounds ≤ rounds') :
    course config function derivative start rounds <:+
      course config function derivative start rounds' := by
  induction le with
  | refl => exact List.suffix_rfl
  | step le hypothesis =>
      exact hypothesis.trans (List.suffix_cons _ _)

/-- The course of a search does not depend on where it stops. -/
theorem course_stopping
    (config : Config α)
    (stopping : Stopping α)
    (function derivative : α -> α)
    (start : α)
    (rounds : Nat) :
    course (config.stopping stopping) function derivative start rounds =
      course config function derivative start rounds := by
  induction rounds with
  | zero => rfl
  | succ rounds hypothesis =>
      rw [course, course, hypothesis]
      rfl

end Search

namespace Finder

open Search

variable [FloatingPoint α]

/-- Over functions, a round is the proposed one, apart from its test. -/
theorem withoutTest_of_play
    {function derivative : α -> α}
    {config : Config α}
    {state : State α}
    {world : Unit}
    {turn : Turn α}
    {world' : Unit}
    (played :
      (ofConfig function derivative config).play state world =
        (turn, world')) :
    turn.withoutTest = proposedTurn config function derivative state := by
  have fits := fits_of_play played
  have candidate_eq :
      turn.candidate =
        (config.method.step state.current).eval function derivative :=
    (candidate_of_play played).trans
      (congrArg Prod.fst (Oracle.run_ofFunctions function derivative _))
  unfold proposedTurn Turn.withoutTest
  rw [← candidate_eq, ← fits.current_eq]
  change _ = (⟨turn.current, _, config.judge state turn.candidate, none⟩ : Turn α)
  rw [show config.judge state turn.candidate = turn.verdict from fits.judged]

/-- Without their tests, the rounds of a search are its course. -/
theorem Reaches.turns_eq_course
    {function derivative : α -> α}
    {config : Config α}
    {start : α}
    {record : Record α}
    {world : Unit}
    (reached :
      (ofConfig function derivative config).Reaches start record world) :
    record.turns.map Turn.withoutTest =
      course config function derivative start record.turns.length := by
  induction reached with
  | start => rfl
  | round reached going played hypothesis =>
      rw [Record.turns_extend, List.map_cons, List.length_cons, course,
        ← hypothesis, State.afterAll_map_withoutTest, ← reached.state_eq,
        withoutTest_of_play played]

/-- Of two searches that differ in where they stop, one begins with the rounds of
the other. -/
theorem begins_or_begins
    (function derivative : α -> α)
    (config : Config α)
    (start : α)
    (first second : Stopping α)
    (rounds rounds' : Nat) :
    let record := ((ofConfig function derivative
      (config.stopping first)).search rounds start).1
    let record' := ((ofConfig function derivative
      (config.stopping second)).search rounds' start).1
    record.Begins record' ∨ record'.Begins record := by
  intro record record'
  have reached :=
    (ofConfig function derivative (config.stopping first)).search_reaches
      rounds start
  have reached' :=
    (ofConfig function derivative (config.stopping second)).search_reaches
      rounds' start
  have turns_eq := reached.turns_eq_course
  have turns_eq' := reached'.turns_eq_course
  rw [course_stopping] at turns_eq turns_eq'
  rcases Nat.le_total record.turns.length record'.turns.length with le | ge
  · refine Or.inl (.of_suffix ?_)
    rw [turns_eq, turns_eq']
    exact course_suffix config function derivative start le
  · refine Or.inr (.of_suffix ?_)
    rw [turns_eq, turns_eq']
    exact course_suffix config function derivative start ge

/-! ## Raising the greatest number of steps -/

/-- The finder that allows another number of accepted steps. -/
def withMaxIterations (finder : Finder σ α) (count : Nat) : Finder σ α :=
  { finder with config := finder.config.withMaxIterations count }

/-- A search that is going on, or has settled, is the same search when more steps
are allowed. -/
theorem search_eq_of_settled
    (finder : Finder σ α)
    {count : Nat}
    (le : finder.config.maxIterations ≤ count)
    (rounds : Nat)
    (start : α)
    (settled :
      (finder.search rounds start).1.ending = none ∨
        (finder.search rounds start).1.Settled finder.config) :
    (finder.withMaxIterations count).search rounds start =
      finder.search rounds start := by
  induction rounds with
  | zero => rfl
  | succ rounds hypothesis =>
      rcases finder.search_succ_cases rounds start with
        ⟨ended, stays⟩ | ⟨going, turn, world', played, extended⟩
      · rw [stays] at settled ⊢
        have same := hypothesis settled
        rw [search_succ_of_ended, same]
        rw [same]
        exact ended
      · rw [extended] at settled ⊢
        have same := hypothesis (Or.inl going)
        rw [search_succ_of_going _ rounds start (by rw [same, going]), same,
          ← Record.extend_withMaxIterations le settled]
        -- The round does not look at the number that was raised.
        have played' :
            (finder.withMaxIterations count).play
                (finder.search rounds start).1.state
                (finder.search rounds start).2 = (turn, world') := played
        rw [played']
        rfl

/-! ## The law of stopping -/

/-- The stopping parameters only cut the searches of two functions. -/
structure StoppingLaw
    (function derivative : α -> α)
    (config : Config α)
    (start : α) : Prop where
  /-- Of two searches that differ in where they stop, one begins with the rounds
  and with the accepted points of the other. -/
  begins (first second : Stopping α) (rounds rounds' : Nat) :
    let record := ((ofConfig function derivative
      (config.stopping first)).search rounds start).1
    let record' := ((ofConfig function derivative
      (config.stopping second)).search rounds' start).1
    record.Begins record' ∨ record'.Begins record
  /-- A search that has settled comes to the same answer when more steps are
  allowed, after as many accepted steps and as many retries. -/
  settled (count rounds : Nat) (root : α) :
    let finder := ofConfig function derivative config
    let finder' := ofConfig function derivative
      (config.withMaxIterations count)
    config.maxIterations ≤ count ->
      finder.solve rounds start = some root ->
      (finder.search rounds start).1.Settled config ->
      finder'.solve rounds start = some root ∧
        (finder'.search rounds start).1.state.accepted =
          (finder.search rounds start).1.state.accepted ∧
        (finder'.search rounds start).1.state.retries =
          (finder.search rounds start).1.state.retries

/-- The searches of all pairs of functions obey the law of stopping. -/
theorem search_stoppingLaw
    (function derivative : α -> α)
    (config : Config α)
    (start : α) :
    StoppingLaw function derivative config start where
  begins := begins_or_begins function derivative config start
  settled count rounds root := by
    intro finder finder' le solved settled
    have same : finder'.search rounds start = finder.search rounds start :=
      search_eq_of_settled finder le rounds start (Or.inr settled)
    rw [solve, same]
    exact ⟨solved, rfl, rfl⟩

/-- A search that is sent back once by its upper limit, and stopped by its
convergence test before it has taken nine steps. -/
theorem search_stoppingLaw_squareRoot :
    let function : Float -> Float := fun x => x * x - 612.0
    let derivative : Float -> Float := fun x => 2.0 * x
    let config : Config Float :=
      .ofSettings [.minIterations 2, .maxIterations 9, .limits 0.0 30.0]
    let finder := ofConfig function derivative config
    finder.solve 12 10.0 = some 24.738633753705976 ∧
      (finder.search 12 10.0).1.Settled config ∧
      (finder.search 12 10.0).1.state.accepted = 4 ∧
      (finder.search 12 10.0).1.state.retries = 1 ∧
      StoppingLaw function derivative config 10.0 := by
  intro function derivative config finder
  have tested :
      (finder.search 12 10.0).1.turns.head?.bind Turn.test =
        some 6.821210263296962e-13 := by
    decide +kernel
  have close : Arithmetic.abs (6.821210263296962e-13 : Float) <
      config.targetPrecision := by
    decide +kernel
  exact ⟨by decide +kernel, .converged tested close, by decide +kernel,
    by decide +kernel, search_stoppingLaw function derivative config 10.0⟩

end Finder
end RootFinding
