import RootFinding.Proofs.FloatingPoint.Spacing
import RootFinding.Proofs.Search.Halfway
import RootFinding.Proofs.Search.Livelock

/-!
# Cycles that are not left

A candidate that was recorded before sends the search half way to it.  In the binary
format of 64 bits, steps that are not negligible are longer than `2 ^ (-50)`, so as
long as one of the two points is less than 8 in magnitude, a number lies strictly
between them, and the search leaves its current point (`exists_between`).  The same
holds of larger points that are not neighbours.

Neighbours from 8 on are not negligible steps apart, and no number lies between them.
Half way between the two is one of them, and when it is the current point, the search
asks the same questions for ever (`search_cycleLaw`).
-/

namespace RootFinding

open FloatingPoint
open Float.Model (Format)

namespace BinaryFormat

open PackedFormat RoundedFormat Unpacked

/-- Steps that are not negligible are longer than this unit. -/
theorem lt_abs_sub_of_negligibleStep_lt
    {x y : Float}
    (finite : isFinite x = true)
    (finite' : isFinite y = true)
    (long : negligibleStep < Arithmetic.abs (x - y)) :
    2 ^ (-50 : Int) < |value (unpack x) - value (unpack y)| := by
  by_contra short
  have representable : Representable .binary64 (2 ^ (-50 : Int)) :=
    representable_zpow (by decide)
  have within : 2 ^ (-50 : Int) < overflow .binary64 :=
    zpow_lt_overflow (by decide)
  have rounds := rounds_unpack_sub (unpack_isFinite finite) (unpack_isFinite finite')
    representable within (not_lt.mp short)
  have le := rounds.abs_value_le representable (not_lt.mp short)
  obtain ⟨finite_abs, abs_eq⟩ := value_unpack_abs rounds.canonical.isFinite
  have unpacked : unpack (negligibleStep : Float) =
      .finite .positive 5070602400912918 (-102) (by decide) := by rfl
  have finite_step : (unpack (negligibleStep : Float)).isFinite = true := by
    rw [unpacked]
    rfl
  rw [lt_iff_value_lt finite_step finite_abs, abs_eq, unpacked] at long
  refine absurd (long.trans_le le) ?_
  rw [value, signed]
  norm_num

theorem abs_value_lt_eight
    {x : Float}
    (finite : isFinite x = true)
    (small : Arithmetic.abs x < 8.0) :
    |value (unpack x)| < 2 ^ Format.binary64.mantissaBits * 2 ^ (-50 : Int) := by
  have bits : Format.binary64.mantissaBits = 53 := by decide
  have unpacked : unpack (8.0 : Float) =
      .finite .positive (2 ^ 52) (-49) (Nat.two_pow_pos 52) := by rfl
  have finite_eight : (unpack (8.0 : Float)).isFinite = true := by
    rw [unpacked]
    rfl
  obtain ⟨finite_abs, abs_eq⟩ := value_unpack_abs (unpack_isFinite finite)
  rw [lt_iff_value_lt finite_abs finite_eight, abs_eq, unpacked, value,
    signed] at small
  rw [bits]
  refine small.trans_eq ?_
  norm_num

/-- A step that is not negligible leads across a representable number if it begins
or ends at a magnitude below 8. -/
theorem exists_between
    {x y : Float}
    (finite : isFinite x = true)
    (finite' : isFinite y = true)
    (long : negligibleStep < Arithmetic.abs (y - x))
    (small : Arithmetic.abs x < 8.0 ∨ Arithmetic.abs y < 8.0) :
    ∃ between, Representable .binary64 between ∧
      StrictlyBetween (value (unpack y)) (value (unpack x)) between := by
  have apart := lt_abs_sub_of_negligibleStep_lt finite' finite long
  rcases small with small | small
  · rw [abs_sub_comm] at apart
    obtain ⟨between, representable, separated⟩ :=
      exists_between_of_lt_abs_sub (by decide)
        (abs_value_lt_eight finite small) apart
    exact ⟨between, representable, separated.symm⟩
  · exact exists_between_of_lt_abs_sub (by decide)
      (abs_value_lt_eight finite' small) apart

end BinaryFormat

namespace Finder

open Search BinaryFormat

variable {finder : Finder σ Float} {start : Float} {rounds : Nat}
  {turn : Turn Float}

/-- A cycle sends the search half way to a candidate that is finite and not a
negligible step away. -/
theorem Meets.of_cycle
    (meets : finder.Meets start rounds .cycle turn) :
    isFinite turn.candidate = true ∧
      negligibleStep < Arithmetic.abs
        (turn.candidate - (finder.search rounds start).1.state.current) ∧
      (finder.search (rounds + 1) start).1.state.current =
        halfway turn.candidate (finder.search rounds start).1.state.current := by
  have judgement := meets.judgement
  generalize (finder.search (rounds + 1) start).1.state.current = next
    at judgement ⊢
  cases judgement with
  | repeated _ defined notInfinite long =>
      have finite := (LawfulFloatingPoint.isFinite_iff _).mpr
        ⟨defined, notInfinite⟩
      have different :
          ¬(turn.candidate ==
            (finder.search rounds start).1.state.current) = true :=
        fun same =>
          LawfulFloatingPoint.not_negligibleStep_lt_of_beq finite same long
      rw [if_neg different]
      exact ⟨finite, long, rfl⟩

/-- No cycle is met at NaN. -/
theorem Meets.defined_of_cycle
    (meets : finder.Meets start rounds .cycle turn) :
    isNaN (finder.search rounds start).1.state.current = false := by
  obtain ⟨-, long, -⟩ := meets.of_cycle
  have defined := (LawfulFloatingPoint.isNaN_of_lt long).2
  rw [← Bool.not_eq_true]
  intro undefined
  rw [PackedFormat.isNaN_abs (LawfulFloatingPoint.isNaN_sub undefined)] at defined
  cases defined

/-- A cycle is left if one of the two points is less than 8 in magnitude. -/
theorem Meets.leaves_of_lt_eight
    (meets : finder.Meets start rounds .cycle turn)
    (finite : isFinite (finder.search rounds start).1.state.current = true)
    (small :
      Arithmetic.abs (finder.search rounds start).1.state.current < 8.0 ∨
        Arithmetic.abs turn.candidate < 8.0) :
    ((finder.search (rounds + 1) start).1.state.current ==
      (finder.search rounds start).1.state.current) = false := by
  obtain ⟨finite_candidate, long, next_eq⟩ := meets.of_cycle
  obtain ⟨between, representable, separated⟩ :=
    exists_between finite finite_candidate long small
  rw [next_eq]
  exact halfway_ne_of_representable representable separated finite

/-- A search that does not leave a cycle is stuck there. -/
theorem Meets.trapped_of_cycle
    {function derivative : Float -> Float}
    {config : Config Float}
    (meets :
      (ofConfig function derivative config).Meets start rounds .cycle turn)
    (stays :
      (((ofConfig function derivative config).search
          (rounds + 1) start).1.state.current ==
        ((ofConfig function derivative config).search
          rounds start).1.state.current) = true) :
    Trapped function derivative config rounds start := by
  have leaves := meets.leaves_of_lt_eight
  rw [stays] at leaves
  refine meets.trapped_of_beq stays ⟨fun zero => ?_, fun zero => ?_⟩
  · rw [zero] at leaves
    cases leaves (by decide +kernel) (Or.inl (by decide +kernel))
  · rw [zero] at leaves
    cases leaves (by decide +kernel) (Or.inl (by decide +kernel))

/-- Where a search goes on after it has met a cycle. -/
structure CycleLaw
    (function derivative : Float -> Float)
    (config : Config Float)
    (start : Float)
    (rounds : Nat)
    (candidate current next : Float) : Prop where
  /-- The search goes on half way to the candidate. -/
  next_eq : next = halfway candidate current
  /-- It leaves the current point if a number lies between this and the
  candidate. -/
  leaves_of_between (x : Float) :
    isFinite current = true ->
      StrictlyBetween candidate current x ->
      (next == current) = false
  /-- So it does if one of the two is less than 8 in magnitude. -/
  leaves_of_lt_eight :
    isFinite current = true ->
      Arithmetic.abs current < 8.0 ∨ Arithmetic.abs candidate < 8.0 ->
      (next == current) = false
  /-- Between neighbours, it goes on at one of them, unless their sum overflows. -/
  of_neighbours :
    isFinite current = true ->
      (∀ x, ¬StrictlyBetween candidate current x) ->
      isInfinite next = true ∨
        (next == candidate) = true ∨ (next == current) = true
  /-- An infinity is not left. -/
  of_isInfinite : isInfinite current = true -> (next == current) = true
  /-- No cycle is met at NaN. -/
  defined : isNaN current = false
  /-- A search that does not leave its current point goes on for ever. -/
  trapped :
    (next == current) = true ->
      Trapped function derivative config rounds start

/-- Every cycle that a search of two functions meets obeys this law. -/
theorem search_cycleLaw
    {function derivative : Float -> Float}
    {config : Config Float}
    {start : Float}
    {rounds : Nat}
    {turn : Turn Float}
    (meets :
      (ofConfig function derivative config).Meets start rounds .cycle turn) :
    CycleLaw function derivative config start rounds turn.candidate
      ((ofConfig function derivative config).search rounds start).1.state.current
      ((ofConfig function derivative config).search
        (rounds + 1) start).1.state.current := by
  obtain ⟨finite, long, next_eq⟩ := meets.of_cycle
  refine
    { next_eq := next_eq
      leaves_of_between := ?_
      leaves_of_lt_eight := meets.leaves_of_lt_eight
      of_neighbours := ?_
      of_isInfinite := ?_
      defined := meets.defined_of_cycle
      trapped := meets.trapped_of_cycle }
  · intro x finite' between
    rw [next_eq]
    exact halfway_ne_of_between between finite finite'
  · intro finite' neighbours
    rw [next_eq]
    exact halfway_of_neighbours neighbours finite finite'
  · intro infinite
    rw [next_eq]
    exact halfway_of_isInfinite finite infinite

/-- Newton-Raphson steps for the square root of 612 that have reached one of two
neighbours with the last digits of the root, and are to take more steps. -/
theorem search_cycleLaw_squareRoot :
    let function : Float -> Float := fun x => x * x - 612.0
    let derivative : Float -> Float := fun x => 2.0 * x
    let config : Config Float := .ofSettings [.heuristics, .minIterations 10]
    let finder := ofConfig function derivative config
    let turn :=
      (finder.play (finder.search 8 10.0).1.state (finder.search 8 10.0).2).1
    finder.Meets 10.0 8 .cycle turn ∧
      (∀ rounds, finder.solve rounds 10.0 = none) ∧
      CycleLaw function derivative config 10.0 8
        24.738633753705965 24.73863375370596 24.73863375370596 := by
  intro function derivative config finder turn
  have meets : finder.Meets 10.0 8 .cycle turn :=
    meets_of_going (by decide +kernel) (by decide +kernel)
  have candidate_eq : turn.candidate = 24.738633753705965 := by decide +kernel
  have current_eq :
      ((ofConfig function derivative config).search 8 10.0).1.state.current =
        24.73863375370596 := by
    decide +kernel
  have next_eq :
      ((ofConfig function derivative config).search
        (8 + 1) 10.0).1.state.current = 24.73863375370596 := by
    decide +kernel
  have law := search_cycleLaw meets
  rw [candidate_eq, current_eq, next_eq] at law
  exact ⟨meets, (law.trapped (by decide +kernel)).unsolved, law⟩

/-- A search of a function whose only root is 5 that meets a cycle at 8, is sent half
way to the next larger number, and stays at 8 for ever. -/
theorem search_stays_in_cycle :
    let function : Float -> Float := fun x =>
      if x == 8.0 then -1.7763568394002505e-15
      else if x == 8.000000000000002 then -92.0
      else if x == 100.0 then 92.0
      else x - 5.0
    let config : Config Float :=
      .ofSettings [.heuristics, .minIterations 10, .maxIterations 50]
    let finder := ofConfig function (fun _ => 1.0) config
    let turn :=
      (finder.play (finder.search 3 8.0).1.state (finder.search 3 8.0).2).1
    config.useHeuristics = true ∧
      finder.Meets 8.0 3 .cycle turn ∧
      negligibleStep < Arithmetic.abs (turn.candidate - 8.0) ∧
      (finder.search 3 8.0).1.state.current = 8.0 ∧
      (finder.search 4 8.0).1.state.current = 8.0 ∧
      ∀ rounds, finder.solve rounds 8.0 = none := by
  intro function config finder turn
  have meets : finder.Meets 8.0 3 .cycle turn :=
    meets_of_going (by decide +kernel) (by decide +kernel)
  have trapped := meets.trapped_of_cycle (by decide +kernel)
  exact ⟨rfl, meets, by decide +kernel, by decide +kernel, by decide +kernel,
    trapped.unsolved⟩

end Finder
end RootFinding
