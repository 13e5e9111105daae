import RootFinding.Proofs.Callback.Log
import RootFinding.Proofs.Callback.Yielding

/-!
# The first failure

The errors of the two callbacks are kept apart, and the one of the function is
raised before the one of its derivative.  That it is nevertheless the first one
in time rests on the inquiries: none of them asks for a value once a slope is
NaN.  `Guarded.Accounts` relates the errors that are kept to the log of all
evaluations; every question preserves it that is not about the function after
the derivative has failed, and so does every inquiry that yields to NaN.
-/

namespace RootFinding

open FloatingPoint

/-- The errors that are kept account for the failures in the log. -/
structure Guarded.Accounts
    (guarded : Guarded (σ × List (Attempt ε α)) ε) : Prop where
  /-- The error to be raised is the first one in time. -/
  first :
    guarded.error? = guarded.world.2.reverse.findSome? Attempt.error?
  /-- Every failure has led to an error of its callback. -/
  failed (attempt : Attempt ε α) :
    attempt ∈ guarded.world.2 ->
      attempt.error?.isSome = true ->
      (guarded.errorOf attempt.query).isSome = true
  /-- A callback is not evaluated after it has failed. -/
  silenced :
    guarded.world.2.Pairwise fun later earlier =>
      earlier.error?.isSome = true ->
        later.query.isValue ≠ earlier.query.isValue

namespace Guarded

/-- Questions about one function have one error. -/
theorem errorOf_congr
    (guarded : Guarded σ ε)
    {query query' : Query α}
    (same : query.isValue = query'.isValue) :
    guarded.errorOf query = guarded.errorOf query' := by
  cases query <;> cases query' <;> first | rfl | cases same

/-- The error that is kept of a question is raised unless another one is. -/
theorem error?_fail
    (guarded : Guarded σ ε)
    (world : σ)
    (error : ε)
    (query : Query α)
    (sound : guarded.errorOf query = none)
    (orderly : query.isValue = true -> guarded.slopeError = none) :
    (guarded.fail world error query).error? =
      guarded.error?.or (some error) := by
  obtain ⟨_, valueError, slopeError⟩ := guarded
  cases query with
  | value =>
      obtain rfl : valueError = none := sound
      obtain rfl : slopeError = none := orderly rfl
      rfl
  | slope =>
      obtain rfl : slopeError = none := sound
      cases valueError <;> rfl

namespace Accounts

theorem start (world : σ) :
    (Guarded.start (world, []) : Guarded (σ × List (Attempt ε α)) ε).Accounts
    where
  first := rfl
  failed := by simp [Guarded.start]
  silenced := List.Pairwise.nil

/-- A callback that has not failed can be evaluated once more. -/
theorem silenced_cons
    {guarded : Guarded (σ × List (Attempt ε α)) ε}
    (accounts : guarded.Accounts)
    {attempt : Attempt ε α}
    (sound : guarded.errorOf attempt.query = none) :
    (attempt :: guarded.world.2).Pairwise fun later earlier =>
      earlier.error?.isSome = true ->
        later.query.isValue ≠ earlier.query.isValue := by
  refine List.pairwise_cons.mpr ⟨?_, accounts.silenced⟩
  intro earlier member failed same
  have kept := accounts.failed earlier member failed
  rw [← guarded.errorOf_congr same, sound] at kept
  cases kept

variable [FloatingPoint α]

/-- One question preserves the account, unless it is about the function after
the derivative has failed. -/
theorem guarded
    {callbacks : Callbacks σ ε α}
    {guarded : Guarded (σ × List (Attempt ε α)) ε}
    (accounts : guarded.Accounts)
    {query : Query α}
    (orderly : query.isValue = true -> guarded.slopeError = none) :
    (callbacks.logged.guarded query guarded).2.Accounts := by
  have reply := callbacks.logged.reply_guarded query guarded
  generalize callbacks.logged.guarded query guarded = replied at reply ⊢
  cases reply with
  | refused => exact accounts
  | @succeeded value _ sound result =>
      obtain ⟨result_eq, rfl⟩ := Prod.mk.inj result
      refine ⟨?_, ?_, accounts.silenced_cons sound⟩
      · rw [List.reverse_cons, List.findSome?_append, ← accounts.first,
          result_eq]
        exact (Option.or_none).symm
      · intro attempt member failed
        rw [errorOf_world]
        rcases List.mem_cons.mp member with rfl | member
        · rw [result_eq] at failed
          cases failed
        · exact accounts.failed attempt member failed
  | @failed error _ sound result =>
      obtain ⟨result_eq, rfl⟩ := Prod.mk.inj result
      refine ⟨?_, ?_, ?_⟩
      · -- Nothing else has failed if the function has, so it is the first one.
        rw [error?_fail _ _ _ _ sound orderly, world_fail, List.reverse_cons,
          List.findSome?_append, ← accounts.first, result_eq]
        rfl
      · rw [world_fail]
        intro attempt member failed
        rcases List.mem_cons.mp member with rfl | member
        · rw [errorOf_fail]
          rfl
        · exact guarded.errorOf_fail_isSome _ _ _ _
            (accounts.failed attempt member failed)
      · rw [world_fail]
        exact accounts.silenced_cons sound

end Accounts
end Guarded

/-! ## Runs -/

namespace Inquiry

variable [FloatingPoint α]

/-- Once the derivative has failed, an inquiry that avoids values evaluates
nothing. -/
theorem AvoidsValues.run_eq
    {property : β -> Prop}
    {inquiry : Inquiry α β}
    (avoids : inquiry.AvoidsValues property)
    (callbacks : Callbacks σ ε α)
    {guarded : Guarded σ ε}
    {error : ε}
    (failed : guarded.slopeError = some error) :
    (inquiry.run callbacks.guarded guarded).2 = guarded := by
  induction avoids with
  | answer => rfl
  | @slope point next rest hypothesis =>
      have refused := callbacks.guarded_of_errorOf (.slope point) guarded error
        failed
      rw [run_ask, refused]
      exact hypothesis

/-- The errors that are kept account for the log of every inquiry that yields to
NaN. -/
theorem YieldsToNaN.accounts
    {property : β -> Prop}
    {inquiry : Inquiry α β}
    (yields : inquiry.YieldsToNaN property)
    (callbacks : Callbacks σ ε α)
    {guarded : Guarded (σ × List (Attempt ε α)) ε}
    (accounts : guarded.Accounts)
    (sound : guarded.slopeError = none) :
    (inquiry.run callbacks.logged.guarded guarded).2.Accounts := by
  induction yields generalizing guarded with
  | answer => exact accounts
  | @value point next rest hypothesis =>
      rw [run_ask]
      refine hypothesis _ (accounts.guarded fun _ => sound) ?_
      have reply := callbacks.logged.reply_guarded (.value point) guarded
      generalize callbacks.logged.guarded (.value point) guarded = replied
        at reply ⊢
      cases reply <;> exact sound
  | @slope point next rest yields hypothesis =>
      have accounts' :
          (callbacks.logged.guarded (.slope point) guarded).2.Accounts :=
        accounts.guarded fun impossible => nomatch impossible
      rw [run_ask]
      have reply := callbacks.logged.reply_guarded (.slope point) guarded
      generalize callbacks.logged.guarded (.slope point) guarded = replied
        at reply accounts' ⊢
      cases reply with
      | refused failed =>
          rw [Guarded.errorOf, sound] at failed
          cases failed
      | succeeded => exact hypothesis _ accounts' sound
      | failed =>
          -- The reply was NaN, and nothing is evaluated from here on.
          rw [yields.run_eq callbacks.logged rfl]
          exact accounts'

end Inquiry

namespace Callbacks

variable [FloatingPoint α]

/-- The evaluations of an inquiry over guarded callbacks, in order. -/
def attempts
    (callbacks : Callbacks σ ε α)
    (inquiry : Inquiry α β)
    (world : σ) : List (Attempt ε α) :=
  (inquiry.run callbacks.logged.guarded (.start (world, []))).2.world.2.reverse

theorem error?_run
    (callbacks : Callbacks σ ε α)
    (inquiry : Inquiry α β)
    (world : σ) :
    (inquiry.run callbacks.logged.guarded (.start (world, []))).2.error? =
      (inquiry.run callbacks.guarded (.start world)).2.error? := by
  rw [← Guarded.map_start Prod.fst (world, ([] : List (Attempt ε α))),
    run_logged, Guarded.error?_map]

/-- The error that is raised after an inquiry is the first one in time. -/
theorem error?_eq_findSome?_attempts
    (callbacks : Callbacks σ ε α)
    {property : β -> Prop}
    {inquiry : Inquiry α β}
    (yields : inquiry.YieldsToNaN property)
    (world : σ) :
    (inquiry.run callbacks.guarded (.start world)).2.error? =
      (callbacks.attempts inquiry world).findSome? Attempt.error? := by
  rw [← error?_run]
  exact (yields.accounts callbacks (Guarded.Accounts.start world) rfl).first

/-- A callback that has failed is not evaluated again. -/
theorem pairwise_attempts
    (callbacks : Callbacks σ ε α)
    {property : β -> Prop}
    {inquiry : Inquiry α β}
    (yields : inquiry.YieldsToNaN property)
    (world : σ) :
    (callbacks.attempts inquiry world).Pairwise fun earlier later =>
      earlier.error?.isSome = true ->
        later.query.isValue ≠ earlier.query.isValue :=
  List.pairwise_reverse.mpr
    (yields.accounts callbacks (Guarded.Accounts.start world) rfl).silenced

/-- Without failures, an inquiry has the answer and the evaluations that it has
over an oracle that replies as the callbacks do. -/
theorem run_of_findSome?_eq_none
    {callbacks : Callbacks σ ε α}
    {oracle : Oracle σ α}
    (agrees : callbacks.Agrees oracle)
    {property : β -> Prop}
    {inquiry : Inquiry α β}
    (yields : inquiry.YieldsToNaN property)
    (world : σ)
    (sound :
      (callbacks.attempts inquiry world).findSome? Attempt.error? = none) :
    (inquiry.run callbacks.guarded (.start world)).1 =
        (inquiry.run oracle world).1 ∧
      callbacks.attempts inquiry world =
        (inquiry.run oracle.recorded (world, [])).2.2.reverse.map .ofCall := by
  rw [← error?_eq_findSome?_attempts callbacks yields] at sound
  constructor
  · rw [run_of_error?_eq_none agrees inquiry world sound]
  · rw [← error?_run] at sound
    rw [attempts, (run_logged_of_error?_eq_none agrees inquiry world sound).2,
      List.map_reverse]

end Callbacks

end RootFinding
