import RootFinding.Callback

/-!
# Logs of callbacks

Callbacks can be made to keep a log of their evaluations (`Callbacks.logged`).
A question that a guarded callback refuses is not in the log, since nothing is
evaluated for it.  Logging changes nothing else (`run_logged`).  As long as
nothing fails, guarded callbacks are as good as any oracle that replies as they
do (`run_of_error?_eq_none`).
-/

namespace RootFinding

/-- One evaluation of a callback, and what came of it. -/
structure Attempt (ε α : Type) where
  query : Query α
  result : Except ε α
  deriving Repr

namespace Attempt

/-- The error of an evaluation, if it has failed. -/
def error? (attempt : Attempt ε α) : Option ε :=
  match attempt.result with
  | .ok _ => none
  | .error error => some error

/-- The evaluation that a call is when it succeeds. -/
def ofCall (call : Call α) : Attempt ε α :=
  ⟨call.query, .ok call.reply⟩

@[simp] theorem error?_ok (query : Query α) (value : α) :
    error? (⟨query, .ok value⟩ : Attempt ε α) = none := rfl

@[simp] theorem error?_error (query : Query α) (error : ε) :
    error? (⟨query, .error error⟩ : Attempt ε α) = some error := rfl

end Attempt

namespace Guarded

/-- Look at the state of the callbacks through a function. -/
def map (image : σ -> τ) (guarded : Guarded σ ε) : Guarded τ ε where
  world := image guarded.world
  valueError := guarded.valueError
  slopeError := guarded.slopeError

@[simp] theorem map_start (image : σ -> τ) (world : σ) :
    (start world : Guarded σ ε).map image = start (image world) := rfl

@[simp] theorem errorOf_map
    (image : σ -> τ)
    (guarded : Guarded σ ε)
    (query : Query α) :
    (guarded.map image).errorOf query = guarded.errorOf query := by
  cases query <;> rfl

@[simp] theorem error?_map (image : σ -> τ) (guarded : Guarded σ ε) :
    (guarded.map image).error? = guarded.error? := rfl

@[simp] theorem map_fail
    (image : σ -> τ)
    (guarded : Guarded σ ε)
    (world : σ)
    (error : ε)
    (query : Query α) :
    (guarded.fail world error query).map image =
      (guarded.map image).fail (image world) error query := by
  cases query <;> rfl

@[simp] theorem world_fail
    (guarded : Guarded σ ε)
    (world : σ)
    (error : ε)
    (query : Query α) :
    (guarded.fail world error query).world = world := by
  cases query <;> rfl

theorem errorOf_world
    (guarded : Guarded σ ε)
    (world : σ)
    (query : Query α) :
    { guarded with world := world }.errorOf query =
      guarded.errorOf query := by
  cases query <;> rfl

theorem errorOf_start (world : σ) (query : Query α) :
    (start world : Guarded σ ε).errorOf query = none := by
  cases query <;> rfl

@[simp] theorem errorOf_fail
    (guarded : Guarded σ ε)
    (world : σ)
    (error : ε)
    (query : Query α) :
    (guarded.fail world error query).errorOf query = some error := by
  cases query <;> rfl

/-- An error that is kept is never dropped. -/
theorem errorOf_fail_isSome
    (guarded : Guarded σ ε)
    (world : σ)
    (error : ε)
    (query query' : Query α)
    (failed : (guarded.errorOf query').isSome = true) :
    ((guarded.fail world error query).errorOf query').isSome = true := by
  cases query <;> cases query' <;> first | rfl | exact failed

/-- There is an error to be raised as soon as a question has one. -/
theorem error?_isSome
    (guarded : Guarded σ ε)
    (query : Query α)
    (failed : (guarded.errorOf query).isSome = true) :
    guarded.error?.isSome = true := by
  unfold error?
  cases query with
  | value =>
      obtain ⟨error, error_eq⟩ := Option.isSome_iff_exists.mp failed
      simp [show guarded.valueError = some error from error_eq]
  | slope =>
      obtain ⟨error, error_eq⟩ := Option.isSome_iff_exists.mp failed
      cases guarded.valueError <;>
        simp [show guarded.slopeError = some error from error_eq]

end Guarded

namespace Callbacks

/-- Keep every evaluation, the latest one first. -/
def logged
    (callbacks : Callbacks σ ε α) :
    Callbacks (σ × List (Attempt ε α)) ε α :=
  fun query (world, log) =>
    let (result, world) := callbacks query world
    (result, world, ⟨query, result⟩ :: log)

/-- An oracle that replies as callbacks do as long as they do not fail. -/
def Agrees (callbacks : Callbacks σ ε α) (oracle : Oracle σ α) : Prop :=
  ∀ query world value world',
    callbacks query world = (.ok value, world') ->
      oracle query world = (value, world')

/-- Keep every call as an evaluation that has succeeded. -/
def attempted (oracle : Oracle σ α) : Oracle (σ × List (Attempt ε α)) α :=
  fun query (world, log) =>
    let (reply, world) := oracle query world
    (reply, world, .ofCall ⟨query, reply⟩ :: log)

theorem run_attempted
    (oracle : Oracle σ α)
    (inquiry : Inquiry α β)
    (world : σ) :
    inquiry.run (attempted oracle : Oracle (σ × List (Attempt ε α)) α)
        (world, []) =
      ((inquiry.run oracle.recorded (world, [])).1,
        ((inquiry.run oracle.recorded (world, [])).2.1,
          (inquiry.run oracle.recorded (world, [])).2.2.map .ofCall)) :=
  inquiry.run_image
    (fun state : σ × List (Call α) => (state.1, state.2.map Attempt.ofCall))
    (fun _ _ => rfl) (world, [])

theorem Agrees.attempted
    {callbacks : Callbacks σ ε α}
    {oracle : Oracle σ α}
    (agrees : callbacks.Agrees oracle) :
    callbacks.logged.Agrees (Callbacks.attempted oracle) := by
  intro query world value world' result
  obtain ⟨result_eq, rfl⟩ := Prod.mk.inj result
  have replied := agrees query world.1 value _ (Prod.ext result_eq rfl)
  rw [result_eq]
  change ((oracle query world.1).1, (oracle query world.1).2, _) = _
  rw [replied]
  rfl

section Guarding

variable [FloatingPoint α]

/-- The ways in which a guarded callback can reply. -/
inductive Reply
    (callbacks : Callbacks σ ε α)
    (query : Query α)
    (guarded : Guarded σ ε) : α × Guarded σ ε -> Prop where
  | refused {error : ε}
      (failed : guarded.errorOf query = some error) :
      Reply callbacks query guarded (FloatingPoint.nan, guarded)
  | succeeded {value : α} {world : σ}
      (sound : guarded.errorOf query = none)
      (result : callbacks query guarded.world = (.ok value, world)) :
      Reply callbacks query guarded (value, { guarded with world := world })
  | failed {error : ε} {world : σ}
      (sound : guarded.errorOf query = none)
      (result : callbacks query guarded.world = (.error error, world)) :
      Reply callbacks query guarded
        (FloatingPoint.nan, guarded.fail world error query)

theorem guarded_of_ok
    (callbacks : Callbacks σ ε α)
    {query : Query α}
    {guarded : Guarded σ ε}
    {value : α}
    {world : σ}
    (sound : guarded.errorOf query = none)
    (result : callbacks query guarded.world = (.ok value, world)) :
    callbacks.guarded query guarded = (value, { guarded with world := world }) := by
  rw [Callbacks.guarded, sound, result]

theorem guarded_of_error
    (callbacks : Callbacks σ ε α)
    {query : Query α}
    {guarded : Guarded σ ε}
    {error : ε}
    {world : σ}
    (sound : guarded.errorOf query = none)
    (result : callbacks query guarded.world = (.error error, world)) :
    callbacks.guarded query guarded =
      (FloatingPoint.nan, guarded.fail world error query) := by
  rw [Callbacks.guarded, sound, result]

theorem reply_guarded
    (callbacks : Callbacks σ ε α)
    (query : Query α)
    (guarded : Guarded σ ε) :
    Reply callbacks query guarded (callbacks.guarded query guarded) := by
  cases errorOf : guarded.errorOf query with
  | some error =>
      rw [callbacks.guarded_of_errorOf query guarded error errorOf]
      exact .refused errorOf
  | none =>
      cases evaluated : callbacks query guarded.world with
      | mk result world =>
          cases result with
          | ok value =>
              rw [callbacks.guarded_of_ok errorOf evaluated]
              exact .succeeded errorOf evaluated
          | error error =>
              rw [callbacks.guarded_of_error errorOf evaluated]
              exact .failed errorOf evaluated

/-! ## Logging changes nothing else -/

theorem guarded_map_fst
    (callbacks : Callbacks σ ε α)
    (query : Query α)
    (guarded : Guarded (σ × List (Attempt ε α)) ε) :
    callbacks.guarded query (guarded.map Prod.fst) =
      ((callbacks.logged.guarded query guarded).1,
        (callbacks.logged.guarded query guarded).2.map Prod.fst) := by
  have reply := callbacks.logged.reply_guarded query guarded
  generalize callbacks.logged.guarded query guarded = replied at reply ⊢
  cases reply with
  | @refused error failed =>
      rw [← Guarded.errorOf_map Prod.fst] at failed
      exact callbacks.guarded_of_errorOf query _ error failed
  | succeeded sound result =>
      rw [← Guarded.errorOf_map Prod.fst] at sound
      obtain ⟨result_eq, rfl⟩ := Prod.mk.inj result
      exact callbacks.guarded_of_ok sound (Prod.ext result_eq rfl)
  | failed sound result =>
      rw [← Guarded.errorOf_map Prod.fst] at sound
      obtain ⟨result_eq, rfl⟩ := Prod.mk.inj result
      rw [Guarded.map_fail]
      exact callbacks.guarded_of_error sound (Prod.ext result_eq rfl)

theorem run_logged
    (callbacks : Callbacks σ ε α)
    (inquiry : Inquiry α β)
    (guarded : Guarded (σ × List (Attempt ε α)) ε) :
    inquiry.run callbacks.guarded (guarded.map Prod.fst) =
      ((inquiry.run callbacks.logged.guarded guarded).1,
        (inquiry.run callbacks.logged.guarded guarded).2.map Prod.fst) :=
  inquiry.run_image (Guarded.map Prod.fst) callbacks.guarded_map_fst guarded

/-! ## Runs without failures -/

/-- Nothing has failed before a question if nothing has failed after it. -/
theorem error?_of_guarded
    (callbacks : Callbacks σ ε α)
    (query : Query α)
    (guarded : Guarded σ ε)
    (sound : (callbacks.guarded query guarded).2.error? = none) :
    guarded.error? = none := by
  have reply := callbacks.reply_guarded query guarded
  generalize callbacks.guarded query guarded = replied at reply sound
  cases reply with
  | refused => exact sound
  | succeeded => exact sound
  | @failed error world =>
      have failed := (guarded.fail world error query).error?_isSome query
        (by rw [Guarded.errorOf_fail]; rfl)
      rw [sound] at failed
      cases failed

/-- Nothing has failed before a run if nothing has failed after it. -/
theorem error?_of_run
    (callbacks : Callbacks σ ε α)
    (inquiry : Inquiry α β)
    (guarded : Guarded σ ε)
    (sound : (inquiry.run callbacks.guarded guarded).2.error? = none) :
    guarded.error? = none := by
  induction inquiry generalizing guarded with
  | answer => exact sound
  | ask query next hypothesis =>
      exact callbacks.error?_of_guarded query guarded
        (hypothesis _ _ sound)

/-- Without failures, guarded callbacks are an oracle that replies as they
do. -/
theorem run_of_error?_eq_none
    {callbacks : Callbacks σ ε α}
    {oracle : Oracle σ α}
    (agrees : callbacks.Agrees oracle)
    (inquiry : Inquiry α β)
    (world : σ)
    (sound :
      (inquiry.run callbacks.guarded (.start world)).2.error? = none) :
    inquiry.run callbacks.guarded (.start world) =
      ((inquiry.run oracle world).1,
        .start (inquiry.run oracle world).2) := by
  induction inquiry generalizing world with
  | answer => rfl
  | ask query next hypothesis =>
      rw [Inquiry.run_ask] at sound ⊢
      have reply := callbacks.reply_guarded query (.start world)
      generalize callbacks.guarded query (.start world) = replied
        at reply sound ⊢
      cases reply with
      | refused failed =>
          rw [Guarded.errorOf_start] at failed
          cases failed
      | @succeeded value world' _ result =>
          rw [Inquiry.run_ask, agrees query world value world' result]
          exact hypothesis value world' sound
      | @failed error world' _ result =>
          have later := callbacks.error?_of_run _ _ sound
          have failed :=
            (Guarded.fail (.start world) world' error query).error?_isSome query
              (by rw [Guarded.errorOf_fail]; rfl)
          rw [later] at failed
          cases failed

/-- Without failures, the log of a run holds the calls of the same run over an
oracle that replies as the callbacks do. -/
theorem run_logged_of_error?_eq_none
    {callbacks : Callbacks σ ε α}
    {oracle : Oracle σ α}
    (agrees : callbacks.Agrees oracle)
    (inquiry : Inquiry α β)
    (world : σ)
    (sound :
      (inquiry.run callbacks.logged.guarded
        (.start (world, []))).2.error? = none) :
    (inquiry.run callbacks.logged.guarded (.start (world, []))).1 =
        (inquiry.run oracle world).1 ∧
      (inquiry.run callbacks.logged.guarded (.start (world, []))).2.world.2 =
        (inquiry.run oracle.recorded (world, [])).2.2.map .ofCall := by
  have answer :=
    congrArg Prod.fst (Oracle.run_recorded oracle inquiry world [])
  have same :=
    run_of_error?_eq_none agrees.attempted inquiry (world, []) sound
  rw [run_attempted] at same
  rw [same]
  exact ⟨answer, rfl⟩

end Guarding
end Callbacks
end RootFinding
