/-!
# Inquiries

A computation that needs values of an unknown function and of its derivative
is an `Inquiry`: either an answer, or a question together with a continuation
for every possible reply.  Which questions are asked, in which order, and how
often, is thereby part of the data.  An inquiry is run against an `Oracle`,
whose replies may depend on everything it has been asked before; a pair of
pure functions is the special case `Inquiry.eval`.
-/

namespace RootFinding

/-- A question: the value of the function, or its slope, at a point. -/
inductive Query (α : Type) where
  | value (point : α)
  | slope (point : α)
  deriving Repr

namespace Query

/-- The point that a question is about. -/
def point : Query α -> α
  | .value x => x
  | .slope x => x

/-- Whether a question is about the function itself. -/
def isValue : Query α -> Bool
  | .value _ => true
  | .slope _ => false

end Query

/-- Something that replies to questions and changes its state while doing so. -/
abbrev Oracle (σ α : Type) :=
  Query α -> σ -> α × σ

/-- An adaptive computation that asks an oracle finitely many questions. -/
inductive Inquiry (α β : Type) where
  | answer (result : β)
  | ask (query : Query α) (next : α -> Inquiry α β)

namespace Inquiry

/-- Continue with another inquiry that depends on the answer of the first. -/
def bind : Inquiry α β -> (β -> Inquiry α γ) -> Inquiry α γ
  | .answer result, continuation => continuation result
  | .ask query next, continuation =>
      .ask query fun reply => (next reply).bind continuation

instance : Monad (Inquiry α) where
  pure := .answer
  bind := Inquiry.bind

/-- Ask for the value of the function. -/
def value (point : α) : Inquiry α α :=
  .ask (.value point) .answer

/-- Ask for the slope of the function. -/
def slope (point : α) : Inquiry α α :=
  .ask (.slope point) .answer

@[simp] theorem pure_eq (result : β) :
    (pure result : Inquiry α β) = .answer result := rfl

@[simp] theorem answer_bind
    (result : β)
    (continuation : β -> Inquiry α γ) :
    Inquiry.answer result >>= continuation = continuation result := rfl

@[simp] theorem ask_bind
    (query : Query α)
    (next : α -> Inquiry α β)
    (continuation : β -> Inquiry α γ) :
    Inquiry.ask query next >>= continuation =
      .ask query fun reply => next reply >>= continuation := rfl

@[simp] theorem value_bind
    (point : α)
    (continuation : α -> Inquiry α β) :
    value point >>= continuation = .ask (.value point) continuation := rfl

@[simp] theorem slope_bind
    (point : α)
    (continuation : α -> Inquiry α β) :
    slope point >>= continuation = .ask (.slope point) continuation := rfl

theorem bind_answer (inquiry : Inquiry α β) :
    inquiry >>= Inquiry.answer = inquiry := by
  induction inquiry with
  | answer => rfl
  | ask query _ hypothesis =>
      exact congrArg (Inquiry.ask query) (funext hypothesis)

theorem bind_assoc
    (inquiry : Inquiry α β)
    (first : β -> Inquiry α γ)
    (second : γ -> Inquiry α δ) :
    inquiry >>= first >>= second =
      inquiry >>= fun result => first result >>= second := by
  induction inquiry with
  | answer => rfl
  | ask query _ hypothesis =>
      exact congrArg (Inquiry.ask query) (funext hypothesis)

instance : LawfulMonad (Inquiry α) :=
  LawfulMonad.mk' (Inquiry α)
    (fun inquiry => bind_answer inquiry)
    (fun _ _ => rfl)
    (fun inquiry first second => bind_assoc inquiry first second)

/-! ## Running an inquiry -/

/-- Put every question to the oracle, in order. -/
def run (oracle : Oracle σ α) : Inquiry α β -> σ -> β × σ
  | .answer result, world => (result, world)
  | .ask query next, world =>
      (next (oracle query world).1).run oracle (oracle query world).2

@[simp] theorem run_answer
    (oracle : Oracle σ α)
    (result : β)
    (world : σ) :
    (answer result : Inquiry α β).run oracle world = (result, world) := rfl

@[simp] theorem run_ask
    (oracle : Oracle σ α)
    (query : Query α)
    (next : α -> Inquiry α β)
    (world : σ) :
    (ask query next).run oracle world =
      (next (oracle query world).1).run oracle (oracle query world).2 := rfl

@[simp] theorem run_bind
    (oracle : Oracle σ α)
    (inquiry : Inquiry α β)
    (continuation : β -> Inquiry α γ)
    (world : σ) :
    (inquiry >>= continuation).run oracle world =
      (continuation (inquiry.run oracle world).1).run oracle
        (inquiry.run oracle world).2 := by
  induction inquiry generalizing world with
  | answer => rfl
  | ask query next hypothesis =>
      exact hypothesis (oracle query world).1 (oracle query world).2

/-- An oracle whose states are images of the states of another one, and which
replies alike, gives the same answers. -/
theorem run_image
    (image : σ -> τ)
    {oracle : Oracle σ α}
    {oracle' : Oracle τ α}
    (alike : ∀ query world,
      oracle' query (image world) =
        ((oracle query world).1, image (oracle query world).2))
    (inquiry : Inquiry α β)
    (world : σ) :
    inquiry.run oracle' (image world) =
      ((inquiry.run oracle world).1, image (inquiry.run oracle world).2) := by
  induction inquiry generalizing world with
  | answer => rfl
  | ask query next hypothesis =>
      rw [run_ask, run_ask, alike query world]
      exact hypothesis (oracle query world).1 (oracle query world).2

/-- The answer when the replies come from two pure functions. -/
def eval (function derivative : α -> α) : Inquiry α β -> β
  | .answer result => result
  | .ask (.value point) next =>
      (next (function point)).eval function derivative
  | .ask (.slope point) next =>
      (next (derivative point)).eval function derivative

@[simp] theorem eval_answer
    (function derivative : α -> α)
    (result : β) :
    (answer result : Inquiry α β).eval function derivative = result := rfl

@[simp] theorem eval_ask_value
    (function derivative : α -> α)
    (point : α)
    (next : α -> Inquiry α β) :
    (ask (.value point) next).eval function derivative =
      (next (function point)).eval function derivative := rfl

@[simp] theorem eval_ask_slope
    (function derivative : α -> α)
    (point : α)
    (next : α -> Inquiry α β) :
    (ask (.slope point) next).eval function derivative =
      (next (derivative point)).eval function derivative := rfl

@[simp] theorem eval_bind
    (function derivative : α -> α)
    (inquiry : Inquiry α β)
    (continuation : β -> Inquiry α γ) :
    (inquiry >>= continuation).eval function derivative =
      (continuation (inquiry.eval function derivative)).eval
        function derivative := by
  induction inquiry with
  | answer => rfl
  | ask query next hypothesis =>
      cases query with
      | value point => exact hypothesis (function point)
      | slope point => exact hypothesis (derivative point)

end Inquiry
end RootFinding
