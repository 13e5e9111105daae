import RootFinding.Arithmetic
import RootFinding.Inquiry

/-!
# Oracles

Ways to build an oracle and to account for what it was asked.  Two pure
functions give an oracle without a state (`Oracle.ofFunctions`); functions that
are told how often they were called before give one that counts
(`Oracle.numbered`).  An oracle can be cut off after a number of questions
(`Oracle.limited`), and every oracle can be made to keep a transcript
(`Oracle.recorded`).  Recording changes no reply (`Oracle.run_recorded`), and
neither does a limit that is not reached (`Oracle.limited_of_lt`).
-/

namespace RootFinding

/-- One question and the reply it was given. -/
structure Call (α : Type) where
  query : Query α
  reply : α
  deriving Repr

/-- How often the function and its derivative were asked for. -/
structure CallCounts where
  values : Nat
  slopes : Nat
  deriving Repr, DecidableEq

namespace CallCounts

/-- Nothing was asked yet. -/
def zero : CallCounts :=
  ⟨0, 0⟩

/-- The number of questions of either kind. -/
def total (counts : CallCounts) : Nat :=
  counts.values + counts.slopes

/-- Count one more question. -/
def add (counts : CallCounts) : Query α -> CallCounts
  | .value _ => { counts with values := counts.values + 1 }
  | .slope _ => { counts with slopes := counts.slopes + 1 }

@[simp] theorem total_zero : zero.total = 0 := rfl

@[simp] theorem total_add
    (counts : CallCounts)
    (query : Query α) :
    (counts.add query).total = counts.total + 1 := by
  cases query with
  | value => exact Nat.add_right_comm counts.values 1 counts.slopes
  | slope => rfl

end CallCounts

namespace Oracle

/-- Replies by two functions of the point alone. -/
def ofFunctions (function derivative : α -> α) : Oracle Unit α
  | .value point, _ => (function point, ())
  | .slope point, _ => (derivative point, ())

theorem run_ofFunctions
    (function derivative : α -> α)
    (inquiry : Inquiry α β) :
    inquiry.run (ofFunctions function derivative) () =
      (inquiry.eval function derivative, ()) := by
  induction inquiry with
  | answer => rfl
  | ask query next hypothesis =>
      cases query with
      | value point => exact hypothesis (function point)
      | slope point => exact hypothesis (derivative point)

/-- Replies to questions of either kind by one function of the point, and leaves
the state as it is. -/
def ofFunction (function : α -> α) : Oracle σ α :=
  fun query world => (function query.point, world)

/-- The answer over a single function is the one with the function in place of
its derivative. -/
theorem run_ofFunction
    (function : α -> α)
    (inquiry : Inquiry α β)
    (world : σ) :
    inquiry.run (ofFunction function) world =
      (inquiry.eval function function, world) := by
  induction inquiry with
  | answer => rfl
  | ask query next hypothesis =>
      cases query <;> exact hypothesis _

/-- Replies by functions of the point and of the number of earlier calls of the
same function. -/
def numbered (function derivative : Nat -> α -> α) : Oracle CallCounts α
  | .value point, counts =>
      (function counts.values point, counts.add (.value point))
  | .slope point, counts =>
      (derivative counts.slopes point, counts.add (.slope point))

@[simp] theorem numbered_state
    (function derivative : Nat -> α -> α)
    (query : Query α)
    (counts : CallCounts) :
    (numbered function derivative query counts).2 = counts.add query := by
  cases query <;> rfl

/-- Replies NaN to every question after the first `limit` ones. -/
def limited
    [FloatingPoint α]
    (limit : Nat)
    (oracle : Oracle CallCounts α) : Oracle CallCounts α :=
  fun query counts =>
    if counts.total < limit then oracle query counts
    else (FloatingPoint.nan, counts.add query)

/-- Below its limit, a limited oracle replies as the oracle itself. -/
theorem limited_of_lt
    [FloatingPoint α]
    (limit : Nat)
    (oracle : Oracle CallCounts α)
    (query : Query α)
    (counts : CallCounts)
    (below : counts.total < limit) :
    limited limit oracle query counts = oracle query counts :=
  if_pos below

/-- At its limit, a limited oracle counts the question and replies NaN. -/
theorem limited_of_le
    [FloatingPoint α]
    (limit : Nat)
    (oracle : Oracle CallCounts α)
    (query : Query α)
    (counts : CallCounts)
    (reached : limit ≤ counts.total) :
    limited limit oracle query counts =
      (FloatingPoint.nan, counts.add query) :=
  if_neg (Nat.not_lt.mpr reached)

/-- Keep every call, the latest one first. -/
def recorded (oracle : Oracle σ α) : Oracle (σ × List (Call α)) α :=
  fun query (world, calls) =>
    let (reply, world) := oracle query world
    (reply, world, ⟨query, reply⟩ :: calls)

/-- Recording changes neither the answer nor the state of an oracle. -/
theorem run_recorded
    (oracle : Oracle σ α)
    (inquiry : Inquiry α β)
    (world : σ)
    (calls : List (Call α)) :
    ((inquiry.run oracle.recorded (world, calls)).1,
      (inquiry.run oracle.recorded (world, calls)).2.1) =
        inquiry.run oracle world :=
  (inquiry.run_image Prod.fst (fun _ _ => rfl) (world, calls)).symm

end Oracle
end RootFinding
