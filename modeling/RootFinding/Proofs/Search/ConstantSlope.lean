import RootFinding.Proofs.Search.Classification

/-!
# Searches with a constant slope

If every question for a slope is given the same reply, then Homeier's method proposes
what a Newton-Raphson step proposes, and only asks for one slope more.  Values may
depend on everything that was asked before, as long as they do not depend on how often
slopes were asked for: what they depend on is a view of the state of the oracle that
questions for slopes leave as it is (`Oracle.ConstantSlope`).  This is so for pure
functions (`find_of_constantSlope`), and for functions that count how often they were
called.

Two runs over such an oracle that begin in states of the same view and differ in the
method alone stay in step: they have the same records and end in states of the same
view (`run_withMethod`).  The values that were asked for are a view of the state of an
oracle that keeps its calls (`Oracle.ConstantSlope.recorded`), so they are the same as
well.
-/

namespace RootFinding

/-- An oracle that replies to every question for a slope with the same number.  Replies
to questions for values depend on a view of its state, which questions for slopes leave
as it is. -/
structure Oracle.ConstantSlope
    {τ : Type}
    (oracle : Oracle σ α)
    (slope : α)
    (view : σ -> τ) : Prop where
  reply_eq (point : α) (world : σ) :
    (oracle (.slope point) world).1 = slope
  view_slope (point : α) (world : σ) :
    view (oracle (.slope point) world).2 = view world
  value_congr (point : α) {world world' : σ} :
    view world = view world' ->
      (oracle (.value point) world).1 = (oracle (.value point) world').1 ∧
        view (oracle (.value point) world).2 =
          view (oracle (.value point) world').2

/-- The same answer, and states of the same view. -/
def AgreesUnder {τ : Type} (view : σ -> τ) (left right : β × σ) : Prop :=
  left.1 = right.1 ∧ view left.2 = view right.2

/-- The values that were asked for, with the replies. -/
def valueCalls (calls : List (Call α)) : List (Call α) :=
  calls.filter fun call => call.query.isValue

namespace Oracle

/-- Two functions, the second of which is constant. -/
theorem constantSlope_ofFunctions
    (function : α -> α)
    (slope : α) :
    (ofFunctions function fun _ => slope).ConstantSlope slope id where
  reply_eq _ _ := rfl
  view_slope _ _ := rfl
  value_congr _ _ _ _ := ⟨rfl, rfl⟩

/-- A function that counts how often it was called, and a constant one. -/
theorem constantSlope_numbered
    (function : Nat -> α -> α)
    (slope : α) :
    (numbered function fun _ _ => slope).ConstantSlope slope
      CallCounts.values where
  reply_eq _ _ := rfl
  view_slope _ _ := rfl
  value_congr point _ _ same :=
    ⟨congrArg (function · point) same, congrArg Nat.succ same⟩

namespace ConstantSlope

variable {τ : Type} {oracle : Oracle σ α} {slope : α} {view : σ -> τ}

/-- An oracle that keeps its calls has a view that shows the calls for values. -/
theorem recorded (constant : oracle.ConstantSlope slope view) :
    oracle.recorded.ConstantSlope slope
      (fun (world, calls) => (view world, valueCalls calls)) where
  reply_eq point world := constant.reply_eq point world.1
  view_slope point world :=
    congrArg (·, valueCalls world.2) (constant.view_slope point world.1)
  value_congr point {world world'} same := by
    obtain ⟨sameView, sameCalls⟩ := Prod.mk.inj same
    obtain ⟨sameReply, sameView'⟩ := constant.value_congr point sameView
    refine ⟨sameReply, Prod.ext sameView' ?_⟩
    exact congrArg₂ (fun reply calls => ⟨.value point, reply⟩ :: calls)
      sameReply sameCalls

/-- An inquiry does not tell states of the same view apart. -/
theorem run_congr
    (constant : oracle.ConstantSlope slope view)
    (inquiry : Inquiry α β)
    {world world' : σ}
    (same : view world = view world') :
    AgreesUnder view
      (inquiry.run oracle world) (inquiry.run oracle world') := by
  induction inquiry generalizing world world' with
  | answer result => exact ⟨rfl, same⟩
  | ask query next hypothesis =>
      rw [Inquiry.run_ask, Inquiry.run_ask]
      cases query with
      | value point =>
          obtain ⟨sameReply, sameView⟩ := constant.value_congr point same
          rw [sameReply]
          exact hypothesis _ sameView
      | slope point =>
          rw [constant.reply_eq, constant.reply_eq]
          apply hypothesis
          rw [constant.view_slope, constant.view_slope, same]

/-- Inquiries that agree still do after they are continued in the same way. -/
theorem bind_congr
    (constant : oracle.ConstantSlope slope view)
    {first second : Inquiry α β}
    {world world' : σ}
    (agrees :
      AgreesUnder view (first.run oracle world) (second.run oracle world'))
    (continuation : β -> Inquiry α γ) :
    AgreesUnder view
      ((first >>= continuation).run oracle world)
      ((second >>= continuation).run oracle world') := by
  rw [Inquiry.run_bind, Inquiry.run_bind, agrees.1]
  exact constant.run_congr _ agrees.2

/-- Both methods propose the same candidate. -/
theorem run_step
    [Arithmetic α]
    (constant : oracle.ConstantSlope slope view)
    (x : α)
    {world world' : σ}
    (same : view world = view world') :
    AgreesUnder view
      ((Method.newtonRaphson.step x).run oracle world)
      ((Method.homeier.step x).run oracle world') := by
  obtain ⟨sameReply, sameView⟩ := constant.value_congr x same
  constructor
  · change x - _ / _ = x - _ / _
    rw [constant.reply_eq, constant.reply_eq, sameReply]
  · simp only [Method.newtonRaphson, Method.homeier, Inquiry.value_bind,
      Inquiry.slope_bind, Inquiry.run_ask, Inquiry.pure_eq, Inquiry.run_answer,
      constant.view_slope, sameView]

end ConstantSlope
end Oracle

/-- The finder that steps by another method. -/
def Finder.withMethod (finder : Finder σ α) (method : Method α) : Finder σ α :=
  { finder with config := finder.config.withMethod method }

namespace Search

variable [FloatingPoint α]
  {τ : Type} {oracle : Oracle σ α} {slope : α} {view : σ -> τ}

/-- A round is the same by both methods. -/
theorem round_withMethod
    (constant : oracle.ConstantSlope slope view)
    (config : Config α)
    (state : State α)
    {world world' : σ}
    (same : view world = view world') :
    AgreesUnder view
      ((round (config.withMethod .newtonRaphson) state).run oracle world)
      ((round (config.withMethod .homeier) state).run oracle world') := by
  rw [round_eq_bind, round_eq_bind]
  exact constant.bind_congr (constant.run_step state.current same) _

/-- Runs by the two methods stay in step. -/
theorem run_withMethod
    (constant : oracle.ConstantSlope slope view)
    (config : Config α)
    (rounds : Nat)
    (record : Record α)
    {world world' : σ}
    (same : view world = view world') :
    AgreesUnder view
      ((run (config.withMethod .newtonRaphson) rounds record).run oracle world)
      ((run (config.withMethod .homeier) rounds record).run oracle world') := by
  induction rounds generalizing record world world' with
  | zero => exact ⟨rfl, same⟩
  | succ rounds hypothesis =>
      cases ending_eq : record.ending with
      | some ending =>
          have ended : record.ending.isSome := by
            rw [ending_eq]
            rfl
          rw [run_of_ending_isSome _ _ _ ended, run_of_ending_isSome _ _ _ ended]
          exact ⟨rfl, same⟩
      | none =>
          obtain ⟨sameTurn, sameView⟩ :=
            round_withMethod constant config record.state same
          rw [run_succ_of_ending_eq_none _ _ _ ending_eq,
            run_succ_of_ending_eq_none _ _ _ ending_eq,
            Inquiry.run_bind, Inquiry.run_bind, sameTurn]
          -- Whether a turn ends a search does not depend on the method.
          exact hypothesis (record.extend config _) sameView

end Search

namespace Finder

open Search

variable [FloatingPoint α]

/-- Searches by the two methods stay in step. -/
theorem search_withMethod
    {τ : Type}
    {finder : Finder σ α}
    {slope : α}
    {view : σ -> τ}
    (constant : finder.oracle.ConstantSlope slope view)
    (rounds : Nat)
    (start : α) :
    AgreesUnder view
      ((finder.withMethod .newtonRaphson).search rounds start)
      ((finder.withMethod .homeier).search rounds start) :=
  run_withMethod constant finder.config rounds (.start start) rfl

/-- So do checked searches. -/
theorem checkedSearch_withMethod
    {τ : Type}
    {finder : Finder σ α}
    {slope : α}
    {view : σ -> τ}
    (constant : finder.oracle.ConstantSlope slope view)
    (rounds : Nat)
    (start : α) :
    AgreesUnder view
      ((finder.withMethod .newtonRaphson).checkedSearch rounds start)
      ((finder.withMethod .homeier).checkedSearch rounds start) :=
  constant.bind_congr (search_withMethod constant rounds start) _

/-- Every round asks for one slope by the first method, and for two by the second. -/
theorem countSlopes_transcript_withMethod
    {finder : Finder σ α}
    {rounds : Nat}
    {start : α}
    (same :
      ((finder.withMethod .newtonRaphson).search rounds start).1 =
        ((finder.withMethod .homeier).search rounds start).1) :
    countSlopes ((finder.withMethod .homeier).transcript rounds start) =
      2 * countSlopes
        ((finder.withMethod .newtonRaphson).transcript rounds start) := by
  have provided : Method.newtonRaphson ∈ (Method.provided : List (Method α)) :=
    Method.mem_provided_iff.mpr (Or.inl rfl)
  have provided' : Method.homeier ∈ (Method.provided : List (Method α)) :=
    Method.mem_provided_iff.mpr (Or.inr rfl)
  rw [countSlopes_transcript _ rounds start provided'
      fun stepped => stepped.countSlopes_homeier rfl,
    countSlopes_transcript _ rounds start provided
      fun stepped => stepped.countSlopes_newtonRaphson rfl,
    Nat.one_mul, same]

/-- The check of an answer asks for no slope. -/
theorem countSlopes_checkedTranscript
    (finder : Finder σ α)
    (rounds : Nat)
    (start : α) :
    countSlopes (finder.checkedTranscript rounds start) =
      countSlopes (finder.transcript rounds start) := by
  cases solved : finder.solve rounds start with
  | none => rw [finder.checkedTranscript_of_solve_eq_none solved]
  | some root =>
      obtain ⟨residual, calls_eq⟩ := finder.checkedTranscript_of_solve solved
      rw [calls_eq, countSlopes_append]
      split <;> rfl

/-- What the searches of a finder by Newton-Raphson steps and by Homeier's method have
in common. -/
structure ConstantSlopeLaw
    (finder : Finder σ α)
    (rounds : Nat)
    (start : α) : Prop where
  /-- All rounds are the same, with their points, candidates, verdicts and tests, and so
  are the states that they lead to and the endings. -/
  record :
    ((finder.withMethod .newtonRaphson).search rounds start).1 =
      ((finder.withMethod .homeier).search rounds start).1
  /-- Both searches have the same answer, or none. -/
  solve :
    (finder.withMethod .newtonRaphson).solve rounds start =
      (finder.withMethod .homeier).solve rounds start
  /-- The same values are asked for, in the same order. -/
  values :
    valueCalls ((finder.withMethod .newtonRaphson).transcript rounds start) =
      valueCalls ((finder.withMethod .homeier).transcript rounds start)
  /-- Homeier's method asks for twice as many slopes. -/
  slopes :
    countSlopes ((finder.withMethod .homeier).transcript rounds start) =
      2 * countSlopes
        ((finder.withMethod .newtonRaphson).transcript rounds start)
  /-- Both checked searches have the same answer, or none. -/
  trySolve :
    (finder.withMethod .newtonRaphson).trySolve rounds start =
      (finder.withMethod .homeier).trySolve rounds start
  checkedValues :
    valueCalls
        ((finder.withMethod .newtonRaphson).checkedTranscript rounds start) =
      valueCalls ((finder.withMethod .homeier).checkedTranscript rounds start)
  checkedSlopes :
    countSlopes ((finder.withMethod .homeier).checkedTranscript rounds start) =
      2 * countSlopes
        ((finder.withMethod .newtonRaphson).checkedTranscript rounds start)

/-- The two methods coincide over every oracle with a constant slope, whatever the
slope is, and whatever else is configured. -/
theorem search_constantSlopeLaw
    {τ : Type}
    (finder : Finder σ α)
    (slope : α)
    (view : σ -> τ)
    (constant : finder.oracle.ConstantSlope slope view)
    (rounds : Nat)
    (start : α) :
    ConstantSlopeLaw finder rounds start := by
  have kept : finder.recorded.oracle.ConstantSlope slope _ := constant.recorded
  have same := search_withMethod constant rounds start
  have sameChecked := checkedSearch_withMethod constant rounds start
  have slopes := countSlopes_transcript_withMethod same.1
  have sameCalls := (search_withMethod kept rounds start).2
  have sameCheckedCalls := (checkedSearch_withMethod kept rounds start).2
  refine
    { record := same.1
      solve := congrArg Record.root? same.1
      values := ?_
      slopes := slopes
      trySolve := congrArg Prod.snd sameChecked.1
      checkedValues := ?_
      checkedSlopes := ?_ }
  · unfold valueCalls transcript
    rw [List.filter_reverse, List.filter_reverse]
    exact congrArg List.reverse (Prod.mk.inj sameCalls).2
  · unfold valueCalls checkedTranscript
    rw [List.filter_reverse, List.filter_reverse]
    exact congrArg List.reverse (Prod.mk.inj sameCheckedCalls).2
  · rw [countSlopes_checkedTranscript, countSlopes_checkedTranscript, slopes]

/-- A function whose first value is out of line, so that the search is sent back by its
lower limit, and accepts eight steps after that. -/
theorem search_constantSlopeLaw_numbered :
    let oracle : Oracle CallCounts Float :=
      .numbered (fun count x => if count = 0 then 900.0 else x * x - 612.0)
        fun _ _ => 50.0
    let finder : Finder CallCounts Float :=
      ⟨oracle, .zero, .ofSettings [.heuristics, .limits 0.0 30.0]⟩
    oracle.ConstantSlope 50.0 CallCounts.values ∧
      ((finder.withMethod .homeier).search 12 10.0).1.state.accepted = 8 ∧
      ((finder.withMethod .homeier).search 12 10.0).1.state.retries = 1 ∧
      ConstantSlopeLaw finder 12 10.0 := by
  intro oracle finder
  have constant : oracle.ConstantSlope 50.0 CallCounts.values :=
    Oracle.constantSlope_numbered _ _
  exact ⟨constant, by decide +kernel, by decide +kernel,
    search_constantSlopeLaw finder 50.0 CallCounts.values constant 12 10.0⟩

end Finder

/-- For a pure function and a constant derivative, whatever the settings are, either choice
of a method leads to the same answer, checked or not. -/
theorem find_of_constantSlope
    [FloatingPoint α]
    (function : α -> α)
    (slope : α)
    (rounds : Nat)
    (start : α)
    (settings : List (Setting α)) :
    find function (fun _ => slope) rounds start (settings ++ [.method .newtonRaphson]) =
        find function (fun _ => slope) rounds start (settings ++ [.method .homeier]) ∧
      tryFind function (fun _ => slope) rounds start
          (settings ++ [.method .newtonRaphson]) =
        tryFind function (fun _ => slope) rounds start (settings ++ [.method .homeier]) := by
  have withMethod_eq (method : Method α) :
      Finder.ofFunctions function (fun _ => slope) (settings ++ [.method method]) =
        (Finder.ofFunctions function (fun _ => slope) settings).withMethod method := by
    rw [Finder.ofFunctions, Config.ofSettings_append]
    rfl
  have constant :
      (Finder.ofFunctions function (fun _ => slope) settings).oracle.ConstantSlope slope
        id :=
    Oracle.constantSlope_ofFunctions function slope
  have same := Finder.search_withMethod constant rounds start
  have sameChecked := Finder.checkedSearch_withMethod constant rounds start
  rw [find, find, tryFind, tryFind, withMethod_eq, withMethod_eq]
  exact ⟨congrArg Search.Record.root? same.1, congrArg Prod.snd sameChecked.1⟩

end RootFinding
