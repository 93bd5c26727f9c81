import Walkoff.Analysis.Samples
import Walkoff.Analysis.SerialReference

/-!
# The serial loop follows the reference run

The loop and its generator are run side by side with the reference run. Between two turns
the generator is suspended with the last action and its status in the context, where the
reference run is about to try the branches of that action. The two part in one place: an
app status `trigger` makes the loop return, whatever branches leave the action.
-/

set_option autoImplicit false

namespace Walkoff.Analysis

open Walkoff.Model Walkoff.Program
open Walkoff.Library (Along Deterministic Ends IsStableSort Run Stuck Within bind_apply bind_eq_ok)

variable {σ : Type}

/-! ## Traces -/

/-- A step that logs nothing serial leaves the trace. -/
theorem serialTrace_of_frame {P : Obs → Prop} {E : Packet → Prop} {w w' : World σ}
    (h : Frame P E w w') (hP : ∀ o, P o → isSerial o = false) : serialTrace w' = serialTrace w := by
  obtain ⟨new, hlog, hnew⟩ := h.log
  have hnone : new.filter isSerial = [] :=
    List.filter_eq_nil_iff.mpr fun o ho => by simp [hP o (hnew o ho)]
  rw [serialTrace, hlog, List.filter_append, hnone, List.append_nil, serialTrace]

/-- The same of a step that logs nothing. -/
theorem serialTrace_of_never {E : Packet → Prop} {w w' : World σ} (h : Frame Never E w w') :
    serialTrace w' = serialTrace w :=
  serialTrace_of_frame h fun _ h => h.elim

/-- The call of an action is not part of the trace. -/
theorem not_isSerial_of_callsApp {action : Action} {entry : Obs} (h : CallsApp action entry) :
    isSerial entry = false := by
  obtain ⟨_, _, rfl⟩ := h
  rfl

/-- The traces of two steps are one after the other. -/
theorem newTrace_trans {u v w : World σ} {s t : List Obs} (h : NewTrace u v s)
    (h' : NewTrace v w t) : NewTrace u w (s ++ t) := by
  unfold NewTrace at *
  rw [h', h, List.append_assoc]

/-- What logs nothing extends no trace. -/
theorem NewTrace.quiet {E : Packet → Prop} {u v w : World σ} {s : List Obs} (h : NewTrace u v s)
    (hquiet : Frame Never E v w) : NewTrace u w s :=
  (serialTrace_of_never hquiet).trans h

/-- A step that logs nothing has no trace. -/
theorem newTrace_nil {E : Packet → Prop} {w w' : World σ} (h : Frame Never E w w') :
    NewTrace w w' [] := by
  simpa [NewTrace] using serialTrace_of_never h

/-- An entry is the trace if it is a serial one. -/
theorem newTrace_logged (w : World σ) (o : Obs) :
    NewTrace w (w.logged o) (if isSerial o then [o] else []) := by
  cases h : isSerial o <;> simp [NewTrace, serialTrace, World.logged, h]

section

variable {env : Env σ} {o : Origin}

/-- Counting a branch shows that it is tried, also when its counter cannot be stored. -/
theorem countBranch_trace (branch : Branch) (counter : ℕ) (w : World σ) :
    Ends (fun _ w' => NewTrace w w' [.branchExecuted branch.id])
      (fun _ w' => NewTrace w w' [.branchExecuted branch.id])
      (countBranch o branch counter w) := by
  have hobserve := newTrace_logged w (.branchExecuted branch.id)
  refine Ends.mono ((frame_setAccumulatorItem (P := Never) (E := Never) _ _ _).ends _) ?_ ?_ <;>
    exact fun _ w' h => hobserve.quiet h

/-- The report of a branch shows it if it is taken. -/
theorem reportBranch_trace (branch : Branch) (taken : Bool) (w : World σ) :
    Ends (fun _ w' => NewTrace w w' (if taken then [.branchTaken branch.id] else []))
      (fun _ w' => NewTrace w w' []) (reportBranch env o branch taken w) := by
  unfold reportBranch
  cases taken with
  | true =>
    rw [if_pos rfl, if_pos rfl]
    refine Ends.bind ((frame_handleEvent_inner (P := Never) rfl rfl).ends w) ?_ ?_
    · exact fun _ v h => newTrace_trans (newTrace_nil h) (newTrace_logged v _)
    · exact fun _ v h => newTrace_nil h
  | false =>
    rw [if_neg Bool.false_ne_true, if_neg Bool.false_ne_true]
    refine Ends.mono ((frame_handleEvent_inner (P := Never) rfl rfl).ends w) ?_ ?_ <;>
      exact fun _ _ h => newTrace_nil h

/-- One evaluation of a branch shows that it is tried and, if it is taken, that. -/
theorem Evaluates.trace {action : Action} {status : String} {branch : Branch} {counter : ℕ}
    {w w' : World σ} {holds : Bool} (h : Evaluates env o action status branch counter w holds w') :
    NewTrace w w' (.branchExecuted branch.id :: if holds then [.branchTaken branch.id] else []) := by
  cases h with
  | mismatch _ hcount =>
    simpa using (countBranch_trace branch counter w).of_ok hcount
  | condition _ hcount _ hcondition hreport =>
    have h₁ := (countBranch_trace branch counter w).of_ok hcount
    have h₂ := serialTrace_of_never ((frame_branchCondition env o branch _).of_ok hcondition)
    have h₃ := (reportBranch_trace branch holds _).of_ok hreport
    unfold NewTrace at *
    rw [h₃, h₂, h₁, List.append_assoc]
    rfl

/-- A branch whose execution raises has been tried and not taken. -/
theorem executeBranch_raises_trace {action : Action} {status : Option String} {branch : Branch}
    {counters : UUID → ℕ} {w w' : World σ} {e : Exn}
    (h : executeBranch env o branch status action counters w = .error e w') :
    NewTrace w w' [.branchExecuted branch.id] := by
  have hends : Ends (fun _ _ => True) (fun _ w' => NewTrace w w' [.branchExecuted branch.id])
      (executeBranch env o branch status action counters w) := by
    unfold executeBranch
    refine Ends.bind (countBranch_trace branch _ w) ?_ fun _ _ h => h
    intro _ w₁ h₁
    split
    · refine Ends.bind ((frame_getAccumulator (P := Never) (E := Never) _).ends w₁) ?_
        fun _ w₂ h₂ => h₁.quiet h₂
      intro accumulator w₂ h₂
      cases accumulator.getItem (.uuid action.id) with
      | none => exact h₁.quiet h₂
      | some dataIn =>
        refine Ends.bind ((frame_branchCondition (P := Never) env o branch dataIn).ends w₂) ?_
          fun _ w₃ h₃ => (h₁.quiet h₂).quiet h₃
        intro holds w₃ h₃
        refine Ends.bind (reportBranch_trace branch holds w₃) (fun _ _ _ => trivial) ?_
        exact fun _ w₄ h₄ => newTrace_trans ((h₁.quiet h₂).quiet h₃) h₄
    · trivial
  exact hends.of_error h

end

/-! ## The simulation -/

/-- The reference run is about to try branches of an action with the status `trigger`. -/
def TriggerStatus (c : Config σ) : Prop :=
  ∃ action branch branches, c.phase = .trying action "trigger" (branch :: branches)

section

variable (env : Env σ) (ctx : Context) (resume : Bool)

/-- The reference run as far as the loop follows it. -/
abbrev Followed : Config σ → List (List Obs) → Config σ → Prop :=
  Run (Along (SerialStep env ctx resume) fun c => ¬ TriggerStatus c)

/-- The loop runs in the context of the reference run, neither paused nor aborted. -/
structure SameContext (ctx' : Context) : Prop where
  workflow : ctx'.workflow = ctx.workflow
  executionId : ctx'.executionId = ctx.executionId
  user : ctx'.user = ctx.user
  hasBranches : ctx'.hasBranches = !ctx.workflow.branches.isEmpty
  isPaused : ctx'.isPaused = false
  isAborted : ctx'.isAborted = false

/-- Between two turns the variables of the loop say where the reference run is. -/
inductive Matches (vars : LoopVars) : Config σ → Prop where
  | fresh {start : UUID} {w : World σ} (hctx : SameContext ctx vars.ctx)
    (hactions : vars.actions = .fresh start) (hboundary : vars.boundary = 0) :
    Matches vars ⟨.arriving start vars.startArguments !resume, vars.ctx.counters, w⟩
  | suspended {action : Action} {status : String} {order : List Branch} {w : World σ}
    (hctx : SameContext ctx vars.ctx) (hactions : vars.actions = .suspended)
    (haction : vars.ctx.executingAction = some action)
    (hstatus : vars.ctx.lastStatus = some status) (hne : status ≠ "trigger")
    (harguments : vars.startArguments = []) (hboundary : 0 < vars.boundary)
    (horder : IsStableSort Branch.priority (ctx.workflow.getBranchesByActionId action.id) order) :
    Matches vars ⟨.trying action status order, vars.ctx.counters, w⟩

/-- An exception breaks the loop off where the reference run is stuck. -/
def BreaksOff (c : Config σ) (w' : World σ) : Prop :=
  ∃ ls d broken, Followed env ctx resume c ls d ∧ ¬ TriggerStatus d ∧
    Stuck (SerialStep env ctx resume) d ∧ NewTrace c.world w' (ls.flatten ++ broken) ∧
    (broken = [] ∨ ∃ action status branch branches,
      d.phase = .trying action status (branch :: branches) ∧
        broken = [.branchExecuted branch.id])

/-- What one turn of the loop does, seen from the reference run. -/
inductive TurnFollows (c : Config σ) : EStateM.Result Exn (World σ) Turn → Prop where
  | again {ls : List (List Obs)} {d : Config σ} {vars : LoopVars} {w' : World σ}
    (hrun : Followed env ctx resume c ls d) (htrace : NewTrace c.world w' ls.flatten)
    (hcount : actionCount ls.flatten = 1) (hmatches : Matches ctx resume vars d)
    (hworld : d.world = w') : TurnFollows c (.ok (.again vars) w')
  | returned {ls : List (List Obs)} {d : Config σ} {w' : World σ}
    (hrun : Followed env ctx resume c ls d) (htrace : NewTrace c.world w' ls.flatten)
    (hstopped : d.phase = .stopped) : TurnFollows c (.ok .returned w')
  | misled {ls : List (List Obs)} {d : Config σ} {w' : World σ}
    (hrun : Followed env ctx resume c ls d) (htrace : NewTrace c.world w' ls.flatten)
    (hcount : actionCount ls.flatten = 1) (htrigger : TriggerStatus d) :
    TurnFollows c (.ok .returned w')
  | raised {e : Exn} {w' : World σ} (h : BreaksOff env ctx resume c w') : TurnFollows c (.error e w')

/-- What the loop does in some turns, seen from the reference run: it follows it all the way,
or it returns where a `trigger` status has misled it. -/
inductive LoopFollows (turns : ℕ) (c : Config σ) : EStateM.Result Exn (World σ) Progress → Prop where
  | running {ls : List (List Obs)} {d : Config σ} {vars : LoopVars} {w' : World σ}
    (hrun : Followed env ctx resume c ls d) (htrace : NewTrace c.world w' ls.flatten)
    (hcount : actionCount ls.flatten = turns) (hmatches : Matches ctx resume vars d) :
    LoopFollows turns c (.ok (.running vars) w')
  | returned {ls : List (List Obs)} {d : Config σ} {w' : World σ}
    (hrun : Followed env ctx resume c ls d) (htrace : NewTrace c.world w' ls.flatten)
    (hstopped : d.phase = .stopped) : LoopFollows turns c (.ok .returned w')
  | misled {ls : List (List Obs)} {d : Config σ} {w' : World σ}
    (hrun : Followed env ctx resume c ls d) (htrace : NewTrace c.world w' ls.flatten)
    (hcount : actionCount ls.flatten ≤ turns) (htrigger : TriggerStatus d) :
    LoopFollows turns c (.ok .returned w')
  | raised {e : Exn} {w' : World σ} (h : BreaksOff env ctx resume c w') :
    LoopFollows turns c (.error e w')

variable {env ctx resume}

/-- Actions are counted part by part. -/
theorem actionCount_append (s t : List Obs) :
    actionCount (s ++ t) = actionCount s + actionCount t :=
  List.countP_append

/-- A run that breaks off later on breaks off. -/
theorem BreaksOff.after {c d : Config σ} {ls : List (List Obs)} {w' : World σ}
    (hrun : Followed env ctx resume c ls d) (htrace : NewTrace c.world d.world ls.flatten)
    (h : BreaksOff env ctx resume d w') : BreaksOff env ctx resume c w' := by
  obtain ⟨ms, e, broken, hrest, hgood, hstuck, hnew, hbroken⟩ := h
  refine ⟨ls ++ ms, e, broken, hrun.append hrest, hgood, hstuck, ?_, hbroken⟩
  rw [List.flatten_append, List.append_assoc]
  exact newTrace_trans htrace hnew

/-! ### The branches of an action -/

/-- **The loop over the branches** tries them as the reference run does: it ends at the
destination of the first that qualifies, or with the run stopped. -/
theorem tryBranches_follows (env : Env σ) (ctx : Context) (resume : Bool) (action : Action)
    {status : String} (hne : status ≠ "trigger") (branches : List Branch) (n : UUID → ℕ)
    (w : World σ) :
    Ends
      (fun r w' => ∃ ls,
        Followed env ctx resume ⟨.trying action status branches, n, w⟩ ls
          ⟨(match r.1 with
            | some id => .arriving id [] true
            | none => .stopped), r.2, w'⟩ ∧
        NewTrace w w' ls.flatten ∧ actionCount ls.flatten = 0)
      (fun _ w' => BreaksOff env ctx resume ⟨.trying action status branches, n, w⟩ w')
      (tryBranches env (originAt ctx action) (some status) action n branches w) := by
  have hgood : ∀ (bs : List Branch) (m : UUID → ℕ) (v : World σ),
      ¬ @TriggerStatus σ ⟨.trying action status bs, m, v⟩ := by
    rintro bs m v ⟨_, _, _, hphase⟩
    exact hne (Phase.trying.inj hphase).2.1
  induction branches generalizing n w with
  | nil => exact ⟨[[]], .single ⟨hgood _ _ _, .exhausted⟩, by simp [NewTrace], rfl⟩
  | cons branch branches ih =>
    rw [tryBranches, bind_apply]
    cases hexecute : executeBranch env (originAt ctx action) branch (some status) action n w with
    | error e w' =>
      refine ⟨[], _, [.branchExecuted branch.id], .refl _, hgood _ _ _, ?_,
        executeBranch_raises_trace hexecute, .inr ⟨_, _, _, _, rfl, rfl⟩⟩
      -- an evaluation of the branch would be a return of `executeBranch`
      have hnone : ∀ holds w'', ¬ Evaluates env (originAt ctx action) action status branch
          (n branch.id + 1) w holds w'' := by
        intro holds w'' h
        have := executeBranch_eq_ok.mpr ⟨holds, h, rfl, rfl⟩
        rw [hexecute] at this
        cases this
      intro l d hstep
      cases hstep with
      | passed h => exact hnone _ _ h
      | taken h => exact hnone _ _ h
    | ok r w₁ =>
      obtain ⟨destination, n'⟩ := r
      obtain ⟨holds, hevaluates, rfl, rfl⟩ := executeBranch_eq_ok.mp hexecute
      have htrace := hevaluates.trace
      cases holds with
      | true =>
        exact ⟨[_], .single ⟨hgood _ _ _, .taken hevaluates⟩, by simpa using htrace, rfl⟩
      | false =>
        have hstep : Followed env ctx resume ⟨.trying action status (branch :: branches), n, w⟩
            [[.branchExecuted branch.id]] _ := .single ⟨hgood _ _ _, .passed hevaluates⟩
        have hone : NewTrace w w₁ [[Obs.branchExecuted branch.id]].flatten := by simpa using htrace
        refine (ih _ w₁).mono ?_ fun _ w' h => h.after hstep hone
        rintro r w' ⟨ls, hrun, hrest, hcount⟩
        refine ⟨_, hstep.append hrun, ?_, ?_⟩
        · rw [List.flatten_append]
          exact newTrace_trans hone hrest
        · rw [List.flatten_append, actionCount_append, hcount]
          rfl

/-! ### One turn -/

/-- A turn follows the reference from before steps without an action. -/
theorem TurnFollows.after {c d : Config σ} {ls : List (List Obs)}
    {r : EStateM.Result Exn (World σ) Turn} (hrun : Followed env ctx resume c ls d)
    (htrace : NewTrace c.world d.world ls.flatten) (hcount : actionCount ls.flatten = 0)
    (h : TurnFollows env ctx resume d r) : TurnFollows env ctx resume c r := by
  have hcounts : ∀ ms : List (List Obs),
      actionCount (ls ++ ms).flatten = actionCount ms.flatten := fun ms => by
    rw [List.flatten_append, actionCount_append, hcount, Nat.zero_add]
  cases h with
  | again hrest hnew hcount' hmatches hworld =>
    refine .again (hrun.append hrest) ?_ ((hcounts _).trans hcount') hmatches hworld
    rw [List.flatten_append]
    exact newTrace_trans htrace hnew
  | returned hrest hnew hstopped =>
    refine .returned (hrun.append hrest) ?_ hstopped
    rw [List.flatten_append]
    exact newTrace_trans htrace hnew
  | misled hrest hnew hcount' htrigger =>
    refine .misled (hrun.append hrest) ?_ ((hcounts _).trans hcount') htrigger
    rw [List.flatten_append]
    exact newTrace_trans htrace hnew
  | raised h => exact .raised (h.after hrun htrace)

/-- Executing an action shows its status, or nothing when it raises. -/
theorem arriveAt_trace {action : Action} (htrigger : action.trigger = none)
    (arguments : List Argument) (arrived : Bool) (w : World σ) :
    Ends (fun r w' => ∃ status, r = .status status ∧
        NewTrace w w' [.executed action.id status])
      (fun _ w' => NewTrace w w' [])
      (arriveAt env ctx resume action arguments arrived w) := by
  have hvisited := newTrace_logged w (.visited action.id arrived resume)
  have hruns := performAction_runs env (originAt ctx action)
    (show (action.trigger.isSome && !resume) = false by simp [htrigger]) arguments
    (w.logged (.visited action.id arrived resume))
  have hquiet : ∀ {u v : World σ}, Frame (CallsApp action) (Inner ctx.executionId) u v →
      NewTrace u v [] := fun h => by
    simpa [NewTrace] using serialTrace_of_frame h fun _ h => not_isSerial_of_callsApp h
  refine Ends.mono hruns ?_ ?_
  · rintro r w' ⟨status, w₁, rfl, hframe, rfl⟩
    exact ⟨status, rfl, newTrace_trans (newTrace_trans hvisited (hquiet hframe))
      (newTrace_logged w₁ _)⟩
  · exact fun _ w' hframe => newTrace_trans hvisited (hquiet hframe)

/-- A turn that is not disturbed executes its action and looks at the status. -/
theorem bodyTurn_undisturbed {control : ℕ → Control} (hcontrol : ∀ n, control n = ⟨false, false⟩)
    {vars : LoopVars} (hctx : SameContext ctx vars.ctx) (action : Action) (w : World σ) :
    bodyTurn env control resume vars action w =
      (arriveAt env ctx resume action vars.startArguments (!(resume && vars.boundary == 0)) >>=
        fun resultStatus => match resultStatus with
          | .actionResult _ => throw .attributeError
          | .status s =>
            if s = "trigger" then pure .returned
            else pure (.again { vars with
              ctx := { vars.ctx with executingAction := some action, lastStatus := some s }
              startArguments := [], boundary := vars.boundary + 1 })) w := by
  have horigin : Context.origin { vars.ctx with executingAction := some action } =
      originAt ctx action := by
    simp only [Context.origin, originAt, hctx.executionId, hctx.workflow, hctx.user]
  simp only [bodyTurn, LoopVars.enter, hcontrol, hctx.isPaused, hctx.isAborted, Bool.or_false,
    Bool.false_eq_true, if_false, actionTurn, arriveAt, bind_assoc, Context.updateStatus]
  rw [← horigin]
  rfl

/-- **The body of the loop at an action** executes it as the reference run does. -/
theorem bodyTurn_follows {control : ℕ → Control} (hcontrol : ∀ n, control n = ⟨false, false⟩)
    {vars : LoopVars} (hctx : SameContext ctx vars.ctx) (hactions : vars.actions = .suspended)
    {id : UUID} {action : Action} (haction : ctx.getActionById id = some action)
    (htrigger : action.trigger = none) (w : World σ) :
    TurnFollows env ctx resume
      ⟨.arriving id vars.startArguments !(resume && vars.boundary == 0), vars.ctx.counters, w⟩
      (bodyTurn env control resume vars action w) := by
  have hgood : ¬ @TriggerStatus σ
      ⟨.arriving id vars.startArguments !(resume && vars.boundary == 0), vars.ctx.counters, w⟩ := by
    rintro ⟨_, _, _, hphase⟩
    cases hphase
  rw [bodyTurn_undisturbed hcontrol hctx, bind_apply]
  have hends : Ends _ _ (arriveAt env ctx resume action vars.startArguments
    (!(resume && vars.boundary == 0)) w) := arriveAt_trace htrigger _ _ w
  cases hrun : arriveAt env ctx resume action vars.startArguments
      (!(resume && vars.boundary == 0)) w with
  | error e w' =>
    refine .raised ⟨[], _, [], .refl _, hgood, ?_, hends.of_error hrun, .inl rfl⟩
    intro l d hstep
    cases hstep with
    | executed haction' hrun' =>
      rw [haction] at haction'
      cases haction'
      rw [hrun] at hrun'
      cases hrun'
    | missing haction' =>
      rw [haction] at haction'
      cases haction'
  | ok r w' =>
    obtain ⟨status, rfl, htrace⟩ := hends.of_ok hrun
    have horder := IsStableSort.mergeSort Branch.priority
      (ctx.workflow.getBranchesByActionId action.id)
    have hstep : Followed env ctx resume _ [[.executed action.id status]]
        ⟨.trying action status _, vars.ctx.counters, w'⟩ :=
      .single ⟨hgood, .executed haction hrun horder⟩
    by_cases hstatus : status = "trigger"
    · subst hstatus
      simp only [if_true]
      generalize hbranches : (ctx.workflow.getBranchesByActionId action.id).mergeSort _ = order
        at hstep
      cases order with
      | nil =>
        refine .returned (hstep.append (.single ⟨?_, .exhausted⟩)) (by simpa using htrace) rfl
        rintro ⟨_, _, _, hphase⟩
        cases hphase
      | cons branch branches =>
        exact .misled hstep (by simpa using htrace) rfl ⟨_, _, _, rfl⟩
    · simp only [hstatus, if_false]
      refine .again hstep (by simpa using htrace) rfl ?_ rfl
      exact .suspended ⟨hctx.workflow, hctx.executionId, hctx.user, hctx.hasBranches, hctx.isPaused,
        hctx.isAborted⟩ hactions rfl rfl hstatus rfl (Nat.succ_pos _) horder

/-- Shutting down ends a turn where the reference run has stopped. -/
theorem shutdown_follows {control : ℕ → Control} (vars : LoopVars) (n : UUID → ℕ) (w : World σ) :
    TurnFollows env ctx resume ⟨.stopped, n, w⟩ (enterTurn env control resume vars none w) := by
  have hgood : ¬ @TriggerStatus σ ⟨.stopped, n, w⟩ := by
    rintro ⟨_, _, _, hphase⟩
    cases hphase
  have hends := (frame_shutdown (P := Never) env vars.ctx).ends w
  rw [enterTurn, bind_apply]
  cases hshutdown : shutdown env vars.ctx w with
  | ok r w' => exact .returned (.refl _) (newTrace_nil (hends.of_ok hshutdown)) rfl
  | error e w' =>
    exact .raised ⟨[], _, [], .refl _, hgood, SerialStep.stuck_stopped env ctx resume n w,
      newTrace_nil (hends.of_error hshutdown), .inl rfl⟩

/-- The generator's answer for an id is entered where the reference run arrives at it. -/
theorem yield_follows {control : ℕ → Control} (hcontrol : ∀ n, control n = ⟨false, false⟩)
    (htrigger : ∀ action ∈ ctx.workflow.actions, action.trigger = none) (vars : LoopVars)
    {ctx' : Context} (hctx : SameContext ctx ctx') {arguments : List Argument} {arrived : Bool}
    (harguments : vars.startArguments = arguments)
    (harrived : (!(resume && vars.boundary == 0)) = arrived) (id : UUID) (w : World σ) :
    TurnFollows env ctx resume ⟨.arriving id arguments arrived, ctx'.counters, w⟩
      ((fun r : Option Action × ActionIter × Context =>
          enterTurn env control resume { vars with actions := r.2.1, ctx := r.2.2 } r.1)
        (ActionIter.yield ctx' (ctx'.getActionById id)) w) := by
  have hlookup : ctx'.getActionById id = ctx.getActionById id := by
    simp only [Context.getActionById, hctx.workflow]
  rw [hlookup]
  cases haction : ctx.getActionById id with
  | none =>
    refine (shutdown_follows _ ctx'.counters w).after
      (.single ⟨?_, .missing haction⟩) (by simp [NewTrace]) rfl
    rintro ⟨_, _, _, hphase⟩
    cases hphase
  | some action =>
    subst harguments harrived
    have hbody : TurnFollows env ctx resume _ (bodyTurn env control resume
        ⟨ctx', .suspended, vars.startArguments, vars.boundary⟩ action w) :=
      bodyTurn_follows hcontrol hctx rfl haction
        (htrigger action (List.mem_of_find?_eq_some haction)) w
    exact hbody

/-- The branches of the workflow in the order in which they are tried. -/
theorem getBranchesByActionId_of_sameContext {ctx' : Context} (h : SameContext ctx ctx')
    (id : UUID) : IsStableSort Branch.priority (ctx.workflow.getBranchesByActionId id)
      (ctx'.getBranchesByActionId id) := by
  have hsort := IsStableSort.mergeSort Branch.priority (ctx.workflow.getBranchesByActionId id)
  unfold Context.getBranchesByActionId
  rw [h.workflow]
  exact hsort

/-- Without any branches in the workflow, none leaves the action. -/
theorem order_eq_nil {ctx' : Context} (h : SameContext ctx ctx') (hnone : ctx'.hasBranches = false)
    {id : UUID} {order : List Branch}
    (horder : IsStableSort Branch.priority (ctx.workflow.getBranchesByActionId id) order) :
    order = [] := by
  have hempty : ctx.workflow.branches = [] := by simpa [h.hasBranches] using hnone
  exact horder.eq_nil_iff.mpr (by simp [Workflow.getBranchesByActionId, hempty])

/-- **One turn of the loop** goes where the reference run goes. -/
theorem loopTurn_follows {control : ℕ → Control} (hcontrol : ∀ n, control n = ⟨false, false⟩)
    (htrigger : ∀ action ∈ ctx.workflow.actions, action.trigger = none) {vars : LoopVars}
    {c : Config σ} (hmatches : Matches ctx resume vars c) :
    TurnFollows env ctx resume c (loopTurn env control resume vars c.world) := by
  cases hmatches with
  | @fresh start w hctx hactions hboundary =>
    simp only [loopTurn, hactions, ActionIter.next, pure_bind]
    exact yield_follows hcontrol htrigger vars hctx rfl (by simp [hboundary]) start w
  | @suspended action status order w hctx hactions haction hstatus hne harguments hboundary horder =>
    have hboundary' : (vars.boundary == 0) = false := by simpa using hboundary.ne'
    cases hbranches : vars.ctx.hasBranches with
    | false =>
      obtain rfl := order_eq_nil hctx hbranches horder
      simp only [loopTurn, hactions, ActionIter.next, getBranch, hbranches, Bool.false_eq_true,
        if_false, pure_bind, Option.bind_none, ActionIter.yield]
      refine (shutdown_follows _ vars.ctx.counters w).after
        (.single ⟨?_, .exhausted⟩) (by simp [NewTrace]) rfl
      rintro ⟨_, _, _, hphase⟩
      cases hphase
    | true =>
      obtain rfl := horder.unique (getBranchesByActionId_of_sameContext hctx action.id)
      have horigin : vars.ctx.origin = originAt ctx action := by
        simp only [Context.origin, originAt, hctx.executionId, hctx.workflow, hctx.user, haction]
      have htry := tryBranches_follows env ctx resume action hne
        (vars.ctx.getBranchesByActionId action.id) vars.ctx.counters w
      simp only [loopTurn, hactions, ActionIter.next, getBranch, hbranches, if_true, haction,
        hstatus, bind_assoc, pure_bind, horigin]
      rw [bind_apply]
      cases hresult : tryBranches env (originAt ctx action) (some status) action vars.ctx.counters
          (vars.ctx.getBranchesByActionId action.id) w with
      | error e w' => exact .raised (htry.of_error hresult)
      | ok r w' =>
        obtain ⟨destination, counters⟩ := r
        obtain ⟨ls, hrun, htrace, hcount⟩ := htry.of_ok hresult
        cases destination with
        | none => exact (shutdown_follows _ counters w').after hrun htrace hcount
        | some id =>
          have hctx' : SameContext ctx { vars.ctx with counters } :=
            ⟨hctx.workflow, hctx.executionId, hctx.user, hctx.hasBranches, hctx.isPaused,
              hctx.isAborted⟩
          have harrived : (!(resume && vars.boundary == 0)) = true := by simp [hboundary']
          have hyield : TurnFollows env ctx resume _ _ :=
            yield_follows hcontrol htrigger vars hctx' harguments harrived id w'
          simp only [hbranches, haction, hstatus] at hyield
          exact hyield.after hrun htrace hcount

/-! ### The whole loop -/

/-- A turn that executes an action of the reference run, followed by more turns. -/
theorem LoopFollows.after {turns : ℕ} {c d : Config σ} {ls : List (List Obs)}
    {r : EStateM.Result Exn (World σ) Progress} (hrun : Followed env ctx resume c ls d)
    (htrace : NewTrace c.world d.world ls.flatten) (hcount : actionCount ls.flatten = 1)
    (h : LoopFollows env ctx resume turns d r) : LoopFollows env ctx resume (turns + 1) c r := by
  have hcounts : ∀ ms : List (List Obs),
      actionCount (ls ++ ms).flatten = actionCount ms.flatten + 1 := fun ms => by
    rw [List.flatten_append, actionCount_append, hcount, Nat.add_comm]
  have htraces : ∀ {w' : World σ} {ms : List (List Obs)}, NewTrace d.world w' ms.flatten →
      NewTrace c.world w' (ls ++ ms).flatten := fun hnew => by
    rw [List.flatten_append]
    exact newTrace_trans htrace hnew
  cases h with
  | running hrest hnew hcount' hmatches =>
    exact .running (hrun.append hrest) (htraces hnew) (by rw [hcounts, hcount']) hmatches
  | returned hrest hnew hstopped => exact .returned (hrun.append hrest) (htraces hnew) hstopped
  | misled hrest hnew hcount' htrigger =>
    exact .misled (hrun.append hrest) (htraces hnew) (by rw [hcounts]; omega) htrigger
  | raised h => exact .raised (h.after hrun htrace)

/-- **The loop follows the reference run** for any number of turns, as long as no status
misleads it. -/
theorem runLoop_follows {control : ℕ → Control} (hcontrol : ∀ n, control n = ⟨false, false⟩)
    (htrigger : ∀ action ∈ ctx.workflow.actions, action.trigger = none) (turns : ℕ)
    {vars : LoopVars} {c : Config σ} (hmatches : Matches ctx resume vars c) :
    LoopFollows env ctx resume turns c (runLoop env control resume turns vars c.world) := by
  induction turns generalizing vars c with
  | zero => exact .running (.refl _) (by simp [NewTrace]) rfl hmatches
  | succ turns ih =>
    have hturn : TurnFollows env ctx resume c _ := loopTurn_follows hcontrol htrigger hmatches
    rw [runLoop, Library.loop, bind_apply]
    generalize loopTurn env control resume vars c.world = r at hturn
    cases hturn with
    | again hrun htrace hcount hmatches' hworld =>
      subst hworld
      exact (ih hmatches').after hrun htrace hcount
    | returned hrun htrace hstopped => exact .returned hrun htrace hstopped
    | misled hrun htrace hcount htrigger =>
      exact .misled hrun htrace (by omega) htrigger
    | raised h => exact .raised h

/-! ### When the loop follows the reference run -/

/-- The phases in which no status has misled the loop. -/
def NotMisled (c : Config σ) : Prop :=
  ∀ action branches, c.phase ≠ .trying action "trigger" branches

/-- A loop that matches the reference is not misled. -/
theorem Matches.notMisled {vars : LoopVars} {c : Config σ} (h : Matches ctx resume vars c) :
    NotMisled c := by
  intro action branches hphase
  cases h with
  | fresh => cases hphase
  | suspended _ _ _ _ hne => exact hne (Phase.trying.inj hphase).2.1

/-- Where the loop is not misled, no status is left of a trigger. -/
theorem NotMisled.not_triggerStatus {c : Config σ} (h : NotMisled c) : ¬ TriggerStatus c := by
  rintro ⟨_, _, _, hphase⟩
  exact h _ _ hphase

/-- Without executing another action, a run meets no other status. -/
theorem notMisled_of_run {c d : Config σ} {ls : List (List Obs)}
    (hrun : Run (SerialStep env ctx resume) c ls d) (hcount : actionCount ls.flatten = 0)
    (hc : NotMisled c) : NotMisled d := by
  induction hrun with
  | refl => exact hc
  | cons hstep _ ih =>
    rw [List.flatten_cons, actionCount_append] at hcount
    refine ih (by omega) ?_
    intro action branches hphase
    cases hstep with
    | executed => simp [actionCount] at hcount
    | missing => cases hphase
    | passed =>
      obtain ⟨rfl, rfl, rfl⟩ := Phase.trying.inj hphase
      exact hc _ _ rfl
    | taken => cases hphase
    | exhausted => cases hphase

/-- A run that leaves a branch to try shows that branch. -/
theorem flatten_ne_nil_of_triggerStatus {c d : Config σ} {ls : List (List Obs)}
    (hrun : Run (SerialStep env ctx resume) c ls d) (hc : TriggerStatus c)
    (hd : d.phase = .stopped) : ls.flatten ≠ [] := by
  obtain ⟨action, branch, branches, hphase⟩ := hc
  cases hrun with
  | refl =>
    rw [hphase] at hd
    cases hd
  | cons hstep _ =>
    cases hstep with
    | executed => cases hphase
    | missing => cases hphase
    | passed => simp
    | taken => simp
    | exhausted => cases hphase

/-- A state that the followed run ends in, or that an arbitrary run reaches on the way to it
or without executing another action, has misled nothing. -/
theorem not_triggerStatus_of_comparable {c d e : Config σ} {ls ms : List (List Obs)}
    (hfollowed : Followed env ctx resume c ms e) (he : ¬ TriggerStatus e)
    (hrun : Run (SerialStep env ctx resume) c ls d)
    (hafter : ∀ ns, ls = ms ++ ns → Run (SerialStep env ctx resume) e ns d → ¬ TriggerStatus d) :
    ¬ TriggerStatus d := by
  have hdet := SerialStep.deterministic env ctx resume
  rcases Run.comparable hdet hrun (Along.forget hfollowed) with ⟨ns, hns, hrest⟩ | ⟨ns, hns, hrest⟩
  · exact Run.good_of_prefix hdet hfollowed he hrun hns hrest
  · exact hafter ns hns hrest

/-- A stopped configuration is stuck. -/
theorem stuck_of_stopped {d : Config σ} (h : d.phase = .stopped) :
    Stuck (SerialStep env ctx resume) d := by
  obtain ⟨phase, n, w⟩ := d
  subst h
  exact SerialStep.stuck_stopped env ctx resume n w

/-- A stopped configuration has no status left of a trigger. -/
theorem not_triggerStatus_of_stopped {d : Config σ} (h : d.phase = .stopped) :
    ¬ TriggerStatus d := by
  rintro ⟨_, _, _, hphase⟩
  rw [h] at hphase
  cases hphase

/-- A loop that was misled does not follow the reference run, which goes on with a branch. -/
theorem not_followsReference_of_misled {turns : ℕ} {c d : Config σ} {ls : List (List Obs)}
    {w' : World σ} (hrun : Run (SerialStep env ctx resume) c ls d)
    (htrace : NewTrace c.world w' ls.flatten) (hmisled : TriggerStatus d) :
    ¬ FollowsReference env ctx resume turns c (.ok .returned w') := by
  intro h
  cases h with
  | @returned ms e _ hrun' htrace' hstopped =>
    have hflatten : ls.flatten = ms.flatten := List.append_cancel_left (htrace.symm.trans htrace')
    rcases Run.comparable (SerialStep.deterministic env ctx resume) hrun hrun' with
      ⟨ns, rfl, hrest⟩ | ⟨ns, -, hrest⟩
    · exact flatten_ne_nil_of_triggerStatus hrest hmisled hstopped (by simpa using hflatten)
    · obtain ⟨-, rfl⟩ := hrest.eq_of_stuck (stuck_of_stopped hstopped)
      exact not_triggerStatus_of_stopped hstopped hmisled

/-- A reference run that meets a misleading status within the turns is not followed. -/
theorem LoopFollows.not_triggerStatus {turns : ℕ} {c d : Config σ} {ls : List (List Obs)}
    {r : EStateM.Result Exn (World σ) Progress} (hfollows : LoopFollows env ctx resume turns c r)
    (h : FollowsReference env ctx resume turns c r)
    (hrun : Run (SerialStep env ctx resume) c ls d) (hcount : actionCount ls.flatten ≤ turns) :
    ¬ TriggerStatus d := by
  cases hfollows with
  | running hfollowed _ hturns hmatches =>
    refine not_triggerStatus_of_comparable hfollowed hmatches.notMisled.not_triggerStatus hrun ?_
    rintro ns rfl hrest
    rw [List.flatten_append, actionCount_append] at hcount
    exact (notMisled_of_run hrest (by omega) hmatches.notMisled).not_triggerStatus
  | returned hfollowed _ hstopped =>
    refine not_triggerStatus_of_comparable hfollowed (not_triggerStatus_of_stopped hstopped) hrun ?_
    intro ns _ hrest
    obtain ⟨-, rfl⟩ := hrest.eq_of_stuck (stuck_of_stopped hstopped)
    exact not_triggerStatus_of_stopped hstopped
  | misled hfollowed htrace _ hmisled =>
    exact absurd h (not_followsReference_of_misled (Along.forget hfollowed) htrace hmisled)
  | raised hbreaks =>
    obtain ⟨ms, e, broken, hfollowed, hgood, hstuck, -, -⟩ := hbreaks
    refine not_triggerStatus_of_comparable hfollowed hgood hrun ?_
    intro ns _ hrest
    obtain ⟨-, rfl⟩ := hrest.eq_of_stuck hstuck
    exact hgood

/-- Where no status is misleading, the loop follows the reference run. -/
theorem LoopFollows.followsReference {turns : ℕ} {c : Config σ}
    {r : EStateM.Result Exn (World σ) Progress} (hfollows : LoopFollows env ctx resume turns c r)
    (h : ∀ ls d, Run (SerialStep env ctx resume) c ls d → actionCount ls.flatten ≤ turns →
      ¬ TriggerStatus d) : FollowsReference env ctx resume turns c r := by
  cases hfollows with
  | running hfollowed htrace hturns _ => exact .running (Along.forget hfollowed) htrace hturns
  | returned hfollowed htrace hstopped => exact .returned (Along.forget hfollowed) htrace hstopped
  | misled hfollowed _ hturns hmisled =>
    exact absurd hmisled (h _ _ (Along.forget hfollowed) hturns)
  | raised hbreaks =>
    obtain ⟨ms, e, broken, hfollowed, -, hstuck, htrace, hbroken⟩ := hbreaks
    exact .raised (Along.forget hfollowed) htrace hstuck hbroken

end

/-- `do_execute` on a new context starts where the reference run starts. -/
theorem doExecute_follows (env : Env σ) {control : ℕ → Control}
    (hcontrol : ∀ n, control n = ⟨false, false⟩) (workflow : Workflow) (executionId : UUID)
    (user : Option String) (htrigger : ∀ action ∈ workflow.actions, action.trigger = none)
    (turns : ℕ) (start : UUID) (arguments : List Argument) (resume : Bool) (w : World σ) :
    let ctx := newContext workflow executionId user
    LoopFollows env ctx resume turns (referenceStart ctx resume start arguments w)
      (doExecute env control turns ctx start arguments resume w) := by
  intro ctx
  have hmatches : Matches ctx resume ⟨ctx, .fresh start, arguments, 0⟩
      (referenceStart ctx resume start arguments w) :=
    .fresh ⟨rfl, rfl, rfl, rfl, rfl, rfl⟩ rfl rfl
  exact runLoop_follows hcontrol htrigger turns hmatches

/-- **A run of the serial strategy follows the reference run exactly if no status
`trigger` misleads it**: among the actions the reference run executes in as many turns,
none that a branch leaves returns the app status `trigger`. -/
theorem doExecute_followsReference_iff (env : Env σ) {control : ℕ → Control}
    (hcontrol : ∀ n, control n = ⟨false, false⟩) (workflow : Workflow) (executionId : UUID)
    (user : Option String) (htrigger : ∀ action ∈ workflow.actions, action.trigger = none)
    (turns : ℕ) (start : UUID) (arguments : List Argument) (resume : Bool) (w : World σ) :
    let ctx := newContext workflow executionId user
    FollowsReference env ctx resume turns (referenceStart ctx resume start arguments w)
        (doExecute env control turns ctx start arguments resume w) ↔
      ∀ ls d, Run (SerialStep env ctx resume) (referenceStart ctx resume start arguments w) ls d →
        actionCount ls.flatten ≤ turns → ¬ TriggerStatus d := by
  intro ctx
  have hfollows := doExecute_follows env hcontrol workflow executionId user htrigger turns start
    arguments resume w
  exact ⟨fun h _ _ hrun hcount => hfollows.not_triggerStatus h hrun hcount,
    hfollows.followsReference⟩

/-- Two turns of a loop of two actions. -/
theorem doExecute_followsReference_iff_cycle :
    let ctx := newContext (sampleWorkflow [sampleAction 1 none, sampleAction 2 none]
      [sampleBranch 10 1 2 "Success", sampleBranch 11 2 1 "Success"]) 7 none
    FollowsReference succeeding ctx false 2 (referenceStart ctx false 1 [] (World.start () []))
        (doExecute succeeding undisturbed 2 ctx 1 [] false (World.start () [])) ↔
      ∀ ls d, Run (SerialStep succeeding ctx false)
        (referenceStart ctx false 1 [] (World.start () [])) ls d →
          actionCount ls.flatten ≤ 2 → ¬ TriggerStatus d :=
  doExecute_followsReference_iff succeeding (fun _ => rfl) _ 7 none (by simp [sampleWorkflow,
    sampleAction]) 2 1 [] false (World.start () [])

/-- The first of two actions returns the app status `trigger`, and a branch on that status
leads to the second: the loop returns without trying it. -/
theorem trigger_status_skips_branch :
    ¬ FollowsReference (sampleEnv fun _ => { result := .none, status := some "trigger" })
      (newContext (sampleWorkflow [sampleAction 1 none, sampleAction 2 none]
        [sampleBranch 10 1 2 "trigger"]) 7 none) false 2
      (referenceStart (newContext (sampleWorkflow [sampleAction 1 none, sampleAction 2 none]
        [sampleBranch 10 1 2 "trigger"]) 7 none) false 1 [] (World.start () []))
      (doExecute (sampleEnv fun _ => { result := .none, status := some "trigger" }) undisturbed 2
        (newContext (sampleWorkflow [sampleAction 1 none, sampleAction 2 none]
          [sampleBranch 10 1 2 "trigger"]) 7 none) 1 [] false (World.start () [])) := by
  intro h
  have hfollows := doExecute_follows (sampleEnv fun _ => { result := .none, status := some "trigger" })
    (fun _ => rfl : ∀ n, undisturbed n = ⟨false, false⟩)
    (sampleWorkflow [sampleAction 1 none, sampleAction 2 none] [sampleBranch 10 1 2 "trigger"]) 7 none
    (by simp [sampleWorkflow, sampleAction]) 2 1 [] false (World.start () [])
  refine hfollows.not_triggerStatus h (.single (.executed rfl rfl (IsStableSort.mergeSort _ _)))
    (by decide) ⟨sampleAction 1 none, sampleBranch 10 1 2 "trigger", [], ?_⟩
  simp [sampleWorkflow, Workflow.getBranchesByActionId, newContext, sampleBranch, sampleAction]

end Walkoff.Analysis
