import Walkoff.Analysis.Signals
import Walkoff.Analysis.TurnCases

/-!
# What a whole run leaves alone

A run of the serial strategy saves rows and sends packets for its own execution. Statuses,
workflows, the request queue, the published messages and the registry of the executor are
those it found: the statuses change when the controller receives the packets, the registry
in `WorkflowExecutor.execute`.
-/

set_option autoImplicit false

namespace Walkoff.Analysis

open Walkoff.Model Walkoff.Program
open Walkoff.Library (Ends Within OrderedDict bind_apply bind_eq_ok finalState)

variable {σ : Type}

/-- The frame of a run of an execution. -/
structure RunFrame (executionId : UUID) (w w' : World σ) : Prop where
  workflows : w'.workflows = w.workflows
  workflowStatus : w'.workflowStatus = w.workflowStatus
  executingWorkflows : w'.executingWorkflows = w.executingWorkflows
  requestQueue : w'.requestQueue = w.requestQueue
  published : w'.published = w.published
  savedWorkflow : ∃ new, w'.savedWorkflow = w.savedWorkflow ++ new ∧
    ∀ saved ∈ new, saved.workflowExecutionId = executionId
  sent : ∃ new, w'.sent = w.sent ++ new ∧ ∀ p ∈ new, p.executionId = executionId

namespace RunFrame

variable {executionId : UUID}

/-- A world is within the frame of itself. -/
theorem refl (w : World σ) : RunFrame executionId w w :=
  ⟨rfl, rfl, rfl, rfl, rfl, ⟨[], by simp⟩, ⟨[], by simp⟩⟩

/-- Two steps within a frame are one. -/
theorem trans {u v w : World σ} (huv : RunFrame executionId u v) (hvw : RunFrame executionId v w) :
    RunFrame executionId u w := by
  obtain ⟨s₁, hu, hs₁⟩ := huv.savedWorkflow
  obtain ⟨s₂, hv, hs₂⟩ := hvw.savedWorkflow
  obtain ⟨p₁, hup, hp₁⟩ := huv.sent
  obtain ⟨p₂, hvp, hp₂⟩ := hvw.sent
  refine ⟨hvw.workflows.trans huv.workflows, hvw.workflowStatus.trans huv.workflowStatus,
    hvw.executingWorkflows.trans huv.executingWorkflows,
    hvw.requestQueue.trans huv.requestQueue, hvw.published.trans huv.published,
    ⟨s₁ ++ s₂, by rw [hv, hu, List.append_assoc], ?_⟩,
    ⟨p₁ ++ p₂, by rw [hvp, hup, List.append_assoc], ?_⟩⟩
  · exact fun s hs => (List.mem_append.mp hs).elim (hs₁ s) (hs₂ s)
  · exact fun p hp => (List.mem_append.mp hp).elim (hp₁ p) (hp₂ p)

instance : Std.Refl (RunFrame executionId : World σ → World σ → Prop) where
  refl := refl

instance : IsTrans (World σ) (RunFrame executionId) where
  trans _ _ _ := trans

/-- A part of the run that saves nothing. -/
theorem of_frame {P : Obs → Prop} {E : Packet → Prop} {w w' : World σ} (h : Frame P E w w')
    (hE : ∀ p, E p → p.executionId = executionId) : RunFrame executionId w w' := by
  obtain ⟨new, hsent, hnew⟩ := h.sent
  exact ⟨h.workflows, h.workflowStatus, h.executingWorkflows, h.requestQueue, h.published,
    ⟨[], by simp [h.savedWorkflow]⟩, ⟨new, hsent, fun p hp => hE p (hnew p hp)⟩⟩

/-- Sending inner events is within the frame of a run. -/
theorem of_inner {P : Obs → Prop} {w w' : World σ} (h : Frame P (Inner executionId) w w') :
    RunFrame executionId w w' :=
  of_frame h fun _ hp => hp.1

/-- Logging an entry is within the frame of a run. -/
theorem logged (w : World σ) (o : Obs) : RunFrame executionId w (w.logged o) :=
  of_inner (frame_logged (P := fun _ => True) trivial w)

/-- The same of sending a packet of the execution. -/
theorem withPacket (w : World σ) {packet : Packet} (h : packet.executionId = executionId) :
    RunFrame executionId w (w.withPacket packet) :=
  ⟨rfl, rfl, rfl, rfl, rfl, ⟨[], by simp [World.withPacket]⟩, ⟨[packet], rfl, by simpa using h⟩⟩

/-- The same of saving a state of the execution. -/
theorem withSavedWorkflow (w : World σ) {saved : SavedWorkflow}
    (h : saved.workflowExecutionId = executionId) :
    RunFrame executionId w (w.withSavedWorkflow saved) :=
  ⟨rfl, rfl, rfl, rfl, rfl, ⟨[saved], rfl, by simpa using h⟩,
    ⟨[], by simp [World.withSavedWorkflow]⟩⟩

end RunFrame

/-! ## The parts of a run that save -/

/-- The same of handling an event. -/
theorem runFrame_handleEvent (env : Env σ) (o : Origin) (sender : Sender)
    (event : WalkoffEvent) (data : Option PyVal) (startArguments : List Argument) :
    Within (RunFrame o.executionId)
      (handleEvent env o sender event data startArguments : M σ Unit) := by
  have hsend : Within (RunFrame o.executionId)
      (sendPacket o sender event data startArguments : M σ Unit) := fun w =>
    RunFrame.of_frame (frame_sendPacket (P := Never) (fun _ _ h => h) w) fun _ h => h
  cases hsaves : event.savesWorkflow with
  | false =>
    rw [handleEvent_eq_sendPacket hsaves]
    exact hsend
  | true =>
    rw [handleEvent_eq_save hsaves]
    refine Within.bind (fun w => ?_) fun _ => hsend
    cases haction : o.executingAction with
    | none =>
      unfold addSavedWorkflow
      rw [haction]
      exact RunFrame.refl w
    | some action =>
      rw [addSavedWorkflow_eq env haction]
      cases saveRefusal env o.executionId w with
      | none =>
        have hrow : (savedWorkflowFromWorkflow o action w.instances).workflowExecutionId =
            o.executionId := rfl
        exact (RunFrame.withSavedWorkflow w hrow).trans (RunFrame.logged _ _)
      | some _ => exact RunFrame.logged _ _

/-- The same of performing an action. -/
theorem runFrame_performAction (env : Env σ) (o : Origin) (action : Action)
    (arguments : List Argument) (resume : Bool) :
    Within (RunFrame o.executionId) (performAction env o action arguments resume) := by
  refine Within.bind (fun w => RunFrame.of_inner (frame_setupAppInstance (P := Never) env o action w))
    fun deviceId => ?_
  refine Within.bind (fun w => RunFrame.of_inner (frame_startAction (P := Never) env o action arguments w))
    fun sender => ?_
  split
  · exact Within.bind (runFrame_handleEvent env o sender _ _ _) fun _ =>
      Within.bind (fun w => RunFrame.logged w _) fun _ => Within.pure _
  · exact Within.bind (fun w => RunFrame.of_inner (frame_runAction env o action sender _ _ w))
      fun _ => Within.bind (fun w => RunFrame.logged w _) fun _ => Within.pure _

/-! ## The run -/

section

variable (env : Env σ) (control : ℕ → Control) (resume : Bool)

/-- The generator counts the branches it tries and leaves its context otherwise. -/
theorem next_context {vars : LoopVars} {w w₁ : World σ} {r : Option Action × ActionIter × Context}
    (h : vars.actions.next env vars.ctx w = .ok r w₁) :
    ∃ counters, r.2.2 = { vars.ctx with counters } := by
  have hyield : ∀ (ctx : Context) (action : Option Action),
      (ActionIter.yield ctx action).2.2 = ctx := fun ctx action => by
    cases action <;> rfl
  cases hactions : vars.actions with
  | fresh start =>
    rw [hactions] at h
    cases h
    exact ⟨vars.ctx.counters, hyield _ _⟩
  | finished =>
    rw [hactions] at h
    cases h
    exact ⟨vars.ctx.counters, rfl⟩
  | suspended =>
    rw [hactions] at h
    obtain ⟨⟨currentId, ctx⟩, w₂, hbranch, h⟩ := bind_eq_ok.mp h
    cases h
    rw [hyield]
    unfold getBranch at hbranch
    cases hbranches : vars.ctx.hasBranches with
    | false =>
      simp only [hbranches, Bool.false_eq_true, if_false] at hbranch
      cases hbranch
      exact ⟨vars.ctx.counters, rfl⟩
    | true =>
      cases haction : vars.ctx.executingAction with
      | none =>
        simp only [hbranches, haction, if_true] at hbranch
        cases hbranch
      | some action =>
        simp only [hbranches, haction, if_true] at hbranch
        obtain ⟨r, w₃, -, hbranch⟩ := bind_eq_ok.mp hbranch
        cases hbranch
        exact ⟨r.2, by simp only [haction, hbranches]⟩

/-- The generator keeps the execution of its context. -/
theorem next_executionId {vars : LoopVars} {w w₁ : World σ} {r : Option Action × ActionIter × Context}
    (h : vars.actions.next env vars.ctx w = .ok r w₁) :
    r.2.2.executionId = vars.ctx.executionId ∧ r.2.2.workflow = vars.ctx.workflow := by
  obtain ⟨counters, hctx⟩ := next_context env h
  rw [hctx]
  exact ⟨rfl, rfl⟩

variable {env control resume}

/-- The loop goes on with the same execution. -/
theorem Enters.executionId {vars vars' : LoopVars} {w w₁ w₂ : World σ} {action : Action}
    (h : Enters env control resume vars w action vars' w₁ w₂) :
    vars'.ctx.executionId = vars.ctx.executionId := by
  obtain ⟨actions, ctx, hnext, rfl⟩ := h.yields
  exact (next_executionId env hnext).1

/-- Getting to an action saves nothing. -/
theorem Enters.runFrame {vars vars' : LoopVars} {w w₁ w₂ : World σ} {action : Action}
    (h : Enters env control resume vars w action vars' w₁ w₂) :
    RunFrame vars.ctx.executionId w w₂ := by
  obtain ⟨actions, ctx, hnext, rfl⟩ := h.yields
  rw [h.visits]
  exact (RunFrame.of_inner ((frame_next env vars.ctx vars.actions).of_ok hnext)).trans
    (RunFrame.logged _ _)

/-- **One turn is within the frame**, and so are the variables it goes on with. -/
theorem runFrame_loopTurn (env : Env σ) (control : ℕ → Control) (resume : Bool) (vars : LoopVars)
    (w : World σ) :
    RunFrame vars.ctx.executionId w (finalState (loopTurn env control resume vars w)) ∧
      ∀ vars' w', loopTurn env control resume vars w = .ok (.again vars') w' →
        vars'.ctx.executionId = vars.ctx.executionId := by
  have hcases := loopTurn_cases env control resume vars w
  generalize loopTurn env control resume vars w = r at hcases
  have hshutdown : ∀ {actions : ActionIter} {ctx : Context} {w₁ : World σ},
      vars.actions.next env vars.ctx w = .ok (none, actions, ctx) w₁ →
        RunFrame vars.ctx.executionId w (finalState (shutdown env ctx w₁)) := by
    intro actions ctx w₁ hnext
    refine (RunFrame.of_inner ((frame_next env vars.ctx vars.actions).of_ok hnext)).trans ?_
    have hctx : ctx.executionId = vars.ctx.executionId := (next_executionId env hnext).1
    rw [← hctx]
    exact RunFrame.of_frame (frame_shutdown (P := Never) env ctx w₁) fun _ h => h.2
  have hsend : ∀ {action : Action} {vars' : LoopVars} {w₁ w₂ : World σ} (event : WalkoffEvent),
      Enters env control resume vars w action vars' w₁ w₂ →
        RunFrame vars.ctx.executionId w (finalState (sendEvent env vars'.ctx.origin event none w₂)) := by
    intro action vars' w₁ w₂ event henters
    refine henters.runFrame.trans ?_
    rw [← henters.executionId]
    exact runFrame_handleEvent env vars'.ctx.origin _ _ _ _ w₂
  have hperform : ∀ {action : Action} {vars' : LoopVars} {w₁ w₂ : World σ},
      Enters env control resume vars w action vars' w₁ w₂ →
        RunFrame vars.ctx.executionId w (finalState
          (performAction env vars'.ctx.origin action vars.startArguments resume w₂)) := by
    intro action vars' w₁ w₂ henters
    refine henters.runFrame.trans ?_
    rw [← henters.executionId]
    exact runFrame_performAction env vars'.ctx.origin action _ resume w₂
  cases hcases with
  | branchingRaised hnext =>
    refine ⟨RunFrame.of_inner ((frame_next env vars.ctx vars.actions).of_error hnext), ?_⟩
    rintro _ _ ⟨⟩
  | shutDown hnext h =>
    have hframe := hshutdown hnext
    rw [h] at hframe
    exact ⟨hframe, by rintro _ _ ⟨⟩⟩
  | shutdownRaised hnext h =>
    have hframe := hshutdown hnext
    rw [h] at hframe
    exact ⟨hframe, by rintro _ _ ⟨⟩⟩
  | paused henters _ h =>
    have hframe := hsend .workflowPaused henters
    rw [h] at hframe
    exact ⟨hframe, by rintro _ _ ⟨⟩⟩
  | pauseRaised henters _ h =>
    have hframe := hsend .workflowPaused henters
    rw [h] at hframe
    exact ⟨hframe, by rintro _ _ ⟨⟩⟩
  | aborted henters _ _ h =>
    have hframe := hsend .workflowAborted henters
    rw [h] at hframe
    exact ⟨hframe, by rintro _ _ ⟨⟩⟩
  | abortRaised henters _ _ h =>
    have hframe := hsend .workflowAborted henters
    rw [h] at hframe
    exact ⟨hframe, by rintro _ _ ⟨⟩⟩
  | actionRaised henters _ _ h =>
    have hframe := hperform henters
    rw [h] at hframe
    exact ⟨hframe, by rintro _ _ ⟨⟩⟩
  | awaited henters _ _ h =>
    have hframe := hperform henters
    rw [h] at hframe
    exact ⟨hframe, by rintro _ _ ⟨⟩⟩
  | triggerStatus henters _ _ h =>
    have hframe := hperform henters
    rw [h] at hframe
    exact ⟨hframe, by rintro _ _ ⟨⟩⟩
  | executed henters _ _ h _ =>
    have hframe := hperform henters
    rw [h] at hframe
    refine ⟨hframe, ?_⟩
    rintro _ _ ⟨⟩
    exact henters.executionId

/-- **A run of the loop is within the frame.** -/
theorem runFrame_runLoop (turns : ℕ) (vars : LoopVars) :
    Within (RunFrame vars.ctx.executionId) (runLoop env control resume turns vars) := by
  induction turns generalizing vars with
  | zero => exact Within.pure _
  | succ turns ih =>
    intro w
    obtain ⟨hturn, hvars⟩ := runFrame_loopTurn env control resume vars w
    rw [runLoop, Library.loop, bind_apply]
    cases hresult : loopTurn env control resume vars w with
    | error e w' =>
      rw [hresult] at hturn
      exact hturn
    | ok turn w' =>
      rw [hresult] at hturn
      cases turn with
      | returned => exact hturn
      | again vars' =>
        have hrest := ih vars' w'
        rw [hvars vars' w' hresult] at hrest
        exact hturn.trans hrest

/-- Filing the environment variables is within the frame of a run. -/
theorem runFrame_fileEnvironmentVariables (executionId : UUID) (vars : List EnvironmentVariable) :
    Within (RunFrame executionId) (fileEnvironmentVariables executionId vars : M σ Unit) := by
  unfold fileEnvironmentVariables
  split
  · exact Within.pure _
  · exact fun w => RunFrame.of_inner ((Within.bind (frame_getAccumulator (P := Never) executionId)
      fun _ => frame_putAccumulator _ _) w)

/-- Announcing the start is within the frame of a run. -/
theorem runFrame_announceStart (env : Env σ) (ctx : Context) (vars : List EnvironmentVariable) :
    Within (RunFrame ctx.executionId) (announceStart env ctx vars : M σ Unit) :=
  Within.bind (runFrame_fileEnvironmentVariables _ _) fun _ =>
    runFrame_handleEvent env ctx.origin _ _ _ _

/-- **The run of a request is within the frame.** -/
theorem runFrame_runRequest (env : Env σ) (control : ℕ → Control) (turns : ℕ) (request : Request)
    (ctx : Context) :
    Within (RunFrame ctx.executionId) (runRequest env control turns request ctx) := by
  unfold runRequest strategyExecute
  refine Within.bind (runFrame_announceStart env ctx _) fun _ => ?_
  cases (request.start.or ctx.workflow.start).or ctx.workflow.start with
  | none => exact Within.throw _
  | some start => exact runFrame_runLoop turns ⟨ctx, .fresh start, request.startArguments, 0⟩

end

end Walkoff.Analysis
