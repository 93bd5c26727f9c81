import Walkoff.Analysis.Frames
import Walkoff.Program.Controller

/-!
# What the controller does to an execution

`resume_workflow` and `resume_trigger_step` make the status pending and queue a request that
is marked as a resumption; `abort_workflow` aborts an execution that is not running. None of
them touches the packets that have been sent or the workflows.
-/

set_option autoImplicit false

namespace Walkoff.Analysis

open Walkoff.Model Walkoff.Program
open Walkoff.Library (Within OrderedDict bind_apply bind_eq_ok get_apply modify_apply finalState
  finalState_bind_pure lift)

variable {σ : Type}

/-! ## Queueing a request -/

/-- A request as the worker reads it, apart from its arguments and environment variables. -/
structure Queued (workflowId executionId : UUID) (start : Option UUID) (resume : Bool)
    (request : Request) : Prop where
  workflowId : request.workflowId = workflowId
  executionId : request.executionId = executionId
  start : request.start = start
  resume : request.resume = resume

/-- A received message whose texts are written from ids is the request with these ids. -/
theorem requestOfReceived_eq {received : ReceivedRequest} {workflowId executionId : UUID}
    {start : Option UUID} (hworkflow : received.workflowId = workflowId.str)
    (hexecution : received.workflowExecutionId = executionId.str)
    (hstart : received.start = (start.map UUID.str).getD "") :
    requestOfReceived received =
      .ok { requestOfReceived.mk received workflowId executionId start with start } := by
  unfold requestOfReceived
  rw [hworkflow, hexecution, hstart, UUID.parse_str, UUID.parse_str]
  cases start with
  | none => rfl
  | some start =>
    simp only [Option.map_some, Option.getD_some, nonEmpty_str, UUID.parse_str]
    rfl

/-- **A message that is sent and received** is the request it was made from. -/
theorem request_of_message {workflowId executionId : UUID} {start : Option UUID}
    {startArguments : List Argument} {resume : Bool}
    {environmentVariables : List EnvironmentVariable} {user : Option String}
    {message : ExecuteWorkflowMessage} {request : Request}
    (hmessage : createWorkflowRequestMessage (.uuid workflowId) executionId.str
      (start.map Key.uuid) startArguments resume environmentVariables user = .ok message)
    (hrequest : (receiveWorkflow message >>= requestOfReceived) = .ok request) :
    Queued workflowId executionId start resume request := by
  unfold createWorkflowRequestMessage at hmessage
  have ⟨arguments, _, hvariables⟩ := Library.Except.bind_eq_ok.mp hmessage
  have ⟨variableProtos, _, hpure⟩ := Library.Except.bind_eq_ok.mp hvariables
  simp only [pure, Except.pure, Except.ok.injEq] at hpure
  clear hmessage hvariables
  have ⟨received, hreceived, hread⟩ := Library.Except.bind_eq_ok.mp hrequest
  unfold receiveWorkflow at hreceived
  have ⟨receivedArguments, _, hvariables⟩ := Library.Except.bind_eq_ok.mp hreceived
  have ⟨receivedVariables, _, hfields⟩ := Library.Except.bind_eq_ok.mp hvariables
  simp only [pure, Except.pure, Except.ok.injEq] at hfields
  clear hrequest hreceived hvariables
  have hstart : received.start = (start.map UUID.str).getD "" := by
    rw [← hfields, ← hpure]
    dsimp only
    rw [nonEmpty_getD, Option.map_map]
    rfl
  have hworkflow : received.workflowId = workflowId.str := by
    rw [← hfields, ← hpure]
    rfl
  have hexecution : received.workflowExecutionId = executionId.str := by
    rw [← hfields, ← hpure]
  have hresume : received.resume = resume := by
    rw [← hfields, ← hpure]
  rw [requestOfReceived_eq hworkflow hexecution hstart, Except.ok.injEq] at hread
  rw [← hread]
  exact ⟨rfl, rfl, rfl, hresume⟩

/-- A request is queued, unless it cannot be encoded. -/
theorem addWorkflowToQueue_eq (workflowId executionId : UUID) (start : Option UUID)
    (startArguments : List Argument) (resume : Bool)
    (environmentVariables : List EnvironmentVariable) (user : Option String) (w : World σ) :
    (∃ e, addWorkflowToQueue workflowId executionId start startArguments resume
        environmentVariables user w = .error e w) ∨
      ∃ request, Queued workflowId executionId start resume request ∧
        addWorkflowToQueue workflowId executionId start startArguments resume
          environmentVariables user w =
            .ok () { w with requestQueue := w.requestQueue ++ [request] } := by
  unfold addWorkflowToQueue
  rw [bind_apply]
  cases hmessage : createWorkflowRequestMessage (.uuid workflowId) executionId.str
      (start.map Key.uuid) startArguments resume environmentVariables user with
  | error e => exact .inl ⟨e, rfl⟩
  | ok message =>
    simp only [lift, bind_apply]
    cases hrequest : (receiveWorkflow message >>= requestOfReceived) with
    | error e => exact .inl ⟨e, rfl⟩
    | ok request => exact .inr ⟨request, request_of_message hmessage hrequest, rfl⟩

/-- A request that cannot be encoded is not queued. -/
theorem addWorkflowToQueue_cases (workflowId executionId : UUID) (start : Option UUID)
    (startArguments : List Argument) (resume : Bool)
    (environmentVariables : List EnvironmentVariable) (user : Option String) (w : World σ) :
    finalState (addWorkflowToQueue workflowId executionId start startArguments resume
        environmentVariables user w) = w ∨
      ∃ request, Queued workflowId executionId start resume request ∧
        finalState (addWorkflowToQueue workflowId executionId start startArguments resume
          environmentVariables user w) =
            { w with requestQueue := w.requestQueue ++ [request] } := by
  rcases addWorkflowToQueue_eq workflowId executionId start startArguments resume
    environmentVariables user w with ⟨e, hraised⟩ | ⟨request, hqueued, hpushed⟩
  · exact .inl (congrArg finalState hraised)
  · exact .inr ⟨request, hqueued, congrArg finalState hpushed⟩

/-- The execution is continued: its status is pending and a request is queued, unless the
request cannot be encoded. -/
structure Continued (workflowId executionId : UUID) (start : Option UUID) (resume : Bool)
    (w w' : World σ) : Prop where
  workflows : w'.workflows = w.workflows
  workflowStatus : w'.workflowStatus =
    (finalState (workflowPending executionId workflowId w)).workflowStatus
  savedWorkflow : w'.savedWorkflow = w.savedWorkflow
  requestQueue : w'.requestQueue = w.requestQueue ∨ ∃ request,
    Queued workflowId executionId start resume request ∧
      w'.requestQueue = w.requestQueue ++ [request]
  sent : w'.sent = w.sent
  log : w'.log = w.log

/-- Marking an execution pending leaves its row pending, or makes a pending row for it. -/
theorem get?_workflowPending (executionId workflowId : UUID) (w : World σ) :
    OrderedDict.get? executionId
        (finalState (workflowPending executionId workflowId w)).workflowStatus =
      some (match OrderedDict.get? executionId w.workflowStatus with
        | some row => { row with status := .pending }
        | none => { executionId, workflowId, status := .pending }) := by
  refine (OrderedDict.get?_set_self executionId _ w.workflowStatus).trans ?_
  cases OrderedDict.get? executionId w.workflowStatus <;> rfl

/-- An execution that is continued is pending. -/
theorem Continued.status {workflowId executionId : UUID} {start : Option UUID} {resume : Bool}
    {w w' : World σ} (h : Continued workflowId executionId start resume w w') :
    w'.status executionId = some .pending := by
  rw [World.status, h.workflowStatus, get?_workflowPending]
  cases OrderedDict.get? executionId w.workflowStatus <;> rfl

/-- **Starting or continuing an execution** of a workflow that is not stored does nothing. -/
theorem executeWorkflow_cases (workflowId executionId : UUID) (start : Option UUID)
    (startArguments : List Argument) (resume : Bool)
    (environmentVariables : List EnvironmentVariable) (user : Option String) (w : World σ) :
    finalState (executeWorkflow workflowId executionId start startArguments resume
        environmentVariables user w) = w ∨
      Continued workflowId executionId start resume w
        (finalState (executeWorkflow workflowId executionId start startArguments resume
          environmentVariables user w)) := by
  unfold executeWorkflow
  rw [bind_apply, get_apply]
  dsimp only
  cases hworkflow : w.workflow workflowId with
  | none => exact .inl rfl
  | some workflow =>
    have hid : workflow.id = workflowId := by
      simpa using List.find?_some hworkflow
    subst hid
    let w₁ := finalState (workflowPending executionId workflow.id w)
    have hcode : finalState ((workflowPending executionId workflow.id >>= fun _ =>
        addWorkflowToQueue workflow.id executionId start startArguments resume
          environmentVariables user >>= fun _ => pure (some executionId)) w) =
        finalState (addWorkflowToQueue workflow.id executionId start startArguments resume
          environmentVariables user w₁) :=
      finalState_bind_pure _ _ w₁
    refine .inr ?_
    rw [hcode]
    rcases addWorkflowToQueue_cases workflow.id executionId start startArguments resume
      environmentVariables user w₁ with h | ⟨request, hqueued, h⟩
    · rw [h]
      exact ⟨rfl, rfl, rfl, .inl rfl, rfl, rfl⟩
    · rw [h]
      exact ⟨rfl, rfl, rfl, .inr ⟨request, hqueued, rfl⟩, rfl, rfl⟩

/-! ## Resuming -/

/-- The status of an execution with a row is the one of the row. -/
theorem status_eq_of_row {executionId : UUID} {w : World σ} {row : WorkflowStatus}
    (h : OrderedDict.get? executionId w.workflowStatus = some row) :
    w.status executionId = some row.status := by
  rw [World.status, h, Option.map_some]

/-- Continuing an execution from one of its actions. -/
theorem continue_cases (workflowId executionId : UUID) (start : Option UUID)
    (startArguments : List Argument) (user : Option String) (w : World σ) :
    finalState ((executeWorkflow workflowId executionId start startArguments true [] user >>=
        fun _ => pure true : M σ Bool) w) = w ∨
      Continued workflowId executionId start true w
        (finalState ((executeWorkflow workflowId executionId start startArguments true [] user >>=
          fun _ => pure true : M σ Bool) w)) := by
  rw [finalState_bind_pure]
  exact executeWorkflow_cases workflowId executionId start startArguments true [] user w

/-- **`resume_workflow` continues a paused execution** at its saved action, if it has one. -/
theorem resumeWorkflow_cases (executionId : UUID) (user : Option String) (w : World σ) :
    finalState (resumeWorkflow executionId user w) = w ∨
      ∃ row start, OrderedDict.get? executionId w.workflowStatus = some row ∧ row.status = .paused ∧
        (∀ saved, w.savedState executionId = some saved → start = some saved.actionId) ∧
        Continued row.workflowId executionId start true w
          (finalState (resumeWorkflow executionId user w)) := by
  unfold resumeWorkflow
  rw [bind_apply, get_apply]
  dsimp only
  cases hrow : OrderedDict.get? executionId w.workflowStatus with
  | none => exact .inl rfl
  | some row =>
    dsimp only
    by_cases hpaused : row.status = .paused
    · rw [if_pos hpaused]
      cases hworkflow : w.workflow row.workflowId with
      | none => exact .inl rfl
      | some workflow =>
        have hid : workflow.id = row.workflowId := by
          simpa using List.find?_some hworkflow
        dsimp only
        rw [hid]
        cases hsaved : w.savedState executionId with
        | none =>
          refine (continue_cases row.workflowId executionId workflow.start [] user w).imp_right ?_
          intro hcontinued
          exact ⟨row, workflow.start, rfl, hpaused, (fun _ h => by cases h), hcontinued⟩
        | some saved =>
          refine (continue_cases row.workflowId executionId (some saved.actionId) [] user w).imp_right ?_
          intro hcontinued
          exact ⟨row, some saved.actionId, rfl, hpaused, (fun _ h => by cases h; rfl), hcontinued⟩
    · rw [if_neg hpaused]
      exact .inl rfl

/-! ## Answering a trigger -/

/-- Executing a trigger touches the log alone, and ends it with the report when it does not raise.
-/
theorem frame_executeTrigger (env : Env σ) (executionId : UUID) (action : Action) (dataIn : PyVal)
    (w : World σ) :
    (∃ e w₁, executeTrigger env executionId action dataIn w = .error e w₁ ∧
        Frame Never Never w w₁) ∨
      ∃ taken w₁, Frame Never Never w w₁ ∧ executeTrigger env executionId action dataIn w =
        .ok taken (w₁.logged (.trigger action.id taken)) := by
  unfold executeTrigger
  cases action.trigger with
  | none => exact .inl ⟨_, w, rfl, Std.Refl.refl w⟩
  | some trigger =>
    dsimp only
    have haccumulator : Within (Frame Never Never) (makeAccumulator env executionId) := by
      unfold makeAccumulator
      cases env.accumulatorType with
      | memory => exact Within.pure _
      | external => exact Within.bind (frame_getAccumulator _) fun _ => Within.pure _
    have hframe : Within (Frame Never Never)
        (executeExpression env (makeAccumulator env executionId) (fun _ _ => pure ()) dataIn trigger) :=
      within_executeExpression (fun _ _ _ => frame_behave _) haccumulator (fun _ _ => Within.pure _)
        dataIn trigger
    rw [bind_apply]
    cases htrigger : executeExpression env (makeAccumulator env executionId)
        (fun _ _ => pure ()) dataIn trigger w with
    | error e w₁ => exact .inl ⟨e, w₁, rfl, hframe.of_error htrigger⟩
    | ok taken w₁ => exact .inr ⟨taken, w₁, hframe.of_ok htrigger, rfl⟩

/-- How `resume_trigger_step` leaves an execution. -/
inductive AnswerCases (executionId : UUID) (w w' : World σ) : Prop where
  /-- The trigger has not been taken. -/
  | unanswered (hframe : Frame (fun entry => ∃ a, entry = .trigger a false) Never w w')
  /-- The trigger of the saved action has been taken, and the execution continues there. -/
  | answered {saved : SavedWorkflow} {w₁ : World σ}
    (hsaved : w.savedState executionId = some saved) (hframe : Frame Never Never w w₁)
    (hcontinued : w' = w₁.logged (.trigger saved.actionId true) ∨
      Continued saved.workflowId executionId (some saved.actionId) true
        (w₁.logged (.trigger saved.actionId true)) w')

/-- **`resume_trigger_step` continues an execution only if the trigger of its saved action is
taken.** -/
theorem resumeTriggerStep_cases (env : Env σ) (executionId : UUID) (dataIn : PyVal)
    (arguments : List Argument) (user : Option String) (w : World σ) :
    AnswerCases executionId w
      (finalState (resumeTriggerStep env executionId dataIn arguments user w)) := by
  have hsame : AnswerCases executionId w w := .unanswered (Std.Refl.refl w)
  unfold resumeTriggerStep
  rw [bind_apply, get_apply]
  dsimp only
  cases hsaved : w.savedState executionId with
  | none => exact hsame
  | some saved =>
    dsimp only
    cases hworkflow : w.workflow saved.workflowId with
    | none => exact hsame
    | some workflow =>
      have hworkflowId : workflow.id = saved.workflowId := by
        simpa using List.find?_some hworkflow
      dsimp only
      unfold executeSavedTrigger
      cases haction : workflow.actions.find? (·.id = saved.actionId) with
      | none => exact hsame
      | some action =>
        have hid : action.id = saved.actionId := by
          simpa using List.find?_some haction
        dsimp only
        rw [bind_apply, hworkflowId]
        rcases frame_executeTrigger env executionId action dataIn w with
          ⟨e, w₁, htrigger, hframe⟩ | ⟨taken, w₁, hframe, htrigger⟩
        · rw [htrigger]
          exact .unanswered (hframe.mono (fun _ h => h.elim) fun _ h => h)
        · rw [htrigger, hid]
          cases taken with
          | false =>
            refine .unanswered ((hframe.mono (fun _ h => h.elim) fun _ h => h).trans ?_)
            exact frame_logged ⟨saved.actionId, rfl⟩ w₁
          | true =>
            refine .answered hsaved hframe ?_
            exact continue_cases saved.workflowId executionId (some saved.actionId) arguments user _

/-! ## Aborting -/

/-- How `abort_workflow` leaves an execution. -/
inductive AbortCases (executionId : UUID) (w w' : World σ) : Prop where
  /-- The worker is told, or there is nothing to abort. -/
  | told (published : List ControlMessage) (h : w' = { w with published })
  /-- The row is set to aborted and the saved state deleted. -/
  | aborted (row : WorkflowStatus)
    (hrow : OrderedDict.get? executionId w.workflowStatus = some row)
    (h : w' = { w with
      workflowStatus := OrderedDict.set executionId { row with status := .aborted } w.workflowStatus
      savedWorkflow := w.savedWorkflow.filter (·.workflowExecutionId ≠ executionId) })

/-- The abort of an execution with a row writes its status into the row. -/
theorem workflowAborted_eq {executionId : UUID} {w : World σ} {row : WorkflowStatus}
    (h : OrderedDict.get? executionId w.workflowStatus = some row) :
    workflowAborted executionId w = .ok () { w with
      workflowStatus := OrderedDict.set executionId { row with status := .aborted } w.workflowStatus
      savedWorkflow := w.savedWorkflow.filter (·.workflowExecutionId ≠ executionId) } := by
  simp [workflowAborted, setStatus, deleteSavedState, bind_apply, h]

/-- Aborting an execution does one of the three things its status allows. -/
theorem abortWorkflow_cases (executionId : UUID) (w : World σ) :
    AbortCases executionId w (finalState (abortWorkflow executionId w)) := by
  have hsame : AbortCases executionId w w := .told w.published rfl
  unfold abortWorkflow
  rw [bind_apply, get_apply]
  dsimp only
  cases hrow : OrderedDict.get? executionId w.workflowStatus with
  | none => exact hsame
  | some row =>
    have habort : AbortCases executionId w (finalState
        ((if (w.workflow row.workflowId).isSome then workflowAborted executionId >>= fun _ => pure true
          else pure true : M σ Bool) w)) := by
      split
      · rw [finalState_bind_pure, workflowAborted_eq hrow]
        exact .aborted row hrow rfl
      · exact hsame
    dsimp only
    cases row.status with
    | pending => exact habort
    | paused => exact habort
    | awaitingData => exact habort
    | running => exact .told _ rfl
    | completed => exact hsame
    | aborted => exact hsame

/-- An execution that has neither started nor ended since is aborted by the controller. -/
def Abortable (status : WorkflowStatusEnum) : Prop :=
  status = .pending ∨ status = .paused ∨ status = .awaitingData

/-- **Aborting changes the status** of an execution that is pending, paused or awaits data. -/
theorem status_abortWorkflow {executionId : UUID} {w : World σ} {row : WorkflowStatus}
    (hrow : OrderedDict.get? executionId w.workflowStatus = some row)
    (habortable : Abortable row.status) (hworkflow : (w.workflow row.workflowId).isSome = true) :
    (finalState (abortWorkflow executionId w)).status executionId = some .aborted := by
  have haborted : (finalState ((workflowAborted executionId >>= fun _ => pure true : M σ Bool) w)).status
      executionId = some .aborted := by
    rw [finalState_bind_pure, workflowAborted_eq hrow]
    simp [finalState, World.status]
  unfold abortWorkflow
  rw [bind_apply, get_apply]
  dsimp only
  rw [hrow]
  dsimp only
  rcases habortable with hstatus | hstatus | hstatus
  all_goals
    rw [hstatus]
    dsimp only
    rw [hworkflow]
    exact haborted

/-- Otherwise aborting leaves the tables alone. -/
theorem abortWorkflow_of_not_aborts {executionId : UUID} {w : World σ} {row : WorkflowStatus}
    (hrow : OrderedDict.get? executionId w.workflowStatus = some row)
    (haborts : ¬ (Abortable row.status ∧ (w.workflow row.workflowId).isSome = true)) :
    ∃ published, finalState (abortWorkflow executionId w) = { w with published } := by
  have hkeeps : Abortable row.status → finalState
      ((if (w.workflow row.workflowId).isSome then workflowAborted executionId >>= fun _ => pure true
        else pure true : M σ Bool) w) = w := by
    intro habortable
    rw [if_neg fun hworkflow => haborts ⟨habortable, hworkflow⟩]
    rfl
  unfold abortWorkflow
  rw [bind_apply, get_apply]
  dsimp only
  rw [hrow]
  dsimp only
  cases hstatus : row.status with
  | pending => exact ⟨w.published, hkeeps (.inl hstatus)⟩
  | paused => exact ⟨w.published, hkeeps (.inr (.inl hstatus))⟩
  | awaitingData => exact ⟨w.published, hkeeps (.inr (.inr hstatus))⟩
  | running => exact ⟨_, rfl⟩
  | completed => exact ⟨_, rfl⟩
  | aborted => exact ⟨_, rfl⟩

/-! ## Relations the controller keeps -/

/-- The relation is kept when the controller evaluates a condition, logs what a trigger said and
writes to its tables and queues. -/
structure ControllerRules (R : World σ → World σ → Prop) (env : Env σ) : Prop where
  condition : ∀ condition dataIn accumulator,
    Within R (behave (env.condition condition dataIn accumulator))
  trigger : ∀ action taken, Within R (observe (.trigger action taken) : M σ Unit)
  tables : ∀ w workflowStatus savedWorkflow requestQueue published,
    R w { w with workflowStatus, savedWorkflow, requestQueue, published }

namespace ControllerRules

variable {R : World σ → World σ → Prop} [Std.Refl R] [IsTrans (World σ) R] {env : Env σ}
  (h : ControllerRules R env)

include h

/-- Queueing a workflow keeps a relation its parts keep. -/
theorem executeWorkflow (workflowId executionId : UUID) (start : Option UUID)
    (startArguments : List Argument) (resume : Bool)
    (environmentVariables : List EnvironmentVariable) (user : Option String) :
    Within R (executeWorkflow workflowId executionId start startArguments resume
      environmentVariables user : M σ (Option UUID)) := by
  refine Within.bind Within.get fun w => ?_
  split
  · exact Within.pure _
  · refine Within.bind (fun w => h.tables w _ _ _ _) fun _ => Within.bind ?_ fun _ => Within.pure _
    refine Within.bind (Within.lift _) fun _ => Within.bind (Within.lift _) fun _ => ?_
    exact fun w => h.tables w _ _ _ _

/-- The same of resuming a paused execution. -/
theorem resumeWorkflow (executionId : UUID) (user : Option String) :
    Within R (resumeWorkflow executionId user : M σ Bool) := by
  refine Within.bind Within.get fun w => ?_
  split
  · exact Within.pure _
  · split
    · split
      · exact Within.throw _
      · exact Within.bind (h.executeWorkflow _ _ _ _ _ _ _) fun _ => Within.pure _
    · exact Within.pure _

/-- The same of executing a trigger. -/
theorem executeTrigger (executionId : UUID) (action : Action) (dataIn : PyVal) :
    Within R (executeTrigger env executionId action dataIn) := by
  unfold Program.executeTrigger
  cases action.trigger with
  | none => exact Within.throw _
  | some trigger =>
    have haccumulator : Within R (makeAccumulator env executionId) := by
      unfold makeAccumulator
      cases env.accumulatorType with
      | memory => exact Within.pure _
      | external => exact fun w => Std.Refl.refl w
    refine Within.bind ?_ fun taken => Within.bind (h.trigger _ _) fun _ => Within.pure _
    exact within_executeExpression h.condition haccumulator (fun _ _ => Within.pure _) dataIn trigger

/-- The same of handing data to the triggers that wait. -/
theorem resumeTriggerStep (executionId : UUID) (dataIn : PyVal) (arguments : List Argument)
    (user : Option String) :
    Within R (resumeTriggerStep env executionId dataIn arguments user) := by
  refine Within.bind Within.get fun w => ?_
  split
  · exact Within.throw _
  · split
    · exact Within.throw _
    · refine Within.bind ?_ fun executed => ?_
      · unfold executeSavedTrigger
        split
        · exact h.executeTrigger _ _ _
        · exact Within.pure _
      · split
        · exact Within.bind (h.executeWorkflow _ _ _ _ _ _ _) fun _ => Within.pure _
        · exact Within.pure _

omit [Std.Refl R] [IsTrans (World σ) R] in
/-- The same of aborting an execution. -/
theorem abortWorkflow (executionId : UUID) :
    Within R (abortWorkflow executionId : M σ Bool) := by
  intro w
  cases abortWorkflow_cases executionId w with
  | told published heq =>
    rw [heq]
    exact h.tables w _ _ _ _
  | aborted row hrow heq =>
    rw [heq]
    exact h.tables w _ _ _ _

end ControllerRules

end Walkoff.Analysis
