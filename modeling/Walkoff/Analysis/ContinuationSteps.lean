import Walkoff.Analysis.ControllerSteps
import Walkoff.Analysis.TriggerAuthorization
import Walkoff.Program.Continuations

/-!
# One step of a request to continue an execution

The steps of a request that nothing comes between are `resume_workflow` and
`resume_trigger_step`. A single step only reads, or commits the row, or pushes the
continuation.
-/

set_option autoImplicit false

namespace Walkoff.Analysis

open Walkoff.Model Walkoff.Program
open Walkoff.Library (OrderedDict bind_apply bind_of_error bind_of_ok finalState
  finalState_bind_pure get_apply pure_apply throw_apply Within)

variable {σ : Type} {env : Env σ} {executionId : UUID}

/-! ## Uninterrupted requests -/

/-- A stage that steps to another runs on from there. -/
theorem run_of_ok {stage next : Stage} {w w' : World σ}
    (h : stage.step env executionId w = .ok next w') (n : ℕ) :
    Stage.run env executionId (n + 1) stage w = Stage.run env executionId n next w' :=
  bind_of_ok h

/-- A stage that raises ends its run with the error. -/
theorem run_of_error {stage : Stage} {w w' : World σ} {e : Exn}
    (h : stage.step env executionId w = .error e w') (n : ℕ) :
    Stage.run env executionId (n + 1) stage w = .error e w' :=
  bind_of_error h

/-- A request that has returned stays where it is. -/
theorem run_returned (n : ℕ) (w : World σ) :
    Stage.run env executionId n .returned w = .ok .returned w := by
  induction n with
  | zero => rfl
  | succ n ih =>
    rw [run_of_ok (by rfl : Stage.returned.step env executionId w = .ok .returned w)]
    exact ih

/-- The last stage leaves what pushing the continuation onto the queue leaves. -/
theorem finalState_run_committed (continuation : Continuation) (w : World σ) :
    finalState (Stage.run env executionId 1 (.committed continuation) w) =
      finalState (addWorkflowToQueue continuation.workflowId executionId continuation.start
        continuation.startArguments true [] continuation.user w) := by
  cases hpush : addWorkflowToQueue continuation.workflowId executionId continuation.start
      continuation.startArguments true [] continuation.user w with
  | ok _ w' => exact congrArg finalState (run_of_ok (bind_of_ok hpush) 0)
  | error e w' => exact congrArg finalState (run_of_error (bind_of_error hpush) 0)

/-- `execute_workflow`: the workflow is read, the row read and committed, the request pushed. -/
theorem finalState_run_execute (env : Env σ) (executionId : UUID) (continuation : Continuation)
    (w : World σ) :
    finalState (Stage.run env executionId 4 (.execute continuation) w) =
      finalState (executeWorkflow continuation.workflowId executionId continuation.start
        continuation.startArguments true [] continuation.user w) := by
  unfold executeWorkflow
  rw [bind_apply, get_apply]
  dsimp only
  cases hworkflow : w.workflow continuation.workflowId with
  | none =>
    have hstep : (Stage.execute continuation).step env executionId w = .ok .returned w := by
      rw [Stage.step, bind_apply, get_apply]
      simp only [hworkflow, pure_apply]
    rw [run_of_ok hstep, run_returned]
    rfl
  | some workflow =>
    have hstep : (Stage.execute continuation).step env executionId w =
        .ok (.pending { continuation with workflowId := workflow.id }) w := by
      rw [Stage.step, bind_apply, get_apply]
      simp only [hworkflow, pure_apply]
    rw [run_of_ok hstep, run_of_ok rfl, run_of_ok rfl]
    let w₁ := finalState (workflowPending executionId workflow.id w)
    have hcode : finalState ((workflowPending executionId workflow.id >>= fun _ =>
        addWorkflowToQueue workflow.id executionId continuation.start continuation.startArguments
          true [] continuation.user >>= fun _ => pure (some executionId)) w) =
        finalState (addWorkflowToQueue workflow.id executionId continuation.start
          continuation.startArguments true [] continuation.user w₁) :=
      finalState_bind_pure _ _ w₁
    rw [hcode]
    exact finalState_run_committed { continuation with workflowId := workflow.id } w₁

/-- **A request that nothing comes between is `resume_workflow`.** -/
theorem finalState_run_resume (env : Env σ) (executionId : UUID) (user : Option String)
    (w : World σ) :
    finalState (Stage.run env executionId 7 (.resume user) w) =
      finalState (resumeWorkflow executionId user w) := by
  unfold resumeWorkflow
  rw [bind_apply, get_apply]
  dsimp only
  cases hrow : OrderedDict.get? executionId w.workflowStatus with
  | none =>
    have hstep : (Stage.resume user).step env executionId w = .ok .returned w := by
      rw [Stage.step, bind_apply, get_apply]
      simp only [hrow, pure_apply]
    rw [run_of_ok hstep, run_returned]
    rfl
  | some row =>
    have hstep : (Stage.resume user).step env executionId w =
        .ok (if row.status = .paused then .foundPaused user row else .returned) w := by
      rw [Stage.step, bind_apply, get_apply]
      simp only [hrow, pure_apply]
    rw [run_of_ok hstep]
    dsimp only
    by_cases hpaused : row.status = .paused
    · rw [if_pos hpaused, if_pos hpaused, run_of_ok rfl]
      cases hworkflow : w.workflow row.workflowId with
      | none =>
        have hraise : (Stage.readSaved user row (w.savedState executionId)).step env executionId w =
            .error .attributeError w := by
          rw [Stage.step, bind_apply, get_apply]
          simp only [hworkflow, throw_apply]
        rw [run_of_error hraise]
        rfl
      | some workflow =>
        dsimp only
        cases w.savedState executionId with
        | none =>
          have hfound : (Stage.readSaved user row none).step env executionId w = .ok (.execute
              { workflowId := workflow.id, start := workflow.start, startArguments := [], user })
              w := by
            rw [Stage.step, bind_apply, get_apply]
            simp only [hworkflow, pure_apply]
          rw [run_of_ok hfound, finalState_run_execute]
          exact (finalState_bind_pure _ _ w).symm
        | some savedState =>
          have hfound : (Stage.readSaved user row (some savedState)).step env executionId w =
              .ok (.execute
                { workflowId := workflow.id, start := some savedState.actionId
                  startArguments := [], user }) w := by
            rw [Stage.step, bind_apply, get_apply]
            simp only [hworkflow, pure_apply]
          rw [run_of_ok hfound, finalState_run_execute]
          exact (finalState_bind_pure _ _ w).symm
    · rw [if_neg hpaused, if_neg hpaused, run_returned]
      rfl

/-- **Sending data to a trigger that nothing comes between is `resume_trigger_step`.** -/
theorem finalState_run_answer (env : Env σ) (executionId : UUID) (request : TriggerRequest)
    (w : World σ) :
    finalState (Stage.run env executionId 7 (.answer request) w) =
      finalState (executorResume env request executionId w) := by
  unfold executorResume resumeTriggerStep
  rw [bind_apply, get_apply]
  dsimp only
  cases hsaved : w.savedState executionId with
  | none =>
    have hraise : (Stage.answer request).step env executionId w = .error .attributeError w := by
      rw [Stage.step, bind_apply, get_apply]
      simp only [hsaved, throw_apply]
    rw [run_of_error hraise]
    rfl
  | some savedState =>
    have hstep : (Stage.answer request).step env executionId w =
        .ok (.answerSaved request savedState) w := by
      rw [Stage.step, bind_apply, get_apply]
      simp only [hsaved, pure_apply]
    rw [run_of_ok hstep]
    dsimp only
    cases hworkflow : w.workflow savedState.workflowId with
    | none =>
      have hraise : (Stage.answerSaved request savedState).step env executionId w =
          .error .attributeError w := by
        rw [Stage.step, bind_apply, get_apply]
        simp only [hworkflow, throw_apply]
      rw [run_of_error hraise]
      rfl
    | some workflow =>
      have hfound : (Stage.answerSaved request savedState).step env executionId w =
          .ok (.answerWorkflow request savedState workflow) w := by
        rw [Stage.step, bind_apply, get_apply]
        simp only [hworkflow, pure_apply]
      rw [run_of_ok hfound]
      dsimp only
      rw [bind_apply]
      cases hexecuted : executeSavedTrigger env executionId workflow savedState.actionId
          request.dataIn w with
      | error e w' => exact congrArg finalState (run_of_error (bind_of_error hexecuted) 4)
      | ok executed w' =>
        have htrigger : (Stage.answerWorkflow request savedState workflow).step env executionId w =
            .ok (if executed then
              .execute
                { workflowId := workflow.id, start := some savedState.actionId
                  startArguments := request.arguments, user := request.username }
              else .returned) w' :=
          bind_of_ok hexecuted
        rw [run_of_ok htrigger]
        cases executed with
        | false => exact congrArg finalState (run_returned 4 w')
        | true =>
          refine (finalState_run_execute env executionId _ w').trans ?_
          exact (finalState_bind_pure _ _ w').symm

/-! ## What a step does -/

/-- The request queue, the packets and the status rows are the same. -/
structure SameTables (w w' : World σ) : Prop where
  requestQueue : w'.requestQueue = w.requestQueue
  sent : w'.sent = w.sent
  workflowStatus : w'.workflowStatus = w.workflowStatus

/-- A world has the tables of itself. -/
theorem SameTables.refl (w : World σ) : SameTables w w :=
  ⟨rfl, rfl, rfl⟩

/-- The execution is paused or awaits data. -/
def Halted (status : WorkflowStatusEnum) : Prop :=
  status = .paused ∨ status = .awaitingData

/-- The request has found the execution paused or waiting. -/
def ClaimsHalt (executionId : UUID) : Stage → Prop
  | .resume _ | .send _ _ | .returned => False
  | .readWaiting _ _ waiting => executionId ∈ waiting
  | _ => True

/-- What one step of a request does. -/
inductive StageCases (executionId : UUID) (stage : Stage) (w : World σ) :
    EStateM.Result Exn (World σ) Stage → Prop where
  /-- It changes no table; it claims the execution if it finds it halted, or has claimed it. -/
  | reads {next : Stage} {w' : World σ} (hcommits : stage.commits = false)
    (hpushes : stage.pushes = false) (hsame : SameTables w w') (hnext : next.pushes = false)
    (hfound : stage.readsStatus = true → ClaimsHalt executionId next →
      ∃ row, (executionId, row) ∈ w.workflowStatus ∧ Halted row.status)
    (hclaimed : stage.readsStatus = false → ClaimsHalt executionId next → ClaimsHalt executionId stage) :
    StageCases executionId stage w (.ok next w')
  | raises {e : Exn} {w' : World σ} (hcommits : stage.commits = false) (hsame : SameTables w w') :
    StageCases executionId stage w (.error e w')
  | commits {continuation : Continuation} (hstage : stage = .foundRow continuation) :
    StageCases executionId stage w (.ok (.committed continuation)
      (finalState (workflowPending executionId continuation.workflowId w)))
  | pushes {continuation : Continuation} (request : Request)
    (hstage : stage = .committed continuation) :
    StageCases executionId stage w
      (.ok .returned { w with requestQueue := w.requestQueue ++ [request] })

/-- An execution that is handed on was one of those that wait. -/
theorem waiting_of_allowed {messages : List Message} {request : TriggerRequest}
    {waiting : List UUID}
    (h : (allowedExecutionIds messages request waiting).any (· = executionId) = true) :
    executionId ∈ waiting := by
  obtain ⟨id, hid, hsame⟩ := List.any_eq_true.mp h
  rw [of_decide_eq_true hsame] at hid
  have hloop := mem_foldl_authorizeTurn messages request
    (waiting.filter (·.str ∈ request.executionIds)) ([], []) executionId
  simp only [List.not_mem_nil, or_self, false_or, List.mem_filter] at hloop
  unfold allowedExecutionIds at hid
  rw [List.mem_append, or_comm] at hid
  exact (hloop.mp hid).1.1

/-- An execution that waits has a row, and the row is paused or awaiting data. -/
theorem row_of_waiting {w : World σ} (h : executionId ∈ getWaitingWorkflows w) :
    ∃ row, (executionId, row) ∈ w.workflowStatus ∧ Halted row.status := by
  obtain ⟨⟨_, row⟩, hrow, rfl⟩ := List.mem_map.mp h
  obtain ⟨hmem, hstatus⟩ := List.mem_filter.mp hrow
  exact ⟨row, hmem, .inr (of_decide_eq_true hstatus)⟩

/-- A step that only reads, from a stage that claims the execution already. -/
theorem StageCases.read {stage next : Stage} {w w' : World σ} (hreads : stage.readsStatus = false)
    (hcommits : stage.commits = false) (hpushes : stage.pushes = false)
    (hclaims : ClaimsHalt executionId next → ClaimsHalt executionId stage) (hnext : next.pushes = false)
    (hsame : SameTables w w') : StageCases executionId stage w (.ok next w') := by
  refine .reads hcommits hpushes hsame hnext (fun htrue => ?_) fun _ => hclaims
  rw [hreads] at htrue
  cases htrue

/-- What only reports to the log leaves the tables alone. -/
theorem sameTables_of_frame {P : Obs → Prop} {w w' : World σ} (h : Frame P Never w w') :
    SameTables w w' := by
  obtain ⟨new, hsent, hnever⟩ := h.sent
  have hnew : new = [] := List.eq_nil_iff_forall_not_mem.mpr hnever
  rw [hnew, List.append_nil] at hsent
  exact ⟨h.requestQueue, hsent, h.workflowStatus⟩

/-- Executing a saved trigger leaves the tables alone. -/
theorem sameTables_executeSavedTrigger (env : Env σ) (executionId : UUID) (workflow : Workflow)
    (actionId : UUID) (dataIn : PyVal) :
    Within SameTables (executeSavedTrigger env executionId workflow actionId dataIn) := by
  unfold executeSavedTrigger
  cases workflow.actions.find? (·.id = actionId) with
  | none => exact SameTables.refl
  | some action =>
    intro w
    dsimp only
    rcases frame_executeTrigger env executionId action dataIn w with
      ⟨e, w₁, htrigger, hframe⟩ | ⟨taken, w₁, hframe, htrigger⟩
    · rw [htrigger]
      exact sameTables_of_frame hframe
    · rw [htrigger]
      have hsame := sameTables_of_frame hframe
      exact ⟨hsame.requestQueue, hsame.sent, hsame.workflowStatus⟩

/-- **A step reads, or commits the row, or pushes the continuation.** -/
theorem stage_cases (env : Env σ) (executionId : UUID) (stage : Stage) (w : World σ) :
    StageCases executionId stage w (stage.step env executionId w) := by
  have hsame := SameTables.refl w
  cases stage with
  | resume user =>
    rw [Stage.step, bind_apply, get_apply]
    dsimp only
    cases hrow : OrderedDict.get? executionId w.workflowStatus with
    | none => exact .reads rfl rfl hsame rfl (fun _ h => h.elim) fun _ h => h
    | some row =>
      dsimp only
      by_cases hpaused : row.status = .paused
      · rw [if_pos hpaused]
        refine .reads rfl rfl hsame rfl (fun _ _ => ?_) fun h => by cases h
        exact ⟨row, OrderedDict.mem_of_get? hrow, .inl hpaused⟩
      · rw [if_neg hpaused]
        exact .reads rfl rfl hsame rfl (fun _ h => h.elim) fun _ h => h
  | foundPaused user row => exact .read rfl rfl rfl id rfl hsame
  | readSaved user row savedState =>
    rw [Stage.step, bind_apply, get_apply]
    dsimp only
    cases w.workflow row.workflowId with
    | none => exact .raises rfl hsame
    | some workflow => exact .read rfl rfl rfl id rfl hsame
  | send request messages =>
    exact .reads rfl rfl hsame rfl (fun _ => row_of_waiting) fun h => by cases h
  | readWaiting request messages waiting =>
    rw [Stage.step]
    by_cases hallowed :
        (allowedExecutionIds messages request waiting).any (· = executionId) = true
    · rw [if_pos hallowed]
      exact .read rfl rfl rfl (fun _ => waiting_of_allowed hallowed) rfl hsame
    · rw [if_neg hallowed]
      exact .read rfl rfl rfl False.elim rfl hsame
  | answer request =>
    rw [Stage.step, bind_apply, get_apply]
    dsimp only
    cases w.savedState executionId with
    | none => exact .raises rfl hsame
    | some savedState => exact .read rfl rfl rfl id rfl hsame
  | answerSaved request savedState =>
    rw [Stage.step, bind_apply, get_apply]
    dsimp only
    cases w.workflow savedState.workflowId with
    | none => exact .raises rfl hsame
    | some workflow => exact .read rfl rfl rfl id rfl hsame
  | answerWorkflow request savedState workflow =>
    have htrigger := sameTables_executeSavedTrigger env executionId workflow savedState.actionId
      request.dataIn
    rw [Stage.step, bind_apply]
    cases hexecuted : executeSavedTrigger env executionId workflow savedState.actionId
        request.dataIn w with
    | error e w' => exact .raises rfl (htrigger.of_error hexecuted)
    | ok executed w' =>
      dsimp only
      cases executed with
      | false => exact .read rfl rfl rfl False.elim rfl (htrigger.of_ok hexecuted)
      | true => exact .read rfl rfl rfl (fun _ => trivial) rfl (htrigger.of_ok hexecuted)
  | execute continuation =>
    rw [Stage.step, bind_apply, get_apply]
    dsimp only
    cases w.workflow continuation.workflowId with
    | none => exact .read rfl rfl rfl False.elim rfl hsame
    | some workflow => exact .read rfl rfl rfl (fun _ => trivial) rfl hsame
  | pending continuation => exact .read rfl rfl rfl (fun _ => trivial) rfl hsame
  | foundRow continuation => exact .commits rfl
  | committed continuation =>
    rw [Stage.step, bind_apply]
    rcases addWorkflowToQueue_eq continuation.workflowId executionId continuation.start
      continuation.startArguments true [] continuation.user w with ⟨e, hraised⟩ | ⟨request, -, hpushed⟩
    · rw [hraised]
      exact .raises rfl hsame
    · rw [hpushed]
      exact .pushes request rfl
  | returned => exact .read rfl rfl rfl id rfl hsame

end Walkoff.Analysis
