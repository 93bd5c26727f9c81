import Walkoff.Program.Elements
import Walkoff.Program.RequestCodec
import Walkoff.Program.ResultHandlers

/-!
# The controller

The methods of `MultiprocessedExecutor` that start, pause, resume and abort an execution
and answer its triggers. The controller has no results socket, so its own events go
straight to their receivers.
-/

set_option autoImplicit false

namespace Walkoff.Program

open Walkoff.Model
open Walkoff.Library (OrderedDict lift)

variable {σ : Type}

/-- `__add_workflow_to_queue`; a worker takes the decoded request off the queue. -/
def addWorkflowToQueue (workflowId executionId : UUID) (start : Option UUID)
    (startArguments : List Argument) (resume : Bool)
    (environmentVariables : List EnvironmentVariable) (user : Option String) : M σ Unit := do
  let message ← lift (createWorkflowRequestMessage (.uuid workflowId) executionId.str
    (start.map Key.uuid) startArguments resume environmentVariables user)
  let request ← lift (receiveWorkflow message >>= requestOfReceived)
  modify fun w => { w with requestQueue := w.requestQueue ++ [request] }

/-- `execute_workflow`, under the execution id it is given or has made up. -/
def executeWorkflow (workflowId executionId : UUID) (start : Option UUID)
    (startArguments : List Argument) (resume : Bool)
    (environmentVariables : List EnvironmentVariable) (user : Option String) :
    M σ (Option UUID) := do
  match (← get).workflow workflowId with
  | none => pure none
  | some workflow =>
    workflowPending executionId workflow.id
    addWorkflowToQueue workflow.id executionId start startArguments resume
      environmentVariables user
    pure (some executionId)

/-- `pause_workflow`: only a running execution is told to pause. -/
def pauseWorkflow (executionId : UUID) : M σ Bool := do
  match (← get).status executionId with
  | some .running =>
    modify fun w => { w with published := w.published ++ [.pause executionId] }
    pure true
  | _ => pure false

/-- `resume_workflow`. -/
def resumeWorkflow (executionId : UUID) (user : Option String) : M σ Bool := do
  let w ← get
  match OrderedDict.get? executionId w.workflowStatus with
  | none => pure false
  | some row =>
    if row.status = .paused then
      match w.workflow row.workflowId with
      | none => throw .attributeError
      | some workflow =>
        let start := match w.savedState executionId with
          | some savedState => some savedState.actionId
          | none => workflow.start
        let _ ← executeWorkflow workflow.id executionId start [] true [] user
        pure true
    else pure false

/-- `abort_workflow`. -/
def abortWorkflow (executionId : UUID) : M σ Bool := do
  let w ← get
  match OrderedDict.get? executionId w.workflowStatus with
  | none => pure false
  | some row =>
    match row.status with
    | .pending | .paused | .awaitingData =>
      if (w.workflow row.workflowId).isSome then workflowAborted executionId
    | .running =>
      modify fun w => { w with published := w.published ++ [.abort executionId] }
    | .completed | .aborted => pure ()
    pure true

/-- `get_waiting_workflows`. -/
def getWaitingWorkflows (w : World σ) : List UUID :=
  (w.workflowStatus.filter (·.2.status = .awaitingData)).map (·.1)

/-- `Action.execute_trigger`. Nothing at the controller listens to the expression's events. -/
def executeTrigger (env : Env σ) (executionId : UUID) (action : Action) (dataIn : PyVal) :
    M σ Bool := do
  match action.trigger with
  | none => throw .attributeError
  | some trigger =>
    let taken ← executeExpression env (makeAccumulator env executionId) (fun _ _ => pure ())
      dataIn trigger
    observe (.trigger action.id taken)
    pure taken

/-- The search of `resume_trigger_step` for the action whose trigger it executes. -/
def executeSavedTrigger (env : Env σ) (executionId : UUID) (workflow : Workflow)
    (actionId : UUID) (dataIn : PyVal) : M σ Bool :=
  match workflow.actions.find? (·.id = actionId) with
  | some action => executeTrigger env executionId action dataIn
  | none => pure false

/-- `resume_trigger_step`. -/
def resumeTriggerStep (env : Env σ) (executionId : UUID) (dataIn : PyVal)
    (arguments : List Argument) (user : Option String) : M σ Bool := do
  let w ← get
  match w.savedState executionId with
  | none => throw .attributeError
  | some savedState =>
    match w.workflow savedState.workflowId with
    | none => throw .attributeError
    | some workflow =>
      let executed ← executeSavedTrigger env executionId workflow savedState.actionId dataIn
      if executed then
        let _ ← executeWorkflow workflow.id executionId (some savedState.actionId) arguments true
          [] user
        pure true
      else pure false

end Walkoff.Program
