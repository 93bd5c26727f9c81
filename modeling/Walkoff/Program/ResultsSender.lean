import Walkoff.Model.World

/-!
# The execution context and the results sender

`WorkflowExecutionContext` and the path of a signal sent by the worker: `on_data_sent`
finds the context of the thread, `handle_event` saves the workflow if the event is a pause
or an await, encodes the event and puts the packet on the results socket.
-/

set_option autoImplicit false

namespace Walkoff.Program

open Walkoff.Model
open Walkoff.Library (OrderedDict lift)

/-- `WorkflowExecutionContext`. `counters` are the `_counter` attributes of the loaded
branches, by branch id. -/
structure Context where
  workflow : Workflow
  executionId : UUID
  executingAction : Option Action
  isPaused : Bool
  isAborted : Bool
  hasBranches : Bool
  lastStatus : Option String
  user : Option String
  counters : UUID → ℕ

namespace Context

/-- `get_action_by_id`. -/
def getActionById (self : Context) (actionId : UUID) : Option Action :=
  self.workflow.actions.find? (·.id = actionId)

/-- `get_branches_by_action_id`: ascending priority, ties in list order. -/
def getBranchesByActionId (self : Context) (actionId : UUID) : List Branch :=
  (self.workflow.getBranchesByActionId actionId).mergeSort (fun b c => b.priority ≤ c.priority)

/-- `update_status`. -/
def updateStatus (self : Context) (status : String) : Context :=
  { self with lastStatus := some status }

end Context

/-- What a signal finds in the context of its thread: the execution it belongs to and the
action the loop is at. -/
structure Origin where
  executionId : UUID
  workflowId : UUID
  user : Option String
  executingAction : Option Action

/-- The origin of the signals sent under a context. -/
def Context.origin (self : Context) : Origin :=
  { executionId := self.executionId, workflowId := self.workflow.id, user := self.user
    executingAction := self.executingAction }

variable {σ : Type}

/-- `SavedWorkflow.from_workflow`. -/
def savedWorkflowFromWorkflow (o : Origin) (action : Action) (instances : List InstanceKey) :
    SavedWorkflow :=
  { workflowExecutionId := o.executionId, workflowId := o.workflowId
    actionId := action.id, appInstances := instances }

/-- SQLAlchemy's `StatementError`, which wraps the exception of a value it cannot bind. -/
def statementError : Exn :=
  .raised "StatementError"

/-- `session.add(saved_workflow)` and `commit`: the app instances are a column of `PickleType`,
pickled when the row is flushed, and the database refuses a second row with the same primary
key. -/
def addSavedWorkflow (env : Env σ) (o : Origin) : M σ Unit := do
  match o.executingAction with
  | none => throw .attributeError
  | some action =>
    let w ← get
    if !env.instancesPickle w.instances w.behaviour then
      observe (.saved action.id false)
      throw statementError
    else if (w.savedState o.executionId).isSome then
      observe (.saved action.id false)
      throw .integrityError
    else
      modify (·.withSavedWorkflow (savedWorkflowFromWorkflow o action w.instances))
      observe (.saved action.id true)

/-- `event_to_protobuf` and `results_sock.send`. -/
def sendPacket (o : Origin) (sender : Sender) (event : WalkoffEvent) (data : Option PyVal)
    (startArguments : List Argument) : M σ Unit := do
  let packet ← lift (eventToProtobuf sender ⟨o.executionId, o.user⟩ event data startArguments)
  modify (·.withPacket packet)

/-- `ZmqWorkflowResultsSender.handle_event` in a worker. -/
def handleEvent (env : Env σ) (o : Origin) (sender : Sender) (event : WalkoffEvent) (data : Option PyVal)
    (startArguments : List Argument) : M σ Unit := do
  if event.savesWorkflow then addSavedWorkflow env o
  sendPacket o sender event data startArguments

/-- An event that does not save the workflow is only sent. -/
theorem handleEvent_eq_sendPacket {event : WalkoffEvent} (h : event.savesWorkflow = false)
    (env : Env σ) (o : Origin) (sender : Sender) (data : Option PyVal) (startArguments : List Argument) :
    (handleEvent env o sender event data startArguments : M σ Unit) =
      sendPacket o sender event data startArguments := by
  unfold handleEvent
  rw [h]
  rfl

/-- An event that saves the workflow saves it first. -/
theorem handleEvent_eq_save {event : WalkoffEvent} (h : event.savesWorkflow = true)
    (env : Env σ) (o : Origin) (sender : Sender) (data : Option PyVal) (startArguments : List Argument) :
    (handleEvent env o sender event data startArguments : M σ Unit) =
      addSavedWorkflow env o >>= fun _ => sendPacket o sender event data startArguments := by
  unfold handleEvent
  rw [h]
  rfl

/-- `WorkflowExecutionContext.send_event`. -/
def sendEvent (env : Env σ) (o : Origin) (event : WalkoffEvent) (data : Option PyVal) : M σ Unit :=
  handleEvent env o .workflow event data []

end Walkoff.Program
