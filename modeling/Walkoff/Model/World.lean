import Walkoff.Library.Effect
import Walkoff.Model.Events

/-!
# The state of the executor

`World` is what the controller and the workers share: the tables of the execution
database, the accumulators, the request queue and the results socket, together with the
state of the app code (`behaviour`) and a ghost log of what an execution did. `Env` is the
code the workflows bring along: the app functions, the conditions and their APIs.
-/

set_option autoImplicit false

namespace Walkoff.Model

open Walkoff.Library (OrderedDict lift)

/-- `WorkflowStatusEnum`. -/
inductive WorkflowStatusEnum where
  | running
  | paused
  | awaitingData
  | pending
  | completed
  | aborted
  deriving DecidableEq, Repr

/-- A row of the table `workflow_status`. -/
structure WorkflowStatus where
  executionId : UUID
  workflowId : UUID
  status : WorkflowStatusEnum
  deriving DecidableEq, Repr

/-- The key of an app instance: the app and the resolved device id. -/
abbrev InstanceKey := String × PyVal

/-- A row of the table `saved_workflow`; the execution id is its primary key. -/
structure SavedWorkflow where
  workflowExecutionId : UUID
  workflowId : UUID
  actionId : UUID
  appInstances : List InstanceKey
  deriving DecidableEq, Repr

/-- A message on the communication socket, to every worker. -/
inductive ControlMessage where
  | pause (executionId : UUID)
  | abort (executionId : UUID)
  deriving DecidableEq, Repr

/-- A request to a worker to run an execution. -/
structure Request where
  workflowId : UUID
  executionId : UUID
  start : Option UUID
  startArguments : List Argument
  resume : Bool
  environmentVariables : List EnvironmentVariable
  user : Option String
  deriving Repr

/-- What happens to the actions of an execution. -/
inductive Obs where
  /-- The serial loop binds its variable to the action. `arrived` is false when the loop
  starts over at the action it was paused at or awaited data at. -/
  | visited (action : UUID) (arrived resume : Bool)
  /-- The app function of the action is called. -/
  | appFunction (action : UUID) (arguments : OrderedDict String PyVal)
      (instanceKey : Option InstanceKey)
  /-- `Action.execute` returns a status. -/
  | executed (action : UUID) (status : String)
  /-- `Action.execute` leaves the action awaiting data. -/
  | awaiting (action : UUID)
  /-- `Branch.execute` is called. -/
  | branchExecuted (branch : UUID)
  /-- `Branch.execute` names the branch's destination. -/
  | branchTaken (branch : UUID)
  /-- `execute_trigger` is called, and what the trigger said. -/
  | trigger (action : UUID) (taken : Bool)
  /-- A pause or an await is saved, or saving it raises. -/
  | saved (action : UUID) (stored : Bool)
  deriving DecidableEq, Repr

/-- The shared state; `σ` is the state of the app code. -/
structure World (σ : Type) where
  behaviour : σ
  workflows : List Workflow
  workflowStatus : OrderedDict UUID WorkflowStatus
  savedWorkflow : List SavedWorkflow
  accumulators : UUID → Accumulator
  instances : List InstanceKey
  executingWorkflows : OrderedDict String UUID
  requestQueue : List Request
  published : List ControlMessage
  uuid4 : ℕ
  sent : List Packet
  log : List Obs

/-- The code that comes from outside: APIs, app functions, conditions and devices. -/
structure Env (σ : Type) where
  accumulatorType : AccumulatorType
  appApis : AppApis
  isAppActionBound : String → String → Except Exn Bool
  validateParameter : PyVal → ParamApi → String → Except Exn PyVal
  /-- The decorated app function of an action, on its arguments and app instance. -/
  appFunction : Action → OrderedDict String PyVal → Option InstanceKey → σ →
    Except Exn ActionResult × σ
  /-- `Condition.execute`. -/
  condition : Condition → PyVal → Accumulator → σ → Except Exn Bool × σ
  /-- `AppInstance.create`, which catches every exception of the app's constructor. -/
  createInstance : InstanceKey → σ → σ
  /-- `shutdown_instances`, which catches every exception of the apps. -/
  shutdownInstances : List InstanceKey → σ → σ
  /-- The dictionary of the app instances under these keys can be pickled. -/
  instancesPickle : List InstanceKey → σ → Bool

/-- Executor code: it changes the world and may raise. -/
abbrev M (σ : Type) := EStateM Exn (World σ)

variable {σ : Type}

/-- Let the app code act. -/
def behave {α : Type} (f : σ → Except Exn α × σ) : M σ α := fun w =>
  match f w.behaviour with
  | (.ok a, b) => .ok a { w with behaviour := b }
  | (.error e, b) => .error e { w with behaviour := b }

/-- The world with one more entry in the ghost log. -/
def World.logged (w : World σ) (o : Obs) : World σ :=
  { w with log := w.log ++ [o] }

/-- Append to the ghost log. -/
def observe (o : Obs) : M σ Unit :=
  modify (·.logged o)

/-- The world with one more row in the table `saved_workflow`. -/
def World.withSavedWorkflow (w : World σ) (saved : SavedWorkflow) : World σ :=
  { w with savedWorkflow := w.savedWorkflow ++ [saved] }

/-- The world with one more packet on the results socket. -/
def World.withPacket (w : World σ) (packet : Packet) : World σ :=
  { w with sent := w.sent ++ [packet] }

/-- `str(uuid.uuid4())`: a text no earlier call returned. -/
def newUuid4 : M σ ℕ := fun w =>
  .ok w.uuid4 { w with uuid4 := w.uuid4 + 1 }

/-- The accumulator of an execution. -/
def getAccumulator (executionId : UUID) : M σ Accumulator := do
  pure ((← get).accumulators executionId)

/-- Put back the accumulator of an execution. -/
def putAccumulator (executionId : UUID) (accumulator : Accumulator) : M σ Unit :=
  modify fun w =>
    { w with accumulators := Function.update w.accumulators executionId accumulator }

/-- `make_accumulator`: a new dictionary, or what the cache holds for the execution. -/
def makeAccumulator (env : Env σ) (executionId : UUID) : M σ Accumulator :=
  match env.accumulatorType with
  | .memory => pure { type := .memory, entries := [] }
  | .external => do pure { ← getAccumulator executionId with type := .external }

/-- `accumulator[key] = value`. -/
def setAccumulatorItem (executionId : UUID) (key : UUID) (value : PyVal) : M σ Unit := do
  let accumulator ← getAccumulator executionId
  putAccumulator executionId (← lift (accumulator.setItem (.uuid key) value))

/-- The state before any execution: the stored workflows and nothing else. -/
def World.start (behaviour : σ) (workflows : List Workflow) : World σ :=
  { behaviour, workflows, workflowStatus := [], savedWorkflow := []
    accumulators := fun _ => { type := .external, entries := [] }
    instances := [], executingWorkflows := [], requestQueue := [], published := []
    uuid4 := 0, sent := [], log := [] }

/-- The saved state of an execution, if there is one. -/
def World.savedState (w : World σ) (executionId : UUID) : Option SavedWorkflow :=
  w.savedWorkflow.find? (·.workflowExecutionId = executionId)

/-- The status of an execution, if it has a row. -/
def World.status (w : World σ) (executionId : UUID) : Option WorkflowStatusEnum :=
  (OrderedDict.get? executionId w.workflowStatus).map (·.status)

/-- The workflow of an id, if it is stored. -/
def World.workflow (w : World σ) (id : UUID) : Option Workflow :=
  w.workflows.find? (·.id = id)

end Walkoff.Model
