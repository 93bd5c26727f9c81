import Walkoff.Program.Lifecycle
import Walkoff.Program.TriggersEndpoint

/-!
# Requests to continue an execution, step by step

Users resume a paused execution and send data to the trigger of a waiting one. The server
handles these requests side by side: each query, each commit and each push on the request
queue is a step of its own here, so that the steps of several requests for one execution can
come in any order, between the runs of the workers and the receipt of single packets.
-/

set_option autoImplicit false

namespace Walkoff.Program

open Walkoff.Model
open Walkoff.Library (Ended OrderedDict finalState)

variable {σ : Type}

/-! ## A request -/

/-- What `resume_workflow` and `resume_trigger_step` pass to `execute_workflow`. -/
structure Continuation where
  workflowId : UUID
  start : Option UUID
  startArguments : List Argument
  user : Option String

/-- How far a request has got: what it has read so far, and what it does next. -/
inductive Stage where
  /-- `resume_workflow` is called. -/
  | resume (user : Option String)
  /-- It has found the status row paused. -/
  | foundPaused (user : Option String) (row : WorkflowStatus)
  /-- It has looked for the saved state. -/
  | readSaved (user : Option String) (row : WorkflowStatus) (savedState : Option SavedWorkflow)
  /-- `send_data_to_trigger` is called; the messages are those it will find. -/
  | send (request : TriggerRequest) (messages : List Message)
  /-- It has read which executions wait. -/
  | readWaiting (request : TriggerRequest) (messages : List Message) (waiting : List UUID)
  /-- `resume_trigger_step` is called. -/
  | answer (request : TriggerRequest)
  /-- It has found the saved state. -/
  | answerSaved (request : TriggerRequest) (savedState : SavedWorkflow)
  /-- It has found the workflow. -/
  | answerWorkflow (request : TriggerRequest) (savedState : SavedWorkflow) (workflow : Workflow)
  /-- `execute_workflow` is called. -/
  | execute (continuation : Continuation)
  /-- It has found the workflow, and its pending handler is called. -/
  | pending (continuation : Continuation)
  /-- The handler has found the row. -/
  | foundRow (continuation : Continuation)
  /-- The handler has committed the row. -/
  | committed (continuation : Continuation)
  /-- The request has been answered. -/
  | returned

/-- The next step of a request. A row is never deleted, so the handler commits to the row it
has found. -/
def Stage.step (env : Env σ) (executionId : UUID) : Stage → M σ Stage
  | .resume user => do
    match OrderedDict.get? executionId (← get).workflowStatus with
    | none => pure .returned
    | some row => pure (if row.status = .paused then .foundPaused user row else .returned)
  | .foundPaused user row => do
    pure (.readSaved user row ((← get).savedState executionId))
  | .readSaved user row savedState => do
    match (← get).workflow row.workflowId with
    | none => throw .attributeError
    | some workflow =>
      let start := match savedState with
        | some savedState => some savedState.actionId
        | none => workflow.start
      pure (.execute { workflowId := workflow.id, start, startArguments := [], user })
  | .send request messages => do
    pure (.readWaiting request messages (getWaitingWorkflows (← get)))
  | .readWaiting request messages waiting =>
    pure (if (allowedExecutionIds messages request waiting).any (· = executionId) then
        .answer request
      else .returned)
  | .answer request => do
    match (← get).savedState executionId with
    | none => throw .attributeError
    | some savedState => pure (.answerSaved request savedState)
  | .answerSaved request savedState => do
    match (← get).workflow savedState.workflowId with
    | none => throw .attributeError
    | some workflow => pure (.answerWorkflow request savedState workflow)
  | .answerWorkflow request savedState workflow => do
    let executed ← executeSavedTrigger env executionId workflow savedState.actionId request.dataIn
    pure (if executed then
        .execute
          { workflowId := workflow.id, start := some savedState.actionId
            startArguments := request.arguments, user := request.username }
      else .returned)
  | .execute continuation => do
    match (← get).workflow continuation.workflowId with
    | none => pure .returned
    | some workflow => pure (.pending { continuation with workflowId := workflow.id })
  | .pending continuation => pure (.foundRow continuation)
  | .foundRow continuation => do
    workflowPending executionId continuation.workflowId
    pure (.committed continuation)
  | .committed continuation => do
    addWorkflowToQueue continuation.workflowId executionId continuation.start
      continuation.startArguments true [] continuation.user
    pure .returned
  | .returned => pure .returned

/-- The step reads whether the execution is paused or waits. -/
def Stage.readsStatus : Stage → Bool
  | .resume _ | .send _ _ => true
  | _ => false

/-- The step makes the execution pending. -/
def Stage.commits : Stage → Bool
  | .foundRow _ => true
  | _ => false

/-- The step pushes the continuation on the request queue. -/
def Stage.pushes : Stage → Bool
  | .committed _ => true
  | _ => false

/-- Some steps of a request that nothing comes between. -/
def Stage.run (env : Env σ) (executionId : UUID) : ℕ → Stage → M σ Stage
  | 0, stage => pure stage
  | n + 1, stage => do
    let next ← stage.step env executionId
    Stage.run env executionId n next

/-! ## All requests for one execution -/

/-- How often packets tell that an execution pauses or awaits data. -/
def haltCount (executionId : UUID) (packets : List Packet) : ℕ :=
  packets.countP fun packet => packet.executionId = executionId && packet.event.savesWorkflow

/-- A request and, as a ghost, how many halts the controller knew of when the request last
read the status: which pause or await it is about. -/
structure ContinuationCall where
  stage : Stage
  halt : ℕ

/-- The world, how many of the packets the controller has received, and the requests. The
other fields are ghosts. -/
structure ContinuationState (σ : Type) where
  world : World σ
  received : ℕ
  calls : List ContinuationCall
  /-- For each request that has made the execution pending, the halt it is about. -/
  commits : List ℕ
  /-- For each continuation pushed, the halt it is about and how many there have been. -/
  pushed : List (ℕ × ℕ)
  /-- For each continuation a worker has taken, how many halts there have been. -/
  resumed : List ℕ

/-- The halts there have been. -/
def ContinuationState.halts (executionId : UUID) (s : ContinuationState σ) : ℕ :=
  haltCount executionId s.world.sent

/-- The halts the controller knows of. -/
def ContinuationState.heard (executionId : UUID) (s : ContinuationState σ) : ℕ :=
  haltCount executionId (s.world.sent.take s.received)

/-- What happens next. -/
inductive ContinuationOp where
  /-- A user resumes the execution. -/
  | resume (user : Option String)
  /-- A user sends data to triggers. -/
  | send (request : TriggerRequest) (messages : List Message)
  /-- A request takes its next step. -/
  | advance (call : ℕ)
  /-- A worker takes the next request off the queue and runs it. -/
  | work (thread : String) (control : ℕ → Control) (turns : ℕ)
  /-- The controller receives the next packet. -/
  | receive
  /-- `abort_workflow`. -/
  | abort

/-- A request takes its next step; one that raises is answered with the exception. -/
def ContinuationState.advanced (env : Env σ) (executionId : UUID) (s : ContinuationState σ)
    (index : ℕ) (call : ContinuationCall) : ContinuationState σ :=
  let halt := if call.stage.readsStatus then s.heard executionId else call.halt
  match call.stage.step env executionId s.world with
  | .ok stage world =>
    { s with
      world
      calls := s.calls.set index { stage, halt }
      commits := if call.stage.commits then s.commits ++ [halt] else s.commits
      pushed := if call.stage.pushes then s.pushed ++ [(halt, s.halts executionId)] else s.pushed }
  | .error _ world => { s with world, calls := s.calls.set index { stage := .returned, halt } }

/-- The state after a step, if it can be taken. -/
def continuationStep (env : Env σ) (executionId : UUID) (s : ContinuationState σ) :
    ContinuationOp → Option (ContinuationState σ)
  | .resume user => some { s with calls := s.calls ++ [{ stage := .resume user, halt := 0 }] }
  | .send request messages =>
    some { s with calls := s.calls ++ [{ stage := .send request messages, halt := 0 }] }
  | .advance index => s.calls[index]?.map (s.advanced env executionId index)
  | .work thread control turns =>
    match s.world.requestQueue with
    | [] => none
    | request :: requests =>
      let resumed := if request.resume then s.resumed ++ [s.halts executionId] else s.resumed
      match execute env control turns thread request { s.world with requestQueue := requests } with
      | .ok (.running _) _ => none
      | .ok .returned world => some { s with world, resumed }
      | .error _ world => some { s with world, resumed }
  | .receive =>
    match s.world.sent[s.received]? with
    | none => none
    | some packet => some
        { s with
          world := finalState (receivePacket packet s.world)
          received := s.received + 1 }
  | .abort => some { s with world := finalState (abortWorkflow executionId s.world) }

/-- The requests for one execution as a transition system. -/
def ContinuationStep (env : Env σ) (executionId : UUID) (s : ContinuationState σ)
    (op : ContinuationOp) (s' : ContinuationState σ) : Prop :=
  continuationStep env executionId s op = some s'

/-- The controller has started the execution, and nobody has asked to continue it. -/
def continuationStart (world : World σ) : ContinuationState σ :=
  { world, received := 0, calls := [], commits := [], pushed := [], resumed := [] }

end Walkoff.Program
