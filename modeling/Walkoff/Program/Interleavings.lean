import Walkoff.Program.Lifecycle

/-!
# The life of one execution, step by step

Worker and controller do not wait for each other. A worker takes a request off the queue, makes
a context and announces the start; later its run ends, with packets on the results socket. The
controller receives these packets one by one, and users resume, answer or abort the execution in
between.
-/

set_option autoImplicit false

namespace Walkoff.Program

open Walkoff.Model
open Walkoff.Library (finalState)

variable {σ : Type}

/-! ## The two halves of a run -/

/-- A worker registers the context of a request and announces the start. -/
def beginRun (env : Env σ) (thread : String) (request : Request) (ctx : Context) : M σ Unit := do
  register thread ctx
  announceStart env ctx request.environmentVariables

/-- `SerialWorkflowExecutionStrategy.execute` after its announcement. -/
def strategyRest (env : Env σ) (control : ℕ → Control) (turns : ℕ) (request : Request)
    (ctx : Context) : M σ Progress :=
  match (request.start.or ctx.workflow.start).or ctx.workflow.start with
  | none => throw .typeError
  | some start =>
    doExecute env control turns ctx start request.startArguments request.resume

/-- The two halves are the call of the workflow execution strategy. -/
theorem runRequest_eq (env : Env σ) (control : ℕ → Control) (turns : ℕ) (request : Request)
    (ctx : Context) :
    runRequest env control turns request ctx =
      announceStart env ctx request.environmentVariables >>= fun _ =>
        strategyRest env control turns request ctx := rfl

/-! ## The steps -/

/-- A run in progress. -/
structure RunningRequest where
  thread : String
  request : Request
  ctx : Context

/-- The world, the runs in progress, and how many packets the controller has received. -/
structure Interleaved (σ : Type) where
  world : World σ
  running : List RunningRequest
  received : ℕ

/-- What happens next in the life of an execution. -/
inductive InterleavedOp where
  /-- A thread of a worker takes the next request off the queue. -/
  | take (thread : String)
  /-- The run of a thread ends. -/
  | finish (thread : String) (control : ℕ → Control) (turns : ℕ)
  /-- The controller receives the next packet. -/
  | receive
  /-- `resume_workflow`. -/
  | resume (user : Option String)
  /-- `resume_trigger_step`, for an execution that awaits data. -/
  | answer (dataIn : PyVal) (arguments : List Argument) (user : Option String)
  /-- `abort_workflow`. -/
  | abort

namespace Interleaved

/-- The packets that are on their way to the controller. -/
def unreceived (self : Interleaved σ) : List Packet :=
  self.world.sent.drop self.received

/-- A thread without a run takes the next request; without a context the request is dropped. -/
def take (env : Env σ) (thread : String) (self : Interleaved σ) : Option (Interleaved σ) :=
  if self.running.any (·.thread = thread) then none
  else match self.world.requestQueue with
    | [] => none
    | request :: requests =>
      match prepare env request { self.world with requestQueue := requests } with
      | .ok (some ctx) w => some { self with
          world := finalState (beginRun env thread request ctx w)
          running := ⟨thread, request, ctx⟩ :: self.running }
      | .ok none w => some { self with world := w }
      | .error _ w => some { self with world := w }

/-- The run of a thread ends; one that raises never gets to its `pop`. -/
def finish (env : Env σ) (thread : String) (control : ℕ → Control) (turns : ℕ)
    (self : Interleaved σ) : Option (Interleaved σ) :=
  match self.running.find? (·.thread = thread) with
  | none => none
  | some run =>
    match strategyRest env control turns run.request run.ctx self.world with
    | .ok (.running _) _ => none
    | .ok .returned w => some { self with
        world := finalState (deregister thread w)
        running := self.running.filter (·.thread ≠ thread) }
    | .error _ w => some { self with
        world := w
        running := self.running.filter (·.thread ≠ thread) }

/-- The controller receives the next packet. -/
def receive (self : Interleaved σ) : Option (Interleaved σ) :=
  match self.unreceived with
  | [] => none
  | packet :: _ => some { self with
      world := finalState (receivePacket packet self.world)
      received := self.received + 1 }

/-- The controller is called. -/
def control (env : Env σ) (executionId : UUID) (op : LifecycleOp) (self : Interleaved σ) :
    Option (Interleaved σ) :=
  (lifecycleStep env executionId self.world op).map fun w => { self with world := w }

end Interleaved

/-- The state after a step, if it can be taken. -/
def interleavedStep (env : Env σ) (executionId : UUID) (s : Interleaved σ) :
    InterleavedOp → Option (Interleaved σ)
  | .take thread => s.take env thread
  | .finish thread control turns => s.finish env thread control turns
  | .receive => s.receive
  | .resume user => s.control env executionId (.resume user)
  | .answer dataIn arguments user => s.control env executionId (.answer dataIn arguments user)
  | .abort => s.control env executionId .abort

/-- The life of an execution, step by step, as a transition system. -/
def InterleavedStep (env : Env σ) (executionId : UUID) (s : Interleaved σ) (op : InterleavedOp)
    (s' : Interleaved σ) : Prop :=
  interleavedStep env executionId s op = some s'

/-- The controller starts an execution of a stored workflow. -/
def interleavedStart (behaviour : σ) (workflows : List Workflow) (workflowId executionId : UUID)
    (start : Option UUID) (startArguments : List Argument)
    (environmentVariables : List EnvironmentVariable) (user : Option String) : Interleaved σ :=
  { world := lifecycleStart behaviour workflows workflowId executionId start startArguments
      environmentVariables user
    running := [], received := 0 }

end Walkoff.Program
