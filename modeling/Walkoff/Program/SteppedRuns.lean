import Walkoff.Program.Interleavings

/-!
# The life of one execution, turn by turn

Here a run is more than one step. A worker takes a request and reads the status, registers the
context and announces the start, and takes the turns of its loop one by one. In between the
controller is called and receives packets, and the workers hear the messages that it has
published: a message sets a flag of the context that is registered for its execution, and the loop
looks at the flags when it gets to its next action.
-/

set_option autoImplicit false

namespace Walkoff.Program

open Walkoff.Model
open Walkoff.Library (OrderedDict finalState)

variable {σ : Type}

/-! ## Runs in progress -/

/-- How far a thread is: it has made a context, or it is in the loop. -/
inductive RunPhase where
  | prepared (ctx : Context)
  | looping (vars : LoopVars)

/-- The context of a thread. -/
def RunPhase.ctx : RunPhase → Context
  | .prepared ctx => ctx
  | .looping vars => vars.ctx

/-- A thread that executes a request. -/
structure SteppedRun where
  thread : String
  request : Request
  phase : RunPhase

/-- The execution that a message is for. -/
def messageExecutionId : ControlMessage → UUID
  | .pause executionId | .abort executionId => executionId

/-- `pause` and `abort` of a context. -/
def Context.tell (message : ControlMessage) (self : Context) : Context :=
  match message with
  | .pause _ => { self with isPaused := true }
  | .abort _ => { self with isAborted := true }

/-- A message is told to the context that a thread has registered. -/
def SteppedRun.tell (message : ControlMessage) (self : SteppedRun) : SteppedRun :=
  match self.phase with
  | .prepared _ => self
  | .looping vars => { self with phase := .looping { vars with ctx := vars.ctx.tell message } }

/-! ## The steps -/

/-- The world, the threads that execute a request, how many packets the controller has received,
and how many messages each worker has heard. `asked` and `exhausted` are not in the code: whether
`abort_workflow` has returned `True` for the execution before it was over, and whether the loop of a
run has found no further action. -/
structure Stepped (σ : Type) where
  world : World σ
  running : List SteppedRun
  received : ℕ
  heard : ℕ → ℕ
  asked : Bool
  exhausted : Bool

/-- What happens next in the life of an execution. -/
inductive SteppedOp where
  /-- A thread takes the next request off the queue, reads the status and makes a context. -/
  | take (thread : String)
  /-- A thread registers its context and announces the start. -/
  | start (thread : String)
  /-- A thread takes one turn of its loop. -/
  | turn (thread : String)
  /-- A worker hears the next message. -/
  | hear (worker : ℕ)
  /-- The controller receives the next packet. -/
  | receive
  /-- `pause_workflow`. -/
  | pause
  /-- `resume_workflow`. -/
  | resume (user : Option String)
  /-- `resume_trigger_step`, for an execution that awaits data. -/
  | answer (dataIn : PyVal) (arguments : List Argument) (user : Option String)
  /-- `abort_workflow`. -/
  | abort

/-- The flags at a boundary are those of the context. -/
def flagsOnly (_ : ℕ) : Control :=
  { pause := false, abort := false }

/-- The generator has no further action. -/
def hasEnded (env : Env σ) (vars : LoopVars) (w : World σ) : Bool :=
  match vars.actions.next env vars.ctx w with
  | .ok (none, _, _) _ => true
  | _ => false

/-- `get_workflow_by_execution_id` of a worker: the thread of the first entry of its registry that
is of the execution. An earlier run may have left this entry behind. -/
def registeredThread (workerOf : String → ℕ) (worker : ℕ) (executionId : UUID) (w : World σ) :
    Option String :=
  (w.executingWorkflows.find? fun entry =>
    workerOf entry.1 = worker ∧ entry.2 = executionId).map (·.1)

/-- An execution that is not over. -/
def isLive (executionId : UUID) (w : World σ) : Bool :=
  match w.status executionId with
  | some .pending | some .running | some .paused | some .awaitingData => true
  | _ => false

/-- A call that returns `True`. -/
def returnsTrue : EStateM.Result Exn (World σ) Bool → Bool
  | .ok result _ => result
  | .error _ _ => false

namespace Stepped

/-- The packets that are on their way to the controller. -/
def unreceived (self : Stepped σ) : List Packet :=
  self.world.sent.drop self.received

/-- The thread is done with its request. -/
def without (thread : String) (self : Stepped σ) : List SteppedRun :=
  self.running.filter (·.thread ≠ thread)

/-- The thread goes on in another phase. -/
def goingOn (thread : String) (phase : RunPhase) (self : Stepped σ) : List SteppedRun :=
  self.running.map fun run => if run.thread = thread then { run with phase } else run

/-- A thread that has no request takes the next one; without a context the request is dropped. -/
def take (env : Env σ) (thread : String) (self : Stepped σ) : Option (Stepped σ) :=
  if self.running.any (·.thread = thread) then none
  else match self.world.requestQueue with
    | [] => none
    | request :: requests =>
      match prepare env request { self.world with requestQueue := requests } with
      | .ok (some ctx) w => some { self with
          world := w, running := ⟨thread, request, .prepared ctx⟩ :: self.running }
      | .ok none w => some { self with world := w }
      | .error _ w => some { self with world := w }

/-- A thread registers its context and announces the start; a workflow without any start has no
UUID to start from. -/
def start (env : Env σ) (thread : String) (self : Stepped σ) : Option (Stepped σ) :=
  match self.running.find? (·.thread = thread) with
  | some ⟨_, request, .prepared ctx⟩ =>
    let world := finalState (beginRun env thread request ctx self.world)
    match (request.start.or ctx.workflow.start).or ctx.workflow.start with
    | none => some { self with world, running := self.without thread }
    | some start => some { self with
        world, running := self.goingOn thread (.looping
          { ctx, actions := .fresh start, startArguments := request.startArguments, boundary := 0 }) }
  | _ => none

/-- A thread takes one turn of its loop; a run that raises never gets to its `pop`. -/
def turn (env : Env σ) (thread : String) (self : Stepped σ) : Option (Stepped σ) :=
  match self.running.find? (·.thread = thread) with
  | some ⟨_, request, .looping vars⟩ =>
    let exhausted := self.exhausted || hasEnded env vars self.world
    match loopTurn env flagsOnly request.resume vars self.world with
    | .ok (.again vars) w => some { self with
        world := w, running := self.goingOn thread (.looping vars), exhausted }
    | .ok .returned w => some { self with
        world := finalState (deregister thread w), running := self.without thread, exhausted }
    | .error _ w => some { self with world := w, running := self.without thread, exhausted }
  | _ => none

/-- A worker hears the next message, and tells it to the context that it finds. -/
def hear (workerOf : String → ℕ) (worker : ℕ) (self : Stepped σ) : Option (Stepped σ) :=
  match self.world.published.drop (self.heard worker) with
  | [] => none
  | message :: _ => some { self with
      running := self.running.map fun run =>
        if registeredThread workerOf worker (messageExecutionId message) self.world =
            some run.thread then run.tell message
        else run
      heard := Function.update self.heard worker (self.heard worker + 1) }

/-- The controller receives the next packet. -/
def receive (self : Stepped σ) : Option (Stepped σ) :=
  match self.unreceived with
  | [] => none
  | packet :: _ => some { self with
      world := finalState (receivePacket packet self.world)
      received := self.received + 1 }

/-- The controller is called. -/
def control (env : Env σ) (executionId : UUID) (op : LifecycleOp) (self : Stepped σ) :
    Option (Stepped σ) :=
  (lifecycleStep env executionId self.world op).map fun w => { self with world := w }

/-- `pause_workflow`. -/
def pause (executionId : UUID) (self : Stepped σ) : Stepped σ :=
  { self with world := finalState (pauseWorkflow executionId self.world) }

/-- `abort_workflow`. -/
def abort (executionId : UUID) (self : Stepped σ) : Stepped σ :=
  { self with
    world := finalState (abortWorkflow executionId self.world)
    asked := self.asked ||
      (isLive executionId self.world && returnsTrue (abortWorkflow executionId self.world)) }

end Stepped

/-- The state after a step, if it can be taken. `workerOf` says which threads are of one worker. -/
def steppedStep (env : Env σ) (workerOf : String → ℕ) (executionId : UUID) (s : Stepped σ) :
    SteppedOp → Option (Stepped σ)
  | .take thread => s.take env thread
  | .start thread => s.start env thread
  | .turn thread => s.turn env thread
  | .hear worker => s.hear workerOf worker
  | .receive => s.receive
  | .pause => some (s.pause executionId)
  | .resume user => s.control env executionId (.resume user)
  | .answer dataIn arguments user => s.control env executionId (.answer dataIn arguments user)
  | .abort => some (s.abort executionId)

/-- The life of an execution, turn by turn, as a transition system. -/
def SteppedStep (env : Env σ) (workerOf : String → ℕ) (executionId : UUID) (s : Stepped σ)
    (op : SteppedOp) (s' : Stepped σ) : Prop :=
  steppedStep env workerOf executionId s op = some s'

/-- The controller starts an execution of a stored workflow. -/
def steppedStart (behaviour : σ) (workflows : List Workflow) (workflowId executionId : UUID)
    (start : Option UUID) (startArguments : List Argument)
    (environmentVariables : List EnvironmentVariable) (user : Option String) : Stepped σ :=
  { world := lifecycleStart behaviour workflows workflowId executionId start startArguments
      environmentVariables user
    running := [], received := 0, heard := fun _ => 0, asked := false, exhausted := false }

end Walkoff.Program
