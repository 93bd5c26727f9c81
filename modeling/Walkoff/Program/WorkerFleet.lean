import Mathlib.Logic.Function.Basic
import Walkoff.Program.Pool
import Walkoff.Program.RequestCodec

/-!
# The request queue and its workers

The controller pushes encrypted requests on the left of a deque in the cache, and the workers pop
them off its right. The main thread of a worker polls the deque as long as there is room in the
registry of its executor, and submits what it has received to a pool of threads, which take it up in
this order. A signal ends the loop of the main thread wherever it is; the pool still works off what
has been submitted, unless the process is killed before that.
-/

set_option autoImplicit false

namespace Walkoff.Program

open Walkoff.Model
open Walkoff.Library (OrderedDict)

variable {σ W : Type}

/-! ## The deque -/

/-- What lies in the deque: an encrypted request, or bytes that are none. The worker logs these,
unless decrypting them raises anything else than a `CryptoError`. -/
inductive QueueItem where
  | request (message : ExecuteWorkflowMessage)
  | foreign (raises : Bool)
  deriving DecidableEq, Repr

/-- The deque `request_queue`, from its left to its right. -/
abbrev RequestQueue := List QueueItem

/-- `lpush`. -/
def RequestQueue.lpush (item : QueueItem) (queue : RequestQueue) : RequestQueue :=
  item :: queue

/-- `rpop`, with what stays in the deque. -/
def RequestQueue.rpop (queue : RequestQueue) : Option QueueItem × RequestQueue :=
  (queue.getLast?, queue.dropLast)

/-- What `__add_workflow_to_queue` is called with. -/
structure QueuedExecution where
  workflowId : UUID
  executionId : UUID
  start : Option UUID
  startArguments : List Argument
  resume : Bool
  environmentVariables : List EnvironmentVariable
  user : Option String

/-- The message that is put on the queue. -/
def QueuedExecution.message (execution : QueuedExecution) : Except Exn ExecuteWorkflowMessage :=
  createWorkflowRequestMessage (.uuid execution.workflowId) execution.executionId.str
    (execution.start.map Key.uuid) execution.startArguments execution.resume
    execution.environmentVariables execution.user

/-- What `__add_workflow_to_queue` pushes: nothing if the message cannot be made. -/
def QueuedExecution.items (execution : QueuedExecution) : List QueueItem :=
  match execution.message with
  | .ok message => [.request message]
  | .error _ => []

/-! ## A worker -/

/-- Where the main thread of a worker is: at the head of the loop in `Worker.receive_workflows`, in
`WorkflowReceiver.receive_workflows`, between the two with what the one has yielded, or out of the
loop. -/
inductive MainThread where
  | looping
  | receiving
  | holding (received : ReceivedRequest)
  | stopped

/-- A worker: the names of the threads of its pool, of which there are `NUMBER_THREADS_PER_PROCESS`,
its main thread, what has been submitted, and the pool. The last two fields are ghosts: what the
threads have called `execute` with, and what has been given up. -/
structure Worker (σ : Type) where
  threads : List String
  main : MainThread
  waiting : List ReceivedRequest
  pool : Pool σ
  begun : List ReceivedRequest
  dropped : List ReceivedRequest

/-- A worker whose main thread enters its loop. -/
def Worker.start (threads : List String) : Worker σ :=
  { threads, main := .looping, waiting := [], pool := Pool.start, begun := [], dropped := [] }

/-- What the main thread holds. -/
def MainThread.held : MainThread → List ReceivedRequest
  | .holding received => [received]
  | _ => []

/-- One round of the loop in `Worker.receive_workflows`, up to `next(workflow_generator)`. -/
def Worker.poll (worker : Worker σ) : Option (Worker σ) :=
  match worker.main with
  | .looping =>
    if worker.pool.isAtCapacity worker.threads.length then some worker
    else some { worker with main := .receiving }
  | _ => none

/-- One round of the loop in `WorkflowReceiver.receive_workflows`, with what has been popped: a
request that cannot be read raises in the main thread. -/
def Worker.receive (popped : Option QueueItem) (worker : Worker σ) : Worker σ :=
  match popped with
  | none => { worker with main := .looping }
  | some (.foreign raises) => if raises then { worker with main := .stopped } else worker
  | some (.request message) =>
    match receiveWorkflow message with
    | .ok received => { worker with main := .holding received }
    | .error _ => { worker with main := .stopped }

/-- `self.threadpool.submit(self.workflow_executor.execute, *workflow_data)`. -/
def Worker.submit (worker : Worker σ) : Option (Worker σ) :=
  match worker.main with
  | .holding received =>
    some { worker with main := .looping, waiting := worker.waiting ++ [received] }
  | _ => none

/-- `exit_handler`, up to `self.threadpool.shutdown()`, which waits for the pool. -/
def Worker.exitHandler (worker : Worker σ) : Worker σ :=
  { worker with main := .stopped, dropped := worker.main.held ++ worker.dropped }

/-- The process is killed, as `shutdown_procs` does three seconds after the signal. -/
def Worker.kill (worker : Worker σ) : Worker σ :=
  { worker with
    threads := []
    main := .stopped
    waiting := []
    pool := Pool.start
    dropped := worker.waiting ++ worker.main.held ++ worker.dropped }

/-- What a call of `WorkflowExecutor.execute` finds. -/
structure CallSetting (σ : Type) where
  env : Env σ
  control : ℕ → Control
  turns : ℕ
  world : World σ

/-- What a thread gets to with a request: a context, unless `execute` has raised or returned before
there is one. -/
def CallSetting.call (setting : CallSetting σ) (received : ReceivedRequest) : Option (Call σ) :=
  match requestOfReceived received with
  | .error _ => none
  | .ok request =>
    match prepare setting.env request setting.world with
    | .ok (some ctx) world =>
      some { env := setting.env, control := setting.control, turns := setting.turns, request, ctx
             world }
    | _ => none

/-- An idle thread takes up what has been submitted first. -/
def Worker.begin (thread : String) (setting : CallSetting σ) (worker : Worker σ) :
    Option (Worker σ) :=
  match worker.waiting with
  | [] => none
  | received :: waiting =>
    if thread ∈ worker.threads ∧ thread ∉ OrderedDict.keys worker.pool.inProgress then
      match setting.call received with
      | none => some { worker with waiting, begun := worker.begun ++ [received] }
      | some call => (worker.pool.step (.begin thread call)).map fun pool =>
          { worker with waiting, pool, begun := worker.begun ++ [received] }
    else none

/-- The call of a thread ends. -/
def Worker.finish (thread : String) (worker : Worker σ) : Option (Worker σ) :=
  (worker.pool.step (.finish thread)).map fun pool => { worker with pool }

/-- What a worker does next, apart from popping. -/
inductive WorkerOp (σ : Type) where
  | poll
  | submit
  | exitHandler
  | kill
  | begin (thread : String) (setting : CallSetting σ)
  | finish (thread : String)

/-- The worker after it has done something, if it can. -/
def Worker.next (worker : Worker σ) : WorkerOp σ → Option (Worker σ)
  | .poll => worker.poll
  | .submit => worker.submit
  | .exitHandler => some worker.exitHandler
  | .kill => some worker.kill
  | .begin thread setting => worker.begin thread setting
  | .finish thread => worker.finish thread

/-! ## All workers -/

/-- The deque and the workers; as a ghost, what has been popped off the deque by whom. -/
structure Fleet (σ W : Type) where
  queue : RequestQueue
  workers : W → Worker σ
  taken : List (W × QueueItem)

/-- What can happen next: the controller pushes a request, something else gets on the queue, the
main thread of a worker pops, or a worker does something on its own. -/
inductive FleetOp (σ W : Type) where
  | addWorkflowToQueue (execution : QueuedExecution)
  | spoil (raises : Bool)
  | rpop (w : W)
  | worker (w : W) (op : WorkerOp σ)

/-- The workers have been started, each with its threads. -/
def Fleet.start (threads : W → List String) : Fleet σ W :=
  { queue := [], workers := fun w => Worker.start (threads w), taken := [] }

/-- Items are pushed one after the other. -/
def Fleet.push (items : List QueueItem) (fleet : Fleet σ W) : Fleet σ W :=
  { fleet with queue := items.foldl (fun queue item => RequestQueue.lpush item queue) fleet.queue }

variable [DecidableEq W]

/-- The main thread of a worker that is receiving pops. -/
def Fleet.rpop (w : W) (fleet : Fleet σ W) : Option (Fleet σ W) :=
  match (fleet.workers w).main with
  | .receiving =>
    let (popped, queue) := RequestQueue.rpop fleet.queue
    some
      { queue
        workers := Function.update fleet.workers w ((fleet.workers w).receive popped)
        taken := fleet.taken ++ popped.toList.map fun item => (w, item) }
  | _ => none

/-- The fleet after a step, if it can be taken. -/
def Fleet.next (fleet : Fleet σ W) : FleetOp σ W → Option (Fleet σ W)
  | .addWorkflowToQueue execution => some (fleet.push execution.items)
  | .spoil raises => some (fleet.push [.foreign raises])
  | .rpop w => fleet.rpop w
  | .worker w op => ((fleet.workers w).next op).map fun worker =>
      { fleet with workers := Function.update fleet.workers w worker }

end Walkoff.Program
