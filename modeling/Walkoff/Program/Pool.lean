import Walkoff.Program.WorkflowExecutor

/-!
# The pool threads of a worker

The threads of the pool call `WorkflowExecutor.execute` side by side and share its
registry `executing_workflows`, which they change under a lock: a call registers its
context, runs the strategy, and takes the entry out. A call sees a world of its own, the
one it finds when its context is registered; what other threads do to that world is part of
it.
-/

set_option autoImplicit false

namespace Walkoff.Program

open Walkoff.Model
open Walkoff.Library (OrderedDict)

/-- A call of `WorkflowExecutor.execute` that got as far as a context. -/
structure Call (σ : Type) where
  env : Env σ
  control : ℕ → Control
  turns : ℕ
  request : Request
  ctx : Context
  world : World σ

variable {σ : Type}

/-- How the call of the workflow execution strategy ends. -/
def Call.result (call : Call σ) : EStateM.Result Exn (World σ) Progress :=
  runRequest call.env call.control call.turns call.request call.ctx call.world

/-- The registry of the executor and the calls in progress, both by thread name. -/
structure Pool (σ : Type) where
  executingWorkflows : OrderedDict String UUID
  inProgress : OrderedDict String (Call σ)

/-- A worker that has not executed anything. -/
def Pool.start : Pool σ :=
  { executingWorkflows := [], inProgress := [] }

/-- What a thread of the pool does next. -/
inductive PoolStep (σ : Type) where
  /-- An idle thread registers the context of a call. -/
  | begin (thread : String) (call : Call σ)
  /-- The call of a thread ends; a call that raises never gets to its `pop`. -/
  | finish (thread : String)

/-- The registry and the calls in progress after a step, if the thread can take it. -/
def Pool.step (pool : Pool σ) : PoolStep σ → Option (Pool σ)
  | .begin thread call =>
    if thread ∈ OrderedDict.keys pool.inProgress then none
    else some
      { executingWorkflows := OrderedDict.set thread call.ctx.executionId pool.executingWorkflows
        inProgress := OrderedDict.set thread call pool.inProgress }
  | .finish thread =>
    match OrderedDict.get? thread pool.inProgress with
    | none => none
    | some call =>
      match call.result with
      | .ok (.running _) _ => none
      | .ok .returned _ => some
          { executingWorkflows := OrderedDict.pop thread pool.executingWorkflows
            inProgress := OrderedDict.pop thread pool.inProgress }
      | .error _ _ => some { pool with inProgress := OrderedDict.pop thread pool.inProgress }

/-- The pool as a transition system. -/
def Pool.Step (pool : Pool σ) (step : PoolStep σ) (next : Pool σ) : Prop :=
  pool.step step = some next

/-- `is_at_capacity`. -/
def Pool.isAtCapacity (maxWorkflows : ℕ) (pool : Pool σ) : Bool :=
  maxWorkflows ≤ pool.executingWorkflows.length

/-! ## The sessions of the threads

`execution_db.session` is a `scoped_session`, so each thread of the pool has a session of its
own. A flush that fails leaves the session of its thread without a transaction until it is
rolled back, and no code of the worker does that.
-/

/-- SQLAlchemy's exception for a session whose last flush has failed. -/
def invalidRequestError : Exn :=
  .raised "InvalidRequestError"

/-- The world and the threads whose session has failed. -/
structure ThreadSessions (σ : Type) where
  world : World σ
  failedSessions : List String

/-- Between two worlds a workflow could not be saved: its flush has failed. -/
def flushFailed (w w' : World σ) : Bool :=
  (w'.log.drop w.log.length).any fun entry => match entry with
    | .saved _ stored => !stored
    | _ => false

/-- The sessions after a call of `execute` on a thread has left this world behind. -/
def ThreadSessions.after (self : ThreadSessions σ) (thread : String) (w : World σ) :
    ThreadSessions σ :=
  { world := w
    failedSessions :=
      if flushFailed self.world w then thread :: self.failedSessions else self.failedSessions }

/-- `WorkflowExecutor.execute` with the session of its thread: the first thing it does is to query
the status of the execution, which raises on a session that has failed. -/
def executeOnThread (env : Env σ) (control : ℕ → Control) (turns : ℕ) (thread : String)
    (request : Request) : EStateM Exn (ThreadSessions σ) Progress := fun sessions =>
  if thread ∈ sessions.failedSessions then .error invalidRequestError sessions
  else match execute env control turns thread request sessions.world with
    | .ok progress w => .ok progress (sessions.after thread w)
    | .error e w => .error e (sessions.after thread w)

end Walkoff.Program
