import Walkoff.Program.SerialStrategy

/-!
# The workflow executor of a worker

`WorkflowExecutor.execute` looks up the status and the workflow of a request, makes a new
or a resumed context, registers it under the name of its thread, runs the serial strategy
and takes the entry out again.
-/

set_option autoImplicit false

namespace Walkoff.Program

open Walkoff.Model
open Walkoff.Library (OrderedDict lift)

variable {σ : Type}

/-- `WorkflowExecutionContext.__init__` without its accumulator. -/
def newContext (workflow : Workflow) (executionId : UUID) (user : Option String) : Context :=
  { workflow, executionId, executingAction := none, isPaused := false, isAborted := false
    hasBranches := !workflow.branches.isEmpty, lastStatus := none, user, counters := fun _ => 0 }

/-- The entries `init_accumulator` writes: the environment variables of the workflow and,
unless the execution is resumed, a zero for every branch. -/
def initialEntries (workflow : Workflow) (fromResumed : Bool) : List (Key × PyVal) :=
  (workflow.environmentVariables.map fun v => (Key.uuid v.id, v.value)) ++
    if fromResumed then [] else workflow.branches.map fun b => (Key.uuid b.id, .int 0)

/-- `init_accumulator`. -/
def initAccumulator (env : Env σ) (ctx : Context) (fromResumed : Bool) : M σ Unit := do
  let accumulator ← makeAccumulator env ctx.executionId
  putAccumulator ctx.executionId (accumulator.update (initialEntries ctx.workflow fromResumed))

/-- `make_new_context`. The user is passed where `WorkflowExecutionContext` takes its flag
`resumed`, so the context has no user, and the branches get no zeros if there is one. -/
def makeNewContext (env : Env σ) (workflow : Workflow) (executionId : UUID)
    (user : Option String) : M σ Context := do
  let ctx := newContext workflow executionId none
  modify fun w => { w with instances := [] }
  initAccumulator env ctx (user.any (· ≠ ""))
  pure ctx

/-- `make_resumed_context`; without a saved state there is no context. -/
def makeResumedContext (env : Env σ) (workflow : Workflow) (executionId : UUID)
    (user : Option String) : M σ (Option Context) := do
  match (← get).savedState executionId with
  | none => pure none
  | some savedState =>
    let ctx := newContext workflow executionId user
    modify fun w => { w with instances := savedState.appInstances }
    initAccumulator env ctx true
    pure (some ctx)

/-- The part of `WorkflowExecutor.execute` before the context is registered; `none` stands
for its early returns. -/
def prepare (env : Env σ) (request : Request) : M σ (Option Context) := do
  let w ← get
  match w.status request.executionId with
  | none => throw .attributeError
  | some .aborted => pure none
  | some _ =>
    match w.workflow request.workflowId with
    | none => throw .attributeError
    | some workflow =>
      if !workflow.isValid then pure none
      else if request.resume then
        makeResumedContext env workflow request.executionId request.user
      else do
        pure (some (← makeNewContext env workflow request.executionId request.user))

/-- `self.executing_workflows[threading.current_thread().name] = workflow_context`. -/
def register (thread : String) (ctx : Context) : M σ Unit :=
  modify fun w => { w with
    executingWorkflows := OrderedDict.set thread ctx.executionId w.executingWorkflows }

/-- `self.executing_workflows.pop(threading.current_thread().name)`. -/
def deregister (thread : String) : M σ Unit :=
  modify fun w => { w with executingWorkflows := OrderedDict.pop thread w.executingWorkflows }

/-- The call of the workflow execution strategy in `WorkflowExecutor.execute`. -/
def runRequest (env : Env σ) (control : ℕ → Control) (turns : ℕ) (request : Request)
    (ctx : Context) : M σ Progress :=
  strategyExecute env control turns ctx (request.start.or ctx.workflow.start)
    request.startArguments request.resume request.environmentVariables

/-- `WorkflowExecutor.execute` on a thread of the pool. -/
def execute (env : Env σ) (control : ℕ → Control) (turns : ℕ) (thread : String)
    (request : Request) : M σ Progress := do
  match ← prepare env request with
  | none => pure .returned
  | some ctx =>
    register thread ctx
    match ← runRequest env control turns request ctx with
    | .running vars => pure (.running vars)
    | .returned =>
      deregister thread
      pure .returned

end Walkoff.Program
