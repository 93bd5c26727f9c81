import Walkoff.Library.Loop
import Walkoff.Program.Elements

/-!
# The serial workflow execution strategy

`do_execute` is a `for` loop over the generator `action_iter`. The generator looks for the
next action only when the loop asks for it, by then with the `executing_action` and the
`last_status` the loop body has left in the context. A workflow may loop for ever, so the
loop is run for a given number of turns.
-/

set_option autoImplicit false

namespace Walkoff.Program

open Walkoff.Model
open Walkoff.Library (OrderedDict lift)

variable {σ : Type}

/-! ## Branching -/

/-- The `for` loop of `get_branch`: the destination of the first branch that names one. -/
def tryBranches (env : Env σ) (o : Origin) (status : Option String) (currentAction : Action) :
    (UUID → ℕ) → List Branch → M σ (Option UUID × (UUID → ℕ))
  | counters, [] => pure (none, counters)
  | counters, branch :: branches => do
    let (destination, counters) ← executeBranch env o branch status currentAction counters
    match destination with
    | some destinationId => pure (some destinationId, counters)
    | none => tryBranches env o status currentAction counters branches

/-- `get_branch`. -/
def getBranch (env : Env σ) (ctx : Context) : M σ (Option UUID × Context) :=
  if ctx.hasBranches then
    match ctx.executingAction with
    | none => throw .attributeError
    | some currentAction => do
      let (destination, counters) ← tryBranches env ctx.origin ctx.lastStatus currentAction
        ctx.counters (ctx.getBranchesByActionId currentAction.id)
      pure (destination, { ctx with counters })
  else pure (none, ctx)

/-- The generator `action_iter`: not started, suspended at its `yield`, or returned. -/
inductive ActionIter where
  | fresh (start : UUID)
  | suspended
  | finished
  deriving DecidableEq, Repr

/-- What `next` on the generator gives: an action and the suspended generator, or nothing. -/
def ActionIter.yield (ctx : Context) (action : Option Action) :
    Option Action × ActionIter × Context :=
  match action with
  | some a => (some a, .suspended, ctx)
  | none => (none, .finished, ctx)

/-- `next(actions)`. -/
def ActionIter.next (env : Env σ) (ctx : Context) :
    ActionIter → M σ (Option Action × ActionIter × Context)
  | .fresh start => pure (yield ctx (ctx.getActionById start))
  | .suspended => do
    let (currentId, ctx) ← getBranch env ctx
    pure (yield ctx (currentId.bind ctx.getActionById))
  | .finished => pure (none, .finished, ctx)

/-! ## The loop -/

/-- What the communication thread has delivered to the context when the loop gets to a
boundary between two actions. -/
structure Control where
  pause : Bool
  abort : Bool
  deriving DecidableEq, Repr

/-- The local variables of `do_execute`, and how many boundaries it has passed. -/
structure LoopVars where
  ctx : Context
  actions : ActionIter
  startArguments : List Argument
  boundary : ℕ

/-- One turn of the loop goes on with new variables or returns. -/
abbrev Turn := Library.Turn LoopVars

/-- How far a run got: still in the loop after its turns, or returned. -/
abbrev Progress := Library.Progress LoopVars

/-- `WorkflowExecutionContext.shutdown`. -/
def shutdown (env : Env σ) (ctx : Context) : M σ Unit := do
  modify fun w => { w with behaviour := env.shutdownInstances w.instances w.behaviour }
  let accumulator ← getAccumulator ctx.executionId
  sendEvent env ctx.origin .workflowShutdown (some (accumulator.asJson ctx.executionId))
  putAccumulator ctx.executionId (← getAccumulator ctx.executionId).clear

/-- The loop body from the device lookup on: run the action and look at what it returned.
Comparing an `ActionResult` with the text `trigger` reads the `__dict__` of a `str`. -/
def actionTurn (env : Env σ) (resume : Bool) (vars : LoopVars) (action : Action) : M σ Turn := do
  let resultStatus ← performAction env vars.ctx.origin action vars.startArguments resume
  match resultStatus with
  | .actionResult _ => throw .attributeError
  | .status s =>
    if s = "trigger" then pure .returned
    else pure (.again { vars with ctx := vars.ctx.updateStatus s, startArguments := [] })

/-- The loop binds its variable to an action; by now the two flags of the context hold what
the communication thread has delivered up to this boundary. -/
def LoopVars.enter (control : ℕ → Control) (vars : LoopVars) (action : Action) : LoopVars :=
  { vars with
    ctx := { vars.ctx with
      executingAction := some action
      isPaused := vars.ctx.isPaused || (control vars.boundary).pause
      isAborted := vars.ctx.isAborted || (control vars.boundary).abort }
    boundary := vars.boundary + 1 }

/-- The loop body at an action: the two flags are tested before the action is run. -/
def bodyTurn (env : Env σ) (control : ℕ → Control) (resume : Bool) (vars : LoopVars)
    (action : Action) : M σ Turn := do
  observe (.visited action.id (!(resume && vars.boundary == 0)) resume)
  let vars := vars.enter control action
  if vars.ctx.isPaused then
    -- `is_paused` is reset here, on a context nothing reads again
    sendEvent env vars.ctx.origin .workflowPaused none
    pure .returned
  else if vars.ctx.isAborted then
    sendEvent env vars.ctx.origin .workflowAborted none
    pure .returned
  else actionTurn env resume vars action

/-- One turn of the loop once the generator has answered: without an action the loop ends and
the context is shut down. -/
def enterTurn (env : Env σ) (control : ℕ → Control) (resume : Bool) (vars : LoopVars) :
    Option Action → M σ Turn
  | none => do
    shutdown env vars.ctx
    pure .returned
  | some action => bodyTurn env control resume vars action

/-- One turn of the loop: ask the generator for an action and enter the body with it. -/
def loopTurn (env : Env σ) (control : ℕ → Control) (resume : Bool) (vars : LoopVars) :
    M σ Turn := do
  let (action, actions, ctx) ← vars.actions.next env vars.ctx
  enterTurn env control resume { vars with actions, ctx } action

/-- The loop of `do_execute`, for `turns` turns. -/
def runLoop (env : Env σ) (control : ℕ → Control) (resume : Bool) :
    ℕ → LoopVars → M σ Progress :=
  Library.loop (loopTurn env control resume)

/-- `do_execute`. -/
def doExecute (env : Env σ) (control : ℕ → Control) (turns : ℕ) (ctx : Context) (start : UUID)
    (startArguments : List Argument) (resume : Bool) : M σ Progress :=
  runLoop env control resume turns
    { ctx, actions := .fresh start, startArguments, boundary := 0 }

/-- The environment variables of a request, filed in the accumulator. -/
def fileEnvironmentVariables (executionId : UUID)
    (environmentVariables : List EnvironmentVariable) : M σ Unit :=
  if environmentVariables.isEmpty then pure ()
  else do
    let accumulator ← getAccumulator executionId
    putAccumulator executionId
      (accumulator.update (environmentVariables.map fun v => (.uuid v.id, v.value)))

/-- The beginning of `SerialWorkflowExecutionStrategy.execute`: file the environment variables
and announce the start. -/
def announceStart (env : Env σ) (ctx : Context) (environmentVariables : List EnvironmentVariable) : M σ Unit := do
  fileEnvironmentVariables ctx.executionId environmentVariables
  sendEvent env ctx.origin .workflowExecutionStart none

/-- `SerialWorkflowExecutionStrategy.execute`: a workflow without any start has no UUID to
start from. -/
def strategyExecute (env : Env σ) (control : ℕ → Control) (turns : ℕ) (ctx : Context)
    (start : Option UUID) (startArguments : List Argument) (resume : Bool)
    (environmentVariables : List EnvironmentVariable) : M σ Progress := do
  announceStart env ctx environmentVariables
  match start.or ctx.workflow.start with
  | none => throw .typeError
  | some start => doExecute env control turns ctx start startArguments resume

end Walkoff.Program
