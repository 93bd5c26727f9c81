import Walkoff.Program.ResultsSender

/-!
# Executing actions, branches and conditional expressions

`Action.execute`, `Branch.execute`, `ConditionalExpression.execute` and the app instances
an action runs on, under the local execution strategy.
-/

set_option autoImplicit false

namespace Walkoff.Program

open Walkoff.Model
open Walkoff.Library (OrderedDict lift)

variable {σ : Type}

/-! ## App instances -/

/-- Whether a device id can be part of a dictionary key. -/
def hashable : PyVal → Bool
  | .list _ => false
  | .dict _ => false
  | _ => true

/-- `AppInstanceRepo.setup_app_instance`: the key of the action's app instance, created on
its first use. -/
def setupAppInstance (env : Env σ) (o : Origin) (action : Action) :
    M σ (Option InstanceKey) := do
  match action.deviceId with
  | none => pure none
  | some argument =>
    let value ← lift (argument.getValue (← getAccumulator o.executionId))
    if !hashable value then throw .typeError
    let deviceId : InstanceKey := (action.appName, value)
    let w ← get
    if deviceId ∉ w.instances then
      modify fun w => { w with
        behaviour := env.createInstance deviceId w.behaviour
        instances := w.instances ++ [deviceId] }
      sendEvent env o .appInstanceCreated none
    pure (some deviceId)

/-! ## Actions -/

/-- What `Action.execute` returns: the `ActionResult("trigger", "trigger")` of an action
that awaits data, or a status. -/
inductive ActionReturn where
  | actionResult (result : ActionResult)
  | status (s : String)

/-- `LocalActionExecutionStrategy.execute` for an action: call its app function and file
the result under the action's id. -/
def executeLocally (env : Env σ) (o : Origin) (action : Action)
    (arguments : OrderedDict String PyVal) (instanceKey : Option InstanceKey) :
    M σ ActionResult := do
  observe (.appFunction action.id arguments instanceKey)
  let result ← behave (env.appFunction action arguments instanceKey)
  setAccumulatorItem o.executionId action.id result.result
  pure result

/-- `ActionResult.from_exception(e, 'InvalidArguments')` for an `InvalidArgument`. -/
def invalidArgumentsResult (message : String) : ActionResult :=
  { result := .str ("error: InvalidArgument: " ++ message), status := some "InvalidArguments" }

/-- The end of `Action.execute`: fill in the default status and report the outcome. -/
def reportResult (env : Env σ) (o : Origin) (action : Action) (sender : Sender)
    (result : ActionResult) : M σ String := do
  let result ← lift (result.setDefaultStatus env.appApis action.appName action.actionName)
  let status := result.status.getD ""
  let failure ← lift
    (env.appApis.getAppActionReturnIsFailure action.appName action.actionName status)
  let data ← lift result.asJson
  if failure then handleEvent env o sender .actionExecutionError (some data) []
  else handleEvent env o sender .actionExecutionSuccess (some data) []
  pure status

/-- `_arguments_api` and `_run`. `init_on_load` looks them up `if not self.errors`; an action with
stored errors, or whose API is not found, does not have them. -/
def argumentsApi (env : Env σ) (action : Action) : Except Exn ActionApi :=
  if action.errors.isEmpty then
    (env.appApis.actionApi action.appName action.actionName).mapError fun _ => .attributeError
  else throw .attributeError

/-- `Action.execute` past the trigger: resolve the arguments and run the app function. -/
def runAction (env : Env σ) (o : Origin) (action : Action) (sender : Sender)
    (arguments : List Argument) (instanceKey : Option InstanceKey) : M σ String := do
  let arguments := if arguments.isEmpty then action.arguments else arguments
  let api ← lift (argumentsApi env action)
  let accumulator ← getAccumulator o.executionId
  match validateAppActionParameters env.validateParameter api.parameters arguments
      action.appName action.actionName accumulator with
  | .error (.invalidArgument message _) =>
    let result := invalidArgumentsResult message
    setAccumulatorItem o.executionId action.id result.result
    handleEvent env o sender .actionArgumentsInvalid (some (← lift result.asJson)) []
    pure "InvalidArguments"
  | .error e => throw e
  | .ok args =>
    let bound ← lift (env.isAppActionBound action.appName api.run)
    let result ← executeLocally env o action args (if bound then instanceKey else none)
    reportResult env o action sender result

/-- `_resolved_device_id`. -/
def resolveDeviceId (o : Origin) (action : Action) : M σ PyVal :=
  match action.deviceId with
  | some argument => do lift (argument.getValue (← getAccumulator o.executionId))
  | none => pure (.int (-1))

/-- The beginning of `Action.execute`: a new execution id, the device, and the signal that
the action has started. -/
def startAction (env : Env σ) (o : Origin) (action : Action) (arguments : List Argument) : M σ Sender := do
  let executionId ← newUuid4
  let resolvedDeviceId ← resolveDeviceId o action
  let sender := Sender.action action executionId resolvedDeviceId
  handleEvent env o sender .actionStarted
    (if arguments.isEmpty then none else some (.dict [])) arguments
  pure sender

/-- `Action.execute` at a trigger: announce that data is awaited. -/
def awaitData (env : Env σ) (o : Origin) (action : Action) (sender : Sender) : M σ ActionReturn := do
  handleEvent env o sender .triggerActionAwaitingData none []
  observe (.awaiting action.id)
  pure (.actionResult { result := .str "trigger", status := some "trigger" })

/-- `Action.execute`. -/
def executeAction (env : Env σ) (o : Origin) (action : Action)
    (instanceKey : Option InstanceKey) (arguments : List Argument) (resume : Bool) :
    M σ ActionReturn := do
  let sender ← startAction env o action arguments
  if action.trigger.isSome && !resume then awaitData env o action sender
  else
    let status ← runAction env o action sender arguments instanceKey
    observe (.executed action.id status)
    pure (.status status)

/-- The calls of the serial loop at an action: look up its app instance and execute it. -/
def performAction (env : Env σ) (o : Origin) (action : Action) (arguments : List Argument)
    (resume : Bool) : M σ ActionReturn := do
  let deviceId ← setupAppInstance env o action
  executeAction env o action deviceId arguments resume

/-! ## Conditional expressions

The controller evaluates triggers with the same code as a worker evaluates the conditions
of branches; `accumulator` is the accumulator each of them looks at, and `report` what
becomes of the signal an expression sends. -/

section

variable (env : Env σ) (accumulator : M σ Accumulator) (report : UUID → Bool → M σ Unit)

/-- `Condition.execute`. -/
def executeCondition (condition : Condition) (dataIn : PyVal) : M σ Bool := do
  behave (env.condition condition dataIn (← accumulator))

/-- `all(condition.execute(...) for condition in conditions)`. -/
def allConditions (dataIn : PyVal) : List Condition → M σ Bool
  | [] => pure true
  | c :: cs => do
    if ← executeCondition env accumulator c dataIn then allConditions dataIn cs else pure false

/-- `any(condition.execute(...) for condition in conditions)`. -/
def anyCondition (dataIn : PyVal) : List Condition → M σ Bool
  | [] => pure false
  | c :: cs => do
    if ← executeCondition env accumulator c dataIn then pure true else anyCondition dataIn cs

/-- The first group of the loops of `_xor`; `none` when a second member was true. -/
def xorConditions (dataIn : PyVal) : Bool → List Condition → M σ (Option Bool)
  | isOneFound, [] => pure (some isOneFound)
  | isOneFound, c :: cs => do
    if ← executeCondition env accumulator c dataIn then
      if isOneFound then pure none else xorConditions dataIn true cs
    else xorConditions dataIn isOneFound cs

mutual

/-- `ConditionalExpression.execute`, with `_and`, `_or` and `_xor`. -/
def executeExpression (dataIn : PyVal) : ConditionalExpression → M σ Bool
  | .mk id operator isNegated childExpressions conditions =>
    let evaluated : M σ Bool := match operator with
      | .and => do
        if ← allConditions env accumulator dataIn conditions then
          allExpressions dataIn childExpressions
        else pure false
      | .or =>
        if conditions.isEmpty && childExpressions.isEmpty then pure true
        else do
          if ← anyCondition env accumulator dataIn conditions then pure true
          else anyExpression dataIn childExpressions
      | .xor =>
        if conditions.isEmpty && childExpressions.isEmpty then pure true
        else do
          match ← xorConditions env accumulator dataIn false conditions with
          | none => pure false
          | some isOneFound => xorExpressions dataIn isOneFound childExpressions
    do
      let result ← evaluated
      let result := if isNegated then !result else result
      report id result
      pure result

/-- `all(expression.execute(...) for expression in child_expressions)`. -/
def allExpressions (dataIn : PyVal) : List ConditionalExpression → M σ Bool
  | [] => pure true
  | e :: es => do
    if ← executeExpression dataIn e then allExpressions dataIn es else pure false

/-- `any(expression.execute(...) for expression in child_expressions)`. -/
def anyExpression (dataIn : PyVal) : List ConditionalExpression → M σ Bool
  | [] => pure false
  | e :: es => do
    if ← executeExpression dataIn e then pure true else anyExpression dataIn es

/-- The second group of the loops of `_xor`. -/
def xorExpressions (dataIn : PyVal) : Bool → List ConditionalExpression → M σ Bool
  | isOneFound, [] => pure isOneFound
  | isOneFound, e :: es => do
    if ← executeExpression dataIn e then
      if isOneFound then pure false else xorExpressions dataIn true es
    else xorExpressions dataIn isOneFound es

end

end

/-! ## Branches -/

/-- A worker reports the value of an expression as an event. -/
def reportExpression (env : Env σ) (o : Origin) (id : UUID) (result : Bool) : M σ Unit :=
  handleEvent env o (.element id)
    (if result then .conditionalExpressionTrue else .conditionalExpressionFalse) none []

/-- The condition of a branch on the data of its source action; no condition is true. -/
def branchCondition (env : Env σ) (o : Origin) (branch : Branch) (dataIn : PyVal) :
    M σ Bool :=
  match branch.condition with
  | none => pure true
  | some condition =>
    executeExpression env (getAccumulator o.executionId) (reportExpression env o) dataIn condition

/-- The beginning of `Branch.execute`: the number of the call is filed under the branch. -/
def countBranch (o : Origin) (branch : Branch) (counter : ℕ) : M σ Unit := do
  observe (.branchExecuted branch.id)
  setAccumulatorItem o.executionId branch.id (.int counter)

/-- The end of `Branch.execute`: report whether the branch is taken. -/
def reportBranch (env : Env σ) (o : Origin) (branch : Branch) (taken : Bool) : M σ Unit :=
  if taken then do
    handleEvent env o (.element branch.id) .branchTaken none []
    observe (.branchTaken branch.id)
  else handleEvent env o (.element branch.id) .branchNotTaken none []

/-- `Branch.execute`: count the call, and name the destination if the status matches and
the condition holds of the result filed for the current action. The counters of the loaded
branches are passed along. -/
def executeBranch (env : Env σ) (o : Origin) (branch : Branch) (status : Option String)
    (currentAction : Action) (counters : UUID → ℕ) : M σ (Option UUID × (UUID → ℕ)) := do
  countBranch o branch (counters branch.id + 1)
  let counters := Function.update counters branch.id (counters branch.id + 1)
  if status = branch.status then
    match (← getAccumulator o.executionId).getItem (.uuid currentAction.id) with
    | none => throw .keyError
    | some dataIn =>
      let taken ← branchCondition env o branch dataIn
      reportBranch env o branch taken
      pure (if taken then some branch.destinationId else none, counters)
  else pure (none, counters)

end Walkoff.Program
