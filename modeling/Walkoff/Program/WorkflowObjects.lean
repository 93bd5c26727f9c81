import Walkoff.Library.RoseTree
import Walkoff.Model.Validator
import Walkoff.Program.Conditions

/-!
# Validating a stored workflow

The rows of a workflow as the objects of a database session, with the errors each was left with
by its last `validate` and with the moment at which a flush of the session writes its row. Before
it writes the row of an object that was loaded, a flush calls the object's `validate`; the
`validate` of a workflow reads the errors of the other objects as they are then.

The apps do not change, so that `init_on_load` finds no more than the last `validate` did, and
what no validation reads is left out.
-/

set_option autoImplicit false

namespace Walkoff.Program

open Walkoff.Model
open Walkoff.Library (OrderedDict RoseTree)

/-! ## The apps -/

/-- The part of an entry of `app_apis` that validations read. -/
structure FunctionApis where
  actions : OrderedDict String ActionApi
  conditions : OrderedDict String ExecutableApi
  transforms : OrderedDict String ExecutableApi

/-- `app_apis`, and the cache that says of every function of an app whether it is bound. -/
structure AppGateway where
  lib : Libraries
  apis : OrderedDict String FunctionApis
  cache : OrderedDict String (OrderedDict String Bool)

/-- `UnknownCondition`. -/
def unknownCondition : Exn :=
  .raised "UnknownCondition"

/-- `UnknownTransform`. -/
def unknownTransform : Exn :=
  .raised "UnknownTransform"

namespace AppGateway

variable (apps : AppGateway)

/-- `get_app_action_api`, `get_condition_api` and `get_transform_api`: the entry of a function in
one of the dictionaries of its app. -/
def getApi {α : Type} (functions : FunctionApis → OrderedDict String α) (unknownFunction : Exn)
    (app name : String) : Except Exn α :=
  match OrderedDict.get? app apps.apis with
  | none => throw (.unknownApp app)
  | some api =>
    match OrderedDict.get? name (functions api) with
    | none => throw unknownFunction
    | some entry => pure entry

/-- `get_app_action_api`. -/
def getAppActionApi (app action : String) : Except Exn ActionApi :=
  apps.getApi FunctionApis.actions (.unknownAppAction app action) app action

/-- `get_condition_api`. -/
def getConditionApi (app condition : String) : Except Exn ExecutableApi :=
  apps.getApi FunctionApis.conditions unknownCondition app condition

/-- `get_transform_api`. -/
def getTransformApi (app transform : String) : Except Exn ExecutableApi :=
  apps.getApi FunctionApis.transforms unknownTransform app transform

/-- `_get_function_type`, and `is_bound` of the function it finds. -/
def getFunctionType (unknownFunction : Exn) (app function : String) : Except Exn Bool :=
  match OrderedDict.get? app apps.cache with
  | none => throw (.unknownApp app)
  | some functions =>
    if functions.isEmpty then throw unknownFunction
    else match OrderedDict.get? function functions with
      | none => throw unknownFunction
      | some isBound => pure isBound

end AppGateway

/-- The `except` clauses of a `validate` that has found errors before. -/
def caughtErrors (isUnknownFunction : Exn → Bool) (kind app name : String) (errors : List String) :
    Exn → Except Exn (List String)
  | .unknownApp _ => pure (errors ++ ["Unknown app " ++ app])
  | .invalidArgument _ more => pure (errors ++ more)
  | e =>
    if isUnknownFunction e then pure (errors ++ ["Unknown " ++ kind ++ " " ++ name])
    else throw e

/-- `split_api_params`. -/
def splitApiParams (api : List ParamApi) (dataParamName : String) : List ParamApi :=
  api.filter (·.name ≠ dataParamName)

/-- A validation without an accumulator. -/
def noAccumulator : Accumulator :=
  { type := .memory, entries := [] }

/-! ## Objects -/

/-- When a flush writes the row of an object: not at all, in a flush that comes before that of
the workflow's row, or in the same flush after it. -/
inductive Moment where
  | untouched
  | before
  | within
  deriving DecidableEq, Repr

/-- What an argument has of a value and a reference. -/
inductive Source where
  | value (v : PyVal) (present : v.isNone = false)
  | reference (id : UUID)
  deriving DecidableEq

/-- `value is None`. -/
def Source.isReference : Source → Bool
  | .value _ _ => false
  | .reference _ => true

/-- A row of `argument`. -/
structure ArgumentObject where
  id : ℤ
  name : String
  source : Source
  /-- `_is_reference`, which is no column. -/
  isReference : Bool
  errors : List String
  moment : Moment

/-- A row of `transform`. -/
structure TransformObject where
  id : UUID
  appName : String
  actionName : String
  arguments : List ArgumentObject
  errors : List String
  moment : Moment

/-- A row of `condition`. -/
structure ConditionObject where
  id : UUID
  appName : String
  actionName : String
  arguments : List ArgumentObject
  transforms : List TransformObject
  errors : List String
  moment : Moment

/-- A row of `conditional_expression`. Its `validate` does nothing, so that it keeps its errors. -/
inductive ExpressionObject where
  | mk (id : UUID) (errors : List String) (childExpressions : List ExpressionObject)
      (conditions : List ConditionObject)

/-- A row of `action`. -/
structure ActionObject where
  id : UUID
  appName : String
  actionName : String
  name : String
  deviceId : Option ArgumentObject
  arguments : List ArgumentObject
  trigger : Option ExpressionObject
  errors : List String
  moment : Moment

/-- A row of `branch`. Its `validate` does nothing, either. -/
structure BranchObject where
  id : UUID
  sourceId : UUID
  destinationId : UUID
  condition : Option ExpressionObject
  errors : List String

/-- A row of `workflow`, whose moment is never `before`. -/
structure WorkflowObject where
  playbookId : UUID
  name : String
  start : Option UUID
  actions : List ActionObject
  branches : List BranchObject
  isValid : Bool
  errors : List String
  moment : Moment

/-! ## The children that `_is_valid` visits -/

/-- An argument has no children. -/
def ArgumentObject.validatable (self : ArgumentObject) : RoseTree (List String) :=
  .node self.errors []

/-- `children = ('arguments',)`. -/
def TransformObject.validatable (self : TransformObject) : RoseTree (List String) :=
  .node self.errors (self.arguments.map ArgumentObject.validatable)

/-- `children = ('arguments', 'transforms')`. -/
def ConditionObject.validatable (self : ConditionObject) : RoseTree (List String) :=
  .node self.errors (self.arguments.map ArgumentObject.validatable ++
    self.transforms.map TransformObject.validatable)

mutual

/-- `children = ('child_expressions', 'conditions')`. -/
def ExpressionObject.validatable : ExpressionObject → RoseTree (List String)
  | .mk _ errors childExpressions conditions =>
    .node errors (validatables childExpressions ++ conditions.map ConditionObject.validatable)

def ExpressionObject.validatables : List ExpressionObject → List (RoseTree (List String))
  | [] => []
  | e :: es => e.validatable :: validatables es

end

/-- `children = ('arguments', 'trigger')`. -/
def ActionObject.validatable (self : ActionObject) : RoseTree (List String) :=
  .node self.errors (self.arguments.map ArgumentObject.validatable ++
    self.trigger.toList.map ExpressionObject.validatable)

/-- `children = ('condition',)`. -/
def BranchObject.validatable (self : BranchObject) : RoseTree (List String) :=
  .node self.errors (self.condition.toList.map ExpressionObject.validatable)

/-- `children = ('actions', 'branches')`. -/
def WorkflowObject.children (self : WorkflowObject) : List (RoseTree (List String)) :=
  self.actions.map ActionObject.validatable ++ self.branches.map BranchObject.validatable

/-- `_is_valid` of a workflow. -/
def WorkflowObject.isValidNow (self : WorkflowObject) : Bool :=
  (RoseTree.node self.errors self.children).all List.isEmpty

/-! ## `validate` -/

/-- The argument that a validation of parameters reads; it does not read the errors. -/
def ArgumentObject.argument (self : ArgumentObject) : Argument :=
  { name := self.name
    value := match self.source with
      | .value v _ => v
      | .reference _ => .none
    reference := match self.source with
      | .value _ _ => none
      | .reference id => some (.uuid id)
    selection := .none
    isReference := self.isReference
    errors := [] }

section

variable (apps : AppGateway)

/-- `Transform.validate`: the errors it leaves. -/
def TransformObject.validate (self : TransformObject) : Except Exn (List String) :=
  let attempt : Except Exn (OrderedDict String PyVal) := do
    let api ← apps.getTransformApi self.appName self.actionName
    let _ ← apps.getFunctionType unknownTransform self.appName api.run
    validateParameters (validateParameter apps.lib) (splitApiParams api.parameters api.dataIn)
      (self.arguments.map ArgumentObject.argument) ("transform " ++ self.actionName) noAccumulator
  match attempt with
  | .ok _ => pure []
  | .error e =>
    caughtErrors (· = unknownTransform) "transform" self.appName self.actionName [] e

/-- `Condition.validate`: the errors it leaves. -/
def ConditionObject.validate (self : ConditionObject) : Except Exn (List String) :=
  let attempt : Except Exn (OrderedDict String PyVal) := do
    let api ← apps.getConditionApi self.appName self.actionName
    let _ ← apps.getFunctionType unknownCondition self.appName api.run
    validateParameters (validateParameter apps.lib) (splitApiParams api.parameters api.dataIn)
      (self.arguments.map ArgumentObject.argument) ("condition " ++ self.actionName) noAccumulator
  match attempt with
  | .ok _ => pure []
  | .error e =>
    caughtErrors (· = unknownCondition) "condition" self.appName self.actionName [] e

/-- `UnknownAppAction`. -/
def isUnknownAppAction : Exn → Bool
  | .unknownAppAction _ _ => true
  | _ => false

/-- The error of an action that needs an app instance and says of no device. -/
def boundWithoutDevice : String :=
  "App action is bound but no device ID was provided."

/-- `Action.validate`: the errors it leaves. The error of a missing device is kept when the
parameters are found invalid after it. -/
def ActionObject.validate (self : ActionObject) : Except Exn (List String) :=
  let caught := caughtErrors isUnknownAppAction "app action" self.appName self.actionName
  let attempt : Except Exn (ActionApi × Bool) := do
    let api ← apps.getAppActionApi self.appName self.actionName
    let isBound ← apps.getFunctionType (.unknownAppAction self.appName api.run) self.appName api.run
    pure (api, isBound)
  match attempt with
  | .error e => caught [] e
  | .ok (api, isBound) =>
    let errors := if isBound && self.deviceId.isNone then [boundWithoutDevice] else []
    match validateAppActionParameters (validateParameter apps.lib) api.parameters
        (self.arguments.map ArgumentObject.argument) self.appName self.actionName
        noAccumulator with
    | .error e => caught errors e
    | .ok _ => pure errors

end

/-- The errors of a branch in `Workflow.validate`. -/
def branchErrors (actionIds : List UUID) (branch : BranchObject) : List String :=
  (if actionIds.contains branch.sourceId then []
    else ["Branch source ID " ++ branch.sourceId.str ++ " not found in workflow actions"]) ++
  (if actionIds.contains branch.destinationId then []
    else ["Branch destination ID " ++ branch.destinationId.str ++ " not found in workflow actions"])

/-- The errors that `Workflow.validate` finds. -/
def WorkflowObject.ownErrors (self : WorkflowObject) : List String :=
  let actionIds := self.actions.map ActionObject.id
  (match self.start with
    | none =>
      if self.actions.isEmpty then [] else ["Workflows with actions require a start parameter"]
    | some start =>
      if !self.actions.isEmpty && !actionIds.contains start then
        ["Workflow start ID " ++ start.str ++ " not found in actions"]
      else []) ++
  self.branches.flatMap (branchErrors actionIds)

/-- `Workflow.validate`. -/
def WorkflowObject.validate (self : WorkflowObject) : WorkflowObject :=
  let validated := { self with errors := self.ownErrors }
  { validated with isValid := validated.isValidNow }

/-! ## Flushing a session -/

section

variable (apps : AppGateway) (due : Moment → Bool)

/-- The errors of an object: those its `validate` finds if it is due, and the old ones if not. -/
def refreshedErrors (moment : Moment) (found : Except Exn (List String)) (errors : List String) :
    Except Exn (List String) :=
  if due moment then found else pure errors

/-- `Argument.validate` of an argument that is due: what has a value or a reference, and not both,
is left without errors. -/
def ArgumentObject.refresh (self : ArgumentObject) : ArgumentObject :=
  { self with errors := if due self.moment then [] else self.errors }

/-- The transform and its arguments, as far as they are due, after their `validate`. -/
def TransformObject.refresh (self : TransformObject) : Except Exn TransformObject := do
  let errors ← refreshedErrors due self.moment (self.validate apps) self.errors
  pure { self with errors, arguments := self.arguments.map (ArgumentObject.refresh due) }

/-- The condition and what is below it, as far as they are due, after their `validate`. -/
def ConditionObject.refresh (self : ConditionObject) : Except Exn ConditionObject := do
  let errors ← refreshedErrors due self.moment (self.validate apps) self.errors
  let transforms ← self.transforms.mapM (TransformObject.refresh apps due)
  pure { self with errors, transforms, arguments := self.arguments.map (ArgumentObject.refresh due) }

mutual

/-- What is below an expression, as far as it is due, after its `validate`. -/
def ExpressionObject.refresh : ExpressionObject → Except Exn ExpressionObject
  | .mk id errors childExpressions conditions => do
    let childExpressions ← refreshAll childExpressions
    let conditions ← conditions.mapM (ConditionObject.refresh apps due)
    pure (.mk id errors childExpressions conditions)

def ExpressionObject.refreshAll : List ExpressionObject → Except Exn (List ExpressionObject)
  | [] => pure []
  | e :: es => do
    let e ← ExpressionObject.refresh e
    let es ← refreshAll es
    pure (e :: es)

end

/-- An expression that may be missing. -/
def ExpressionObject.refreshOptional : Option ExpressionObject →
    Except Exn (Option ExpressionObject)
  | none => pure none
  | some e => do pure (some (← e.refresh apps due))

/-- The action and what is below it, as far as they are due, after their `validate`. -/
def ActionObject.refresh (self : ActionObject) : Except Exn ActionObject := do
  let errors ← refreshedErrors due self.moment (self.validate apps) self.errors
  let trigger ← ExpressionObject.refreshOptional apps due self.trigger
  pure { self with
    errors, trigger
    deviceId := self.deviceId.map (ArgumentObject.refresh due)
    arguments := self.arguments.map (ArgumentObject.refresh due) }

/-- What is below a branch, as far as it is due, after its `validate`. -/
def BranchObject.refresh (self : BranchObject) : Except Exn BranchObject := do
  let condition ← ExpressionObject.refreshOptional apps due self.condition
  pure { self with condition }

/-- What is below a workflow, as far as it is due, after its `validate`. -/
def WorkflowObject.refresh (self : WorkflowObject) : Except Exn WorkflowObject := do
  let actions ← self.actions.mapM (ActionObject.refresh apps due)
  let branches ← self.branches.mapM (BranchObject.refresh apps due)
  pure { self with actions, branches }

end

section

variable (reload : Bool)

/-- An argument whose row is written; loading it anew sets `_is_reference`. -/
def ArgumentObject.settle (self : ArgumentObject) : ArgumentObject :=
  { self with
    moment := .untouched
    isReference := if reload then self.source.isReference else self.isReference }

/-- A transform whose row is written. -/
def TransformObject.settle (self : TransformObject) : TransformObject :=
  { self with
    moment := .untouched
    arguments := self.arguments.map (ArgumentObject.settle reload) }

/-- A condition whose row is written. -/
def ConditionObject.settle (self : ConditionObject) : ConditionObject :=
  { self with
    moment := .untouched
    arguments := self.arguments.map (ArgumentObject.settle reload)
    transforms := self.transforms.map (TransformObject.settle reload) }

mutual

/-- An expression whose row is written. -/
def ExpressionObject.settle : ExpressionObject → ExpressionObject
  | .mk id errors childExpressions conditions =>
    .mk id errors (settleAll childExpressions) (conditions.map (ConditionObject.settle reload))

def ExpressionObject.settleAll : List ExpressionObject → List ExpressionObject
  | [] => []
  | e :: es => ExpressionObject.settle e :: settleAll es

end

/-- An action whose row is written. -/
def ActionObject.settle (self : ActionObject) : ActionObject :=
  { self with
    moment := .untouched
    deviceId := self.deviceId.map (ArgumentObject.settle reload)
    arguments := self.arguments.map (ArgumentObject.settle reload)
    trigger := self.trigger.map (ExpressionObject.settle reload) }

/-- A branch whose row is written. -/
def BranchObject.settle (self : BranchObject) : BranchObject :=
  { self with condition := self.condition.map (ExpressionObject.settle reload) }

/-- A workflow whose rows are written. -/
def WorkflowObject.settle (self : WorkflowObject) : WorkflowObject :=
  { self with
    moment := .untouched
    actions := self.actions.map (ActionObject.settle reload)
    branches := self.branches.map (BranchObject.settle reload) }

end

/-- What the session has in memory when the row of the workflow is written: the workflow's own
`validate` has run if it is written at all, and those of the objects written before. -/
def WorkflowObject.listened (apps : AppGateway) (self : WorkflowObject) :
    Except Exn WorkflowObject := do
  let read ← self.refresh apps (· = .before)
  pure (if self.moment = .untouched then read else read.validate)

/-- All flushes up to a commit, or up to the query of the next request. -/
def WorkflowObject.flush (apps : AppGateway) (reload : Bool) (self : WorkflowObject) :
    Except Exn WorkflowObject := do
  let listened ← self.listened apps
  let written ← listened.refresh apps (· = .within)
  pure (written.settle reload)

end Walkoff.Program
