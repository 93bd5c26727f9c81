import Walkoff.Model.PyEquality
import Walkoff.Program.WorkflowObjects

/-!
# Creating and updating a workflow

`workflow_schema.load` turns the JSON of a request into the objects of a session: an element
whose id is found is changed, any other is made by its constructor, which validates it. The
handlers of `create_workflow` and `update_workflow` commit the session or leave it as it is.
-/

set_option autoImplicit false

namespace Walkoff.Program

open Walkoff.Model

/-! ## Requests -/

/-- The id that an element of a request has, or the one its row will get. -/
inductive JsonId (ι : Type) where
  | named (id : ι)
  | unnamed (assigned : ι)

/-- The JSON of an argument. `validate_argument` lets through what has a value or a reference,
and not both. -/
structure ArgumentJson where
  id : JsonId ℤ
  name : String
  source : Source
  errors : Option (List String)

/-- The JSON of a transform; here and below `none` stands for a key that is absent. -/
structure TransformJson where
  id : JsonId UUID
  appName : String
  actionName : String
  arguments : Option (List ArgumentJson)
  errors : Option (List String)

/-- The JSON of a condition. -/
structure ConditionJson where
  id : JsonId UUID
  appName : String
  actionName : String
  arguments : Option (List ArgumentJson)
  transforms : Option (List TransformJson)
  errors : Option (List String)

/-- The JSON of a conditional expression. -/
inductive ExpressionJson where
  | mk (id : JsonId UUID) (errors : Option (List String))
      (childExpressions : Option (List ExpressionJson)) (conditions : Option (List ConditionJson))

/-- The JSON of an action, which has to have an id. -/
structure ActionJson where
  id : UUID
  appName : String
  actionName : String
  name : String
  deviceId : Option ArgumentJson
  arguments : Option (List ArgumentJson)
  trigger : Option ExpressionJson
  errors : Option (List String)

/-- The JSON of a branch. -/
structure BranchJson where
  id : JsonId UUID
  sourceId : UUID
  destinationId : UUID
  condition : Option ExpressionJson
  errors : Option (List String)

/-- The JSON of the workflow that the requests are about. -/
structure WorkflowJson where
  name : String
  start : Option UUID
  actions : Option (List ActionJson)
  branches : Option (List BranchJson)
  isValid : Option Bool
  errors : Option (List String)

/-! ## The rows a load finds -/

/-- `get_instance`: the objects found by their ids. -/
structure Rows where
  argument : ℤ → Option ArgumentObject
  transform : UUID → Option TransformObject
  condition : UUID → Option ConditionObject
  expression : UUID → Option ExpressionObject
  action : UUID → Option ActionObject
  branch : UUID → Option BranchObject

/-- No rows. -/
def Rows.none : Rows :=
  { argument := fun _ => Option.none
    transform := fun _ => Option.none
    condition := fun _ => Option.none
    expression := fun _ => Option.none
    action := fun _ => Option.none
    branch := fun _ => Option.none }

namespace ExpressionObject

/-- The primary key. -/
def id : ExpressionObject → UUID
  | mk id _ _ _ => id

/-- The relationship `conditions`. -/
def conditions : ExpressionObject → List ConditionObject
  | mk _ _ _ conditions => conditions

mutual

/-- The expression and those below it. -/
def expressions : ExpressionObject → List ExpressionObject
  | mk id errors childExpressions conditions =>
    mk id errors childExpressions conditions :: allExpressions childExpressions

def allExpressions : List ExpressionObject → List ExpressionObject
  | [] => []
  | e :: es => expressions e ++ allExpressions es

end

end ExpressionObject

/-- The rows of a workflow. -/
def WorkflowObject.rows (self : WorkflowObject) : Rows :=
  let expressions := ExpressionObject.allExpressions
    (self.actions.filterMap ActionObject.trigger ++ self.branches.filterMap BranchObject.condition)
  let conditions := expressions.flatMap ExpressionObject.conditions
  let transforms := conditions.flatMap ConditionObject.transforms
  let arguments :=
    self.actions.flatMap (fun action => action.deviceId.toList ++ action.arguments) ++
      conditions.flatMap ConditionObject.arguments ++
      transforms.flatMap TransformObject.arguments
  { argument := fun id => arguments.find? (·.id = id)
    transform := fun id => transforms.find? (·.id = id)
    condition := fun id => conditions.find? (·.id = id)
    expression := fun id => expressions.find? (·.id = id)
    action := fun id => self.actions.find? (·.id = id)
    branch := fun id => self.branches.find? (·.id = id) }

/-- The object that the JSON of an element names. -/
def JsonId.instance? {ι α : Type} (find : ι → Option α) : JsonId ι → Option α
  | named id => find id
  | unnamed _ => none

/-- The id of a new row. -/
def JsonId.ofRow {ι : Type} : JsonId ι → ι
  | named id => id
  | unnamed assigned => assigned

/-! ## Loading -/

/-- A key with a list of elements, if the JSON has it. -/
def loadList {α β : Type} (load : α → Except Exn β) :
    Option (List α) → Except Exn (Option (List β))
  | none => pure none
  | some jsons => do pure (some (← jsons.mapM load))

/-- A key with one element, if the JSON has it. -/
def loadOptional {α β : Type} (load : α → Except Exn β) : Option α → Except Exn (Option β)
  | none => pure none
  | some json => do pure (some (← load json))

/-- When the rows of the elements are flushed, as far as the session is free to choose: the row
of an object that changes is flushed in any case. -/
structure Moments where
  argument : ℤ → Moment
  transform : UUID → Moment
  condition : UUID → Moment
  action : UUID → Moment
  workflow : Bool

/-- The moment of a row of which a column changes or not. -/
def Moment.scheduled (changed : Bool) (moment : Moment) : Moment :=
  if changed && moment = .untouched then .within else moment

/-- `update_value_reference`: whether the argument has a value or a reference afterwards. -/
def Source.update : Source → Source → Source
  | .value old present, .value v present' =>
    if pyEq old v then .value old present else .value v present'
  | .reference _, .value v present => .value v present
  | _, .reference id => .reference id

section

variable (apps : AppGateway) (rows : Rows) (moments : Moments)

/-- `setattr` for the keys of the JSON. A value that takes the place of a reference leaves
`_is_reference` as it was. -/
def ArgumentObject.update (self : ArgumentObject) (json : ArgumentJson) : ArgumentObject :=
  let source := self.source.update json.source
  let errors := json.errors.getD self.errors
  let changed := source ≠ self.source || json.name ≠ self.name || errors ≠ self.errors
  { self with
    source, errors
    name := json.name
    isReference := json.source.isReference || self.isReference
    moment := .scheduled changed (moments.argument self.id) }

/-- `ArgumentSchema.make_instance`: the constructor takes neither an id nor errors. -/
def ArgumentJson.load (json : ArgumentJson) : Except Exn ArgumentObject :=
  match json.id with
  | .named id =>
    match rows.argument id with
    | some existing => pure (existing.update moments json)
    | none => throw .typeError
  | .unnamed id =>
    if json.errors.isSome then throw .typeError
    else pure
      { id
        name := json.name
        source := json.source
        isReference := json.source.isReference
        errors := []
        moment := .untouched }

/-- `make_instance` of a transform. -/
def TransformJson.load (json : TransformJson) : Except Exn TransformObject := do
  let arguments ← loadList (ArgumentJson.load rows moments) json.arguments
  match json.id.instance? rows.transform with
  | some existing =>
    let errors := json.errors.getD existing.errors
    let changed := json.appName ≠ existing.appName || json.actionName ≠ existing.actionName ||
      errors ≠ existing.errors
    pure { existing with
      errors
      appName := json.appName
      actionName := json.actionName
      arguments := arguments.getD existing.arguments
      moment := .scheduled changed (moments.transform existing.id) }
  | none =>
    let transform : TransformObject :=
      { id := json.id.ofRow
        appName := json.appName
        actionName := json.actionName
        arguments := arguments.getD []
        errors := []
        moment := .untouched }
    pure { transform with errors := ← transform.validate apps }

/-- `make_instance` of a condition. -/
def ConditionJson.load (json : ConditionJson) : Except Exn ConditionObject := do
  let arguments ← loadList (ArgumentJson.load rows moments) json.arguments
  let transforms ← loadList (TransformJson.load apps rows moments) json.transforms
  match json.id.instance? rows.condition with
  | some existing =>
    let errors := json.errors.getD existing.errors
    let changed := json.appName ≠ existing.appName || json.actionName ≠ existing.actionName ||
      errors ≠ existing.errors
    pure { existing with
      errors
      appName := json.appName
      actionName := json.actionName
      arguments := arguments.getD existing.arguments
      transforms := transforms.getD existing.transforms
      moment := .scheduled changed (moments.condition existing.id) }
  | none =>
    let condition : ConditionObject :=
      { id := json.id.ofRow
        appName := json.appName
        actionName := json.actionName
        arguments := arguments.getD []
        transforms := transforms.getD []
        errors := []
        moment := .untouched }
    pure { condition with errors := ← condition.validate apps }

/-- `make_instance` of a conditional expression whose children are loaded. -/
def makeExpression (id : JsonId UUID) (errors : Option (List String))
    (childExpressions : Option (List ExpressionObject))
    (conditions : Option (List ConditionObject)) : ExpressionObject :=
  match id.instance? rows.expression with
  | some (.mk existing oldErrors oldChildren oldConditions) =>
    .mk existing (errors.getD oldErrors) (childExpressions.getD oldChildren)
      (conditions.getD oldConditions)
  | none => .mk id.ofRow (errors.getD []) (childExpressions.getD []) (conditions.getD [])

mutual

/-- Loading a conditional expression. -/
def ExpressionJson.load : ExpressionJson → Except Exn ExpressionObject
  | .mk id errors childExpressions conditions => do
    let children ← ExpressionJson.loadChildren childExpressions
    let conditions ← loadList (ConditionJson.load apps rows moments) conditions
    pure (makeExpression rows id errors children conditions)

def ExpressionJson.loadChildren :
    Option (List ExpressionJson) → Except Exn (Option (List ExpressionObject))
  | none => pure none
  | some jsons => do pure (some (← ExpressionJson.loadAll jsons))

def ExpressionJson.loadAll : List ExpressionJson → Except Exn (List ExpressionObject)
  | [] => pure []
  | json :: jsons => do
    let e ← ExpressionJson.load json
    let es ← ExpressionJson.loadAll jsons
    pure (e :: es)

end

/-- `make_instance` of an action. -/
def ActionJson.load (json : ActionJson) : Except Exn ActionObject := do
  let deviceId ← loadOptional (ArgumentJson.load rows moments) json.deviceId
  let arguments ← loadList (ArgumentJson.load rows moments) json.arguments
  let trigger ← loadOptional (ExpressionJson.load apps rows moments) json.trigger
  match rows.action json.id with
  | some existing =>
    let errors := json.errors.getD existing.errors
    let changed := json.appName ≠ existing.appName || json.actionName ≠ existing.actionName ||
      json.name ≠ existing.name || errors ≠ existing.errors
    pure { existing with
      errors
      appName := json.appName
      actionName := json.actionName
      name := json.name
      deviceId := deviceId.or existing.deviceId
      arguments := arguments.getD existing.arguments
      trigger := trigger.or existing.trigger
      moment := .scheduled changed (moments.action existing.id) }
  | none =>
    let action : ActionObject :=
      { id := json.id
        appName := json.appName
        actionName := json.actionName
        name := json.name
        deviceId, trigger
        arguments := arguments.getD []
        errors := []
        moment := .untouched }
    pure { action with errors := ← action.validate apps }

/-- `make_instance` of a branch. -/
def BranchJson.load (json : BranchJson) : Except Exn BranchObject := do
  let condition ← loadOptional (ExpressionJson.load apps rows moments) json.condition
  match json.id.instance? rows.branch with
  | some existing =>
    pure { existing with
      sourceId := json.sourceId
      destinationId := json.destinationId
      condition := condition.or existing.condition
      errors := json.errors.getD existing.errors }
  | none =>
    pure
      { id := json.id.ofRow
        sourceId := json.sourceId
        destinationId := json.destinationId
        condition
        errors := json.errors.getD [] }

end

/-- `workflow_schema.load` of a workflow that exists; creating it again also moves it to the
playbook of the request. -/
def WorkflowJson.loadOnto (apps : AppGateway) (moments : Moments) (json : WorkflowJson)
    (playbookId : Option UUID) (existing : WorkflowObject) : Except Exn WorkflowObject := do
  let actions ← loadList (ActionJson.load apps existing.rows moments) json.actions
  let branches ← loadList (BranchJson.load apps existing.rows moments) json.branches
  let playbookId := playbookId.getD existing.playbookId
  let start := json.start.or existing.start
  let isValid := json.isValid.getD existing.isValid
  let errors := json.errors.getD existing.errors
  let changed := playbookId ≠ existing.playbookId || json.name ≠ existing.name ||
    start ≠ existing.start || isValid ≠ existing.isValid || errors ≠ existing.errors
  pure
    { playbookId, start, isValid, errors
      name := json.name
      actions := actions.getD existing.actions
      branches := branches.getD existing.branches
      moment := if changed || moments.workflow then .within else existing.moment }

/-- `workflow_schema.load` of a new workflow: its constructor takes no `is_valid`. -/
def WorkflowJson.construct (apps : AppGateway) (moments : Moments) (json : WorkflowJson)
    (playbookId : UUID) : Except Exn WorkflowObject := do
  let actions ← loadList (ActionJson.load apps .none moments) json.actions
  let branches ← loadList (BranchJson.load apps .none moments) json.branches
  if json.isValid.isSome then throw .typeError
  else
    let workflow : WorkflowObject :=
      { playbookId
        name := json.name
        start := json.start
        actions := actions.getD []
        branches := branches.getD []
        isValid := false
        errors := []
        moment := .untouched }
    pure workflow.validate

/-! ## Handlers -/

/-- The session a request runs in. An exception in a flush leaves a session that answers nothing
before a rollback. -/
inductive EditSession where
  | clean
  | pending (workflow : WorkflowObject)
  | broken

/-- The committed rows of the workflow, and the session. -/
structure WorkflowDb where
  stored : Option WorkflowObject
  session : EditSession

/-- Nothing is stored. -/
def WorkflowDb.empty : WorkflowDb :=
  { stored := none, session := .clean }

/-- What becomes of a commit besides its validations: `IntegrityError`, after which the handlers
roll back, or another exception, such as that of a list of errors with a comma. -/
inductive DatabaseAnswer where
  | accepts
  | conflict
  | fails
  deriving DecidableEq, Repr

/-- The two endpoints; `none` is a playbook that does not exist. -/
inductive WorkflowHandler where
  | createWorkflow (playbookId : Option UUID) (json : WorkflowJson)
  | updateWorkflow (json : WorkflowJson)

/-- A request with what the code leaves open: sessions belong to threads, so that a request may
find the session of the last one or have one of its own, and when a load raises, the order in
which it visits the fields decides what it has changed before. -/
structure WorkflowRequest where
  handler : WorkflowHandler
  sameSession : Bool
  moments : Moments
  leftByRaise : Option WorkflowObject
  database : DatabaseAnswer

/-- How a handler ends: without a commit, or with one. -/
inductive HandlerEnd where
  | leaves (session : EditSession)
  | commits (workflow : WorkflowObject)

section

variable (apps : AppGateway)

/-- What the first query of a request finds; it flushes what is pending. -/
def WorkflowDb.opened (self : WorkflowDb) (sameSession : Bool) :
    Except Exn (Option WorkflowObject × EditSession) :=
  match sameSession, self.session with
  | true, .pending workflow => do
    let workflow ← workflow.flush apps false
    pure (some workflow, .pending workflow)
  | true, .broken => throw (.raised "InvalidRequestError")
  | _, _ => pure (self.stored, .clean)

/-- The session after a load has raised. -/
def WorkflowRequest.afterRaise (request : WorkflowRequest) : EditSession :=
  match request.leftByRaise with
  | some workflow => .pending workflow
  | none => .clean

/-- `create_workflow`, up to the commit. -/
def createWorkflow (request : WorkflowRequest) (playbookId : Option UUID) (json : WorkflowJson)
    (existing : Option WorkflowObject) (session : EditSession) : HandlerEnd :=
  match playbookId with
  | none => .leaves session
  | some playbookId =>
    if json.start.isNone then .leaves session
    else
      let loaded := match existing with
        | some workflow => json.loadOnto apps request.moments (some playbookId) workflow
        | none => json.construct apps request.moments playbookId
      match loaded with
      | .ok workflow => .commits workflow
      | .error _ => .leaves request.afterRaise

/-- `update_workflow`, up to the commit: the errors it looks at are those of the workflow's own
column. -/
def updateWorkflow (request : WorkflowRequest) (json : WorkflowJson)
    (existing : Option WorkflowObject) (session : EditSession) : HandlerEnd :=
  match existing with
  | none => .leaves session
  | some workflow =>
    match json.loadOnto apps request.moments none workflow with
    | .ok workflow =>
      if workflow.errors.isEmpty then .commits workflow else .leaves (.pending workflow)
    | .error _ => .leaves request.afterRaise

/-- How the handler of a request ends. -/
def WorkflowRequest.handled (request : WorkflowRequest) (db : WorkflowDb) : HandlerEnd :=
  match db.opened apps request.sameSession with
  | .error _ => .leaves .broken
  | .ok (existing, session) =>
    match request.handler with
    | .createWorkflow playbookId json =>
      createWorkflow apps request playbookId json existing session
    | .updateWorkflow json => updateWorkflow apps request json existing session

/-- The commit of a workflow in the session. -/
def WorkflowDb.commit (self : WorkflowDb) (workflow : WorkflowObject) (database : DatabaseAnswer) :
    WorkflowDb :=
  match database with
  | .accepts =>
    match workflow.flush apps true with
    | .ok workflow => { stored := some workflow, session := .clean }
    | .error _ => { self with session := .broken }
  | .conflict => { self with session := .clean }
  | .fails => { self with session := .broken }

/-- The state after a request. -/
def WorkflowRequest.next (request : WorkflowRequest) (db : WorkflowDb) : WorkflowDb :=
  match request.handled apps db with
  | .leaves session => { db with session }
  | .commits workflow => db.commit apps workflow request.database

/-- One request after the other. -/
def requestStep (db : WorkflowDb) (request : WorkflowRequest) (db' : WorkflowDb) : Prop :=
  request.next apps db = db'

end

/-- `if not workflow.is_valid`: the check of `execute_workflow` and of `WorkflowExecutor.execute`. -/
def WorkflowObject.refusesExecution (self : WorkflowObject) : Bool :=
  !self.isValid

end Walkoff.Program
