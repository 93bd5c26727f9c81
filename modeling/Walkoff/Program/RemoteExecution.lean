import Walkoff.Library.Effect
import Walkoff.Model.Accumulator
import Walkoff.Model.Workflow
import Walkoff.Program.AppFunctions

/-!
# Remote execution

An action, a condition or a transform is executed by a strategy: in the program itself, or by the
runtime of its app, which is asked over HTTP and files what comes out in the accumulator of the
workflow execution. This module has the client, `RemoteActionExecutionStrategy`, and the runtime,
`ActionExecution.on_post`, which executes by the local strategy with `fully_cached`.
-/

set_option autoImplicit false

namespace Walkoff.Program

open Walkoff.Model
open Walkoff.Library (OrderedDict lift)

variable {σ : Type}

/-! ## Executables -/

/-- The keys of `_executable_lookup`. -/
inductive ExecutableType where
  | action
  | condition
  | transform
  deriving DecidableEq, Repr

/-- The text of a type. -/
def ExecutableType.text : ExecutableType → String
  | .action => "action"
  | .condition => "condition"
  | .transform => "transform"

/-- The type of a text. -/
def ExecutableType.ofText : String → Option ExecutableType
  | "action" => some .action
  | "condition" => some .condition
  | "transform" => some .transform
  | _ => none

/-- `ExecutableContext`. The id is a `UUID` for the client and a text for the runtime. -/
structure ExecutableContext where
  type : ExecutableType
  appName : String
  executableName : String
  id : Key
  executionId : UUID

/-- `as_json`. -/
def ExecutableContext.asJson (self : ExecutableContext) : OrderedDict String PyVal :=
  [("type", .str self.type.text), ("app_name", .str self.appName),
    ("executable_name", .str self.executableName), ("id", .str self.id.str),
    ("execution_id", .str self.executionId.str)]

/-- What an executable returns: an action an `ActionResult`, any other a value. -/
inductive ExecutableResult where
  | action (result : ActionResult)
  | data (value : PyVal)

/-- What an execution may raise. -/
inductive ExecutionExn where
  | executionError (message : PyVal)
  | unknownFunction
  | other (e : Exn)

/-! ## The apps and the state they work on -/

/-- The apps of a runtime: the API lookups of `_get_execution_func`, the functions, the classes
of app instances, and the text of a `ValidationError` of the request schema. A class may raise. -/
structure RuntimeApps (σ : Type) where
  runKey : ExecutableType → String → String → Except ExecutionExn String
  call : ExecutableType → String → String → Option PyVal → OrderedDict String PyVal → σ →
    Except AppException ExecutableResult × σ
  createInstance : String → PyVal → σ → Except Exn Unit × σ
  defaultReturn : String → String → Except Exn String
  validationError : PyVal → String

/-- A call of a function of an app, with the device of its instance. -/
structure FunctionCall where
  type : ExecutableType
  run : String
  deviceId : Option PyVal
  arguments : OrderedDict String PyVal

/-- The apps, the calls of their functions, the Redis set of app instances, and the cache that
holds the external accumulators: an entry is filed under the execution and the text of its key. -/
structure RuntimeState (σ : Type) where
  behaviour : σ
  calls : List FunctionCall
  instances : List String
  cache : OrderedDict (String × String) PyVal

/-- An execution at work. -/
abbrev Executing (σ : Type) := EStateM ExecutionExn (RuntimeState σ)

/-- A computation outside the apps. -/
def liftExn {α : Type} (x : Except Exn α) : Executing σ α :=
  lift (x.mapError .other)

/-- `accumulator[key] = value` of the external accumulator of an execution. -/
def fileResult (executionId : String) (key : Key) (value : PyVal) : Executing σ Unit := do
  if !value.picklable then throw (.other .picklingError)
  modify fun s => { s with cache := OrderedDict.set (executionId, key.str) value s.cache }

/-- `accumulator[key]`. -/
def filedResult (executionId : String) (key : Key) : Executing σ PyVal := do
  match OrderedDict.get? (executionId, key.str) (← get).cache with
  | none => throw (.other .keyError)
  | some value => pure value

/-! ## The local strategy -/

section

variable (apps : RuntimeApps σ)

/-- `LocalActionExecutionStrategy._do_execute`, with `fully_cached`. -/
def executeFromContext (context : ExecutableContext) (executionId : String)
    (arguments : OrderedDict String PyVal) (deviceId : Option PyVal) :
    Executing σ ExecutableResult := do
  let run ← lift (apps.runKey context.type context.appName context.executableName)
  let (result, behaviour) :=
    apps.call context.type context.appName run deviceId arguments (← get).behaviour
  modify fun s => { s with
    behaviour
    calls := s.calls ++ [{ type := context.type, run, deviceId, arguments }] }
  match result with
  | .error exception =>
    throw (.executionError (.str (formatExceptionMessage exception)))
  | .ok (.action result) => do
    fileResult executionId context.id result.result
    pure (.action result)
  | .ok (.data value) =>
    if context.type = .action then throw (.other .attributeError)
    else do
      fileResult executionId context.id value
      pure (.data value)

/-! ## The runtime -/

/-- An object with the required keys and no others than the allowed ones. -/
def isObject (required allowed : List String) : PyVal → Bool
  | .dict items =>
    required.all (· ∈ OrderedDict.keys items) && (OrderedDict.keys items).all (· ∈ allowed)
  | _ => false

/-- The value is a dictionary whose entry, if it is there, is as it has to be. -/
def entryIs (key : String) (p : PyVal → Bool) : PyVal → Bool
  | .dict items => (OrderedDict.get? key items).all p
  | _ => false

/-- `type: string`. -/
def isText : PyVal → Bool
  | .str _ => true
  | _ => false

/-- `type: integer` and `minimum: 1`. -/
def isDeviceId : PyVal → Bool
  | .int i => 1 ≤ i
  | _ => false

/-- The schema `WorkflowContext`. -/
def isWorkflowContext (v : PyVal) : Bool :=
  isObject ["name", "id"] ["name", "id"] v && entryIs "name" isText v && entryIs "id" isText v

/-- The schema `ExecutableContext`. -/
def isExecutableContext (v : PyVal) : Bool :=
  isObject ["name", "type", "id"] ["name", "type", "id", "device_id"] v &&
    entryIs "name" isText v &&
    entryIs "type" (fun t => match t with
      | .str s => (ExecutableType.ofText s).isSome
      | _ => false) v &&
    entryIs "id" isText v && entryIs "device_id" isDeviceId v

/-- The schema `Argument`: `null` has no place among the types of a value. -/
def isArgument (v : PyVal) : Bool :=
  isObject ["name", "value"] ["name", "value"] v && entryIs "name" isText v &&
    entryIs "value" (fun value => !value.isNone) v

/-- `execution_post_schema`. -/
def isExecutionContext (v : PyVal) : Bool :=
  isObject ["workflow_context", "executable_context", "arguments"]
      ["workflow_context", "executable_context", "arguments"] v &&
    entryIs "workflow_context" isWorkflowContext v &&
    entryIs "executable_context" isExecutableContext v &&
    entryIs "arguments" (fun arguments => match arguments with
      | .list items => items.all isArgument
      | _ => false) v

/-- `value[key]`. -/
def subscript (key : String) (value : PyVal) : Except Exn PyVal :=
  match value with
  | .dict items => match OrderedDict.get? key items with
    | none => throw .keyError
    | some entry => pure entry
  | _ => throw .typeError

/-- `value[key]` where the schema has made sure of a text. -/
def subscriptText (key : String) (value : PyVal) : Except Exn String := do
  match ← subscript key value with
  | .str s => pure s
  | _ => throw .typeError

/-- `{arg['name']: arg['value'] for arg in data['arguments']}`. -/
def argumentsOf (data : PyVal) : Except Exn (OrderedDict String PyVal) := do
  match ← subscript "arguments" data with
  | .list items =>
    let items ← items.mapM fun arg => do
      pure (← subscriptText "name" arg, ← subscript "value" arg)
    pure (OrderedDict.update [] items)
  | _ => throw .typeError

/-- An answer over HTTP: its status code, and its body if that is JSON. -/
structure HttpResponse where
  statusCode : ℕ
  json : Option PyVal

/-- The answer of an `HTTPBadRequest` or an `HTTPNotFound` with a title. -/
def httpError (statusCode : ℕ) (title description : String) : HttpResponse :=
  { statusCode, json := some (.dict [("title", .str title), ("description", .str description)]) }

/-- `create_device`: the app instance of a device, which is created on its first use. There is no
entry for an instance whose class raises. -/
def ActionExecution.createDevice (appName executionId : String) (deviceId : PyVal) :
    Executing σ Unit := do
  let redisKey := executionId ++ ":" ++ deviceId.toStr
  if redisKey ∉ (← get).instances then
    let (created, behaviour) := apps.createInstance appName deviceId (← get).behaviour
    modify fun s => { s with behaviour }
    liftExn created
    modify fun s => { s with instances := s.instances ++ [redisKey] }

/-- The status a result is answered with. -/
def resultStatus (appName executableName : String) (result : ExecutableResult) :
    Except Exn String :=
  match result with
  | .action result =>
    match result.status with
    | some status => pure status
    | none => apps.defaultReturn appName executableName
  | .data _ => pure "Success"

/-- The answer to an execution. -/
def executionResult (executionId : String) (context : ExecutableContext) (status : String) :
    HttpResponse :=
  { statusCode := 200
    json := some (.dict [("status", .str status),
      ("result_key", .str ("accumulator:" ++ executionId ++ ":" ++ context.id.str))]) }

/-- What `on_post` answers, of the outcome of an execution. -/
def answerExecution (appName executionId : String) (context : ExecutableContext)
    (execution : Executing σ ExecutableResult) : Executing σ HttpResponse := fun s =>
  match execution s with
  | .ok result s =>
    (do
      let status ← liftExn (resultStatus apps appName context.executableName result)
      pure (executionResult executionId context status) : Executing σ HttpResponse) s
  | .error (.executionError _) s => .ok (executionResult executionId context "UnhandledException") s
  | .error .unknownFunction s => .ok (httpError 404 ("Unknown " ++ context.type.text)
      ("Unknown " ++ context.type.text ++ " " ++ context.executableName)) s
  | .error e s => .error e s

/-- `ActionExecution.on_post` of the runtime of an app. `newId` is the execution id the context
makes up. -/
def ActionExecution.onPost (appName : String) (newId : UUID) (workflowExecId : UUID) (data : PyVal) :
    Executing σ HttpResponse := do
  if !isExecutionContext data then
    return httpError 400 "Invalid execution request" (apps.validationError data)
  let executionId := workflowExecId.str
  let actionContext ← liftExn (subscript "executable_context" data)
  match ExecutableType.ofText (← liftExn (subscriptText "type" actionContext)) with
  | none => throw (.other .keyError)
  | some type => do
    let executableContext : ExecutableContext :=
      { type, appName
        executableName := ← liftExn (subscriptText "name" actionContext)
        id := .text (← liftExn (subscriptText "id" actionContext))
        executionId := newId }
    let deviceId ← match subscript "device_id" actionContext with
      | .ok deviceId => do
        ActionExecution.createDevice apps appName executionId deviceId
        pure (some deviceId)
      | .error _ => pure none
    let arguments ← liftExn (argumentsOf data)
    answerExecution apps appName executionId executableContext
      (executeFromContext apps executableContext executionId arguments deviceId)

/-- The route of `on_post` in the runtime: the execution ids of a path. -/
def actionsRoute : List String → Option (UUID × UUID)
  | ["workflows", workflowExecId, "actions", actionExecId] => do
    pure (← UUID.parse workflowExecId, ← UUID.parse actionExecId)
  | _ => none

/-- What the HTTP server of a runtime makes of a request: no route is a 404 without a body, and
an exception that escapes a 500. -/
def serveExecution (appName : String) (newId : UUID)
    (route : List String → Option (UUID × UUID)) (path : List String) (data : PyVal)
    (s : RuntimeState σ) : HttpResponse × RuntimeState σ :=
  match route path with
  | none => ({ statusCode := 404, json := none }, s)
  | some (workflowExecId, _) =>
    match ActionExecution.onPost apps appName newId workflowExecId data s with
    | .ok response s => (response, s)
    | .error _ s => ({ statusCode := 500, json := none }, s)

/-! ## The remote strategy -/

/-- What the strategy knows of the workflow. -/
structure RemoteWorkflow where
  id : UUID
  name : String
  executionId : UUID

/-- The path of `format_url`, without the host. -/
def formatUrl (workflowExecId executableExecId : UUID) : List String :=
  ["workflows", workflowExecId.str, "executables", executableExecId.str]

/-- `request_json`. -/
def requestJson (workflow : RemoteWorkflow) (context : ExecutableContext)
    (arguments : OrderedDict String PyVal) : PyVal :=
  .dict [
    ("workflow_context", .dict [("id", .str workflow.id.str), ("name", .str workflow.name)]),
    ("executable_context",
      .dict (OrderedDict.pop "app_name" (OrderedDict.pop "execution_id" context.asJson))),
    ("arguments", .list (arguments.map fun item =>
      .dict [("name", .str item.1), ("value", item.2)]))]

/-- The message about an answer other than 200. -/
def remoteErrorMessage (context : ExecutableContext) (statusCode : ℕ) (data : PyVal) : String :=
  "Error executing " ++ context.type.text ++ " " ++ context.executableName ++ " (id=" ++
    context.id.str ++ ") remotely: \x7bstatus: " ++ toString statusCode ++
    ", data: " ++ data.toStr ++ "\x7d"

/-- What the strategy makes of the answer. -/
def readResponse (workflow : RemoteWorkflow) (context : ExecutableContext)
    (response : HttpResponse) : Executing σ ExecutableResult := do
  match response.json with
  | none => throw (.other .valueError)
  | some data =>
    if response.statusCode = 200 then do
      let status ← liftExn (subscript "status" data)
      if context.type = .action then
        pure (.action { result := .none
                        status := match status with
                          | .str s => some s
                          | _ => none })
      else do
        let result ← filedResult workflow.executionId.str (.text context.id.str)
        if status = .str "UnhandledException" then throw (.executionError result)
        pure (.data result)
    else if context.type = .action then
      pure (.action { result := .none, status := some "UnhandledException" })
    else throw (.executionError
      (.str (remoteErrorMessage context response.statusCode data)))

/-- `RemoteActionExecutionStrategy._do_execute`. -/
def executeRemotely (newId : UUID) (route : List String → Option (UUID × UUID))
    (workflow : RemoteWorkflow) (context : ExecutableContext)
    (arguments : OrderedDict String PyVal) : Executing σ ExecutableResult := fun s =>
  let (response, s) := serveExecution apps context.appName newId route
    (formatUrl workflow.executionId context.executionId) (requestJson workflow context arguments) s
  readResponse workflow context response s

end

end Walkoff.Program
