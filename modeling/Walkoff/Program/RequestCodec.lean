import Walkoff.Model.World

/-!
# The workflow request on the queue

`create_workflow_request_message` turns the parameters of an execution into an
`ExecuteWorkflowMessage`, whose fields are all optional texts; `receive_workflows` turns
the message back into the parameters of `WorkflowExecutor.execute`. Encryption and the
protobuf encoding are lossless, so the queue is modelled as holding the messages.
-/

set_option autoImplicit false

namespace Walkoff.Program

open Walkoff.Model

/-- The `EnvironmentVariable` message. -/
structure EnvironmentVariableProto where
  id : Option String
  value : Option String
  deriving DecidableEq, Repr

/-- The `ExecuteWorkflowMessage`. -/
structure ExecuteWorkflowMessage where
  workflowId : String
  workflowExecutionId : String
  start : Option String
  arguments : List ArgumentProto
  resume : Bool
  environmentVariables : List EnvironmentVariableProto
  user : Option String
  deriving DecidableEq, Repr

/-- `ev_proto.value = env_var.value`: only a text can be assigned, and one that can be encoded. -/
def textField : PyVal → Except Exn String
  | .str s => pure s
  | .surrogates _ => throw .valueError
  | _ => throw .typeError

/-- `add_env_vars_to_proto`. -/
def addEnvVarsToProto (envVars : List EnvironmentVariable) :
    Except Exn (List EnvironmentVariableProto) :=
  envVars.mapM fun v => do
    let value ← textField v.value
    pure { id := some v.id.str, value := some value }

/-- A text that is set only when it is there and not empty. -/
def nonEmpty (s : Option String) : Option String :=
  s.filter (· != "")

/-- An empty text and none are the same on the wire. -/
theorem nonEmpty_getD (s : Option String) : (nonEmpty s).getD "" = s.getD "" := by
  cases s with
  | none => rfl
  | some s =>
    by_cases h : s = ""
    · simp [nonEmpty, Option.filter, h]
    · simp [nonEmpty, Option.filter, h]

/-- An id is not empty. -/
theorem nonEmpty_str (u : UUID) : nonEmpty (some u.str) = some u.str := by
  simp [nonEmpty, Option.filter, UUID.str_ne_empty u]

/-- `create_workflow_request_message`. -/
def createWorkflowRequestMessage (workflowId : Key) (workflowExecutionId : String)
    (start : Option Key) (startArguments : List Argument) (resume : Bool)
    (environmentVariables : List EnvironmentVariable) (user : Option String) :
    Except Exn ExecuteWorkflowMessage := do
  let arguments ← addArgumentsToProto startArguments
  let environmentVariables ← addEnvVarsToProto environmentVariables
  pure { workflowId := workflowId.str, workflowExecutionId
         start := nonEmpty (start.map Key.str), arguments, resume, environmentVariables
         user := nonEmpty user }

/-- An environment variable of a received request; an empty id is not set. -/
structure ReceivedVariable where
  id : Option UUID
  value : PyVal
  deriving DecidableEq, Repr

/-- What `receive_workflows` yields. An absent start or user reads as the empty text. -/
structure ReceivedRequest where
  workflowId : String
  workflowExecutionId : String
  start : String
  startArguments : List Argument
  resume : Bool
  environmentVariables : List ReceivedVariable
  user : String
  deriving DecidableEq, Repr

/-- The value of a present text field in `MessageToDict`, as a keyword argument. -/
def textArgument (field : Option String) : PyVal :=
  (field.map PyVal.str).getD .none

/-- `Argument(**MessageToDict(arg))`: every field that is set, as the text it was sent as. -/
def receiveArgument (arg : ArgumentProto) : Except Exn Argument :=
  match arg.name with
  | none => throw .typeError
  | some name => pure
      (Argument.init name (textArgument arg.value) (arg.reference.map Key.text)
        (textArgument arg.selection))

/-- `EnvironmentVariable(**MessageToDict(env_var))`. -/
def receiveEnvVar (envVar : EnvironmentVariableProto) : Except Exn ReceivedVariable :=
  match envVar.value with
  | none => throw .typeError
  | some value =>
    match nonEmpty envVar.id with
    | none => pure { id := none, value := .str value }
    | some id => match UUID.parse id with
      | some u => pure { id := some u, value := .str value }
      | none => throw .valueError

/-- The body of the loop of `WorkflowReceiver.receive_workflows`, after decryption. -/
def receiveWorkflow (message : ExecuteWorkflowMessage) : Except Exn ReceivedRequest := do
  let startArguments ← message.arguments.mapM receiveArgument
  let environmentVariables ← message.environmentVariables.mapM receiveEnvVar
  pure { workflowId := message.workflowId, workflowExecutionId := message.workflowExecutionId
         start := message.start.getD "", startArguments, resume := message.resume
         environmentVariables, user := message.user.getD "" }

/-- The ids of a received request as the database and the serial strategy read them. -/
def requestOfReceived (received : ReceivedRequest) : Except Exn Request :=
  match UUID.parse received.workflowId, UUID.parse received.workflowExecutionId with
  | some workflowId, some executionId =>
    match nonEmpty (some received.start) with
    | none => pure (mk workflowId executionId none)
    | some text => match UUID.parse text with
      | some start => pure (mk workflowId executionId (some start))
      | none => throw .valueError
  | _, _ => throw .valueError
where
  mk (workflowId executionId : UUID) (start : Option UUID) : Request :=
    { workflowId, executionId, start, startArguments := received.startArguments
      resume := received.resume
      environmentVariables := received.environmentVariables.filterMap fun v =>
        v.id.map fun id => { id, value := v.value }
      user := nonEmpty (some received.user) }

end Walkoff.Program
