import Walkoff.Program.Controller

/-!
# The endpoint that sends data to triggers

`send_data_to_trigger` takes the awaiting executions a request names, keeps those the user
may resume, and tries to resume each of them. Who may resume an execution is written in
the messages its workflow has sent.
-/

set_option autoImplicit false

namespace Walkoff.Program

open Walkoff.Model

/-- A row of the table `message`, with the ids of its users and roles. -/
structure Message where
  workflowExecutionId : UUID
  requiresResponse : Bool
  users : List ℤ
  roles : List ℤ
  deriving DecidableEq, Repr

/-- The `roles` claim of a token: one id or a list of them. -/
inductive RoleIds where
  | one (id : ℤ)
  | many (ids : List ℤ)
  deriving DecidableEq, Repr

/-- The role ids that are looked at: nobody has the role 0. -/
def RoleIds.toList : RoleIds → List ℤ
  | one id => if id = 0 then [] else [id]
  | many ids => ids

/-- `Message.is_authorized`: by user id or by one of the role ids. -/
def Message.isAuthorized (self : Message) (userId : Option ℤ) (roleIds : RoleIds) : Bool :=
  (match userId with
    | some id => id != 0 && self.users.contains id
    | none => false) ||
  roleIds.toList.any self.roles.contains

/-- `Message.query.filter(Message.workflow_execution_id == execution_id)`. -/
def messagesOf (messages : List Message) (executionId : UUID) : List Message :=
  messages.filter (·.workflowExecutionId = executionId)

/-- One turn of the loop of `get_authorized_execution_ids`, over the sets
`authorization_not_required` and `authorized_execution_ids`. -/
def authorizeTurn (messages : List Message) (userId : Option ℤ) (roleIds : RoleIds)
    (sets : List UUID × List UUID) (executionId : UUID) : List UUID × List UUID :=
  match (messagesOf messages executionId).head? with
  | none => (sets.1 ++ [executionId], sets.2)
  | some message =>
    if !message.requiresResponse then (sets.1 ++ [executionId], sets.2)
    else if message.isAuthorized userId roleIds then (sets.1, sets.2 ++ [executionId])
    else sets

/-- `get_authorized_execution_ids`: the executions that need no authorisation, and those
the user is authorised for. -/
def getAuthorizedExecutionIds (messages : List Message) (userId : Option ℤ) (roleIds : RoleIds)
    (executionIds : List UUID) : List UUID × List UUID :=
  executionIds.foldl (authorizeTurn messages userId roleIds) ([], [])

/-- A request to send data to triggers, and who makes it. -/
structure TriggerRequest where
  executionIds : List String
  dataIn : PyVal
  arguments : List Argument
  userId : Option ℤ
  roleIds : RoleIds
  username : Option String

/-- The executions a request is allowed to resume. -/
def allowedExecutionIds (messages : List Message) (request : TriggerRequest)
    (waiting : List UUID) : List UUID :=
  let executionIds := waiting.filter (·.str ∈ request.executionIds)
  let (notRequired, authorized) :=
    getAuthorizedExecutionIds messages request.userId request.roleIds executionIds
  authorized ++ notRequired

variable {σ : Type}

/-- The loop of `send_data_to_trigger`: the executions that were resumed. -/
def resumeEach (resume : UUID → M σ Bool) : List UUID → M σ (List UUID)
  | [] => pure []
  | executionId :: executionIds => do
    let resumed ← resume executionId
    let completed ← resumeEach resume executionIds
    pure (if resumed then executionId :: completed else completed)

/-- `send_data_to_trigger` over an executor's `resume_trigger_step`. -/
def sendDataToTrigger (resume : TriggerRequest → UUID → M σ Bool) (messages : List Message)
    (request : TriggerRequest) : M σ (List UUID) := do
  let waiting := getWaitingWorkflows (← get)
  resumeEach (resume request) (allowedExecutionIds messages request waiting)

/-- The `resume_trigger_step` the server runs. -/
def executorResume (env : Env σ) (request : TriggerRequest) (executionId : UUID) : M σ Bool :=
  resumeTriggerStep env executionId request.dataIn request.arguments request.username

end Walkoff.Program
