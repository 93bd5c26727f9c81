import Walkoff.Program.MetricTrackers
import Walkoff.Program.ResultsCodec

/-!
# The receivers of a decoded result

For seven events the receivers of `walkoff.server.workflowresults`, which write the rows of the
execution, and of `walkoff.server.blueprints.workflowresults`, which push to the streams. All
receivers of an event get the one decoded sender, and its arguments are converted in place. What
a receiver raises keeps those after it from being called.
-/

set_option autoImplicit false

namespace Walkoff.Program.Results

open Walkoff.Model hiding WorkflowStatus
open Walkoff.Model.Results
open Walkoff.Library (OrderedDict lift)
open Walkoff.Program.ResultsCodec (Dict MessageToDict.argument convertActionArgument)

/-! ## The event -/

/-- The decoded `WorkflowSender`. -/
structure WorkflowSender where
  name : String
  id : UUID
  executionId : UUID

/-- The decoded `ActionSender`, with the arguments as they were sent. -/
structure ActionSender where
  name : String
  id : UUID
  executionId : UUID
  appName : String
  actionName : String
  arguments : List ArgumentProto

/-- A decoded event: its sender, and what its data holds. -/
inductive ResultEvent where
  | workflowExecutionPending (sender : WorkflowSender) (user : Option String)
  | workflowPaused (sender : WorkflowSender)
  | triggerActionAwaitingData (sender : ActionSender) (workflow : WorkflowSender)
  | actionStarted (sender : ActionSender) (workflow : WorkflowSender)
  | actionOutcome (outcome : ActionOutcome) (sender : ActionSender) (workflow : WorkflowSender)
      (data : PyVal) (hdata : JsonText.isJson data = true)

/-- `sender.get('arguments', [])`, where the sender is an action. -/
def ResultEvent.arguments : ResultEvent → List Dict
  | .workflowExecutionPending _ _ | .workflowPaused _ => []
  | .triggerActionAwaitingData sender _ | .actionStarted sender _
  | .actionOutcome _ sender _ _ _ => sender.arguments.map MessageToDict.argument

/-- The time at which an event is received, also as `utc_as_rfc_datetime` formats it. -/
structure Clock where
  now : ℚ
  text : String

/-! ## The database -/

/-- The tables the receivers read and write. -/
structure Tables where
  workflowStatus : OrderedDict UUID WorkflowStatus
  actionStatus : OrderedDict UUID ActionStatus
  metrics : Metrics

namespace Tables

def putWorkflow (executionId : UUID) (row : WorkflowStatus) (tables : Tables) : Tables :=
  { tables with workflowStatus := OrderedDict.set executionId row tables.workflowStatus }

def putAction (executionId : UUID) (row : ActionStatus) (tables : Tables) : Tables :=
  { tables with actionStatus := OrderedDict.set executionId row tables.actionStatus }

/-- The row of an execution. -/
def workflow (executionId : UUID) (tables : Tables) : Option WorkflowStatus :=
  OrderedDict.get? executionId tables.workflowStatus

/-- The row of the execution of an action. -/
def action (executionId : UUID) (tables : Tables) : Option ActionStatus :=
  OrderedDict.get? executionId tables.actionStatus

/-- `_action_statuses[-1]`, if there is one, with its key. -/
def lastActionStatus (executionId : UUID) (tables : Tables) : Option (UUID × ActionStatus) :=
  (tables.actionStatus.filter (·.2.workflowStatusId = some executionId)).getLast?

end Tables

/-- `__workflow_pending`. -/
def pendingCallback (sender : WorkflowSender) (user : Option String) (tables : Tables) : Tables :=
  match tables.workflow sender.executionId with
  | some row => tables.putWorkflow sender.executionId { row with status := .pending }
  | none => tables.putWorkflow sender.executionId
      (WorkflowStatus.new sender.executionId sender.id sender.name user)

/-- Set the status of the row of an execution, which is `None` where there is none. -/
def setWorkflowStatus (executionId : UUID) (status : WorkflowStatusEnum) (tables : Tables) :
    Except Exn Tables :=
  match tables.workflow executionId with
  | some row => pure (tables.putWorkflow executionId { row with status })
  | none => throw .attributeError

/-- `__workflow_paused_callback`. -/
def pausedCallback (sender : WorkflowSender) (tables : Tables) : Except Exn Tables :=
  setWorkflowStatus sender.executionId .paused tables

/-- `awaiting_data` of the last action of an execution. -/
def awaitLastAction (executionId : UUID) (tables : Tables) : Tables :=
  match tables.lastActionStatus executionId with
  | some (key, row) => tables.putAction key { row with status := .awaitingData }
  | none => tables

/-- `__workflow_awaiting_data_callback`. -/
def awaitingDataCallback (workflow : WorkflowSender) (tables : Tables) : Except Exn Tables := do
  let tables ← setWorkflowStatus workflow.executionId .awaitingData tables
  pure (awaitLastAction workflow.executionId tables)

/-- `__action_start_callback`; `arguments` are those of the sender, as they are by now. -/
def actionStartCallback (sender : ActionSender) (workflow : WorkflowSender)
    (arguments : List Dict) (clock : Clock) (tables : Tables) : Except Exn Tables :=
  match tables.action sender.executionId with
  | some row => pure (tables.putAction sender.executionId { row with status := .executing })
  | none => do
    let text ← PyVal.dumps (.list (arguments.map .dict))
    match tables.workflow workflow.executionId with
    | none => throw .attributeError
    | some _ => pure (tables.putAction sender.executionId
        { executionId := sender.executionId, actionId := sender.id, name := sender.name
          appName := sender.appName, actionName := sender.actionName, result := none
          arguments := some text, status := .executing, startedAt := clock.now
          completedAt := none, workflowStatusId := some workflow.executionId })

/-- `data['result']`. -/
def resultOf : PyVal → Except Exn PyVal
  | .dict items => match OrderedDict.get? "result" items with
    | some result => pure result
    | none => throw .keyError
  | _ => throw .typeError

/-- `__action_execution_success_callback`, `__action_execution_error_callback` and
`__action_args_invalid_callback`. -/
def actionOutcomeCallback (outcome : ActionOutcome) (sender : ActionSender) (data : PyVal)
    (clock : Clock) (tables : Tables) : Except Exn Tables :=
  match tables.action sender.executionId with
  | none => throw .attributeError
  | some row => do
    let text ← (← resultOf data).dumps
    let row := outcome.complete row text clock.now
    pure { tables.putAction sender.executionId row with
      metrics := updateActionTracker outcome.tracked row clock.now tables.metrics }

/-- The receiver of an event that writes the database. -/
def databaseCallback (clock : Clock) (arguments : List Dict) (event : ResultEvent)
    (tables : Tables) : Except Exn Tables :=
  match event with
  | .workflowExecutionPending sender user => pure (pendingCallback sender user tables)
  | .workflowPaused sender => pausedCallback sender tables
  | .triggerActionAwaitingData _ workflow => awaitingDataCallback workflow tables
  | .actionStarted sender workflow =>
    actionStartCallback sender workflow arguments clock tables
  | .actionOutcome outcome sender _ data _ =>
    actionOutcomeCallback outcome sender data clock tables

/-! ## The streams -/

/-- What is pushed to the subchannels of a stream. -/
structure Push where
  event : String
  data : Dict
  subchannels : List String

/-- `ActionStatusEnum`, by name. -/
def actionStatusName : ActionStatusEnum → String
  | .executing => "executing"
  | .awaitingData => "awaiting_data"
  | .success => "success"
  | .failure => "failure"
  | .aborted => "aborted"

/-- `format_action_data`, after the arguments have been converted. -/
def formatActionData (clock : Clock) (sender : ActionSender) (workflow : WorkflowSender)
    (status : ActionStatusEnum) (arguments : List Dict) : Dict :=
  [("action_name", .str sender.actionName), ("app_name", .str sender.appName),
   ("action_id", .str sender.id.str), ("name", .str sender.name),
   ("execution_id", .str sender.executionId.str), ("timestamp", .str clock.text),
   ("status", .str (actionStatusName status)), ("arguments", .list (arguments.map .dict)),
   ("workflow_execution_id", .str workflow.executionId.str)]

/-- The result as it is pushed: truncated where it is too long. -/
def streamedResult (maxLength : ℕ) (result : PyVal) : PyVal :=
  if maxLength < result.toStr.length then
    .dict [("truncated", .str (String.ofList (result.toStr.toList.take maxLength)))]
  else result

/-- `format_action_data_with_results`, after the arguments have been converted. -/
def formatActionDataWithResults (maxLength : ℕ) (clock : Clock) (sender : ActionSender)
    (workflow : WorkflowSender) (status : ActionStatusEnum) (data : PyVal)
    (arguments : List Dict) : Except Exn Dict := do
  let result ← resultOf data
  pure (formatActionData clock sender workflow status arguments ++
    [("result", streamedResult maxLength result)])

/-- `format_action_return`. -/
def formatActionReturn (workflow : WorkflowSender) (data : Dict) (event : String) : Push :=
  { event, data, subchannels := [workflow.executionId.str, "all"] }

/-- `action_summary_keys`. -/
def actionSummaryKeys : List String :=
  ["action_name", "app_name", "action_id", "name", "timestamp", "workflow_execution_id"]

/-- The status and the stream event of an outcome. -/
def outcomeNames : ActionOutcome → ActionStatusEnum × String
  | .actionExecutionSuccess => (.success, "success")
  | .actionExecutionError | .actionArgumentsInvalid => (.failure, "failure")

/-- What the receiver of an action event pushes to the action stream, with the converted
arguments. -/
def actionPush (maxLength : ℕ) (clock : Clock) (arguments : List Dict) :
    ResultEvent → Except Exn (Option Push)
  | .actionStarted sender workflow => pure (some (formatActionReturn workflow
      (formatActionData clock sender workflow .executing arguments) "started"))
  | .triggerActionAwaitingData sender workflow => pure (some (formatActionReturn workflow
      (formatActionData clock sender workflow .awaitingData arguments) "awaiting_data"))
  | .actionOutcome outcome sender workflow data _ => do
    let (status, name) := outcomeNames outcome
    let formatted ← formatActionDataWithResults maxLength clock sender workflow status data
      arguments
    pure (some (formatActionReturn workflow formatted name))
  | .workflowExecutionPending _ _ | .workflowPaused _ => pure none

/-- What `push_to_action_summary_stream` makes of what is pushed to the action stream. -/
def summaryPush (push : Push) : Push :=
  { push with data := push.data.filter (·.1 ∈ actionSummaryKeys) }

/-- `format_workflow_result`. -/
def formatWorkflowResult (clock : Clock) (sender : WorkflowSender) (status : String)
    (tables : Tables) : Dict :=
  let data : Dict := [("execution_id", .str sender.executionId.str),
    ("workflow_id", .str sender.id.str), ("name", .str sender.name), ("status", .str status),
    ("timestamp", .str clock.text)]
  match tables.workflow sender.executionId with
  | some row => data ++ [("user", (row.user.map PyVal.str).getD .none)]
  | none => data

/-- `ActionStatus.as_json(summary=True)`. -/
def summaryJson (row : ActionStatus) : PyVal :=
  .dict [("execution_id", .str row.executionId.str), ("action_id", .str row.actionId.str),
    ("name", .str row.name), ("app_name", .str row.appName),
    ("action_name", .str row.actionName)]

/-- The user in `WorkflowStatus.as_json`: left out where there is none. -/
def userEntry (row : WorkflowStatus) : Dict :=
  match row.user with
  | some user => if user = "" then [] else [("user", .str user)]
  | none => []

/-- The current action in `WorkflowStatus.as_json`: the last one, unless the workflow is
completed. -/
def currentAction (executionId : UUID) (row : WorkflowStatus) (tables : Tables) : Dict :=
  match tables.lastActionStatus executionId with
  | some (_, action) =>
    if row.status = .completed then [] else [("current_action", summaryJson action)]
  | none => []

/-- `format_workflow_result_with_current_step`: of `WorkflowStatus.as_json` it keeps no time, and
sets the status itself. -/
def formatWorkflowResultWithCurrentStep (clock : Clock) (executionId : UUID) (status : String)
    (tables : Tables) : Dict :=
  match tables.workflow executionId with
  | some row =>
    [("execution_id", .str row.executionId.str), ("workflow_id", .str row.workflowId.str),
     ("name", .str row.name), ("status", .str status)] ++ userEntry row ++
      currentAction executionId row tables ++ [("timestamp", .str clock.text)]
  | none =>
    [("execution_id", .str executionId.str), ("timestamp", .str clock.text),
     ("status", .str status)]

/-- What the receiver of a workflow event pushes to the workflow stream. -/
def workflowPush (clock : Clock) (tables : Tables) : ResultEvent → Option Push
  | .workflowExecutionPending sender _ => some
    { event := "queued", data := formatWorkflowResult clock sender "pending" tables
      subchannels := [sender.executionId.str, "all"] }
  | .workflowPaused sender => some
    { event := "paused"
      data := formatWorkflowResultWithCurrentStep clock sender.executionId "paused" tables
      subchannels := [sender.executionId.str, "all"] }
  | .triggerActionAwaitingData _ workflow => some
    { event := "awaiting_data"
      data := formatWorkflowResultWithCurrentStep clock workflow.executionId "awaiting_data" tables
      subchannels := [workflow.executionId.str, "all"] }
  | .actionStarted _ _ | .actionOutcome _ _ _ _ _ => none

/-! ## The receivers -/

/-- What an event has been delivered to so far: the rows, the arguments of the shared sender, and
the streams. -/
structure Delivery where
  tables : Tables
  arguments : List Dict
  workflowStream : List Push
  actionStream : List Push
  actionSummaryStream : List Push

/-- A receiver, by what it does. -/
inductive Receiver where
  | database
  | actionStreams
  | workflowStream
  deriving DecidableEq, Repr

/-- The receivers connected to an event. -/
def receivers : ResultEvent → List Receiver
  | .workflowExecutionPending _ _ | .workflowPaused _ => [.database, .workflowStream]
  | .triggerActionAwaitingData _ _ => [.database, .actionStreams, .workflowStream]
  | .actionStarted _ _ | .actionOutcome _ _ _ _ _ => [.database, .actionStreams]

/-- Push to the action stream and, in short, to its summary. -/
def pushToActionStreams (push : Option Push) (d : Delivery) : Delivery :=
  { d with
    actionStream := d.actionStream ++ push.toList
    actionSummaryStream := d.actionSummaryStream ++ (push.map summaryPush).toList }

/-- Convert the arguments of the sender in place, then push to the action streams. -/
def pushAction (maxLength : ℕ) (clock : Clock) (event : ResultEvent) :
    EStateM Exn Delivery Unit := do
  let d ← get
  let arguments ← lift (d.arguments.mapM convertActionArgument)
  modify fun d => { d with arguments }
  let push ← lift (actionPush maxLength clock arguments event)
  modify (pushToActionStreams push)

/-- One receiver of an event. -/
def receive (maxLength : ℕ) (clock : Clock) (event : ResultEvent) :
    Receiver → EStateM Exn Delivery Unit
  | .database => do
    let d ← get
    let tables ← lift (databaseCallback clock d.arguments event d.tables)
    modify fun d => { d with tables }
  | .actionStreams => pushAction maxLength clock event
  | .workflowStream => modify fun d => { d with
      workflowStream := d.workflowStream ++ (workflowPush clock d.tables event).toList }

/-- `event.send`: the receivers one after the other. -/
def sendTo (maxLength : ℕ) (clock : Clock) (event : ResultEvent) :
    List Receiver → EStateM Exn Delivery Unit
  | [] => pure ()
  | receiver :: receivers => do
    receive maxLength clock event receiver
    sendTo maxLength clock event receivers

/-- An event before any of its receivers is called. -/
def undelivered (event : ResultEvent) (tables : Tables) : Delivery :=
  { tables, arguments := event.arguments, workflowStream := [], actionStream := []
    actionSummaryStream := [] }

/-- What an event leaves when its receivers are called in an order. -/
def delivered (maxLength : ℕ) (clock : Clock) (event : ResultEvent) (order : List Receiver)
    (tables : Tables) : Delivery :=
  Library.finalState (sendTo maxLength clock event order (undelivered event tables))

end Walkoff.Program.Results
