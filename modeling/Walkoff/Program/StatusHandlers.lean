import Walkoff.Program.ResultReceivers

/-!
# The rows of the executions over time

All receivers of `walkoff.server.workflowresults`, on the tables `workflow_status`, `action_status`
and `saved_workflow`, and the row that a worker adds to the last of them. A receiver that raises ends
the thread that receives the results. The rows are given to a client by `as_json`.
-/

set_option autoImplicit false

namespace Walkoff.Program.Results

open Walkoff.Model hiding WorkflowStatus
open Walkoff.Model.Results
open Walkoff.Library (OrderedDict)
open Walkoff.Program.ResultsCodec (Dict convertActionArgument)

/-! ## Events -/

/-- What changes the rows or is pushed to the stream of the workflows. `WorkflowResumed` and
`TriggerActionTaken` have no receiver for the database. -/
inductive StatusEvent where
  | result (event : ResultEvent)
  | workflowExecutionStart (sender : WorkflowSender)
  | workflowShutdown (sender : WorkflowSender)
  | workflowAborted (sender : WorkflowSender)
  | workflowResumed (executionId : UUID)
  | triggerActionTaken (executionId : UUID)
  /-- `handle_event` of a worker's sender adds the row of a pause or an await. -/
  | saveWorkflow (saved : SavedWorkflow)

/-- The workflow execution of an event. -/
def ResultEvent.executionId : ResultEvent → UUID
  | .workflowExecutionPending sender _ | .workflowPaused sender => sender.executionId
  | .triggerActionAwaitingData _ workflow | .actionStarted _ workflow
  | .actionOutcome _ _ workflow _ _ => workflow.executionId

/-- The workflow execution of an event. -/
def StatusEvent.executionId : StatusEvent → UUID
  | .result event => event.executionId
  | .workflowExecutionStart sender | .workflowShutdown sender | .workflowAborted sender =>
    sender.executionId
  | .workflowResumed executionId | .triggerActionTaken executionId => executionId
  | .saveWorkflow saved => saved.workflowExecutionId

/-- An event at the time at which it is handled; `converted` says whether a receiver of the streams
has been called before the one of the database, and has converted the arguments they share. -/
structure StatusHandling where
  clock : Clock
  converted : Bool
  event : StatusEvent

/-! ## Receivers -/

/-- The tables of the executions. -/
structure StatusTables where
  rows : Tables
  savedWorkflow : List SavedWorkflow

/-- No executions yet. -/
def StatusTables.start : StatusTables :=
  { rows := { workflowStatus := [], actionStatus := [], metrics := { apps := [], workflows := [] } }
    savedWorkflow := [] }

/-- Change the row of an execution, which is `None` where there is none. -/
def changeWorkflow (executionId : UUID) (change : WorkflowStatus → WorkflowStatus)
    (tables : Tables) : Except Exn Tables :=
  match tables.workflow executionId with
  | some row => pure (tables.putWorkflow executionId (change row))
  | none => throw .attributeError

/-- `running`. -/
def WorkflowStatus.running (now : ℚ) (row : WorkflowStatus) : WorkflowStatus :=
  { row with startedAt := some now, status := .running }

/-- `completed`. -/
def WorkflowStatus.completed (now : ℚ) (row : WorkflowStatus) : WorkflowStatus :=
  { row with completedAt := some now, status := .completed }

/-- `aborted`, without the last action. -/
def WorkflowStatus.aborted (now : ℚ) (row : WorkflowStatus) : WorkflowStatus :=
  { row with completedAt := some now, status := .aborted }

/-- `ActionStatus.aborted`. -/
def ActionStatus.aborted (row : ActionStatus) : ActionStatus :=
  if row.status = .awaitingData then { row with status := .aborted } else row

/-- The last action of an execution is aborted. -/
def abortLastAction (executionId : UUID) (tables : Tables) : Tables :=
  match tables.lastActionStatus executionId with
  | some (key, row) => tables.putAction key (ActionStatus.aborted row)
  | none => tables

/-- The row of a saved state is deleted if there is one. -/
def deleteSaved (executionId : UUID) (saved : List SavedWorkflow) : List SavedWorkflow :=
  saved.filter (·.workflowExecutionId ≠ executionId)

/-- The metrics at the end of `__workflow_ended_callback`; without a start there is no difference of
times. -/
def trackWorkflow (sender : WorkflowSender) (clock : Clock) (tables : Tables) :
    Except Exn Tables :=
  match (tables.workflow sender.executionId).bind WorkflowStatus.startedAt with
  | some startedAt => pure { tables with
      metrics := updateWorkflowMetric sender.id sender.name (clock.now - startedAt) tables.metrics }
  | none => throw .typeError

/-- The arguments of the shared sender by now. -/
def StatusHandling.arguments (handling : StatusHandling) (event : ResultEvent) : Except Exn (List Dict) :=
  if handling.converted then event.arguments.mapM convertActionArgument
  else pure event.arguments

/-- The receiver of an event, and the insertion of a saved state. -/
def handleStatus (tables : StatusTables) (handling : StatusHandling) : Except Exn StatusTables :=
  match handling.event with
  | .result event => do
    let arguments ← handling.arguments event
    let rows ← databaseCallback handling.clock arguments event tables.rows
    pure { tables with rows }
  | .workflowExecutionStart sender => do
    let rows ← changeWorkflow sender.executionId (WorkflowStatus.running handling.clock.now)
      tables.rows
    pure { tables with rows }
  | .workflowShutdown sender => do
    let rows ← changeWorkflow sender.executionId (WorkflowStatus.completed handling.clock.now)
      tables.rows
    let rows ← trackWorkflow sender handling.clock rows
    pure { rows, savedWorkflow := deleteSaved sender.executionId tables.savedWorkflow }
  | .workflowAborted sender => do
    let rows ← changeWorkflow sender.executionId (WorkflowStatus.aborted handling.clock.now)
      tables.rows
    pure { rows := abortLastAction sender.executionId rows
           savedWorkflow := deleteSaved sender.executionId tables.savedWorkflow }
  | .workflowResumed _ | .triggerActionTaken _ => pure tables
  | .saveWorkflow saved =>
    if ∃ row ∈ tables.savedWorkflow, row.workflowExecutionId = saved.workflowExecutionId then
      throw .integrityError
    else pure { tables with savedWorkflow := tables.savedWorkflow ++ [saved] }

/-- Events handled one after the other. -/
def handleAll (run : List StatusHandling) (tables : StatusTables) : Except Exn StatusTables :=
  run.foldlM handleStatus tables

/-! ## The rows as they are sent to a client -/

/-- `WorkflowStatusEnum`, by name. -/
def workflowStatusName : WorkflowStatusEnum → String
  | .running => "running"
  | .paused => "paused"
  | .awaitingData => "awaiting_data"
  | .pending => "pending"
  | .completed => "completed"
  | .aborted => "aborted"

/-- `json.loads` of a column. -/
def loadColumn : Option String → Except Exn PyVal
  | none => throw .typeError
  | some text =>
    match JsonText.loads text with
    | some value => pure value
    | none => throw .valueError

/-- `utc_as_rfc_datetime` of a column. -/
def rfcColumn (rfc : ℚ → String) : Option ℚ → Except Exn PyVal
  | none => throw .attributeError
  | some time => pure (.str (rfc time))

/-- `json.loads(self.arguments) if self.arguments else []`. -/
def argumentsJson (arguments : Option String) : Except Exn PyVal :=
  if arguments = none ∨ arguments = some "" then pure (.list [])
  else loadColumn arguments

/-- `ActionStatus.as_json()`. -/
def actionStatusJson (rfc : ℚ → String) (row : ActionStatus) : Except Exn PyVal := do
  let arguments ← argumentsJson row.arguments
  let ret : Dict := [("execution_id", .str row.executionId.str),
    ("action_id", .str row.actionId.str), ("name", .str row.name), ("app_name", .str row.appName),
    ("action_name", .str row.actionName), ("arguments", arguments),
    ("status", .str (actionStatusName row.status)), ("started_at", .str (rfc row.startedAt))]
  if row.status = .success ∨ row.status = .failure then do
    let result ← loadColumn row.result
    let completedAt ← rfcColumn rfc row.completedAt
    pure (.dict (ret ++ [("result", result), ("completed_at", completedAt)]))
  else pure (.dict ret)

/-- `_action_statuses`. -/
def Tables.actionStatuses (executionId : UUID) (tables : Tables) : List ActionStatus :=
  (tables.actionStatus.filter (·.2.workflowStatusId = some executionId)).map Prod.snd

/-- The end in `WorkflowStatus.as_json`, of an execution that is over. -/
def completedEntry (rfc : ℚ → String) (row : WorkflowStatus) : Except Exn Dict :=
  if row.status = .completed ∨ row.status = .aborted then do
    let completedAt ← rfcColumn rfc row.completedAt
    pure [("completed_at", completedAt)]
  else pure []

/-- All actions in `WorkflowStatus.as_json`, or the current one. -/
def actionEntries (rfc : ℚ → String) (fullActions : Bool) (row : WorkflowStatus)
    (tables : Tables) : Except Exn Dict :=
  if fullActions then do
    let statuses ← (tables.actionStatuses row.executionId).mapM (actionStatusJson rfc)
    pure [("action_statuses", .list statuses)]
  else pure (currentAction row.executionId row tables)

/-- `WorkflowStatus.as_json`: the user and the start where there are any. -/
def workflowStatusJson (rfc : ℚ → String) (fullActions : Bool) (row : WorkflowStatus)
    (tables : Tables) : Except Exn PyVal := do
  let completed ← completedEntry rfc row
  let actions ← actionEntries rfc fullActions row tables
  pure (.dict ([("execution_id", .str row.executionId.str),
    ("workflow_id", .str row.workflowId.str), ("name", .str row.name),
    ("status", .str (workflowStatusName row.status))] ++ userEntry row ++
    (row.startedAt.map fun time => ("started_at", PyVal.str (rfc time))).toList ++ completed ++
    actions))

end Walkoff.Program.Results
