import Walkoff.Program.StatusHandlers

/-!
# The page of the executions

`ExecutionComponent` of the client shows the status of every execution. When it is opened it asks
for them, page by page, and has two streams of the server opened: the workflow stream and, in short,
the action stream. Neither waits for the other, and what the server pushes before a stream is open
is lost. The end of an execution is shown a little later, by a timer.
-/

set_option autoImplicit false

namespace Walkoff.Program.Client

open Walkoff.Model hiding WorkflowStatus
open Walkoff.Model.Results hiding WorkflowStatus
open Walkoff.Program.Results hiding WorkflowStatus.running WorkflowStatus.completed
  WorkflowStatus.aborted
open Walkoff.Library (OrderedDict)
open Walkoff.Program.ResultsCodec (Dict convertActionArgument)

/-! ## What the server sends -/

/-- What the receiver of an event pushes to the workflow stream; `WorkflowStreamEvent`, by name. -/
def statusPush (clock : Clock) (tables : Tables) : StatusEvent → Option Push
  | .result event => workflowPush clock tables event
  | .workflowExecutionStart sender => some
    { event := "started", data := formatWorkflowResult clock sender "running" tables
      subchannels := [sender.executionId.str, "all"] }
  | .workflowShutdown sender => some
    { event := "completed", data := formatWorkflowResult clock sender "completed" tables
      subchannels := [sender.executionId.str, "all"] }
  | .workflowAborted sender => some
    { event := "aborted", data := formatWorkflowResult clock sender "aborted" tables
      subchannels := [sender.executionId.str, "all"] }
  | .workflowResumed executionId => some
    { event := "resumed"
      data := formatWorkflowResultWithCurrentStep clock executionId "running" tables
      subchannels := [executionId.str, "all"] }
  | .triggerActionTaken executionId => some
    { event := "triggered"
      data := formatWorkflowResultWithCurrentStep clock executionId "pending" tables
      subchannels := [executionId.str, "all"] }
  | .saveWorkflow _ => none

/-- What the receiver of an event pushes to the summary of the action stream. -/
def summaryPushOf (maxLength : ℕ) (clock : Clock) : StatusEvent → Except Exn (Option Push)
  | .result event => do
    let arguments ← event.arguments.mapM convertActionArgument
    let push ← actionPush maxLength clock arguments event
    pure (push.map summaryPush)
  | _ => pure none

/-! ## What the page keeps -/

/-- A text in the data of a message; one that is missing or `null` is not there. -/
def stringField (key : String) (data : Dict) : Option String :=
  match OrderedDict.get? key data with
  | some (.str text) => some text
  | _ => none

/-- An object in the data of a message. -/
def objectField (key : String) (data : Dict) : Option Dict :=
  match OrderedDict.get? key data with
  | some (.dict items) => some items
  | _ => none

/-- `WorkflowStatus` of the client, without the times as they are written on the page. -/
structure WorkflowStatus where
  executionId : Option String
  workflowId : Option String
  name : Option String
  startedAt : Option String
  user : Option String
  completedAt : Option String
  status : Option String
  currentAction : Option Dict

/-- `plainToClass(WorkflowStatus, data)`. -/
def WorkflowStatus.ofPlain (data : Dict) : WorkflowStatus :=
  { executionId := stringField "execution_id" data
    workflowId := stringField "workflow_id" data
    name := stringField "name" data
    startedAt := stringField "started_at" data
    user := stringField "user" data
    completedAt := stringField "completed_at" data
    status := stringField "status" data
    currentAction := objectField "current_action" data }

/-- `WorkflowStatusEvent`. -/
structure WorkflowStatusEvent where
  executionId : Option String
  workflowId : Option String
  name : Option String
  user : Option String
  timestamp : Option String
  status : Option String
  currentAction : Option Dict

/-- `plainToClass(WorkflowStatusEvent, data)`. -/
def WorkflowStatusEvent.ofPlain (data : Dict) : WorkflowStatusEvent :=
  { executionId := stringField "execution_id" data
    workflowId := stringField "workflow_id" data
    name := stringField "name" data
    user := stringField "user" data
    timestamp := stringField "timestamp" data
    status := stringField "status" data
    currentAction := objectField "current_action" data }

/-- `toNewWorkflowStatus`: neither the user nor a time is taken over. -/
def WorkflowStatusEvent.toNewWorkflowStatus (self : WorkflowStatusEvent) : WorkflowStatus :=
  { executionId := self.executionId
    workflowId := self.workflowId
    name := self.name
    startedAt := none
    user := none
    completedAt := none
    status := self.status
    currentAction := self.currentAction }

/-- A `setTimeout` for the end of an execution. -/
structure Timer where
  executionId : Option String
  timestamp : Option String

/-- `ExecutionComponent`: the statuses it shows, and the timers that have not run yet. -/
structure ExecutionComponent where
  workflowStatuses : List WorkflowStatus
  timers : List Timer

/-- Change the first status of an execution in place. Once it is loaded the list only grows at its
end, so this is also the object a timer has got hold of. -/
def changeFirst (executionId : Option String) (change : WorkflowStatus → WorkflowStatus) :
    List WorkflowStatus → List WorkflowStatus
  | [] => []
  | status :: statuses =>
    if status.executionId = executionId then change status :: statuses
    else status :: changeFirst executionId change statuses

/-! ## Its handlers -/

/-- What `workflowStatusEventHandler` does to the status it has found at once; an unknown type only
warns. -/
def followEvent (type : String) (event : WorkflowStatusEvent) (old : WorkflowStatus) :
    WorkflowStatus :=
  let status := { old with status := event.status }
  match type with
  | "queued" => { status with currentAction := none }
  | "started" => { status with
      startedAt := if old.startedAt.getD "" = "" then event.timestamp else old.startedAt
      user := event.user
      currentAction := event.currentAction }
  | "paused" | "resumed" | "awaiting_data" | "triggered" =>
    { status with currentAction := event.currentAction }
  | "aborted" => { status with completedAt := event.timestamp }
  | _ => status

/-- `workflowStatusEventHandler`. -/
def workflowStatusEventHandler (self : ExecutionComponent) (message : Push) :
    ExecutionComponent :=
  let event := WorkflowStatusEvent.ofPlain message.data
  if self.workflowStatuses.any (·.executionId = event.executionId) then
    { workflowStatuses := changeFirst event.executionId (followEvent message.event event)
        self.workflowStatuses
      timers := if message.event = "completed" then
          self.timers ++ [{ executionId := event.executionId, timestamp := event.timestamp }]
        else self.timers }
  else { self with workflowStatuses := self.workflowStatuses ++ [event.toNewWorkflowStatus] }

/-- The current action that an event of the action stream stands for. -/
def currentActionOf (data : Dict) : Dict :=
  [("execution_id", "execution_id"), ("id", "action_id"), ("name", "name"),
    ("app_name", "app_name"), ("action_name", "action_name")].filterMap fun (key, source) =>
      (stringField source data).map fun text => (key, PyVal.str text)

/-- `actionStatusEventHandler`, without the actions of the execution that is shown in detail. -/
def actionStatusEventHandler (self : ExecutionComponent) (message : Push) : ExecutionComponent :=
  { self with
    workflowStatuses := changeFirst (stringField "workflow_execution_id" message.data)
      (fun status => { status with currentAction := some (currentActionOf message.data) })
      self.workflowStatuses }

/-- The function of a `setTimeout`. -/
def elapse (timer : Timer) (self : ExecutionComponent) : ExecutionComponent :=
  { self with
    workflowStatuses := changeFirst timer.executionId
      (fun status => { status with completedAt := timer.timestamp, currentAction := none })
      self.workflowStatuses }

/-! ## Loading -/

/-- The order in which a query gives rows. -/
structure RowOrder where
  order : List Results.WorkflowStatus → List Results.WorkflowStatus
  perm : ∀ rows, (order rows).Perm rows

/-- A row as the client gets it. -/
def plainStatus (rfc : ℚ → String) (tables : Tables) (row : Results.WorkflowStatus) :
    Except Exn WorkflowStatus := do
  match ← workflowStatusJson rfc false row tables with
  | .dict data => pure (WorkflowStatus.ofPlain data)
  | _ => throw .typeError

/-- What the server and the page are set up with: how times are written, the order of the rows in
the query of `get_all_workflow_status`, `ITEMS_PER_PAGE`, and the longest value in a summary. -/
structure SiteSetup where
  rfc : ℚ → String
  order : RowOrder
  itemsPerPage : ℕ
  maxLength : ℕ

/-- `get_all_workflow_status`, and `plainToClass` of its answer. Pages count from 0. -/
def getAllWorkflowStatus (setup : SiteSetup) (page : ℕ) (tables : Tables) :
    Except Exn (List WorkflowStatus) :=
  (((setup.order.order (tables.workflowStatus.map Prod.snd)).drop
    (page * setup.itemsPerPage)).take setup.itemsPerPage).mapM (plainStatus setup.rfc tables)

/-- Where `getWorkflowStatuses` is: it asks for pages until one is empty, or raises. -/
inductive Loading where
  | asking (page : ℕ) (allResults : List WorkflowStatus)
  | answered (allResults : List WorkflowStatus)
  | done
  | failed

/-- `paginateAll` with the answer to the request for a page. -/
def paginateAll (setup : SiteSetup) (page : ℕ) (allResults : List WorkflowStatus)
    (tables : Tables) : Loading :=
  match getAllWorkflowStatus setup page tables with
  | .error _ => .failed
  | .ok [] => .answered allResults
  | .ok results => .asking (page + 1) (allResults ++ results)

/-! ## The server and the page -/

/-- The rows of the server, how far the statuses are loaded, the streams that are open with what is
on its way on each, and the page. -/
structure Site where
  tables : StatusTables
  loading : Loading
  workflowOpen : Bool
  workflowStream : List Push
  actionOpen : Bool
  actionStream : List Push
  page : ExecutionComponent

/-- What can happen next: the server handles an event or answers a request for a page, the statuses
are there, a stream is opened or lost, a message arrives on one of the streams, or a timer runs. -/
inductive SiteStep where
  /-- `pushedFirst`: the stream is served before the rows are changed. -/
  | handle (pushedFirst : Bool) (handling : StatusHandling)
  | answerPage
  | loaded
  | openStream
  | loseStream
  | openActionStream
  | loseActionStream
  | deliver
  | deliverAction
  | elapse (i : ℕ)

/-- The page is opened: everything has been asked for, and nothing is there. -/
def Site.opened (tables : StatusTables) : Site :=
  { tables, loading := .asking 0 [], workflowOpen := false, workflowStream := [], actionOpen := false
    actionStream := [], page := { workflowStatuses := [], timers := [] } }

/-- The site after a step, if it can be taken. -/
def Site.next (setup : SiteSetup) (site : Site) : SiteStep → Option Site
  | .handle pushedFirst handling =>
    match handleStatus site.tables handling,
        summaryPushOf setup.maxLength handling.clock handling.event with
    | .ok tables, .ok push => some { site with
        tables
        workflowStream := if site.workflowOpen then site.workflowStream ++ (statusPush handling.clock
          (if pushedFirst then site.tables.rows else tables.rows) handling.event).toList
          else site.workflowStream
        actionStream := if site.actionOpen then site.actionStream ++ push.toList
          else site.actionStream }
    | _, _ => none
  | .answerPage =>
    match site.loading with
    | .asking page allResults => some { site with
        loading := paginateAll setup page allResults site.tables.rows }
    | _ => none
  | .loaded =>
    match site.loading with
    | .answered allResults => some { site with
        loading := .done
        -- A timer has got hold of a status that is no longer shown.
        page := { workflowStatuses := allResults, timers := [] } }
    | _ => none
  | .openStream => some { site with workflowOpen := true, workflowStream := [] }
  | .loseStream => some { site with workflowOpen := false, workflowStream := [] }
  | .openActionStream => some { site with actionOpen := true, actionStream := [] }
  | .loseActionStream => some { site with actionOpen := false, actionStream := [] }
  | .deliver =>
    match site.workflowStream with
    | message :: rest => some { site with
        workflowStream := rest
        page := workflowStatusEventHandler site.page message }
    | [] => none
  | .deliverAction =>
    match site.actionStream with
    | message :: rest => some { site with
        actionStream := rest
        page := actionStatusEventHandler site.page message }
    | [] => none
  | .elapse i =>
    match site.page.timers[i]? with
    | some timer => some { site with
        page := { Client.elapse timer site.page with timers := site.page.timers.eraseIdx i } }
    | none => none

end Walkoff.Program.Client
