import Walkoff.Analysis.ReceiverOrder
import Walkoff.Program.StatusHandlers

/-!
# The rows can always be read

`as_json` takes the end of a row whose status is `completed` or `aborted` and parses the texts in the
rows of the actions; where the end is missing or a text is no JSON, it raises. The receivers never
leave such a row behind, so the status of an execution can be asked for at any time.
-/

set_option autoImplicit false

namespace Walkoff.Analysis

open Walkoff.Model hiding WorkflowStatus eventToProtobuf
open Walkoff.Model.Results Walkoff.Model.JsonText
open Walkoff.Program.Results
open Walkoff.Program.ResultsCodec (Dict convertActionArgument MessageToDict.argument)
open Walkoff.Library (OrderedDict Except.bind_eq_ok)

/-! ## Values that can be written -/

/-- `json.dumps` takes the value. -/
def Writable (v : PyVal) : Prop :=
  ∃ text, v.dumps = .ok text

/-- A list of writable values is writable. -/
theorem writable_list {xs : List PyVal} (h : ∀ x ∈ xs, Writable x) : Writable (.list xs) := by
  have hlist : ∃ texts, PyVal.dumpsList xs = .ok texts := by
    induction xs with
    | nil => exact ⟨[], rfl⟩
    | cons x xs ih =>
      obtain ⟨⟨text, htext⟩, hxs⟩ := List.forall_mem_cons.mp h
      obtain ⟨texts, htexts⟩ := ih hxs
      rw [PyVal.dumpsList, htext, htexts]
      exact ⟨_, rfl⟩
  obtain ⟨texts, htexts⟩ := hlist
  unfold Writable
  rw [PyVal.dumps, htexts]
  exact ⟨_, rfl⟩

/-- A dictionary of writable values is writable. -/
theorem writable_dict {items : Dict} (h : ∀ item ∈ items, Writable item.2) :
    Writable (.dict items) := by
  have hitems : ∃ texts, PyVal.dumpsItems items = .ok texts := by
    induction items with
    | nil => exact ⟨[], rfl⟩
    | cons item items ih =>
      obtain ⟨⟨text, htext⟩, hrest⟩ := List.forall_mem_cons.mp h
      obtain ⟨texts, htexts⟩ := ih hrest
      rw [PyVal.dumpsItems, htext, htexts]
      exact ⟨_, rfl⟩
  obtain ⟨texts, htexts⟩ := hitems
  unfold Writable
  rw [PyVal.dumps, htexts]
  exact ⟨_, rfl⟩

/-- A text is writable. -/
theorem writable_str (s : String) : Writable (.str s) :=
  ⟨_, rfl⟩

/-- JSON that was written is read back, and is writable. -/
theorem writable_loads {text : String} {v : PyVal} (hjson : isJson v = true)
    (htext : v.dumps = .ok text) : loads text = some v ∧ Writable v :=
  ⟨loads_dumps hjson htext, text, htext⟩

/-! ## Readable rows -/

/-- A column that holds a JSON text. -/
def ReadableColumn (column : Option String) : Prop :=
  ∃ text v, column = some text ∧ loads text = some v ∧ Writable v

/-- The texts in the row of an action can be read, and it has an end when its status says so. -/
structure ReadableAction (row : ActionStatus) : Prop where
  arguments : ReadableColumn row.arguments
  outcome : row.status = .success ∨ row.status = .failure →
    ReadableColumn row.result ∧ row.completedAt ≠ none

/-- An execution that is over has an end. -/
def HasEnd (row : WorkflowStatus) : Prop :=
  row.status = .completed ∨ row.status = .aborted → row.completedAt ≠ none

/-- All rows can be read. -/
structure ReadableRows (tables : Tables) : Prop where
  workflows : ∀ item ∈ tables.workflowStatus, HasEnd item.2
  actions : ∀ item ∈ tables.actionStatus, ReadableAction item.2

/-- At the start there are no rows. -/
theorem readableRows_start : ReadableRows StatusTables.start.rows :=
  ⟨List.forall_mem_nil _, List.forall_mem_nil _⟩

section

variable {tables after : Tables}

/-- A row of a workflow with an end where it needs one keeps the rows readable. -/
theorem ReadableRows.putWorkflow (h : ReadableRows tables) {row : WorkflowStatus}
    (hrow : HasEnd row) (executionId : UUID) : ReadableRows (tables.putWorkflow executionId row) where
  workflows item hitem := by
    rcases OrderedDict.mem_set hitem with rfl | hmem
    · exact hrow
    · exact h.workflows item hmem
  actions := h.actions

/-- A readable row of an action keeps the rows readable. -/
theorem ReadableRows.putAction (h : ReadableRows tables) {row : ActionStatus}
    (hrow : ReadableAction row) (executionId : UUID) :
    ReadableRows (tables.putAction executionId row) where
  workflows := h.workflows
  actions item hitem := by
    rcases OrderedDict.mem_set hitem with rfl | hmem
    · exact hrow
    · exact h.actions item hmem

/-- The metrics do not matter to the rows. -/
theorem ReadableRows.metrics (h : ReadableRows tables) (metrics : Metrics) :
    ReadableRows { tables with metrics } :=
  ⟨h.workflows, h.actions⟩

/-- A status that is no outcome needs no result. -/
theorem ReadableAction.withStatus {row : ActionStatus} (h : ReadableAction row)
    {status : ActionStatusEnum} (hstatus : status ≠ .success ∧ status ≠ .failure) :
    ReadableAction { row with status } where
  arguments := h.arguments
  outcome houtcome := by
    rcases houtcome with hsuccess | hfailure
    · exact absurd hsuccess hstatus.1
    · exact absurd hfailure hstatus.2

/-- The row of the last action is readable. -/
theorem readableAction_of_last (h : ReadableRows tables) {executionId key : UUID}
    {row : ActionStatus} (hlast : tables.lastActionStatus executionId = some (key, row)) :
    ReadableAction row :=
  h.actions (key, row) (List.mem_filter.mp (List.mem_of_getLast? hlast)).1

/-! ## The receivers -/

/-- Changing the row of a workflow keeps the rows readable. -/
theorem readable_changeWorkflow (h : ReadableRows tables) {executionId : UUID}
    {change : WorkflowStatus → WorkflowStatus} (hchange : ∀ row, HasEnd (change row))
    (hok : changeWorkflow executionId change tables = .ok after) : ReadableRows after := by
  unfold changeWorkflow at hok
  cases hworkflow : tables.workflow executionId with
  | none =>
    rw [hworkflow] at hok
    cases hok
  | some row =>
    rw [hworkflow] at hok
    cases hok
    exact h.putWorkflow (hchange row) executionId

/-- The same of setting its status. -/
theorem readable_setWorkflowStatus (h : ReadableRows tables) {executionId : UUID}
    {status : WorkflowStatusEnum} (hstatus : status ≠ .completed ∧ status ≠ .aborted)
    (hok : setWorkflowStatus executionId status tables = .ok after) : ReadableRows after := by
  have hchange : ∀ row : WorkflowStatus, HasEnd { row with status } := by
    rintro row (hcompleted | haborted)
    · exact absurd hcompleted hstatus.1
    · exact absurd haborted hstatus.2
  exact readable_changeWorkflow h hchange hok

/-- The same of making it pending. -/
theorem readable_pendingCallback (h : ReadableRows tables) (sender : WorkflowSender)
    (user : Option String) : ReadableRows (pendingCallback sender user tables) := by
  unfold pendingCallback
  split
  · exact h.putWorkflow (by rintro (hover | hover) <;> cases hover) _
  · exact h.putWorkflow (by rintro (hover | hover) <;> cases hover) _

/-- The same of setting the last action to wait. -/
theorem readable_awaitLastAction (h : ReadableRows tables) (executionId : UUID) :
    ReadableRows (awaitLastAction executionId tables) := by
  unfold awaitLastAction
  split
  · rename_i key row hlast
    exact h.putAction ((readableAction_of_last h hlast).withStatus (by decide)) key
  · exact h

/-- The same of aborting the last action. -/
theorem readable_abortLastAction (h : ReadableRows tables) (executionId : UUID) :
    ReadableRows (abortLastAction executionId tables) := by
  unfold abortLastAction
  split
  · rename_i key row hlast
    have hrow := readableAction_of_last h hlast
    refine h.putAction ?_ key
    unfold ActionStatus.aborted
    split_ifs
    · exact hrow.withStatus (by decide)
    · exact hrow
  · exact h

/-- The arguments of an event are JSON if they can be written, converted or not. -/
theorem jsonIfDumps_arguments {handling : StatusHandling} {event : ResultEvent} {arguments : List Dict}
    (h : handling.arguments event = .ok arguments) :
    JsonIfDumps (.list (arguments.map .dict)) := by
  have hitems : ∀ argument ∈ arguments, JsonItemsIfDump argument := by
    have hall : ∀ protos : List ArgumentProto,
        event.arguments = protos.map MessageToDict.argument →
          ∀ argument ∈ arguments, JsonItemsIfDump argument := by
      intro protos hprotos
      unfold StatusHandling.arguments at h
      rw [hprotos] at h
      split_ifs at h
      · obtain ⟨converted, hconvert, hjson, -⟩ := convertArguments_spec protos
        rw [hconvert] at h
        cases h
        exact hjson
      · cases h
        intro argument hargument
        obtain ⟨proto, -, rfl⟩ := List.mem_map.mp hargument
        exact jsonItemsIfDump_argument proto
    cases event with
    | workflowExecutionPending sender user => exact hall [] rfl
    | workflowPaused sender => exact hall [] rfl
    | triggerActionAwaitingData sender workflow => exact hall sender.arguments rfl
    | actionStarted sender workflow => exact hall sender.arguments rfl
    | actionOutcome outcome sender workflow data hdata => exact hall sender.arguments rfl
  refine JsonIfDumps.list fun v hv => ?_
  obtain ⟨argument, hargument, rfl⟩ := List.mem_map.mp hv
  exact JsonIfDumps.dict (hitems argument hargument).1 (hitems argument hargument).2

/-- A column that JSON was written into is readable. -/
theorem readableColumn_of_dumps {v : PyVal} (hjson : JsonIfDumps v) {text : String}
    (htext : v.dumps = .ok text) : ReadableColumn (some text) :=
  ⟨text, v, rfl, writable_loads (hjson text htext) htext⟩

/-- The start of an action keeps the rows readable. -/
theorem readable_actionStartCallback (h : ReadableRows tables) {sender : ActionSender}
    {workflow : WorkflowSender} {arguments : List Dict} {clock : Clock}
    (harguments : JsonIfDumps (.list (arguments.map .dict)))
    (hok : actionStartCallback sender workflow arguments clock tables = .ok after) :
    ReadableRows after := by
  unfold actionStartCallback at hok
  cases haction : tables.action sender.executionId with
  | some row =>
    rw [haction] at hok
    cases hok
    have hrow := h.actions _ (OrderedDict.mem_of_get? haction)
    exact h.putAction (hrow.withStatus (by decide)) _
  | none =>
    rw [haction] at hok
    obtain ⟨text, htext, hok⟩ := Except.bind_eq_ok.mp hok
    cases hworkflow : tables.workflow workflow.executionId with
    | none =>
      rw [hworkflow] at hok
      cases hok
    | some row =>
      rw [hworkflow] at hok
      cases hok
      refine h.putAction ⟨readableColumn_of_dumps harguments htext, ?_⟩ _
      rintro (houtcome | houtcome) <;> cases houtcome

/-- The outcome of an action keeps the rows readable. -/
theorem readable_actionOutcomeCallback (h : ReadableRows tables) {outcome : ActionOutcome}
    {sender : ActionSender} {data : PyVal} (hdata : isJson data = true) {clock : Clock}
    (hok : actionOutcomeCallback outcome sender data clock tables = .ok after) :
    ReadableRows after := by
  unfold actionOutcomeCallback at hok
  cases haction : tables.action sender.executionId with
  | none =>
    rw [haction] at hok
    cases hok
  | some row =>
    rw [haction] at hok
    obtain ⟨result, hresult, hok⟩ := Except.bind_eq_ok.mp hok
    obtain ⟨text, htext, hok⟩ := Except.bind_eq_ok.mp hok
    cases hok
    have hrow := h.actions _ (OrderedDict.mem_of_get? haction)
    have hcolumn : ReadableColumn (some text) :=
      readableColumn_of_dumps (fun _ _ => isJson_resultOf hdata hresult) htext
    refine (h.putAction ?_ _).metrics _
    cases outcome with
    | actionExecutionSuccess => exact ⟨hrow.arguments, fun _ => ⟨hcolumn, Option.some_ne_none _⟩⟩
    | actionExecutionError => exact ⟨hrow.arguments, fun _ => ⟨hcolumn, Option.some_ne_none _⟩⟩
    | actionArgumentsInvalid => exact ⟨hrow.arguments, fun _ => ⟨hcolumn, Option.some_ne_none _⟩⟩

/-- The receiver of an event keeps the rows readable. -/
theorem readable_databaseCallback (h : ReadableRows tables) {event : ResultEvent}
    {arguments : List Dict} {clock : Clock}
    (harguments : JsonIfDumps (.list (arguments.map .dict)))
    (hok : databaseCallback clock arguments event tables = .ok after) : ReadableRows after := by
  cases event with
  | workflowExecutionPending sender user =>
    cases hok
    exact readable_pendingCallback h sender user
  | workflowPaused sender => exact readable_setWorkflowStatus h (by decide) hok
  | triggerActionAwaitingData sender workflow =>
    obtain ⟨rows, hrows, hok⟩ := Except.bind_eq_ok.mp hok
    cases hok
    exact readable_awaitLastAction (readable_setWorkflowStatus h (by decide) hrows) _
  | actionStarted sender workflow => exact readable_actionStartCallback h harguments hok
  | actionOutcome outcome sender workflow data hdata =>
    exact readable_actionOutcomeCallback h hdata hok

/-- An execution that is running has no end yet to be shown. -/
theorem hasEnd_running (now : ℚ) (row : WorkflowStatus) : HasEnd (WorkflowStatus.running now row) := by
  rintro (hover | hover) <;> cases hover

/-- A completed row has its end. -/
theorem hasEnd_completed (now : ℚ) (row : WorkflowStatus) :
    HasEnd (WorkflowStatus.completed now row) :=
  fun _ => Option.some_ne_none now

/-- An aborted row has its end. -/
theorem hasEnd_aborted (now : ℚ) (row : WorkflowStatus) : HasEnd (WorkflowStatus.aborted now row) :=
  fun _ => Option.some_ne_none now

end

/-- Every handling leaves rows that can be read. -/
theorem readable_handleStatus {tables after : StatusTables} {handling : StatusHandling}
    (h : ReadableRows tables.rows) (hok : handleStatus tables handling = .ok after) :
    ReadableRows after.rows := by
  obtain ⟨clock, converted, event⟩ := handling
  cases event with
  | result event =>
    obtain ⟨arguments, harguments, hok⟩ := Except.bind_eq_ok.mp hok
    obtain ⟨rows, hrows, hok⟩ := Except.bind_eq_ok.mp hok
    cases hok
    exact readable_databaseCallback h (jsonIfDumps_arguments harguments) hrows
  | workflowExecutionStart sender =>
    obtain ⟨rows, hrows, hok⟩ := Except.bind_eq_ok.mp hok
    cases hok
    exact readable_changeWorkflow h (hasEnd_running clock.now) hrows
  | workflowShutdown sender =>
    obtain ⟨rows, hrows, hok⟩ := Except.bind_eq_ok.mp hok
    obtain ⟨tracked, htracked, hok⟩ := Except.bind_eq_ok.mp hok
    cases hok
    have hcompleted := readable_changeWorkflow h (hasEnd_completed clock.now) hrows
    unfold trackWorkflow at htracked
    split at htracked
    · cases htracked
      exact hcompleted.metrics _
    · cases htracked
  | workflowAborted sender =>
    obtain ⟨rows, hrows, hok⟩ := Except.bind_eq_ok.mp hok
    cases hok
    exact readable_abortLastAction (readable_changeWorkflow h (hasEnd_aborted clock.now) hrows) _
  | workflowResumed executionId =>
    cases hok
    exact h
  | triggerActionTaken executionId =>
    cases hok
    exact h
  | saveWorkflow saved =>
    unfold handleStatus at hok
    dsimp only at hok
    split_ifs at hok
    cases hok
    exact h

/-- Over a run the rows stay readable. -/
theorem readable_handleAll {run : List StatusHandling} {tables after : StatusTables}
    (h : ReadableRows tables.rows) (hok : handleAll run tables = .ok after) :
    ReadableRows after.rows := by
  unfold handleAll at hok
  induction run generalizing tables with
  | nil =>
    cases hok
    exact h
  | cons handling run ih =>
    rw [List.foldlM_cons] at hok
    obtain ⟨next, hnext, hrest⟩ := Except.bind_eq_ok.mp hok
    exact ih (readable_handleStatus h hnext) hrest

/-! ## Reading the rows -/

section

variable (rfc : ℚ → String)

/-- A time that is there is written. -/
theorem rfcColumn_ok {time : Option ℚ} (h : time ≠ none) :
    ∃ text, rfcColumn rfc time = .ok (.str text) := by
  obtain ⟨t, rfl⟩ := Option.ne_none_iff_exists'.mp h
  exact ⟨rfc t, rfl⟩

/-- A readable column is loaded as a writable value. -/
theorem loadColumn_ok {column : Option String} (h : ReadableColumn column) :
    ∃ v, loadColumn column = .ok v ∧ Writable v := by
  obtain ⟨text, v, rfl, hload, hwritable⟩ := h
  refine ⟨v, ?_, hwritable⟩
  simp only [loadColumn, hload]
  rfl

/-- The arguments in a readable column are shown as a writable value. -/
theorem argumentsJson_ok {column : Option String} (h : ReadableColumn column) :
    ∃ v, argumentsJson column = .ok v ∧ Writable v := by
  unfold argumentsJson
  split_ifs
  · exact ⟨.list [], rfl, _, rfl⟩
  · exact loadColumn_ok h

/-- The row of an action is given in every status. -/
theorem actionStatusJson_ok {row : ActionStatus} (h : ReadableAction row) :
    ∃ json, actionStatusJson rfc row = .ok json ∧ Writable json := by
  obtain ⟨arguments, harguments, hwritable⟩ := argumentsJson_ok h.arguments
  simp only [actionStatusJson, harguments, bind, Except.bind]
  by_cases houtcome : row.status = .success ∨ row.status = .failure
  · obtain ⟨hresult, hend⟩ := h.outcome houtcome
    obtain ⟨result, hload, hresult⟩ := loadColumn_ok hresult
    obtain ⟨completedAt, hcompleted⟩ := rfcColumn_ok rfc hend
    simp only [if_pos houtcome, hload, hcompleted]
    refine ⟨_, rfl, writable_dict ?_⟩
    simp [writable_str, hwritable, hresult]
  · rw [if_neg houtcome]
    refine ⟨_, rfl, writable_dict ?_⟩
    simp [writable_str, hwritable]

/-- Readable rows of actions are all shown. -/
theorem actionStatusesJson_ok {rows : List ActionStatus} (h : ∀ row ∈ rows, ReadableAction row) :
    ∃ jsons, rows.mapM (actionStatusJson rfc) = .ok jsons ∧ ∀ json ∈ jsons, Writable json := by
  induction rows with
  | nil => exact ⟨[], rfl, List.forall_mem_nil _⟩
  | cons row rows ih =>
    obtain ⟨hrow, hrows⟩ := List.forall_mem_cons.mp h
    obtain ⟨json, hjson, hwritable⟩ := actionStatusJson_ok rfc hrow
    obtain ⟨jsons, hjsons, hall⟩ := ih hrows
    rw [List.mapM_cons, hjson, hjsons]
    exact ⟨json :: jsons, rfl, List.forall_mem_cons.mpr ⟨hwritable, hall⟩⟩

/-- The rows of the actions of an execution are readable. -/
theorem readable_actionStatuses {tables : Tables} (h : ReadableRows tables) (executionId : UUID) :
    ∀ row ∈ tables.actionStatuses executionId, ReadableAction row := by
  intro row hrow
  obtain ⟨item, hitem, rfl⟩ := List.mem_map.mp hrow
  exact h.actions item (List.mem_filter.mp hitem).1

/-- The entry of the user is writable. -/
theorem writable_userEntry (row : WorkflowStatus) : ∀ item ∈ userEntry row, Writable item.2 := by
  unfold userEntry
  split
  · split_ifs <;> simp [writable_str]
  · simp

/-- The summary of an action is writable. -/
theorem writable_summaryJson (row : ActionStatus) : Writable (summaryJson row) :=
  writable_dict (by simp [writable_str])

/-- The entry of the current action is writable. -/
theorem writable_currentAction (executionId : UUID) (row : WorkflowStatus) (tables : Tables) :
    ∀ item ∈ currentAction executionId row tables, Writable item.2 := by
  unfold currentAction
  split
  · split_ifs <;> simp [writable_summaryJson]
  · simp

/-- A row with an end shows when it was completed. -/
theorem completedEntry_ok {row : WorkflowStatus} (h : HasEnd row) :
    ∃ items, completedEntry rfc row = .ok items ∧ ∀ item ∈ items, Writable item.2 := by
  unfold completedEntry
  split_ifs with hover
  · obtain ⟨text, htext⟩ := rfcColumn_ok rfc (h hover)
    rw [htext]
    exact ⟨_, rfl, by simp [writable_str]⟩
  · exact ⟨[], rfl, by simp⟩

/-- The entries of the actions are shown. -/
theorem actionEntries_ok {tables : Tables} (h : ReadableRows tables) (fullActions : Bool)
    (row : WorkflowStatus) :
    ∃ items, actionEntries rfc fullActions row tables = .ok items ∧
      ∀ item ∈ items, Writable item.2 := by
  unfold actionEntries
  cases fullActions with
  | true =>
    obtain ⟨jsons, hjsons, hall⟩ :=
      actionStatusesJson_ok rfc (readable_actionStatuses h row.executionId)
    rw [if_pos rfl, hjsons]
    exact ⟨_, rfl, by simpa using writable_list hall⟩
  | false => exact ⟨_, rfl, writable_currentAction row.executionId row tables⟩

/-- The row of an execution is given while it runs and when it is over. -/
theorem workflowStatusJson_ok {row : WorkflowStatus} {tables : Tables} (hend : HasEnd row)
    (h : ReadableRows tables) (fullActions : Bool) :
    ∃ json, workflowStatusJson rfc fullActions row tables = .ok json ∧ Writable json := by
  obtain ⟨completed, hcompleted, hcompletedItems⟩ := completedEntry_ok rfc hend
  obtain ⟨actions, hactions, hactionsItems⟩ := actionEntries_ok rfc h fullActions row
  unfold workflowStatusJson
  rw [hcompleted, hactions]
  refine ⟨_, rfl, writable_dict fun item hitem => ?_⟩
  simp only [List.mem_append] at hitem
  obtain (((hfixed | huser) | hstarted) | hcompleted) | haction := hitem
  · revert hfixed
    revert item
    simp [writable_str]
  · exact writable_userEntry row item huser
  · cases hstart : row.startedAt with
    | none => simp [hstart] at hstarted
    | some time =>
      obtain rfl : item = ("started_at", .str (rfc time)) := by simpa [hstart] using hstarted
      exact writable_str _
  · exact hcompletedItems item hcompleted
  · exact hactionsItems item haction

end

/-- After any run of the receivers each row can be given to a client, with all its actions or with
the current one. -/
theorem statuses_readable (rfc : ℚ → String) {run : List StatusHandling} {after : StatusTables}
    (h : handleAll run .start = .ok after) {executionId : UUID} {row : WorkflowStatus}
    (hrow : after.rows.workflow executionId = some row) (fullActions : Bool) :
    ∃ json, workflowStatusJson rfc fullActions row after.rows = .ok json ∧ Writable json := by
  have hrows := readable_handleAll readableRows_start h
  exact workflowStatusJson_ok rfc (hrows.workflows _ (OrderedDict.mem_of_get? hrow)) hrows fullActions

/-- An execution that starts one action and is then over, without a word of how the action ended. -/
def oneExecution : List StatusHandling :=
  let sender : WorkflowSender := { name := "scan", id := 1, executionId := 10 }
  let action : ActionSender :=
    { name := "ping", id := 2, executionId := 11, appName := "Network", actionName := "ping"
      arguments := [] }
  [⟨⟨0, "0Z"⟩, false, .result (.workflowExecutionPending sender none)⟩,
   ⟨⟨1, "1Z"⟩, false, .workflowExecutionStart sender⟩,
   ⟨⟨2, "2Z"⟩, false, .result (.actionStarted action sender)⟩,
   ⟨⟨3, "3Z"⟩, false, .workflowShutdown sender⟩]

/-- The row of one execution with an action is shown. -/
theorem statuses_readable_one :
    ∃ after row, handleAll oneExecution .start = .ok after ∧ after.rows.workflow 10 = some row ∧
      ∃ json, workflowStatusJson (fun _ => "date") true row after.rows = .ok json ∧
        Writable json :=
  ⟨_, _, rfl, rfl, @statuses_readable (fun _ => "date") oneExecution _ rfl 10 _ rfl true⟩

end Walkoff.Analysis
