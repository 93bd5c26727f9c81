import Walkoff.Analysis.ExecutionIsolation
import Walkoff.Library.Transition
import Walkoff.Program.ExecutionPage

/-!
# The page mirrors the rows

What the page of the executions shows is a dictionary from executions to statuses, and a message of
the workflow stream sets one of its keys. Once the statuses are loaded and the stream is open, the
statuses on the page, with what is still on its way, are therefore those of the rows for every
execution that something has happened to since, but for the two events that leave the row as it is.
For the others they are if nothing happened while the page was loading.
-/

set_option autoImplicit false

namespace Walkoff.Analysis

open Walkoff.Model hiding WorkflowStatus eventToProtobuf
open Walkoff.Model.Results hiding WorkflowStatus
open Walkoff.Program Walkoff.Program.Results Walkoff.Program.Client
open Walkoff.Program.ResultsCodec (Dict)
open Walkoff.Library (OrderedDict follow Except.bind_eq_ok)

/-! ## What an event says about its execution -/

/-- The status that a result records. -/
def resultRecords : ResultEvent → Option WorkflowStatusEnum
  | .workflowExecutionPending _ _ => some .pending
  | .workflowPaused _ => some .paused
  | .triggerActionAwaitingData _ _ => some .awaitingData
  | .actionStarted _ _ | .actionOutcome _ _ _ _ _ => none

/-- The status that the receiver of an event puts into the row. -/
def recordedStatus : StatusEvent → Option WorkflowStatusEnum
  | .result event => resultRecords event
  | .workflowExecutionStart _ => some .running
  | .workflowShutdown _ => some .completed
  | .workflowAborted _ => some .aborted
  | .workflowResumed _ | .triggerActionTaken _ | .saveWorkflow _ => none

/-- The status in the message that is pushed for an event. -/
def streamedStatus : StatusEvent → Option WorkflowStatusEnum
  | .workflowResumed _ => some .running
  | .triggerActionTaken _ => some .pending
  | event => recordedStatus event

/-- The two events whose message runs ahead of the row. -/
def StatusEvent.ahead : StatusEvent → Bool
  | .workflowResumed _ | .triggerActionTaken _ => true
  | _ => false

/-- But for the pushes that run ahead, the recorded status is the streamed one. -/
theorem recordedStatus_of_not_ahead {event : StatusEvent} (h : StatusEvent.ahead event = false) :
    recordedStatus event = streamedStatus event := by
  cases event <;> first | rfl | cases h

/-! ## The rows of the server -/

/-- Every row stands under its own execution, once. -/
structure RowsByKey (tables : Tables) : Prop where
  nodup : tables.workflowStatus.keys.Nodup
  own : ∀ item ∈ tables.workflowStatus, item.2.executionId = item.1

/-- What a handling does to the rows of the executions: at most one row changes. -/
def ChangesRow (event : StatusEvent) (before after : Tables) : Prop :=
  match recordedStatus event with
  | none => after.workflowStatus = before.workflowStatus
  | some status => ∃ row : Results.WorkflowStatus, row.status = status ∧
      row.executionId = event.executionId ∧
      after.workflowStatus = before.workflowStatus.set event.executionId row

section

variable {tables after : Tables}

/-- The row of an execution is its own. -/
theorem RowsByKey.workflow (h : RowsByKey tables) {executionId : UUID}
    {row : Results.WorkflowStatus} (hrow : tables.workflow executionId = some row) :
    row.executionId = executionId :=
  h.own (executionId, row) (OrderedDict.mem_of_get? hrow)

/-- A row set under its own execution keeps the rows by their keys. -/
theorem RowsByKey.set (h : RowsByKey tables) {executionId : UUID} {row : Results.WorkflowStatus}
    (hrow : row.executionId = executionId)
    (hafter : after.workflowStatus = tables.workflowStatus.set executionId row) :
    RowsByKey after where
  nodup := by
    rw [hafter]
    exact OrderedDict.nodup_keys_set h.nodup row
  own item hitem := by
    rw [hafter] at hitem
    rcases OrderedDict.mem_set hitem with rfl | hmem
    · exact hrow
    · exact h.own item hmem

/-- Changing the row of an execution sets it under its key with the new status. -/
theorem changeWorkflow_spec (h : RowsByKey tables) {executionId : UUID}
    (change : Results.WorkflowStatus → Results.WorkflowStatus) {status : WorkflowStatusEnum}
    (hstatus : ∀ row, (change row).status = status)
    (hid : ∀ row, (change row).executionId = row.executionId)
    (hok : changeWorkflow executionId change tables = .ok after) :
    ∃ row : Results.WorkflowStatus, row.status = status ∧ row.executionId = executionId ∧
      after.workflowStatus = tables.workflowStatus.set executionId row := by
  unfold changeWorkflow at hok
  cases hworkflow : tables.workflow executionId with
  | none =>
    rw [hworkflow] at hok
    cases hok
  | some row =>
    rw [hworkflow] at hok
    cases hok
    exact ⟨change row, hstatus row, (hid row).trans (h.workflow hworkflow), rfl⟩

/-- The same of setting its status. -/
theorem setWorkflowStatus_spec (h : RowsByKey tables) {executionId : UUID}
    {status : WorkflowStatusEnum}
    (hok : setWorkflowStatus executionId status tables = .ok after) :
    ∃ row : Results.WorkflowStatus, row.status = status ∧ row.executionId = executionId ∧
      after.workflowStatus = tables.workflowStatus.set executionId row := by
  exact changeWorkflow_spec h (fun row => { row with status }) (fun _ => rfl) (fun _ => rfl) hok

/-- The same of making it pending. -/
theorem pendingCallback_spec (h : RowsByKey tables) (sender : WorkflowSender)
    (user : Option String) :
    ∃ row : Results.WorkflowStatus, row.status = .pending ∧
      row.executionId = sender.executionId ∧
      (pendingCallback sender user tables).workflowStatus =
        tables.workflowStatus.set sender.executionId row := by
  unfold pendingCallback
  cases hworkflow : tables.workflow sender.executionId with
  | none => exact ⟨_, rfl, rfl, rfl⟩
  | some row =>
    have hid := h.workflow hworkflow
    exact ⟨{ row with status := .pending }, rfl, hid, rfl⟩

/-- Setting the last action to wait leaves the rows of the workflows. -/
theorem awaitLastAction_workflowStatus (executionId : UUID) (tables : Tables) :
    (awaitLastAction executionId tables).workflowStatus = tables.workflowStatus := by
  unfold awaitLastAction
  split <;> rfl

/-- The same of aborting it. -/
theorem abortLastAction_workflowStatus (executionId : UUID) (tables : Tables) :
    (abortLastAction executionId tables).workflowStatus = tables.workflowStatus := by
  unfold abortLastAction
  split <;> rfl

/-- The same of the start of an action. -/
theorem actionStartCallback_workflowStatus {sender : ActionSender} {workflow : WorkflowSender}
    {arguments : List Dict} {clock : Clock}
    (hok : actionStartCallback sender workflow arguments clock tables = .ok after) :
    after.workflowStatus = tables.workflowStatus := by
  unfold actionStartCallback at hok
  cases haction : tables.action sender.executionId with
  | some row =>
    rw [haction] at hok
    cases hok
    rfl
  | none =>
    rw [haction] at hok
    obtain ⟨text, -, hok⟩ := Except.bind_eq_ok.mp hok
    cases hworkflow : tables.workflow workflow.executionId with
    | none =>
      rw [hworkflow] at hok
      cases hok
    | some row =>
      rw [hworkflow] at hok
      cases hok
      rfl

/-- The same of the outcome of an action. -/
theorem actionOutcomeCallback_workflowStatus {outcome : ActionOutcome} {sender : ActionSender}
    {data : PyVal} {clock : Clock}
    (hok : actionOutcomeCallback outcome sender data clock tables = .ok after) :
    after.workflowStatus = tables.workflowStatus := by
  unfold actionOutcomeCallback at hok
  cases haction : tables.action sender.executionId with
  | none =>
    rw [haction] at hok
    cases hok
  | some row =>
    rw [haction] at hok
    obtain ⟨result, -, hok⟩ := Except.bind_eq_ok.mp hok
    obtain ⟨text, -, hok⟩ := Except.bind_eq_ok.mp hok
    cases hok
    rfl

/-- The receiver of an event changes at most its row. -/
theorem databaseCallback_changesRow (h : RowsByKey tables) {event : ResultEvent}
    {arguments : List Dict} {clock : Clock}
    (hok : databaseCallback clock arguments event tables = .ok after) :
    ChangesRow (.result event) tables after := by
  cases event with
  | workflowExecutionPending sender user =>
    cases hok
    exact pendingCallback_spec h sender user
  | workflowPaused sender => exact setWorkflowStatus_spec h hok
  | triggerActionAwaitingData sender workflow =>
    obtain ⟨rows, hrows, hok⟩ := Except.bind_eq_ok.mp hok
    cases hok
    obtain ⟨row, hstatus, hid, hset⟩ := setWorkflowStatus_spec h hrows
    exact ⟨row, hstatus, hid, (awaitLastAction_workflowStatus _ _).trans hset⟩
  | actionStarted sender workflow => exact actionStartCallback_workflowStatus hok
  | actionOutcome outcome sender workflow data hdata =>
    exact actionOutcomeCallback_workflowStatus hok

end

/-- Handling a status changes at most its row. -/
theorem handleStatus_changesRow {tables after : StatusTables} {handling : StatusHandling}
    (h : RowsByKey tables.rows) (hok : handleStatus tables handling = .ok after) :
    ChangesRow handling.event tables.rows after.rows := by
  obtain ⟨clock, converted, event⟩ := handling
  cases event with
  | result event =>
    obtain ⟨arguments, -, hok⟩ := Except.bind_eq_ok.mp hok
    obtain ⟨rows, hrows, hok⟩ := Except.bind_eq_ok.mp hok
    cases hok
    exact databaseCallback_changesRow h hrows
  | workflowExecutionStart sender =>
    obtain ⟨rows, hrows, hok⟩ := Except.bind_eq_ok.mp hok
    cases hok
    exact changeWorkflow_spec h (WorkflowStatus.running clock.now) (fun _ => rfl) (fun _ => rfl)
      hrows
  | workflowShutdown sender =>
    obtain ⟨rows, hrows, hok⟩ := Except.bind_eq_ok.mp hok
    obtain ⟨tracked, htracked, hok⟩ := Except.bind_eq_ok.mp hok
    cases hok
    obtain ⟨row, hstatus, hid, hset⟩ :=
      changeWorkflow_spec h (WorkflowStatus.completed clock.now) (fun _ => rfl) (fun _ => rfl) hrows
    refine ⟨row, hstatus, hid, ?_⟩
    unfold trackWorkflow at htracked
    split at htracked
    · cases htracked
      exact hset
    · cases htracked
  | workflowAborted sender =>
    obtain ⟨rows, hrows, hok⟩ := Except.bind_eq_ok.mp hok
    cases hok
    obtain ⟨row, hstatus, hid, hset⟩ :=
      changeWorkflow_spec h (WorkflowStatus.aborted clock.now) (fun _ => rfl) (fun _ => rfl) hrows
    exact ⟨row, hstatus, hid, (abortLastAction_workflowStatus _ _).trans hset⟩
  | workflowResumed executionId =>
    cases hok
    rfl
  | triggerActionTaken executionId =>
    cases hok
    rfl
  | saveWorkflow saved =>
    unfold handleStatus at hok
    dsimp only at hok
    split_ifs at hok
    cases hok
    rfl

/-- Such a change keeps the rows by their keys. -/
theorem RowsByKey.changed {event : StatusEvent} {before after : Tables} (h : RowsByKey before)
    (hchange : ChangesRow event before after) : RowsByKey after := by
  unfold ChangesRow at hchange
  cases hstatus : recordedStatus event with
  | none =>
    rw [hstatus] at hchange
    exact ⟨hchange ▸ h.nodup, hchange ▸ h.own⟩
  | some status =>
    rw [hstatus] at hchange
    obtain ⟨row, -, hid, hset⟩ := hchange
    exact h.set hid hset

/-- Over a run, the rows stay by their keys. -/
theorem rowsByKey_handleAll {run : List StatusHandling} {tables after : StatusTables}
    (h : RowsByKey tables.rows) (hok : handleAll run tables = .ok after) :
    RowsByKey after.rows := by
  unfold handleAll at hok
  induction run generalizing tables with
  | nil =>
    cases hok
    exact h
  | cons handling run ih =>
    rw [List.foldlM_cons] at hok
    obtain ⟨next, hnext, hrest⟩ := Except.bind_eq_ok.mp hok
    exact ih (h.changed (handleStatus_changesRow h hnext)) hrest

/-- At the start there are no rows. -/
theorem rowsByKey_start : RowsByKey StatusTables.start.rows :=
  ⟨List.nodup_nil, List.forall_mem_nil _⟩

/-- The status of an execution in the rows, as its name. -/
def statusName (executionId : UUID) (tables : Tables) : Option String :=
  (tables.workflow executionId).map fun row => workflowStatusName row.status

/-- After a change the execution of the event has its status, and the others theirs. -/
theorem statusName_changed {event : StatusEvent} {before after : Tables}
    (hchange : ChangesRow event before after) (executionId : UUID) :
    statusName executionId after =
      if event.executionId = executionId then
        ((recordedStatus event).map workflowStatusName).or (statusName executionId before)
      else statusName executionId before := by
  unfold ChangesRow at hchange
  unfold statusName Tables.workflow
  cases hstatus : recordedStatus event with
  | none =>
    rw [hstatus] at hchange
    rw [hchange]
    simp
  | some status =>
    rw [hstatus] at hchange
    obtain ⟨row, hrow, -, hset⟩ := hchange
    rw [hset, OrderedDict.get?_set]
    by_cases hid : event.executionId = executionId
    · simp [hid, hrow]
    · rw [if_neg (Ne.symm hid), if_neg hid]

/-! ## What the page shows -/

/-- The executions on the page with their statuses. -/
def shown (page : ExecutionComponent) : OrderedDict (Option String) (Option String) :=
  page.workflowStatuses.map fun status => (status.executionId, status.status)

/-- The execution and the status that a message states. -/
def stated (message : Push) : Option String × Option String :=
  (stringField "execution_id" message.data, stringField "status" message.data)

section

variable {k : Option String} {change : Client.WorkflowStatus → Client.WorkflowStatus}

/-- A change that keeps the statuses keeps what is shown. -/
theorem map_changeFirst_of_kept (hid : ∀ old, (change old).executionId = old.executionId)
    (hstatus : ∀ old, (change old).status = old.status) (statuses : List Client.WorkflowStatus) :
    (changeFirst k change statuses).map (fun s => (s.executionId, s.status)) =
      statuses.map fun s => (s.executionId, s.status) := by
  induction statuses with
  | nil => rfl
  | cons status statuses ih =>
    by_cases h : status.executionId = k
    · simp [changeFirst, h, hid, hstatus]
    · simp [changeFirst, h, ih]

/-- A change to one status shows it for the execution it is about. -/
theorem map_changeFirst_set {v : Option String}
    (hid : ∀ old, (change old).executionId = old.executionId)
    (hstatus : ∀ old, (change old).status = v) {statuses : List Client.WorkflowStatus}
    (hk : ∃ status ∈ statuses, status.executionId = k) :
    (changeFirst k change statuses).map (fun s => (s.executionId, s.status)) =
      OrderedDict.set k v (statuses.map fun s => (s.executionId, s.status)) := by
  induction statuses with
  | nil => simp at hk
  | cons status statuses ih =>
    by_cases h : status.executionId = k
    · simp [changeFirst, OrderedDict.set, h, hid, hstatus]
    · have hk : ∃ other ∈ statuses, other.executionId = k := by simpa [h] using hk
      simp [changeFirst, OrderedDict.set, h, ih hk]

end

/-- Following an event keeps the execution. -/
theorem followEvent_executionId (type : String) (event : WorkflowStatusEvent)
    (old : Client.WorkflowStatus) : (followEvent type event old).executionId = old.executionId := by
  unfold followEvent
  split <;> rfl

/-- Following an event takes its status. -/
theorem followEvent_status (type : String) (event : WorkflowStatusEvent)
    (old : Client.WorkflowStatus) : (followEvent type event old).status = event.status := by
  unfold followEvent
  split <;> rfl

/-- A message sets the status of its execution, whether the page has it yet or not. -/
theorem shown_workflowStatusEventHandler (page : ExecutionComponent) (message : Push) :
    shown (workflowStatusEventHandler page message) =
      (shown page).set (stated message).1 (stated message).2 := by
  unfold workflowStatusEventHandler
  dsimp only
  by_cases hany : page.workflowStatuses.any
      (·.executionId = (WorkflowStatusEvent.ofPlain message.data).executionId) = true
  · rw [if_pos hany]
    refine map_changeFirst_set (followEvent_executionId _ _) (followEvent_status _ _) ?_
    simpa using hany
  · rw [if_neg hany]
    have habsent : (stated message).1 ∉ (shown page).keys := by
      intro hkey
      obtain ⟨item, hitem, heq⟩ := List.mem_map.mp hkey
      obtain ⟨status, hmem, rfl⟩ := List.mem_map.mp hitem
      exact hany (List.any_eq_true.mpr ⟨status, hmem, decide_eq_true heq⟩)
    rw [OrderedDict.set_of_not_mem habsent]
    exact List.map_append

/-- The event of an action changes nothing that is shown. -/
theorem shown_actionStatusEventHandler (page : ExecutionComponent) (message : Push) :
    shown (actionStatusEventHandler page message) = shown page := by
  unfold shown actionStatusEventHandler
  refine map_changeFirst_of_kept ?_ ?_ _ <;> exact fun _ => rfl

/-- The timer changes nothing that is shown. -/
theorem shown_elapse (timer : Timer) (page : ExecutionComponent) :
    shown (elapse timer page) = shown page := by
  unfold shown elapse
  refine map_changeFirst_of_kept ?_ ?_ _ <;> exact fun _ => rfl

/-! ## What a message states -/

/-- The message of a result states the execution and the status. -/
theorem stated_formatWorkflowResult (clock : Clock) (sender : WorkflowSender) (status : String)
    (tables : Tables) (event : String) (subchannels : List String) :
    stated { event, data := formatWorkflowResult clock sender status tables, subchannels } =
      (some sender.executionId.str, some status) := by
  unfold formatWorkflowResult
  cases tables.workflow sender.executionId <;> simp [stated, stringField, OrderedDict.get?]

/-- The same of a message with the current step. -/
theorem stated_withCurrentStep {tables : Tables} (h : RowsByKey tables) (clock : Clock)
    (executionId : UUID) (status : String) (event : String) (subchannels : List String) :
    stated { event, data := formatWorkflowResultWithCurrentStep clock executionId status tables
             subchannels } = (some executionId.str, some status) := by
  unfold formatWorkflowResultWithCurrentStep
  cases hworkflow : tables.workflow executionId with
  | none => simp [stated, stringField, OrderedDict.get?]
  | some row => simp [stated, stringField, OrderedDict.get?, h.workflow hworkflow]

/-- The message of an event states the status that goes with it, and there is one only then. -/
theorem stated_statusPush {tables : Tables} (h : RowsByKey tables) (clock : Clock)
    (event : StatusEvent) :
    (statusPush clock tables event).map stated = (streamedStatus event).map fun status =>
      (some event.executionId.str, some (workflowStatusName status)) := by
  cases event with
  | result event =>
    cases event with
    | workflowExecutionPending sender user =>
      exact congrArg some (stated_formatWorkflowResult _ _ _ _ _ _)
    | workflowPaused sender => exact congrArg some (stated_withCurrentStep h _ _ _ _ _)
    | triggerActionAwaitingData sender workflow =>
      exact congrArg some (stated_withCurrentStep h _ _ _ _ _)
    | actionStarted sender workflow => rfl
    | actionOutcome outcome sender workflow data hdata => rfl
  | workflowExecutionStart sender => exact congrArg some (stated_formatWorkflowResult _ _ _ _ _ _)
  | workflowShutdown sender => exact congrArg some (stated_formatWorkflowResult _ _ _ _ _ _)
  | workflowAborted sender => exact congrArg some (stated_formatWorkflowResult _ _ _ _ _ _)
  | workflowResumed executionId => exact congrArg some (stated_withCurrentStep h _ _ _ _ _)
  | triggerActionTaken executionId => exact congrArg some (stated_withCurrentStep h _ _ _ _ _)
  | saveWorkflow saved => rfl

/-! ## The site -/

/-- The page once everything on the workflow stream has arrived. -/
def arriving (site : Site) : OrderedDict (Option String) (Option String) :=
  (shown site.page).update (site.workflowStream.map stated)

/-- The page, with what is on its way, has the status of the rows for an execution. -/
def Mirrors (executionId : UUID) (site : Site) : Prop :=
  OrderedDict.get? (some executionId.str) (arriving site) =
    (statusName executionId site.tables.rows).map some

/-- The event of an execution that is pushed in a step, if there is one. -/
def saidOf (executionId : UUID) : SiteStep → Option StatusEvent
  | .handle _ handling =>
    if handling.event.executionId = executionId ∧ (streamedStatus handling.event).isSome then
      some handling.event
    else none
  | _ => none

/-- The last event of an execution that has been pushed. -/
def lastSaid (executionId : UUID) (steps : List SiteStep) : Option StatusEvent :=
  (steps.filterMap (saidOf executionId)).getLast?

/-- The server handles no event in the step. -/
def QuietStep : SiteStep → Prop
  | .handle _ _ => False
  | _ => True

/-- The workflow stream is neither lost nor opened again in the step. -/
def KeepsStream : SiteStep → Prop
  | .openStream | .loseStream => False
  | _ => True

/-- The statuses are loaded and the workflow stream is open. -/
structure PageSettled (site : Site) : Prop where
  loaded : site.loading = .done
  streams : site.workflowOpen = true

section

variable {setup : SiteSetup} {site next : Site}

/-- A step of the server, taken apart. -/
theorem next_handle {pushedFirst : Bool} {handling : StatusHandling}
    (h : Site.next setup site (.handle pushedFirst handling) = some next) :
    handleStatus site.tables handling = .ok next.tables ∧ next.page = site.page ∧
      (PageSettled site → PageSettled next ∧ ∃ rows, (rows = site.tables.rows ∨ rows = next.tables.rows) ∧
        next.workflowStream =
          site.workflowStream ++ (statusPush handling.clock rows handling.event).toList) := by
  unfold Site.next at h
  dsimp only at h
  split at h
  · rename_i tables push htables hpush
    cases h
    refine ⟨htables, rfl, fun hsettled => ⟨⟨hsettled.loaded, hsettled.streams⟩, ?_⟩⟩
    rw [hsettled.streams, if_pos rfl]
    refine ⟨_, ?_, rfl⟩
    cases pushedFirst <;> simp
  · cases h

/-- Once the page is settled the other steps leave the rows and what the page is going to show as
they are. -/
theorem arriving_next {step : SiteStep} (hsettled : PageSettled site) (hkeeps : KeepsStream step)
    (hquiet : QuietStep step) (h : Site.next setup site step = some next) :
    PageSettled next ∧ next.tables = site.tables ∧ arriving next = arriving site := by
  unfold Site.next at h
  cases step with
  | handle pushedFirst handling => exact hquiet.elim
  | openStream => exact hkeeps.elim
  | loseStream => exact hkeeps.elim
  | answerPage =>
    simp only [hsettled.loaded] at h
    cases h
  | loaded =>
    simp only [hsettled.loaded] at h
    cases h
  | openActionStream =>
    cases h
    exact ⟨⟨hsettled.loaded, hsettled.streams⟩, rfl, rfl⟩
  | loseActionStream =>
    cases h
    exact ⟨⟨hsettled.loaded, hsettled.streams⟩, rfl, rfl⟩
  | deliver =>
    dsimp only at h
    split at h
    · rename_i message rest hstream
      cases h
      refine ⟨⟨hsettled.loaded, hsettled.streams⟩, rfl, ?_⟩
      unfold arriving
      rw [shown_workflowStatusEventHandler, hstream]
      rfl
    · cases h
  | deliverAction =>
    dsimp only at h
    split at h
    · cases h
      refine ⟨⟨hsettled.loaded, hsettled.streams⟩, rfl, ?_⟩
      unfold arriving
      rw [shown_actionStatusEventHandler]
    · cases h
  | elapse i =>
    dsimp only at h
    split at h
    · rename_i timer htimer
      cases h
      exact ⟨⟨hsettled.loaded, hsettled.streams⟩, rfl,
        congrArg (OrderedDict.update · _) (shown_elapse timer site.page)⟩
    · cases h

/-- Only the server changes the rows. -/
theorem tables_next {step : SiteStep} (hquiet : QuietStep step)
    (h : Site.next setup site step = some next) : next.tables = site.tables := by
  unfold Site.next at h
  cases step with
  | handle pushedFirst handling => exact hquiet.elim
  | openStream | loseStream | openActionStream | loseActionStream => cases h; rfl
  | answerPage | loaded | deliver | deliverAction | elapse i =>
    dsimp only at h
    split at h
    · cases h
      rfl
    · cases h

/-- The rows stay under their executions. -/
theorem rowsByKey_next {step : SiteStep} (hrows : RowsByKey site.tables.rows)
    (h : Site.next setup site step = some next) : RowsByKey next.tables.rows := by
  cases step with
  | handle pushedFirst handling =>
    exact hrows.changed (handleStatus_changesRow hrows (next_handle h).1)
  | _ => exact tables_next (by trivial) h ▸ hrows

/-- The rows stay under their executions along a run. -/
theorem rowsByKey_follow {steps : List SiteStep} (hrows : RowsByKey site.tables.rows)
    (h : follow (Site.next setup) site steps = some next) : RowsByKey next.tables.rows :=
  (Library.Run.of_follow h).invariant (fun _ _ _ hrows h => rowsByKey_next hrows h) hrows

/-- What the page is going to show after the server has handled an event. -/
theorem arriving_handle {pushedFirst : Bool} {handling : StatusHandling}
    (hrows : RowsByKey site.tables.rows) (hsettled : PageSettled site)
    (h : Site.next setup site (.handle pushedFirst handling) = some next)
    (executionId : UUID) :
    OrderedDict.get? (some executionId.str) (arriving next) =
      if handling.event.executionId = executionId then
        ((streamedStatus handling.event).map fun status => some (workflowStatusName status)).or
          (OrderedDict.get? (some executionId.str) (arriving site))
      else OrderedDict.get? (some executionId.str) (arriving site) := by
  have hnext := rowsByKey_next hrows h
  obtain ⟨-, hpage, hpushes⟩ := next_handle h
  obtain ⟨-, rows, hbefore, hstream⟩ := hpushes hsettled
  have hrows : RowsByKey rows := by
    rcases hbefore with rfl | rfl
    · exact hrows
    · exact hnext
  have hstated := stated_statusPush hrows handling.clock handling.event
  unfold arriving
  rw [hpage, hstream]
  cases hpush : statusPush handling.clock rows handling.event with
  | none =>
    rw [hpush] at hstated
    have hsilent : streamedStatus handling.event = none := by simpa using hstated.symm
    simp [hsilent]
  | some message =>
    rw [hpush] at hstated
    obtain ⟨status, hstatus, hmessage⟩ := Option.map_eq_some_iff.mp hstated.symm
    rw [Option.toList_some, List.map_append, List.map_singleton,
      OrderedDict.update_append, OrderedDict.update_singleton, ← hmessage, OrderedDict.get?_set,
      hstatus]
    by_cases hid : handling.event.executionId = executionId
    · simp [hid]
    · have hstr : executionId.str ≠ handling.event.executionId.str := fun heq =>
        hid (UUID.str_injective heq).symm
      simp [hid, hstr]

/-- One step keeps the mirror for an execution that is not named, and sets it right for one whose
event has reached its row. -/
theorem mirrors_next {step : SiteStep} (hrows : RowsByKey site.tables.rows)
    (hsettled : PageSettled site) (hkeeps : KeepsStream step)
    (h : Site.next setup site step = some next) (executionId : UUID) :
    PageSettled next ∧ (saidOf executionId step = none → Mirrors executionId site →
        Mirrors executionId next) ∧
      ∀ event, saidOf executionId step = some event → StatusEvent.ahead event = false →
        Mirrors executionId next := by
  cases step with
  | handle pushedFirst handling =>
    have harriving := arriving_handle hrows hsettled h executionId
    have hname := statusName_changed
      (handleStatus_changesRow hrows (next_handle h).1) executionId
    refine ⟨((next_handle h).2.2 hsettled).1, ?_⟩
    unfold Mirrors
    rw [harriving, hname]
    by_cases hid : handling.event.executionId = executionId
    · cases hstreamed : streamedStatus handling.event with
      | none =>
        have hrecorded : recordedStatus handling.event = none := by
          cases hevent : handling.event <;> rw [hevent] at hstreamed <;>
            first | exact hstreamed | cases hstreamed
        simp [saidOf, hid, hstreamed, hrecorded]
      | some status =>
        refine ⟨by simp [saidOf, hid, hstreamed], fun event hsaid hahead => ?_⟩
        obtain rfl : handling.event = event := by simpa [saidOf, hid, hstreamed] using hsaid
        rw [recordedStatus_of_not_ahead hahead, hstreamed]
        simp [hid]
    · simp [saidOf, hid]
  | _ =>
    obtain ⟨hnext, htables, harriving⟩ := arriving_next hsettled hkeeps (by trivial) h
    refine ⟨hnext, fun _ hmirrors => ?_, fun _ hsaid => by cases hsaid⟩
    unfold Mirrors
    rw [harriving, htables]
    exact hmirrors

/-- Along a run the mirror is kept for an execution that is not named, and is right for one whose
last event has reached its row. -/
theorem mirrors_follow {steps : List SiteStep} (hrows : RowsByKey site.tables.rows)
    (hsettled : PageSettled site) (hkeeps : ∀ step ∈ steps, KeepsStream step)
    (h : follow (Site.next setup) site steps = some next) (executionId : UUID) :
    (lastSaid executionId steps = none → Mirrors executionId site → Mirrors executionId next) ∧
      ∀ event, lastSaid executionId steps = some event → StatusEvent.ahead event = false →
        Mirrors executionId next := by
  induction steps generalizing site with
  | nil =>
    obtain rfl := Option.some.inj h
    exact ⟨fun _ hmirrors => hmirrors, by simp [lastSaid]⟩
  | cons step steps ih =>
    obtain ⟨middle, hstep, hrest⟩ := Option.bind_eq_some_iff.mp h
    obtain ⟨hkeepsFirst, hkeepsRest⟩ := List.forall_mem_cons.mp hkeeps
    obtain ⟨hmiddle, hkept, hset⟩ := mirrors_next hrows hsettled hkeepsFirst hstep executionId
    obtain ⟨hkeptRest, hsetRest⟩ := ih (rowsByKey_next hrows hstep) hmiddle hkeepsRest hrest
    cases hsaid : saidOf executionId step with
    | none =>
      have hlast : lastSaid executionId (step :: steps) = lastSaid executionId steps := by
        simp [lastSaid, hsaid]
      rw [hlast]
      exact ⟨fun hnone hmirrors => hkeptRest hnone (hkept hsaid hmirrors), hsetRest⟩
    | some said =>
      have hlast : lastSaid executionId (step :: steps) =
          some ((lastSaid executionId steps).getD said) := by
        simp [lastSaid, hsaid, List.getLast?_cons]
      rw [hlast]
      refine ⟨by simp, fun event hevent hahead => ?_⟩
      cases hlater : lastSaid executionId steps with
      | none =>
        obtain rfl : said = event := by simpa [hlater] using hevent
        exact hkeptRest hlater (hset said hsaid hahead)
      | some later =>
        obtain rfl : later = event := by simpa [hlater] using hevent
        exact hsetRest later hlater hahead

end

/-- What is on its way does not matter for an execution that it does not name. -/
theorem get?_arriving {site : Site} {executionId : UUID}
    (h : ∀ message ∈ site.workflowStream,
      stringField "execution_id" message.data ≠ some executionId.str) :
    OrderedDict.get? (some executionId.str) (arriving site) =
      OrderedDict.get? (some executionId.str) (shown site.page) := by
  refine OrderedDict.get?_update_of_not_mem (fun hkey => ?_) _
  obtain ⟨item, hitem, heq⟩ := List.mem_map.mp hkey
  obtain ⟨message, hmessage, rfl⟩ := List.mem_map.mp hitem
  exact h message hmessage heq

/-! ## Loading the page -/

/-- What the page loads of a row has its execution and its status. -/
theorem ofPlain_workflowStatusJson {rfc : ℚ → String} {row : Results.WorkflowStatus}
    {tables : Tables} {data : Dict}
    (h : workflowStatusJson rfc false row tables = .ok (.dict data)) :
    (WorkflowStatus.ofPlain data).executionId = some row.executionId.str ∧
      (WorkflowStatus.ofPlain data).status = some (workflowStatusName row.status) := by
  obtain ⟨completed, -, h⟩ := Except.bind_eq_ok.mp h
  obtain ⟨actions, -, h⟩ := Except.bind_eq_ok.mp h
  cases h
  simp [WorkflowStatus.ofPlain, stringField, OrderedDict.get?]

/-- The statuses of rows have their executions and the names of their statuses. -/
theorem map_of_mapM_plainStatus {rfc : ℚ → String} {tables : Tables}
    {rows : List Results.WorkflowStatus} {statuses : List Client.WorkflowStatus}
    (h : rows.mapM (plainStatus rfc tables) = .ok statuses) :
    statuses.map (fun status => (status.executionId, status.status)) = rows.map fun row =>
      (some row.executionId.str, some (workflowStatusName row.status)) := by
  induction rows generalizing statuses with
  | nil =>
    cases h
    rfl
  | cons row rows ih =>
    obtain ⟨status, rest, hstatus, hrest, rfl⟩ := Library.Except.mapM_cons_eq_ok.mp h
    rw [List.map_cons, List.map_cons, ih hrest]
    obtain ⟨json, hjson, hstatus⟩ := Except.bind_eq_ok.mp hstatus
    cases json with
    | dict data =>
      cases hstatus
      obtain ⟨hid, hname⟩ := ofPlain_workflowStatusJson hjson
      rw [hid, hname]
    | _ => cases hstatus

/-- The rows as the server lists them. -/
def listedRows (setup : SiteSetup) (tables : StatusTables) : List Results.WorkflowStatus :=
  setup.order.order (tables.rows.workflowStatus.map Prod.snd)

/-- How far the statuses are loaded while nothing happens: the pages so far are those of the rows. -/
def LoadedSoFar (setup : SiteSetup) (tables : StatusTables) (page : ExecutionComponent) :
    Loading → Prop
  | .asking n results => page.workflowStatuses = [] ∧
      ((listedRows setup tables).take (n * setup.itemsPerPage)).mapM
        (plainStatus setup.rfc tables.rows) = .ok results
  | .answered results =>
      (listedRows setup tables).mapM (plainStatus setup.rfc tables.rows) = .ok results
  | .done => (listedRows setup tables).mapM (plainStatus setup.rfc tables.rows) =
      .ok page.workflowStatuses
  | .failed => True

/-- Nothing has happened since the page was opened but that statuses were loaded. -/
structure QuietSo (setup : SiteSetup) (tables : StatusTables) (site : Site) : Prop where
  sameTables : site.tables = tables
  workflowStream : site.workflowStream = []
  actionStream : site.actionStream = []
  timers : site.page.timers = []
  loaded : LoadedSoFar setup tables site.page site.loading

/-- A page more. -/
theorem loadedSoFar_paginateAll {setup : SiteSetup} (hitems : 0 < setup.itemsPerPage)
    {tables : StatusTables} {page : ExecutionComponent} {n : ℕ}
    {results : List Client.WorkflowStatus}
    (h : LoadedSoFar setup tables page (.asking n results)) :
    LoadedSoFar setup tables page (paginateAll setup n results tables.rows) := by
  obtain ⟨hpage, hsofar⟩ := h
  have hnext : (listedRows setup tables).take ((n + 1) * setup.itemsPerPage) =
      (listedRows setup tables).take (n * setup.itemsPerPage) ++
        ((listedRows setup tables).drop (n * setup.itemsPerPage)).take setup.itemsPerPage := by
    rw [Nat.add_mul, Nat.one_mul, List.take_add]
  unfold paginateAll
  cases hanswer : getAllWorkflowStatus setup n tables.rows with
  | error e => trivial
  | ok more =>
    cases more with
    | nil =>
      -- an empty page comes after the last row
      have hempty : ((listedRows setup tables).drop (n * setup.itemsPerPage)).take
          setup.itemsPerPage = [] := by
        have hmap := map_of_mapM_plainStatus hanswer
        exact List.map_eq_nil_iff.mp hmap.symm
      have hdrop : (listedRows setup tables).drop (n * setup.itemsPerPage) = [] := by
        rcases List.take_eq_nil_iff.mp hempty with hzero | hnil
        · omega
        · exact hnil
      show (listedRows setup tables).mapM _ = _
      rw [← List.take_append_drop (n * setup.itemsPerPage) (listedRows setup tables), hdrop,
        List.append_nil]
      exact hsofar
    | cons first rest =>
      refine ⟨hpage, ?_⟩
      rw [hnext, List.mapM_append, hsofar]
      have hmore : (((listedRows setup tables).drop (n * setup.itemsPerPage)).take
          setup.itemsPerPage).mapM (plainStatus setup.rfc tables.rows) = .ok (first :: rest) :=
        hanswer
      rw [hmore]
      rfl

/-- Nothing has happened when the page is opened. -/
theorem quietSo_opened (setup : SiteSetup) (tables : StatusTables) :
    QuietSo setup tables (Site.opened tables) where
  sameTables := rfl
  workflowStream := rfl
  actionStream := rfl
  timers := rfl
  loaded := by
    refine ⟨rfl, ?_⟩
    rw [Nat.zero_mul, List.take_zero]
    rfl

/-- While the server handles no event, nothing happens but that statuses are loaded. -/
theorem quietSo_next {setup : SiteSetup} (hitems : 0 < setup.itemsPerPage) {tables : StatusTables}
    {site next : Site} {step : SiteStep} (hquiet : QuietSo setup tables site) (hstep : QuietStep step)
    (h : Site.next setup site step = some next) : QuietSo setup tables next := by
  obtain ⟨htables, hworkflow, haction, htimers, hloaded⟩ := hquiet
  unfold Site.next at h
  cases step with
  | handle pushedFirst handling => exact hstep.elim
  | answerPage =>
    dsimp only at h
    split at h
    · rename_i n results hasking
      cases h
      rw [hasking] at hloaded
      refine ⟨htables, hworkflow, haction, htimers, ?_⟩
      rw [htables]
      exact loadedSoFar_paginateAll hitems hloaded
    · cases h
  | loaded =>
    dsimp only at h
    split at h
    · rename_i results hanswered
      cases h
      rw [hanswered] at hloaded
      exact ⟨htables, hworkflow, haction, rfl, hloaded⟩
    · cases h
  | openStream =>
    cases h
    exact ⟨htables, rfl, haction, htimers, hloaded⟩
  | loseStream =>
    cases h
    exact ⟨htables, rfl, haction, htimers, hloaded⟩
  | openActionStream =>
    cases h
    exact ⟨htables, hworkflow, rfl, htimers, hloaded⟩
  | loseActionStream =>
    cases h
    exact ⟨htables, hworkflow, rfl, htimers, hloaded⟩
  | deliver =>
    simp only [hworkflow] at h
    cases h
  | deliverAction =>
    simp only [haction] at h
    cases h
  | elapse i =>
    simp only [htimers, List.getElem?_nil] at h
    cases h

/-- Nothing has happened after statuses were loaded. -/
theorem quietSo_follow {setup : SiteSetup} (hitems : 0 < setup.itemsPerPage)
    {tables : StatusTables} {steps : List SiteStep} {site next : Site}
    (hquiet : QuietSo setup tables site) (hsteps : ∀ step ∈ steps, QuietStep step)
    (h : follow (Site.next setup) site steps = some next) : QuietSo setup tables next := by
  induction steps generalizing site with
  | nil =>
    obtain rfl := Option.some.inj h
    exact hquiet
  | cons step steps ih =>
    obtain ⟨middle, hstep, hrest⟩ := Option.bind_eq_some_iff.mp h
    obtain ⟨hfirst, hothers⟩ := List.forall_mem_cons.mp hsteps
    exact ih (quietSo_next hitems hquiet hfirst hstep) hothers hrest

/-- A page that was loaded while nothing happened mirrors the rows. -/
theorem mirrors_loaded {setup : SiteSetup} {tables : StatusTables} (h : RowsByKey tables.rows)
    {site : Site} (hquiet : QuietSo setup tables site) (hloaded : site.loading = .done) :
    (shown site.page).keys.Nodup ∧ ∀ executionId, Mirrors executionId site := by
  have hresults := hquiet.loaded
  rw [hloaded] at hresults
  have hperm := setup.order.perm (tables.rows.workflowStatus.map Prod.snd)
  have hshown : shown site.page = (listedRows setup tables).map fun row =>
      (some row.executionId.str, some (workflowStatusName row.status)) :=
    map_of_mapM_plainStatus hresults
  have hkeys : (shown site.page).keys.Perm
      (tables.rows.workflowStatus.keys.map fun executionId => some executionId.str) := by
    have hown : tables.rows.workflowStatus.map (fun item => some item.2.executionId.str) =
        tables.rows.workflowStatus.map fun item => some item.1.str :=
      List.map_congr_left fun item hitem => by rw [h.own item hitem]
    have hids := hperm.map fun row => some row.executionId.str
    rw [List.map_map] at hids
    rw [hshown]
    simpa [listedRows, OrderedDict.keys, Function.comp_def, hown] using hids
  have hnodup : (shown site.page).keys.Nodup :=
    hkeys.nodup_iff.mpr (h.nodup.map fun u v heq =>
      UUID.str_injective (Option.some.inj heq))
  refine ⟨hnodup, fun executionId => ?_⟩
  unfold Mirrors arriving
  rw [hquiet.workflowStream, hquiet.sameTables]
  show OrderedDict.get? (some executionId.str) (shown site.page) =
    (statusName executionId tables.rows).map some
  unfold statusName
  cases hrow : tables.rows.workflow executionId with
  | none =>
    rw [Option.map_none, Option.map_none]
    refine OrderedDict.get?_eq_none_iff.mpr fun hkey => ?_
    obtain ⟨other, hother, heq⟩ := List.mem_map.mp (hkeys.mem_iff.mp hkey)
    obtain rfl : other = executionId := UUID.str_injective (Option.some.inj heq)
    exact OrderedDict.get?_eq_none_iff.mp hrow hother
  | some row =>
    have hmem := OrderedDict.mem_of_get? hrow
    rw [Option.map_some, Option.map_some]
    refine OrderedDict.get?_of_mem hnodup ?_
    rw [hshown]
    refine List.mem_map.mpr ⟨row, hperm.mem_iff.mpr (List.mem_map.mpr ⟨_, hmem, rfl⟩), ?_⟩
    rw [h.workflow hrow]

/-- A page without an execution shown twice stays one once it is settled. -/
theorem nodup_keys_next {setup : SiteSetup} {site next : Site} {step : SiteStep}
    (hloaded : site.loading = .done) (hkeys : (shown site.page).keys.Nodup)
    (h : Site.next setup site step = some next) :
    next.loading = .done ∧ (shown next.page).keys.Nodup := by
  cases step with
  | handle pushedFirst handling =>
    refine ⟨?_, (next_handle h).2.1 ▸ hkeys⟩
    unfold Site.next at h
    dsimp only at h
    split at h
    · cases h
      exact hloaded
    · cases h
  | answerPage =>
    simp only [Site.next, hloaded] at h
    cases h
  | loaded =>
    simp only [Site.next, hloaded] at h
    cases h
  | openStream | loseStream | openActionStream | loseActionStream =>
    cases h
    exact ⟨hloaded, hkeys⟩
  | deliver =>
    unfold Site.next at h
    dsimp only at h
    split at h
    · cases h
      refine ⟨hloaded, ?_⟩
      rw [shown_workflowStatusEventHandler]
      exact OrderedDict.nodup_keys_set hkeys _
    · cases h
  | deliverAction =>
    unfold Site.next at h
    dsimp only at h
    split at h
    · cases h
      refine ⟨hloaded, ?_⟩
      rw [shown_actionStatusEventHandler]
      exact hkeys
    · cases h
  | elapse i =>
    unfold Site.next at h
    dsimp only at h
    split at h
    · rename_i timer htimer
      cases h
      exact ⟨hloaded, (congrArg OrderedDict.keys (shown_elapse timer site.page)) ▸ hkeys⟩
    · cases h

/-- **The page mirrors the rows.** From any time at which the statuses are loaded and the stream is
open, and as long as the stream is not lost: once nothing about an execution is on its way to the
page, the page shows the status in the row, unless the last event was one of the two that do not
reach the row. This is so for every execution that something has been pushed about since then, and
for all of them if the server handled no event while the page was loading; no execution is then
shown twice. -/
theorem statuses_mirrored {setup : SiteSetup} (hitems : 0 < setup.itemsPerPage)
    {earlier : List StatusHandling} {tables : StatusTables}
    (hearlier : handleAll earlier .start = .ok tables) {loading steps : List SiteStep}
    {site₀ site : Site}
    (hloading : follow (Site.next setup) (Site.opened tables) loading = some site₀)
    (hloaded : site₀.loading = .done) (hopen : site₀.workflowOpen = true)
    (hsteps : follow (Site.next setup) site₀ steps = some site)
    (hkept : ∀ step ∈ steps, KeepsStream step) :
    ((∀ step ∈ loading, QuietStep step) → (shown site.page).keys.Nodup) ∧ ∀ executionId,
      (∀ message ∈ site.workflowStream,
        stringField "execution_id" message.data ≠ some executionId.str) →
      (∀ event, lastSaid executionId steps = some event → StatusEvent.ahead event = false) →
      ((lastSaid executionId steps).isSome ∨ ∀ step ∈ loading, QuietStep step) →
      OrderedDict.get? (some executionId.str) (shown site.page) =
        (statusName executionId site.tables.rows).map some := by
  have hrows := rowsByKey_handleAll rowsByKey_start hearlier
  have hrows₀ := @rowsByKey_follow setup (Site.opened tables) site₀ loading hrows hloading
  have hquietly : (∀ step ∈ loading, QuietStep step) →
      (shown site₀.page).keys.Nodup ∧ ∀ executionId, Mirrors executionId site₀ := fun hquiet =>
    mirrors_loaded hrows
      (quietSo_follow hitems (quietSo_opened setup tables) hquiet hloading) hloaded
  constructor
  · intro hquiet
    exact ((Library.Run.of_follow hsteps).invariant
      (I := fun site => site.loading = .done ∧ (shown site.page).keys.Nodup)
      (fun _ _ _ h hstep => nodup_keys_next h.1 h.2 hstep) ⟨hloaded, (hquietly hquiet).1⟩).2
  · intro executionId harrived hlast hknown
    rw [← get?_arriving harrived]
    obtain ⟨hkeeps, hset⟩ := mirrors_follow hrows₀ ⟨hloaded, hopen⟩ hkept hsteps executionId
    cases hsaid : lastSaid executionId steps with
    | none =>
      have hquiet := hknown.resolve_left (by simp [hsaid])
      exact hkeeps hsaid ((hquietly hquiet).2 executionId)
    | some event => exact hset event hsaid (hlast event hsaid)

/-! ## An execution that is followed -/

/-- One row for each page, in the order of the table. -/
def oneToAPage : SiteSetup where
  rfc _ := "date"
  order := { order := id, perm := fun _ => .refl _ }
  itemsPerPage := 1
  maxLength := 0

/-- An execution waits. -/
def waitingTables : StatusTables :=
  { rows := pendingCallback firstSender none StatusTables.start.rows, savedWorkflow := [] }

/-- The page is opened then, and loaded after its streams have been opened. -/
def loadedPage : List SiteStep :=
  [.openStream, .answerPage, .openActionStream, .answerPage, .loaded]

/-- The execution is resumed, started and completed, and the timer runs last. -/
def followedExecution : List SiteStep :=
  [.handle false ⟨⟨2, "2Z"⟩, false, .workflowResumed 10⟩, .deliver,
   .handle true ⟨⟨3, "3Z"⟩, false, .workflowExecutionStart firstSender⟩,
   .handle false ⟨⟨4, "4Z"⟩, false, .workflowShutdown firstSender⟩, .deliver, .deliver, .elapse 0]

/-- A page that has loaded one execution shows what becomes of it. -/
theorem statuses_mirrored_one :
    ∃ site₀ site, follow (Site.next oneToAPage) (Site.opened waitingTables) loadedPage =
        some site₀ ∧ follow (Site.next oneToAPage) site₀ followedExecution = some site ∧
      (shown site.page).keys.Nodup ∧
      OrderedDict.get? (some (10 : UUID).str) (shown site.page) =
        (statusName 10 site.tables.rows).map some := by
  have hsettled : ∃ site₀, follow (Site.next oneToAPage) (Site.opened waitingTables) loadedPage =
      some site₀ ∧ site₀.loading = .done ∧ site₀.workflowOpen = true ∧
        (follow (Site.next oneToAPage) site₀ followedExecution).map Site.workflowStream =
          some [] :=
    ⟨_, rfl, rfl, rfl, rfl⟩
  obtain ⟨site₀, hloading, hloaded, hopen, hfollowed⟩ := hsettled
  obtain ⟨site, hsteps, hempty⟩ := Option.map_eq_some_iff.mp hfollowed
  have hquiet : ∀ step ∈ loadedPage, QuietStep step := by
    simp [loadedPage, QuietStep]
  have hkept : ∀ step ∈ followedExecution, KeepsStream step := by
    simp [followedExecution, KeepsStream]
  have hmirrored := @statuses_mirrored oneToAPage (by decide)
    [⟨⟨0, "0Z"⟩, false, .result (.workflowExecutionPending firstSender none)⟩] waitingTables rfl
    loadedPage followedExecution site₀ site hloading hloaded hopen hsteps hkept
  refine ⟨site₀, site, hloading, hsteps, hmirrored.1 hquiet,
    hmirrored.2 10 ?_ ?_ (.inr hquiet)⟩
  · simp [hempty]
  · rintro event ⟨⟩
    rfl

end Walkoff.Analysis
