import Mathlib.Data.List.Permutation
import Walkoff.Analysis.EventRoundTrip
import Walkoff.Program.ResultReceivers

/-!
# The order of the receivers

Blinker calls the receivers of an event in no particular order. The rows and the pushes come
out the same in every order exactly if the row of the execution was there before a pending
event, the current action does not depend on whether the new status is stored, the receiver that
writes the rows finds them, and converting the arguments of an action that starts changes
nothing.
-/

set_option autoImplicit false

namespace Walkoff.Analysis

open Walkoff.Model hiding WorkflowStatus eventToProtobuf
open Walkoff.Model.Results Walkoff.Model.JsonText
open Walkoff.Program.Results
open Walkoff.Program.ResultsCodec (Dict loadField convertActionArgument textEntry
  MessageToDict.argument)
open Walkoff.Library (OrderedDict lift bind_apply bind_of_ok bind_of_error finalState
  Except.bind_eq_ok Except.mapM_cons_ok)

/-! ## Converting the arguments -/

/-- A text that is not sent or no JSON. -/
def NotJson (sent : Option String) : Prop :=
  ∀ text ∈ sent, loads text = none

/-- An argument that `convert_action_argument` leaves as it is. -/
def ConvertsToItself (m : ArgumentProto) : Prop :=
  NotJson m.value ∧ NotJson m.selection

/-- A dictionary that is JSON if it can be written. -/
def JsonItemsIfDump (argument : Dict) : Prop :=
  (argument.map Prod.fst).Nodup ∧ ∀ item ∈ argument, JsonIfDumps item.2

/-- A field of an argument is left as it is or replaced by what its text holds. -/
theorem loadField_cases {field : String} {argument : Dict} {sent : Option String}
    (h : argument.get? field = sent.map PyVal.str) :
    (NotJson sent ∧ loadField field argument = .ok argument) ∨
    (∃ text v, sent = some text ∧ loads text = some v ∧
      loadField field argument = .ok (OrderedDict.set field v argument)) := by
  unfold loadField
  rw [h]
  cases sent with
  | none => exact .inl ⟨fun _ h => (by cases h), rfl⟩
  | some text =>
    dsimp only [Option.map_some]
    cases hloads : loads text with
    | none =>
      refine .inl ⟨?_, rfl⟩
      rintro _ ⟨⟩
      exact hloads
    | some v => exact .inr ⟨text, v, rfl, hloads, rfl⟩

/-- An argument with one more loaded field is JSON where it can be written. -/
theorem JsonItemsIfDump.set {argument : Dict} (h : JsonItemsIfDump argument) (field : String)
    {v : PyVal} (hv : JsonIfDumps v) : JsonItemsIfDump (OrderedDict.set field v argument) := by
  refine ⟨OrderedDict.nodup_keys_set h.1 v, fun item hitem => ?_⟩
  rcases OrderedDict.mem_set hitem with rfl | hitem
  · exact hv
  · exact h.2 item hitem

/-- Loading a field changes nothing but that field, and nothing at all exactly if its text is no
JSON. -/
theorem loadField_spec {field : String} {argument : Dict} {sent : Option String}
    (h : argument.get? field = sent.map PyVal.str) (hjson : JsonItemsIfDump argument) :
    ∃ argument', loadField field argument = .ok argument' ∧ JsonItemsIfDump argument' ∧
      (NotJson sent → argument' = argument) ∧
      (argument'.get? field = argument.get? field → NotJson sent) ∧
      ∀ key, key ≠ field → argument'.get? key = argument.get? key := by
  rcases loadField_cases h with ⟨hnot, hload⟩ | ⟨text, v, rfl, hloads, hload⟩
  · exact ⟨argument, hload, hjson, fun _ => rfl, fun _ => hnot, fun _ _ => rfl⟩
  · refine ⟨_, hload, hjson.set field (jsonIfDumps_loads hloads), fun hnot => ?_, fun hsame => ?_,
      fun key hne => OrderedDict.get?_set_of_ne hne v argument⟩
    · have hnone := hnot text rfl
      rw [hloads] at hnone
      cases hnone
    · rw [OrderedDict.get?_set_self, h] at hsame
      rw [Option.some.inj hsame] at hloads
      exact absurd hloads (loads_ne_self text)

/-- A received argument is JSON where it can be written. -/
theorem jsonItemsIfDump_argument (m : ArgumentProto) :
    JsonItemsIfDump (MessageToDict.argument m) := by
  obtain ⟨name, value, reference, selection⟩ := m
  cases name <;> cases value <;> cases reference <;> cases selection <;>
    simp [JsonItemsIfDump, JsonIfDumps, isJson, MessageToDict.argument, textEntry]

/-- What becomes of a decoded argument. -/
theorem convertActionArgument_spec (m : ArgumentProto) :
    ∃ converted, convertActionArgument (MessageToDict.argument m) = .ok converted ∧
      JsonItemsIfDump converted ∧
      (converted = MessageToDict.argument m ↔ ConvertsToItself m) := by
  obtain ⟨_, hvalue, _, hselection⟩ := get?_argument m
  obtain ⟨argument, hload, hjson, hsame, hnot, hframe⟩ :=
    loadField_spec hvalue (jsonItemsIfDump_argument m)
  have hselection' : argument.get? "selection" = m.selection.map PyVal.str := by
    rw [hframe "selection" (by decide), hselection]
  obtain ⟨converted, hload', hjson', hsame', hnot', hframe'⟩ := loadField_spec hselection' hjson
  refine ⟨converted, ?_, hjson', fun heq => ⟨hnot ?_, hnot' ?_⟩, fun h => ?_⟩
  · rw [convertActionArgument, hload]
    exact hload'
  · rw [← hframe' "value" (by decide), heq]
  · rw [hselection', heq, hselection]
  · rw [hsame' h.2, hsame h.1]

/-- What becomes of the decoded arguments of a sender. -/
theorem convertArguments_spec (protos : List ArgumentProto) :
    ∃ converted, (protos.map MessageToDict.argument).mapM convertActionArgument = .ok converted ∧
      (∀ argument ∈ converted, JsonItemsIfDump argument) ∧
      (converted = protos.map MessageToDict.argument ↔ ∀ m ∈ protos, ConvertsToItself m) := by
  induction protos with
  | nil => exact ⟨[], rfl, List.forall_mem_nil _, by simp⟩
  | cons m protos ih =>
    obtain ⟨converted, hconvert, hjson, hiff⟩ := convertActionArgument_spec m
    obtain ⟨others, hothers, hjsons, hall⟩ := ih
    refine ⟨converted :: others, Except.mapM_cons_ok hconvert hothers,
      List.forall_mem_cons.mpr ⟨hjson, hjsons⟩, ?_⟩
    rw [List.map_cons, List.cons.injEq, hiff, hall, List.forall_mem_cons]

/-- A received argument is JSON. -/
theorem isJson_argument (m : ArgumentProto) : isJson (.dict (MessageToDict.argument m)) = true := by
  obtain ⟨name, value, reference, selection⟩ := m
  cases name <;> cases value <;> cases reference <;> cases selection <;>
    simp [isJson, isJsonItems, MessageToDict.argument, textEntry]

/-- The stored arguments of an action: what was sent can be written, and a converted list that is
written alike is the same. -/
theorem dumps_arguments (protos : List ArgumentProto) :
    ∃ text, PyVal.dumps (.list ((protos.map MessageToDict.argument).map .dict)) = .ok text ∧
      ∀ converted : List Dict, (∀ argument ∈ converted, JsonItemsIfDump argument) →
        PyVal.dumps (.list (converted.map .dict)) = .ok text →
          converted = protos.map MessageToDict.argument := by
  have hjson : isJson (.list ((protos.map MessageToDict.argument).map .dict)) = true := by
    refine isJsonList_of_forall fun x hx => ?_
    obtain ⟨argument, hargument, rfl⟩ := List.mem_map.mp hx
    obtain ⟨m, _, rfl⟩ := List.mem_map.mp hargument
    exact isJson_argument m
  obtain ⟨text, htext⟩ := dumps_of_isJson _ hjson
  refine ⟨text, htext, fun converted hconverted hdumps => ?_⟩
  have hjson' : isJson (.list (converted.map .dict)) = true := by
    refine JsonIfDumps.list (fun x hx => ?_) text hdumps
    obtain ⟨argument, hargument, rfl⟩ := List.mem_map.mp hx
    exact .dict (hconverted argument hargument).1 (hconverted argument hargument).2
  have heq := (loads_dumps hjson' hdumps).symm.trans (loads_dumps hjson htext)
  have hmap := PyVal.list.inj (Option.some.inj heq)
  exact List.map_injective_iff.mpr (fun _ _ h => PyVal.dict.inj h) hmap

/-! ## Calling the receivers -/

/-- The rows and the pushes are the same; the metrics are not compared. -/
structure SameOutcome (d d' : Delivery) : Prop where
  workflowStatus : d.tables.workflowStatus = d'.tables.workflowStatus
  actionStatus : d.tables.actionStatus = d'.tables.actionStatus
  workflowStream : d.workflowStream = d'.workflowStream
  actionStream : d.actionStream = d'.actionStream
  actionSummaryStream : d.actionSummaryStream = d'.actionSummaryStream

/-- A delivery has the outcome it has. -/
theorem SameOutcome.refl (d : Delivery) : SameOutcome d d :=
  ⟨rfl, rfl, rfl, rfl, rfl⟩

/-- In every order of the receivers the outcome is the same. -/
def OrderIrrelevant (maxLength : ℕ) (clock : Clock) (event : ResultEvent) (tables : Tables) :
    Prop :=
  ∀ order, order.Perm (receivers event) →
    SameOutcome (delivered maxLength clock event order tables)
      (delivered maxLength clock event (receivers event) tables)

/-- Two things come in two orders. -/
theorem perm_two {α : Type} {a b : α} {order : List α} (h : order.Perm [a, b]) :
    order = [a, b] ∨ order = [b, a] := by
  have hmem := List.mem_permutations'.mpr h
  have hall : List.permutations' [a, b] = [[a, b], [b, a]] := rfl
  rw [hall] at hmem
  simpa using hmem

/-- Three things come in six orders. -/
theorem perm_three {α : Type} {a b c : α} {order : List α} (h : order.Perm [a, b, c]) :
    order = [a, b, c] ∨ order = [b, a, c] ∨ order = [b, c, a] ∨ order = [a, c, b] ∨
      order = [c, a, b] ∨ order = [c, b, a] := by
  have hmem := List.mem_permutations'.mpr h
  have hall : List.permutations' [a, b, c] =
    [[a, b, c], [b, a, c], [b, c, a], [a, c, b], [c, a, b], [c, b, a]] := rfl
  rw [hall] at hmem
  simpa using hmem

section

variable {maxLength : ℕ} {clock : Clock} {event : ResultEvent} {d : Delivery}

/-- An event is sent to one receiver after the other. -/
theorem sendTo_cons (receiver : Receiver) (order : List Receiver) :
    sendTo maxLength clock event (receiver :: order) d =
      match receive maxLength clock event receiver d with
      | .ok _ d' => sendTo maxLength clock event order d'
      | .error e d' => .error e d' := by
  rw [sendTo, bind_apply]
  cases receive maxLength clock event receiver d with
  | ok _ d' => rfl
  | error e d' => rfl

/-- Without receivers nothing happens. -/
theorem sendTo_nil : sendTo maxLength clock event [] d = .ok () d := rfl

/-- The database follows the event or raises. -/
theorem receive_database : receive maxLength clock event .database d =
    match databaseCallback clock d.arguments event d.tables with
    | .ok tables => .ok () { d with tables }
    | .error e => .error e d := by
  have hreceive : receive maxLength clock event .database d =
      (lift (databaseCallback clock d.arguments event d.tables) >>= fun tables =>
        modify fun d => { d with tables }) d := rfl
  rw [hreceive, bind_apply]
  cases databaseCallback clock d.arguments event d.tables with
  | ok tables => rfl
  | error e => rfl

/-- The stream of the workflows gets the push of the event. -/
theorem receive_workflowStream : receive maxLength clock event .workflowStream d =
    .ok () { d with
      workflowStream := d.workflowStream ++ (workflowPush clock d.tables event).toList } := rfl

/-- The streams of the actions get the push of the event, or it raises. -/
theorem receive_actionStreams {converted : List Dict}
    (hconvert : d.arguments.mapM convertActionArgument = .ok converted) :
    receive maxLength clock event .actionStreams d =
      match actionPush maxLength clock converted event with
      | .ok push => .ok () (pushToActionStreams push { d with arguments := converted })
      | .error e => .error e { d with arguments := converted } := by
  have hreceive : receive maxLength clock event .actionStreams d =
      (lift (d.arguments.mapM convertActionArgument) >>= fun arguments => do
        modify fun d => { d with arguments }
        let push ← lift (actionPush maxLength clock arguments event)
        modify (pushToActionStreams push)) d := rfl
  rw [hreceive, hconvert]
  show (lift (actionPush maxLength clock converted event) >>= _) { d with arguments := converted } =
    _
  cases actionPush maxLength clock converted event with
  | ok push => rfl
  | error e => rfl

end

/-! ## Events with a workflow stream -/

/-- What a receiver of the workflow stream leaves. -/
theorem toList_eq_of_some {α : Type} {a : α} {o : Option α} (h : [a] = o.toList) : o = some a := by
  cases o with
  | none => cases h
  | some b => rw [(List.cons.inj h).1]

section

variable (maxLength : ℕ) (clock : Clock) {event : ResultEvent} {tables : Tables}

/-- The database can be written, and what is pushed to the workflow stream is the same before and
after it is. -/
def PushesAlike (event : ResultEvent) (tables : Tables) : Prop :=
  ∃ tables', databaseCallback clock event.arguments event tables = .ok tables' ∧
    workflowPush clock tables' event = workflowPush clock tables event

/-- An event with the database and the workflow stream as receivers. -/
theorem orderIrrelevant_workflow_iff
    (hreceivers : receivers event = [.database, .workflowStream])
    {push : Push} (hpush : workflowPush clock tables event = some push) :
    OrderIrrelevant maxLength clock event tables ↔ PushesAlike clock event tables := by
  unfold OrderIrrelevant PushesAlike
  rw [hreceivers]
  cases hdatabase : databaseCallback clock event.arguments event tables with
  | error e =>
    constructor
    · intro h
      have hsame := (h [.workflowStream, .database] (.swap _ _ _)).workflowStream
      simp [delivered, undelivered, sendTo_cons, receive_database, receive_workflowStream,
        hdatabase, hpush, finalState] at hsame
    · rintro ⟨tables', htables, _⟩
      cases htables
  | ok tables' =>
    constructor
    · intro h
      have hsame := (h [.workflowStream, .database] (.swap _ _ _)).workflowStream
      simp only [delivered, undelivered, sendTo_cons, sendTo_nil, receive_database,
        receive_workflowStream, hdatabase, hpush, finalState, Option.toList_some,
        List.nil_append] at hsame
      exact ⟨tables', rfl, (toList_eq_of_some hsame).trans hpush.symm⟩
    · rintro ⟨tables'', htables, hsame⟩ order horder
      obtain rfl := Except.ok.inj htables
      rcases perm_two horder with rfl | rfl
      · exact .refl _
      · simp only [delivered, undelivered, sendTo_cons, sendTo_nil, receive_database,
          receive_workflowStream, hdatabase, hsame, finalState]
        exact .refl _

/-- An event with the action streams as a third receiver, which neither reads nor writes what the
other two do. -/
theorem orderIrrelevant_awaiting_iff
    (hreceivers : receivers event = [.database, .actionStreams, .workflowStream])
    (harguments : ∀ arguments, databaseCallback clock arguments event tables =
      databaseCallback clock event.arguments event tables)
    {converted : List Dict} (hconvert : event.arguments.mapM convertActionArgument = .ok converted)
    {action : Option Push} (haction : actionPush maxLength clock converted event = .ok action)
    {push : Push} (hpush : workflowPush clock tables event = some push) :
    OrderIrrelevant maxLength clock event tables ↔ PushesAlike clock event tables := by
  unfold OrderIrrelevant PushesAlike
  rw [hreceivers]
  have hstreams : ∀ d : Delivery, d.arguments = event.arguments →
      receive maxLength clock event .actionStreams d =
        .ok () (pushToActionStreams action { d with arguments := converted }) := by
    intro d hd
    have hd' : d.arguments.mapM convertActionArgument = .ok converted := by
      rw [hd]
      exact hconvert
    rw [receive_actionStreams hd', haction]
  cases hdatabase : databaseCallback clock event.arguments event tables with
  | error e =>
    constructor
    · intro h
      have hsame := (h [.workflowStream, .database, .actionStreams]
        (List.perm_append_singleton Receiver.workflowStream [.database, .actionStreams]).symm)
        |>.workflowStream
      simp [delivered, undelivered, sendTo_cons, receive_database, receive_workflowStream,
        hdatabase, hpush, finalState] at hsame
    · rintro ⟨tables', htables, _⟩
      cases htables
  | ok tables' =>
    have hdatabase' : ∀ arguments, databaseCallback clock arguments event tables = .ok tables' :=
      fun arguments => (harguments arguments).trans hdatabase
    constructor
    · intro h
      have hsame := (h [.workflowStream, .database, .actionStreams]
        (List.perm_append_singleton Receiver.workflowStream [.database, .actionStreams]).symm)
        |>.workflowStream
      simp only [delivered, undelivered, sendTo_cons, sendTo_nil, receive_database,
        receive_workflowStream, hstreams, pushToActionStreams, hdatabase', hpush, finalState,
        Option.toList_some, List.nil_append] at hsame
      exact ⟨tables', rfl, (toList_eq_of_some hsame).trans hpush.symm⟩
    · rintro ⟨tables'', htables, hsame⟩ order horder
      obtain rfl := Except.ok.inj htables
      rcases perm_three horder with rfl | rfl | rfl | rfl | rfl | rfl
      · exact .refl _
      all_goals
        simp only [delivered, undelivered, sendTo_cons, sendTo_nil, receive_database,
          receive_workflowStream, hstreams, pushToActionStreams, hdatabase', hsame, finalState]
        exact .refl _

end

/-! ## Rows -/

/-- The row of the execution is there, and whether it is completed makes no difference to the
current action. -/
def KeepsCurrentAction (executionId : UUID) (tables : Tables) : Prop :=
  ∃ row, tables.workflow executionId = some row ∧
    (row.status = .completed → tables.lastActionStatus executionId = none)

/-- The exact condition: what the receivers of an event find before it. -/
def OrderCondition (tables : Tables) : ResultEvent → Prop
  | .workflowExecutionPending sender _ => (tables.workflow sender.executionId).isSome
  | .workflowPaused sender => KeepsCurrentAction sender.executionId tables
  | .triggerActionAwaitingData _ workflow => KeepsCurrentAction workflow.executionId tables
  | .actionStarted sender workflow => (tables.action sender.executionId).isSome ∨
      ((tables.workflow workflow.executionId).isSome ∧
        ∀ m ∈ sender.arguments, ConvertsToItself m)
  | .actionOutcome _ sender _ data _ => (tables.action sender.executionId).isSome ∨
      ∀ result, resultOf data ≠ .ok result

/-- A row that was put is found. -/
theorem Tables.workflow_putWorkflow (executionId : UUID) (row : WorkflowStatus) (tables : Tables) :
    (tables.putWorkflow executionId row).workflow executionId = some row :=
  OrderedDict.get?_set_self _ _ _

/-- Where the database follows, the pushes are alike exactly if they are the same after it. -/
theorem pushesAlike_iff_of_ok {clock : Clock} {event : ResultEvent} {tables tables' : Tables}
    (h : databaseCallback clock event.arguments event tables = .ok tables') :
    PushesAlike clock event tables ↔
      workflowPush clock tables' event = workflowPush clock tables event := by
  refine ⟨?_, fun hsame => ⟨tables', h, hsame⟩⟩
  rintro ⟨tables'', h', hsame⟩
  rw [Except.ok.inj (h.symm.trans h')]
  exact hsame

/-- Where the database raises, the pushes are not alike. -/
theorem not_pushesAlike_of_error {clock : Clock} {event : ResultEvent} {tables : Tables} {e : Exn}
    (h : databaseCallback clock event.arguments event tables = .error e) :
    ¬PushesAlike clock event tables := by
  rintro ⟨tables', h', _⟩
  cases h.symm.trans h'

/-- A pending event names the user of a row that is there. -/
theorem pushesAlike_pending_iff (clock : Clock) (sender : WorkflowSender) (user : Option String)
    (tables : Tables) :
    PushesAlike clock (.workflowExecutionPending sender user) tables ↔
      (tables.workflow sender.executionId).isSome := by
  have hok : databaseCallback clock (ResultEvent.workflowExecutionPending sender user).arguments
    (.workflowExecutionPending sender user) tables = .ok (pendingCallback sender user tables) := rfl
  rw [pushesAlike_iff_of_ok hok]
  unfold workflowPush formatWorkflowResult pendingCallback
  cases hrow : tables.workflow sender.executionId with
  | some row => simp [Tables.workflow_putWorkflow, hrow]
  | none => simp [Tables.workflow_putWorkflow, hrow]

/-- A change of the status shows in the current step only where the workflow was completed. -/
theorem currentStep_iff (clock : Clock) (executionId : UUID) (status : String)
    {new : WorkflowStatusEnum} (hnew : new ≠ .completed) {tables tables' : Tables}
    {row : WorkflowStatus} (hrow : tables.workflow executionId = some row)
    (hrow' : tables'.workflow executionId = some { row with status := new })
    (hlast : (tables'.lastActionStatus executionId).map (summaryJson ·.2) =
      (tables.lastActionStatus executionId).map (summaryJson ·.2)) :
    formatWorkflowResultWithCurrentStep clock executionId status tables' =
        formatWorkflowResultWithCurrentStep clock executionId status tables ↔
      (row.status = .completed → tables.lastActionStatus executionId = none) := by
  unfold formatWorkflowResultWithCurrentStep
  rw [hrow, hrow']
  dsimp only
  unfold currentAction userEntry
  cases h : tables.lastActionStatus executionId with
  | none =>
    rw [h] at hlast
    cases h' : tables'.lastActionStatus executionId with
    | none => simp
    | some pair' =>
      rw [h'] at hlast
      cases hlast
  | some pair =>
    rw [h] at hlast
    cases h' : tables'.lastActionStatus executionId with
    | none =>
      rw [h'] at hlast
      cases hlast
    | some pair' =>
      rw [h'] at hlast
      have hsummary := Option.some.inj hlast
      by_cases hcompleted : row.status = .completed
      · simp [hnew, hcompleted]
      · simp [hnew, hcompleted, hsummary]

/-- The status of an execution with a row is set. -/
theorem setWorkflowStatus_of_some {executionId : UUID} {status : WorkflowStatusEnum}
    {tables : Tables} {row : WorkflowStatus} (hrow : tables.workflow executionId = some row) :
    setWorkflowStatus executionId status tables =
      .ok (tables.putWorkflow executionId { row with status }) := by
  rw [setWorkflowStatus, hrow]
  rfl

/-- Without a row it raises `AttributeError`. -/
theorem setWorkflowStatus_of_none {executionId : UUID} {status : WorkflowStatusEnum}
    {tables : Tables} (hrow : tables.workflow executionId = none) :
    setWorkflowStatus executionId status tables = .error .attributeError := by
  rw [setWorkflowStatus, hrow]
  rfl

/-- Without a row there is no current action to keep. -/
theorem not_keepsCurrentAction_of_none {executionId : UUID} {tables : Tables}
    (hrow : tables.workflow executionId = none) : ¬KeepsCurrentAction executionId tables := by
  rintro ⟨row, h, _⟩
  cases hrow.symm.trans h

/-- With a row, the current action is kept by what its status says. -/
theorem keepsCurrentAction_iff_of_some {executionId : UUID} {tables : Tables}
    {row : WorkflowStatus} (hrow : tables.workflow executionId = some row) :
    KeepsCurrentAction executionId tables ↔
      (row.status = .completed → tables.lastActionStatus executionId = none) := by
  refine ⟨?_, fun h => ⟨row, hrow, h⟩⟩
  rintro ⟨row', h, hkeeps⟩
  rw [Option.some.inj (hrow.symm.trans h)]
  exact hkeeps

/-- For a pause the pushes are alike exactly if the current action is kept. -/
theorem pushesAlike_paused_iff (clock : Clock) (sender : WorkflowSender) (tables : Tables) :
    PushesAlike clock (.workflowPaused sender) tables ↔
      KeepsCurrentAction sender.executionId tables := by
  cases hrow : tables.workflow sender.executionId with
  | none =>
    have herror : databaseCallback clock (ResultEvent.workflowPaused sender).arguments
        (.workflowPaused sender) tables = .error .attributeError :=
      setWorkflowStatus_of_none hrow
    exact iff_of_false (not_pushesAlike_of_error herror) (not_keepsCurrentAction_of_none hrow)
  | some row =>
    have hok : databaseCallback clock (ResultEvent.workflowPaused sender).arguments
        (.workflowPaused sender) tables =
          .ok (tables.putWorkflow sender.executionId { row with status := .paused }) :=
      setWorkflowStatus_of_some hrow
    rw [pushesAlike_iff_of_ok hok, keepsCurrentAction_iff_of_some hrow,
      ← currentStep_iff clock sender.executionId "paused" (by decide) hrow
        (Tables.workflow_putWorkflow sender.executionId { row with status := .paused } tables) rfl]
    unfold workflowPush
    simp

/-- Setting the last entry of a kind leaves it or the new one the last of the kind. -/
theorem getLast?_filter_set {p : UUID × ActionStatus → Bool} {key : UUID} {row new : ActionStatus}
    (hnew : p (key, new) = true) {items : OrderedDict UUID ActionStatus}
    (hlast : (items.filter p).getLast? = some (key, row)) :
    ((OrderedDict.set key new items).filter p).getLast? = some (key, row) ∨
      ((OrderedDict.set key new items).filter p).getLast? = some (key, new) := by
  induction items with
  | nil => cases hlast
  | cons item items ih =>
    obtain ⟨k, old⟩ := item
    by_cases hk : k = key
    · subst hk
      rw [OrderedDict.set, if_pos rfl, List.filter_cons_of_pos hnew, List.getLast?_cons]
      cases hrest : (items.filter p).getLast? with
      | none => exact .inr rfl
      | some last =>
        refine .inl ?_
        by_cases hold : p (k, old) = true
        · rw [List.filter_cons_of_pos hold, List.getLast?_cons, hrest] at hlast
          exact hlast
        · rw [List.filter_cons_of_neg hold, hrest] at hlast
          exact hlast
    · rw [OrderedDict.set, if_neg hk]
      have hrest : (items.filter p).getLast? = some (key, row) := by
        by_cases hold : p (k, old) = true
        · rw [List.filter_cons_of_pos hold, List.getLast?_cons] at hlast
          cases hlast' : (items.filter p).getLast? with
          | none =>
            rw [hlast'] at hlast
            exact absurd (Prod.mk.inj (Option.some.inj hlast)).1 hk
          | some last =>
            rw [hlast'] at hlast
            exact hlast
        · rwa [List.filter_cons_of_neg hold] at hlast
      by_cases hold : p (k, old) = true
      · rw [List.filter_cons_of_pos hold, List.getLast?_cons]
        rcases ih hrest with h | h
        · exact .inl (by rw [h]; rfl)
        · exact .inr (by rw [h]; rfl)
      · rw [List.filter_cons_of_neg hold]
        exact ih hrest

/-- Making the last action await data does not change how it is summarized. -/
theorem lastActionStatus_putAction {executionId key : UUID} {row : ActionStatus} {tables : Tables}
    (hlast : tables.lastActionStatus executionId = some (key, row)) (status : ActionStatusEnum) :
    ((tables.putAction key { row with status }).lastActionStatus executionId).map
        (summaryJson ·.2) = some (summaryJson row) := by
  unfold Tables.lastActionStatus at hlast ⊢
  unfold Tables.putAction
  dsimp only
  have hnew : decide (row.workflowStatusId = some executionId) = true :=
    (List.mem_filter.mp (List.mem_of_getLast? hlast)).2
  rcases @getLast?_filter_set (fun item => item.2.workflowStatusId = some executionId) key row
    { row with status } hnew tables.actionStatus hlast with h | h
  · rw [h]
    rfl
  · rw [h]
    rfl

/-- Awaiting data is stored in the row of the workflow and in that of its last action. -/
theorem awaitingDataCallback_of_some {workflow : WorkflowSender} {tables : Tables}
    {row : WorkflowStatus} (hrow : tables.workflow workflow.executionId = some row) :
    ∃ tables', awaitingDataCallback workflow tables = .ok tables' ∧
      tables'.workflow workflow.executionId = some { row with status := .awaitingData } ∧
      (tables'.lastActionStatus workflow.executionId).map (summaryJson ·.2) =
        (tables.lastActionStatus workflow.executionId).map (summaryJson ·.2) := by
  have hrow' := Tables.workflow_putWorkflow workflow.executionId
    { row with status := .awaitingData } tables
  have hsame : (tables.putWorkflow workflow.executionId
      { row with status := .awaitingData }).lastActionStatus workflow.executionId =
        tables.lastActionStatus workflow.executionId := rfl
  unfold awaitingDataCallback
  rw [setWorkflowStatus_of_some hrow]
  generalize tables.putWorkflow workflow.executionId { row with status := .awaitingData } = tables₁
    at hrow' hsame ⊢
  rw [← hsame]
  refine ⟨awaitLastAction workflow.executionId tables₁, rfl, ?_, ?_⟩
  · unfold awaitLastAction
    cases tables₁.lastActionStatus workflow.executionId with
    | none => exact hrow'
    | some pair => exact hrow'
  · unfold awaitLastAction
    cases hlast : tables₁.lastActionStatus workflow.executionId with
    | none =>
      dsimp only
      rw [hlast]
    | some pair => exact lastActionStatus_putAction hlast .awaitingData

/-- The same of a trigger that awaits data. -/
theorem pushesAlike_awaiting_iff (clock : Clock) (sender : ActionSender)
    (workflow : WorkflowSender) (tables : Tables) :
    PushesAlike clock (.triggerActionAwaitingData sender workflow) tables ↔
      KeepsCurrentAction workflow.executionId tables := by
  cases hrow : tables.workflow workflow.executionId with
  | none =>
    have herror : databaseCallback clock
        (ResultEvent.triggerActionAwaitingData sender workflow).arguments
        (.triggerActionAwaitingData sender workflow) tables = .error .attributeError := by
      show awaitingDataCallback workflow tables = _
      rw [awaitingDataCallback, setWorkflowStatus_of_none hrow]
      rfl
    exact iff_of_false (not_pushesAlike_of_error herror) (not_keepsCurrentAction_of_none hrow)
  | some row =>
    obtain ⟨tables', hok, hrow', hlast⟩ := awaitingDataCallback_of_some hrow
    have hok : databaseCallback clock
        (ResultEvent.triggerActionAwaitingData sender workflow).arguments
        (.triggerActionAwaitingData sender workflow) tables = .ok tables' := hok
    rw [pushesAlike_iff_of_ok hok, keepsCurrentAction_iff_of_some hrow,
      ← currentStep_iff clock workflow.executionId "awaiting_data" (by decide) hrow hrow' hlast]
    unfold workflowPush
    simp

/-! ## Events of an action -/

section

variable (maxLength : ℕ) (clock : Clock) {event : ResultEvent} {tables : Tables}

/-- An event with the database and the action streams as receivers. -/
theorem orderIrrelevant_action_iff (hreceivers : receivers event = [.database, .actionStreams]) :
    OrderIrrelevant maxLength clock event tables ↔
      SameOutcome (delivered maxLength clock event [.actionStreams, .database] tables)
        (delivered maxLength clock event [.database, .actionStreams] tables) := by
  unfold OrderIrrelevant
  rw [hreceivers]
  refine ⟨fun h => h _ (.swap _ _ _), fun h order horder => ?_⟩
  rcases perm_two horder with rfl | rfl
  · exact .refl _
  · exact h

variable {converted : List Dict}

/-- The streams first. -/
theorem delivered_streams_first
    (hconvert : event.arguments.mapM convertActionArgument = .ok converted) :
    delivered maxLength clock event [.actionStreams, .database] tables =
      match actionPush maxLength clock converted event with
      | .ok push => match databaseCallback clock converted event tables with
        | .ok tables' => pushToActionStreams push
            { undelivered event tables' with arguments := converted }
        | .error _ => pushToActionStreams push
            { undelivered event tables with arguments := converted }
      | .error _ => { undelivered event tables with arguments := converted } := by
  have hconvert' : (undelivered event tables).arguments.mapM convertActionArgument =
    .ok converted := hconvert
  unfold delivered
  rw [sendTo_cons, receive_actionStreams hconvert']
  cases actionPush maxLength clock converted event with
  | error e => rfl
  | ok push =>
    dsimp only
    rw [sendTo_cons, receive_database]
    unfold pushToActionStreams undelivered
    dsimp only
    cases databaseCallback clock converted event tables with
    | ok tables' => rfl
    | error e => rfl

/-- The database first. -/
theorem delivered_database_first
    (hconvert : event.arguments.mapM convertActionArgument = .ok converted) :
    delivered maxLength clock event [.database, .actionStreams] tables =
      match databaseCallback clock event.arguments event tables with
      | .ok tables' => match actionPush maxLength clock converted event with
        | .ok push => pushToActionStreams push
            { undelivered event tables' with arguments := converted }
        | .error _ => { undelivered event tables' with arguments := converted }
      | .error _ => undelivered event tables := by
  unfold delivered
  rw [sendTo_cons, receive_database]
  have hstart : (undelivered event tables).arguments = event.arguments := rfl
  have htables : (undelivered event tables).tables = tables := rfl
  rw [hstart, htables]
  cases databaseCallback clock event.arguments event tables with
  | error e => rfl
  | ok tables' =>
    dsimp only
    have hconvert' : (undelivered event tables').arguments.mapM convertActionArgument =
      .ok converted := hconvert
    show finalState (sendTo maxLength clock event [.actionStreams] (undelivered event tables')) = _
    rw [sendTo_cons, receive_actionStreams hconvert']
    cases actionPush maxLength clock converted event with
    | ok push => rfl
    | error e => rfl

/-- Where the database is written alike with both lists of arguments, the order is irrelevant. -/
theorem orderIrrelevant_of_alike
    (hreceivers : receivers event = [.database, .actionStreams])
    (hconvert : event.arguments.mapM convertActionArgument = .ok converted)
    {tables' : Tables} (hdatabase : databaseCallback clock event.arguments event tables = .ok tables')
    (hdatabase' : databaseCallback clock converted event tables = .ok tables')
    {push : Option Push} (hpush : actionPush maxLength clock converted event = .ok push) :
    OrderIrrelevant maxLength clock event tables := by
  rw [orderIrrelevant_action_iff maxLength clock hreceivers,
    delivered_streams_first maxLength clock hconvert,
    delivered_database_first maxLength clock hconvert, hdatabase, hdatabase', hpush]
  exact .refl _

/-- Where only the streams can be pushed to, the order matters. -/
theorem not_orderIrrelevant_of_error
    (hreceivers : receivers event = [.database, .actionStreams])
    (hconvert : event.arguments.mapM convertActionArgument = .ok converted)
    {e : Exn} (hdatabase : databaseCallback clock event.arguments event tables = .error e)
    {push : Push} (hpush : actionPush maxLength clock converted event = .ok (some push)) :
    ¬OrderIrrelevant maxLength clock event tables := by
  rw [orderIrrelevant_action_iff maxLength clock hreceivers,
    delivered_streams_first maxLength clock hconvert,
    delivered_database_first maxLength clock hconvert, hdatabase, hpush]
  intro h
  have hstream := h.actionStream
  cases hdatabase' : databaseCallback clock converted event tables with
  | ok tables' =>
    rw [hdatabase'] at hstream
    cases hstream
  | error e' =>
    rw [hdatabase'] at hstream
    cases hstream

end

/-- The start of an action with a row goes on with the row. -/
theorem actionStartCallback_of_some {sender : ActionSender} {workflow : WorkflowSender}
    {clock : Clock} {tables : Tables} {row : ActionStatus}
    (hrow : tables.action sender.executionId = some row) (arguments : List Dict) :
    actionStartCallback sender workflow arguments clock tables =
      .ok (tables.putAction sender.executionId { row with status := .executing }) := by
  rw [actionStartCallback, hrow]
  rfl

/-- The row that is created for an action. -/
def createdRow (sender : ActionSender) (workflow : WorkflowSender) (clock : Clock)
    (text : String) : ActionStatus :=
  { executionId := sender.executionId, actionId := sender.id, name := sender.name
    appName := sender.appName, actionName := sender.actionName, result := none
    arguments := some text, status := .executing, startedAt := clock.now
    completedAt := none, workflowStatusId := some workflow.executionId }

/-- Without a row of the action, one is created where there is a row of the workflow. -/
theorem actionStartCallback_of_none {sender : ActionSender} {workflow : WorkflowSender}
    {clock : Clock} {tables : Tables} (hrow : tables.action sender.executionId = none)
    {arguments : List Dict} {text : String}
    (htext : PyVal.dumps (.list (arguments.map .dict)) = .ok text) :
    actionStartCallback sender workflow arguments clock tables =
      if (tables.workflow workflow.executionId).isSome then
        .ok (tables.putAction sender.executionId (createdRow sender workflow clock text))
      else .error .attributeError := by
  rw [actionStartCallback, hrow]
  dsimp only
  rw [htext]
  cases tables.workflow workflow.executionId with
  | none => rfl
  | some row => rfl

/-- A row of an action that was put is found. -/
theorem putAction_action (executionId : UUID) (row : ActionStatus) (tables : Tables) :
    (tables.putAction executionId row).action executionId = some row :=
  OrderedDict.get?_set_self _ _ _

/-- When the order does not matter for the start of an action. -/
theorem orderIrrelevant_started_iff (maxLength : ℕ) (clock : Clock) (sender : ActionSender)
    (workflow : WorkflowSender) (tables : Tables) :
    OrderIrrelevant maxLength clock (.actionStarted sender workflow) tables ↔
      (tables.action sender.executionId).isSome ∨
        ((tables.workflow workflow.executionId).isSome ∧
          ∀ m ∈ sender.arguments, ConvertsToItself m) := by
  obtain ⟨converted, hconvert, hjson, hiff⟩ := convertArguments_spec sender.arguments
  have hconvert : (ResultEvent.actionStarted sender workflow).arguments.mapM
    convertActionArgument = .ok converted := hconvert
  have hpush : actionPush maxLength clock converted (.actionStarted sender workflow) =
    .ok (some (formatActionReturn workflow
      (formatActionData clock sender workflow .executing converted) "started")) := rfl
  cases hrow : tables.action sender.executionId with
  | some row =>
    refine iff_of_true ?_ (.inl rfl)
    exact orderIrrelevant_of_alike maxLength clock rfl hconvert
      (actionStartCallback_of_some hrow _) (actionStartCallback_of_some hrow _) hpush
  | none =>
    obtain ⟨text, htext, hinjective⟩ := dumps_arguments sender.arguments
    have hdatabase : databaseCallback clock (ResultEvent.actionStarted sender workflow).arguments
        (.actionStarted sender workflow) tables = _ := actionStartCallback_of_none hrow htext
    cases hworkflow : tables.workflow workflow.executionId with
    | none =>
      rw [hworkflow] at hdatabase
      refine iff_of_false (not_orderIrrelevant_of_error maxLength clock rfl hconvert hdatabase
        hpush) ?_
      rintro (h | ⟨h, _⟩)
      · cases h
      · cases h
    | some workflowRow =>
      rw [hworkflow, if_pos Option.isSome_some] at hdatabase
      constructor
      · intro h
        refine .inr ⟨rfl, hiff.mp ?_⟩
        rw [orderIrrelevant_action_iff maxLength clock rfl,
          delivered_streams_first maxLength clock hconvert,
          delivered_database_first maxLength clock hconvert, hdatabase, hpush] at h
        have hrows := congrArg (OrderedDict.get? sender.executionId) h.actionStatus
        have hfirst : OrderedDict.get? sender.executionId (tables.putAction sender.executionId
            (createdRow sender workflow clock text)).actionStatus =
              some (createdRow sender workflow clock text) := putAction_action _ _ _
        have hdatabase' : databaseCallback clock converted (.actionStarted sender workflow)
          tables = actionStartCallback sender workflow converted clock tables := rfl
        rw [hdatabase'] at hrows
        cases htext' : PyVal.dumps (.list (converted.map .dict)) with
        | ok text' =>
          rw [actionStartCallback_of_none hrow htext', hworkflow,
            if_pos Option.isSome_some] at hrows
          have hsecond : OrderedDict.get? sender.executionId (tables.putAction sender.executionId
              (createdRow sender workflow clock text')).actionStatus =
                some (createdRow sender workflow clock text') := putAction_action _ _ _
          have heq := Option.some.inj (hsecond.symm.trans (hrows.trans hfirst))
          have htexts := congrArg ActionStatus.arguments heq
          cases htexts
          exact hinjective converted hjson htext'
        | error e =>
          have herror : actionStartCallback sender workflow converted clock tables = .error e := by
            rw [actionStartCallback, hrow]
            dsimp only
            rw [htext']
            rfl
          rw [herror] at hrows
          have hnone : OrderedDict.get? sender.executionId tables.actionStatus = none := hrow
          cases hnone.symm.trans (hrows.trans hfirst)
      · rintro (h | ⟨_, h⟩)
        · cases h
        · have hsame := hiff.mpr h
          subst hsame
          exact orderIrrelevant_of_alike maxLength clock rfl hconvert hdatabase hdatabase hpush

/-- An entry of a dictionary of JSON is JSON. -/
theorem isJson_of_get? {items : List (String × PyVal)} (h : isJsonItems items = true)
    {key : String} {v : PyVal} (hv : OrderedDict.get? key items = some v) : isJson v = true := by
  induction items with
  | nil => cases hv
  | cons item items ih =>
    obtain ⟨k, x⟩ := item
    rw [isJsonItems, Bool.and_eq_true] at h
    rw [OrderedDict.get?] at hv
    split at hv
    · cases hv
      exact h.1
    · exact ih h.2 hv

/-- The result in JSON is JSON. -/
theorem isJson_resultOf {data result : PyVal} (hdata : isJson data = true)
    (h : resultOf data = .ok result) : isJson result = true := by
  cases data with
  | dict items =>
    rw [isJson, Bool.and_eq_true] at hdata
    rw [resultOf] at h
    cases hget : OrderedDict.get? "result" items with
    | none =>
      rw [hget] at h
      cases h
    | some v =>
      rw [hget] at h
      cases h
      exact isJson_of_get? hdata.2 hget
  | _ => cases h

/-- When the order does not matter for the outcome of an action. -/
theorem orderIrrelevant_outcome_iff (maxLength : ℕ) (clock : Clock) (outcome : ActionOutcome)
    (sender : ActionSender) (workflow : WorkflowSender) (data : PyVal)
    (hdata : isJson data = true) (tables : Tables) :
    OrderIrrelevant maxLength clock (.actionOutcome outcome sender workflow data hdata) tables ↔
      (tables.action sender.executionId).isSome ∨ ∀ result, resultOf data ≠ .ok result := by
  obtain ⟨converted, hconvert, _, _⟩ := convertArguments_spec sender.arguments
  have hconvert : (ResultEvent.actionOutcome outcome sender workflow data hdata).arguments.mapM
    convertActionArgument = .ok converted := hconvert
  have hdatabase : ∀ arguments, databaseCallback clock arguments
    (.actionOutcome outcome sender workflow data hdata) tables =
      actionOutcomeCallback outcome sender data clock tables := fun _ => rfl
  cases hresult : resultOf data with
  | error e =>
    have hpush : actionPush maxLength clock converted
        (.actionOutcome outcome sender workflow data hdata) = .error e := by
      show (formatActionDataWithResults _ _ _ _ _ _ _ >>= _) = _
      rw [formatActionDataWithResults, hresult]
      rfl
    have herror : ∃ e', actionOutcomeCallback outcome sender data clock tables = .error e' := by
      unfold actionOutcomeCallback
      rw [hresult]
      cases tables.action sender.executionId with
      | none => exact ⟨_, rfl⟩
      | some row => exact ⟨_, rfl⟩
    obtain ⟨e', herror⟩ := herror
    refine iff_of_true ?_ (.inr fun result h => (by cases h))
    rw [orderIrrelevant_action_iff maxLength clock rfl,
      delivered_streams_first maxLength clock hconvert,
      delivered_database_first maxLength clock hconvert, hdatabase, hdatabase, herror, hpush]
    exact ⟨rfl, rfl, rfl, rfl, rfl⟩
  | ok result =>
    have hpush : ∃ push, actionPush maxLength clock converted
        (.actionOutcome outcome sender workflow data hdata) = .ok (some push) := by
      show ∃ push, (formatActionDataWithResults _ _ _ _ _ _ _ >>= _) = _
      rw [formatActionDataWithResults, hresult]
      exact ⟨_, rfl⟩
    obtain ⟨push, hpush⟩ := hpush
    cases hrow : tables.action sender.executionId with
    | none =>
      have herror : actionOutcomeCallback outcome sender data clock tables =
          .error .attributeError := by
        rw [actionOutcomeCallback, hrow]
        rfl
      refine iff_of_false (not_orderIrrelevant_of_error maxLength clock rfl hconvert
        ((hdatabase _).trans herror) hpush) ?_
      rintro (h | h)
      · cases h
      · exact h result rfl
    | some row =>
      obtain ⟨text, htext⟩ := dumps_of_isJson result (isJson_resultOf hdata hresult)
      have hok : ∃ tables', actionOutcomeCallback outcome sender data clock tables =
          .ok tables' := by
        rw [actionOutcomeCallback, hrow]
        dsimp only
        rw [hresult]
        show ∃ tables', (result.dumps >>= _) = _
        rw [htext]
        exact ⟨_, rfl⟩
      obtain ⟨tables', hok⟩ := hok
      exact iff_of_true (orderIrrelevant_of_alike maxLength clock rfl hconvert
        ((hdatabase _).trans hok) ((hdatabase _).trans hok) hpush) (.inl rfl)

/-! ## All events -/

/-- **When the order of the receivers is irrelevant.** -/
theorem orderIrrelevant_iff (maxLength : ℕ) (clock : Clock) (event : ResultEvent)
    (tables : Tables) :
    OrderIrrelevant maxLength clock event tables ↔ OrderCondition tables event := by
  cases event with
  | workflowExecutionPending sender user =>
    rw [orderIrrelevant_workflow_iff maxLength clock rfl rfl]
    exact pushesAlike_pending_iff clock sender user tables
  | workflowPaused sender =>
    rw [orderIrrelevant_workflow_iff maxLength clock rfl rfl]
    exact pushesAlike_paused_iff clock sender tables
  | triggerActionAwaitingData sender workflow =>
    obtain ⟨converted, hconvert, _, _⟩ := convertArguments_spec sender.arguments
    have hconvert : (ResultEvent.triggerActionAwaitingData sender workflow).arguments.mapM
      convertActionArgument = .ok converted := hconvert
    rw [orderIrrelevant_awaiting_iff maxLength clock rfl (fun _ => rfl) hconvert rfl rfl]
    exact pushesAlike_awaiting_iff clock sender workflow tables
  | actionStarted sender workflow =>
    exact orderIrrelevant_started_iff maxLength clock sender workflow tables
  | actionOutcome outcome sender workflow data hdata =>
    exact orderIrrelevant_outcome_iff maxLength clock outcome sender workflow data hdata tables

/-- The execution 7 of a workflow. -/
def sampleWorkflowSender : WorkflowSender :=
  { name := "sample", id := 100, executionId := 7 }

/-- An action of it that starts with the text `5` as its argument. -/
def sampleActionSender : ActionSender :=
  { name := "act", id := 1, executionId := 8, appName := "App", actionName := "act"
    arguments := [{ name := some "number", value := some "5", reference := none
                    selection := none }] }

/-- The row of the execution 7. -/
def sampleTables : Tables :=
  { workflowStatus := [(7, WorkflowStatus.new 7 100 "sample" none)], actionStatus := []
    metrics := { apps := [], workflows := [] } }

/-- **The stored arguments** depend on the order: the text `5`, or the number once the stream has
converted it. -/
theorem stored_arguments_depend_on_order :
    ¬OrderIrrelevant 256 { now := 0, text := "" }
      (.actionStarted sampleActionSender sampleWorkflowSender) sampleTables := by
  rw [orderIrrelevant_started_iff]
  rintro (h | ⟨_, h⟩)
  · revert h
    decide
  · have hnone := (h _ (List.mem_singleton_self _)).1 "5" rfl
    have hsome : loads "5" = some (.int 5) := loads_dumps rfl rfl
    cases hnone.symm.trans hsome

end Walkoff.Analysis
