import Walkoff.Library.Locality
import Walkoff.Program.StatusHandlers

/-!
# Executions do not touch each other's rows

The receivers of the results look at the rows of one execution and change no others, provided that no
two executions share the execution id of an action. So the events of many executions, in whatever
order they arrive, leave in the rows of each what its own events leave there, and the receivers raise
only where they would have raised for one execution alone.
-/

set_option autoImplicit false

namespace Walkoff.Analysis

open Walkoff.Library
open Walkoff.Model hiding WorkflowStatus
open Walkoff.Model.Results Walkoff.Program.Results
open Walkoff.Program.ResultsCodec (Dict)

/-! ## The rows of an execution -/

/-- What the tables hold of an execution. -/
def rowsOf (executionId : UUID) (tables : StatusTables) :
    Option WorkflowStatus × OrderedDict UUID ActionStatus × List SavedWorkflow :=
  (tables.rows.workflow executionId,
    tables.rows.actionStatus.filter (·.2.workflowStatusId = some executionId),
    tables.savedWorkflow.filter (·.workflowExecutionId = executionId))

/-- The execution id of an action is one of its owner, a workflow execution. -/
def OwnedEvent (owner : UUID → UUID) : StatusEvent → Prop
  | .result (.actionStarted sender workflow) | .result (.actionOutcome _ sender workflow _ _) =>
    owner sender.executionId = workflow.executionId
  | _ => True

/-- Every row of an action is one of the owner of its id. -/
def OwnedRows (owner : UUID → UUID) (rows : Tables) : Prop :=
  ∀ item ∈ rows.actionStatus, item.2.workflowStatusId = some (owner item.1)

/-! ## One table -/

section

variable {owner : UUID → UUID} {rows rows' : Tables} {e e' : UUID}

/-- The rows of an execution in the tables of the statuses are the same. -/
def SameRows (e : UUID) (rows rows' : Tables) : Prop :=
  rows.workflow e = rows'.workflow e ∧
    rows.actionStatus.filter (·.2.workflowStatusId = some e) =
      rows'.actionStatus.filter (·.2.workflowStatusId = some e)

/-- An execution has the rows it has. -/
theorem SameRows.refl (e : UUID) (rows : Tables) : SameRows e rows rows :=
  ⟨rfl, rfl⟩

/-- Sameness of rows is transitive. -/
theorem SameRows.trans {rows'' : Tables} (h : SameRows e rows rows')
    (h' : SameRows e rows' rows'') : SameRows e rows rows'' :=
  ⟨h.1.trans h'.1, h.2.trans h'.2⟩

/-- The rows of the actions of an execution are those whose id it owns. -/
theorem OwnedRows.filter_eq (h : OwnedRows owner rows) (e : UUID) :
    rows.actionStatus.filter (·.2.workflowStatusId = some e) =
      rows.actionStatus.filter (fun item => decide (owner item.1 = e)) := by
  refine List.filter_congr fun item hitem => ?_
  rw [h item hitem]
  simp only [Option.some.injEq]

/-- A row put under its owner keeps the rows owned. -/
theorem OwnedRows.putAction (h : OwnedRows owner rows) {x : UUID} {row : ActionStatus}
    (hrow : row.workflowStatusId = some (owner x)) : OwnedRows owner (rows.putAction x row) := by
  intro item hitem
  rcases OrderedDict.mem_set hitem with rfl | hmem
  · exact hrow
  · exact h item hmem

/-- The row of one workflow changes no rows of another. -/
theorem sameRows_putWorkflow (h : e' ≠ e) (row : WorkflowStatus) (rows : Tables) :
    SameRows e' (rows.putWorkflow e row) rows :=
  ⟨OrderedDict.get?_set_of_ne h row rows.workflowStatus, rfl⟩

/-- The same row put into both keeps the rows the same. -/
theorem SameRows.putWorkflow (h : SameRows e rows rows') (row : WorkflowStatus) :
    SameRows e (rows.putWorkflow e row) (rows'.putWorkflow e row) := by
  refine ⟨?_, h.2⟩
  unfold Tables.workflow Tables.putWorkflow
  rw [OrderedDict.get?_set_self, OrderedDict.get?_set_self]

/-- The row of an action of another execution changes nothing. -/
theorem sameRows_putAction (hrows : OwnedRows owner rows) {x : UUID} (h : owner x ≠ e)
    {row : ActionStatus} (hrow : row.workflowStatusId = some (owner x)) :
    SameRows e (rows.putAction x row) rows := by
  refine ⟨rfl, ?_⟩
  rw [(hrows.putAction hrow).filter_eq, hrows.filter_eq]
  exact OrderedDict.filter_set_of_neg (q := fun y => decide (owner y = e)) (by simpa using h) row
    rows.actionStatus

/-- The same row of an action put into both keeps the rows the same. -/
theorem SameRows.putAction (h : SameRows e rows rows') (hrows : OwnedRows owner rows)
    (hrows' : OwnedRows owner rows') {x : UUID} (hx : owner x = e) {row : ActionStatus}
    (hrow : row.workflowStatusId = some (owner x)) :
    SameRows e (rows.putAction x row) (rows'.putAction x row) := by
  refine ⟨h.1, ?_⟩
  have hset := fun d : OrderedDict UUID ActionStatus =>
    OrderedDict.filter_set_of_pos (q := fun y => decide (owner y = e)) (by simpa using hx) row d
  have hfilter := h.2
  rw [hrows.filter_eq, hrows'.filter_eq] at hfilter
  rw [(hrows.putAction hrow).filter_eq, (hrows'.putAction hrow).filter_eq]
  exact (hset _).trans ((congrArg _ hfilter).trans (hset _).symm)

/-- The row of an action is found in what the tables hold of its owner. -/
theorem SameRows.action_eq (h : SameRows e rows rows') (hrows : OwnedRows owner rows)
    (hrows' : OwnedRows owner rows') {x : UUID} (hx : owner x = e) :
    rows.action x = rows'.action x := by
  have hget := fun d : OrderedDict UUID ActionStatus =>
    OrderedDict.get?_filter_of_pos (q := fun y => decide (owner y = e)) (by simpa using hx) d
  have hfilter := h.2
  rw [hrows.filter_eq, hrows'.filter_eq] at hfilter
  exact (hget _).symm.trans ((congrArg _ hfilter).trans (hget _))

/-- The row of an action names its owner. -/
theorem owner_of_action (hrows : OwnedRows owner rows) {x : UUID} {row : ActionStatus}
    (h : rows.action x = some row) : row.workflowStatusId = some (owner x) :=
  hrows (x, row) (OrderedDict.mem_of_get? h)

/-- The last action of an execution is one of its own. -/
theorem owner_of_last (hrows : OwnedRows owner rows) {x : UUID} {row : ActionStatus}
    (h : rows.lastActionStatus e = some (x, row)) :
    owner x = e ∧ row.workflowStatusId = some (owner x) := by
  obtain ⟨hmem, hid⟩ := List.mem_filter.mp (List.mem_of_getLast? h)
  have howner := hrows (x, row) hmem
  refine ⟨?_, howner⟩
  exact Option.some.inj (howner.symm.trans (of_decide_eq_true hid))

end

/-! ## Receivers that keep to an execution -/

section

variable {owner : UUID → UUID} {e : UUID}

/-- A receiver changes no rows but those of one execution, and reads no others. -/
structure KeepsTo (owner : UUID → UUID) (e : UUID) (receiver : Tables → Except Exn Tables) :
    Prop where
  frame : ∀ {rows t}, OwnedRows owner rows → receiver rows = .ok t →
    OwnedRows owner t ∧ ∀ e', e' ≠ e → SameRows e' t rows
  agrees : ∀ {rows rows' t}, OwnedRows owner rows → OwnedRows owner rows' →
    SameRows e rows rows' → receiver rows = .ok t → ∃ t', receiver rows' = .ok t' ∧ SameRows e t t'

/-- Two receivers that keep to an execution do so one after the other. -/
theorem KeepsTo.bind {first second : Tables → Except Exn Tables} (h : KeepsTo owner e first)
    (h' : KeepsTo owner e second) : KeepsTo owner e fun rows => first rows >>= second where
  frame hrows hok := by
    obtain ⟨r, hr, ht⟩ := Except.bind_eq_ok.mp hok
    obtain ⟨howned, hframe⟩ := h.frame hrows hr
    obtain ⟨howned', hframe'⟩ := h'.frame howned ht
    exact ⟨howned', fun e' he => (hframe' e' he).trans (hframe e' he)⟩
  agrees hrows hrows' hsame hok := by
    obtain ⟨r, hr, ht⟩ := Except.bind_eq_ok.mp hok
    obtain ⟨r', hr', hsame'⟩ := h.agrees hrows hrows' hsame hr
    obtain ⟨t', ht', hend⟩ := h'.agrees (h.frame hrows hr).1 (h.frame hrows' hr').1 hsame' ht
    exact ⟨t', Except.bind_eq_ok.mpr ⟨r', hr', ht'⟩, hend⟩

/-- A change of the row of the execution. -/
theorem keepsTo_putWorkflow (change : Option WorkflowStatus → Except Exn WorkflowStatus) :
    KeepsTo owner e fun rows => (change (rows.workflow e)).bind fun row =>
      .ok (rows.putWorkflow e row) where
  frame hrows hok := by
    obtain ⟨row, -, ht⟩ := Except.bind_eq_ok.mp hok
    cases ht
    exact ⟨hrows, fun e' he => sameRows_putWorkflow he row _⟩
  agrees _ _ hsame hok := by
    obtain ⟨row, hrow, ht⟩ := Except.bind_eq_ok.mp hok
    cases ht
    rw [hsame.1] at hrow
    exact ⟨_, Except.bind_eq_ok.mpr ⟨row, hrow, rfl⟩, hsame.putWorkflow row⟩

/-- A change of the last action of the execution. -/
theorem keepsTo_lastAction (change : ActionStatus → ActionStatus)
    (hchange : ∀ row, (change row).workflowStatusId = row.workflowStatusId) :
    KeepsTo owner e fun rows => .ok ((rows.lastActionStatus e).elim rows fun item =>
      rows.putAction item.1 (change item.2)) where
  frame {rows t} hrows hok := by
    cases hok
    cases hlast : rows.lastActionStatus e with
    | none => exact ⟨hrows, fun e' _ => .refl e' rows⟩
    | some item =>
      obtain ⟨hx, hrow⟩ := owner_of_last hrows hlast
      have hrow' := (hchange item.2).trans hrow
      refine ⟨hrows.putAction hrow', fun e' he => sameRows_putAction hrows ?_ hrow'⟩
      exact hx ▸ he.symm
  agrees {rows rows' t} hrows hrows' hsame hok := by
    cases hok
    have hlasts : rows.lastActionStatus e = rows'.lastActionStatus e :=
      congrArg List.getLast? hsame.2
    rw [← hlasts]
    cases hlast : rows.lastActionStatus e with
    | none => exact ⟨rows', rfl, hsame⟩
    | some item =>
      obtain ⟨hx, hrow⟩ := owner_of_last hrows hlast
      exact ⟨_, rfl, hsame.putAction hrows hrows' hx ((hchange item.2).trans hrow)⟩

/-- The last action is set to wait, if there is one. -/
theorem awaitLastAction_eq (rows : Tables) :
    awaitLastAction e rows = (rows.lastActionStatus e).elim rows fun item =>
      rows.putAction item.1 { item.2 with status := .awaitingData } := by
  unfold awaitLastAction
  cases rows.lastActionStatus e with
  | none => rfl
  | some item => rfl

/-- The last action is aborted, if there is one. -/
theorem abortLastAction_eq (rows : Tables) :
    abortLastAction e rows = (rows.lastActionStatus e).elim rows fun item =>
      rows.putAction item.1 (ActionStatus.aborted item.2) := by
  unfold abortLastAction
  cases rows.lastActionStatus e with
  | none => rfl
  | some item => rfl

/-- Changing the row of the workflow keeps to its execution. -/
theorem keepsTo_changeWorkflow (change : WorkflowStatus → WorkflowStatus) :
    KeepsTo owner e (changeWorkflow e change) := by
  have heq : changeWorkflow e change = fun rows =>
      ((rows.workflow e).elim (Except.error Exn.attributeError) fun row =>
        Except.ok (change row)).bind fun row => .ok (rows.putWorkflow e row) := by
    funext rows
    unfold changeWorkflow
    cases rows.workflow e with
    | none => rfl
    | some row => rfl
  rw [heq]
  exact keepsTo_putWorkflow fun row => row.elim (.error .attributeError) fun row =>
    .ok (change row)

/-- The same of making it pending. -/
theorem keepsTo_pendingCallback (sender : WorkflowSender) (user : Option String) :
    KeepsTo owner sender.executionId fun rows => .ok (pendingCallback sender user rows) := by
  have heq : (fun rows => Except.ok (pendingCallback sender user rows)) = fun rows : Tables =>
      (Except.ok (ε := Exn) ((rows.workflow sender.executionId).elim
        (WorkflowStatus.new sender.executionId sender.id sender.name user)
        fun row => { row with status := .pending })).bind
        fun row => .ok (rows.putWorkflow sender.executionId row) := by
    funext rows
    unfold pendingCallback
    cases rows.workflow sender.executionId with
    | none => rfl
    | some row => rfl
  rw [heq]
  exact keepsTo_putWorkflow fun row => .ok (row.elim
    (WorkflowStatus.new sender.executionId sender.id sender.name user)
    fun row => { row with status := .pending })

/-- The same of letting it wait for data. -/
theorem keepsTo_awaitingDataCallback (workflow : WorkflowSender) :
    KeepsTo owner workflow.executionId (awaitingDataCallback workflow) := by
  have heq : awaitingDataCallback workflow = fun rows =>
      changeWorkflow workflow.executionId (fun row => { row with status := .awaitingData }) rows >>=
        fun rows => .ok ((rows.lastActionStatus workflow.executionId).elim rows fun item =>
          rows.putAction item.1 { item.2 with status := .awaitingData }) := by
    funext rows
    unfold awaitingDataCallback
    simp only [awaitLastAction_eq]
    rfl
  rw [heq]
  exact (keepsTo_changeWorkflow _).bind
    (keepsTo_lastAction (fun row => { row with status := .awaitingData }) fun _ => rfl)

/-- The same of the start of an action. -/
theorem keepsTo_actionStartCallback {sender : ActionSender} {workflow : WorkflowSender}
    (howner : owner sender.executionId = workflow.executionId) (arguments : List Dict)
    (clock : Clock) :
    KeepsTo owner workflow.executionId (actionStartCallback sender workflow arguments clock) where
  frame {rows t} hrows hok := by
    unfold actionStartCallback at hok
    cases haction : rows.action sender.executionId with
    | some row =>
      rw [haction] at hok
      cases hok
      have hrow := owner_of_action hrows haction
      refine ⟨hrows.putAction hrow, fun e' he => sameRows_putAction hrows ?_ hrow⟩
      exact howner ▸ he.symm
    | none =>
      rw [haction] at hok
      obtain ⟨text, -, hok⟩ := Except.bind_eq_ok.mp hok
      cases hworkflow : rows.workflow workflow.executionId with
      | none =>
        rw [hworkflow] at hok
        cases hok
      | some row =>
        rw [hworkflow] at hok
        cases hok
        have hrow := congrArg some howner.symm
        refine ⟨hrows.putAction hrow, fun e' he => sameRows_putAction hrows ?_ hrow⟩
        exact howner ▸ he.symm
  agrees {rows rows' t} hrows hrows' hsame hok := by
    have haction' := hsame.action_eq hrows hrows' howner
    unfold actionStartCallback at hok ⊢
    rw [← haction', ← hsame.1]
    cases haction : rows.action sender.executionId with
    | some row =>
      rw [haction] at hok
      cases hok
      have hrow := owner_of_action hrows haction
      refine ⟨_, rfl, hsame.putAction hrows hrows' howner ?_⟩
      exact hrow
    | none =>
      rw [haction] at hok
      obtain ⟨text, htext, hok⟩ := Except.bind_eq_ok.mp hok
      cases hworkflow : rows.workflow workflow.executionId with
      | none =>
        rw [hworkflow] at hok
        cases hok
      | some row =>
        rw [hworkflow] at hok
        cases hok
        exact ⟨_, Except.bind_eq_ok.mpr ⟨text, htext, rfl⟩,
          hsame.putAction hrows hrows' howner (congrArg some howner.symm)⟩

/-- The metrics are no rows of an execution. -/
theorem sameRows_metrics (e : UUID) (metrics : Metrics) (rows : Tables) :
    SameRows e { rows with metrics } rows :=
  ⟨rfl, rfl⟩

/-- The same of the outcome of an action. -/
theorem keepsTo_actionOutcomeCallback (outcome : ActionOutcome) {sender : ActionSender}
    (howner : owner sender.executionId = e) (data : PyVal) (clock : Clock) :
    KeepsTo owner e (actionOutcomeCallback outcome sender data clock) where
  frame {rows t} hrows hok := by
    unfold actionOutcomeCallback at hok
    cases haction : rows.action sender.executionId with
    | none =>
      rw [haction] at hok
      cases hok
    | some row =>
      rw [haction] at hok
      obtain ⟨result, -, hok⟩ := Except.bind_eq_ok.mp hok
      obtain ⟨text, -, hok⟩ := Except.bind_eq_ok.mp hok
      cases hok
      have hrow : (outcome.complete row text clock.now).workflowStatusId =
          some (owner sender.executionId) := by
        rw [← owner_of_action hrows haction]
        cases outcome <;> rfl
      refine ⟨hrows.putAction hrow, fun e' he => ?_⟩
      exact (sameRows_metrics e' _ _).trans (sameRows_putAction hrows (howner ▸ he.symm) hrow)
  agrees {rows rows' t} hrows hrows' hsame hok := by
    have haction' := hsame.action_eq hrows hrows' howner
    unfold actionOutcomeCallback at hok ⊢
    rw [← haction']
    cases haction : rows.action sender.executionId with
    | none =>
      rw [haction] at hok
      cases hok
    | some row =>
      rw [haction] at hok
      obtain ⟨result, hresult, hok⟩ := Except.bind_eq_ok.mp hok
      obtain ⟨text, htext, hok⟩ := Except.bind_eq_ok.mp hok
      cases hok
      have hrow : (outcome.complete row text clock.now).workflowStatusId =
          some (owner sender.executionId) := by
        rw [← owner_of_action hrows haction]
        cases outcome <;> rfl
      refine ⟨_, Except.bind_eq_ok.mpr ⟨result, hresult,
        Except.bind_eq_ok.mpr ⟨text, htext, rfl⟩⟩, ?_⟩
      exact hsame.putAction hrows hrows' howner hrow

/-- The same of the metrics of the workflow. -/
theorem keepsTo_trackWorkflow (sender : WorkflowSender) (clock : Clock) :
    KeepsTo owner sender.executionId (trackWorkflow sender clock) where
  frame {rows t} hrows hok := by
    unfold trackWorkflow at hok
    cases hstart : (rows.workflow sender.executionId).bind WorkflowStatus.startedAt with
    | none =>
      rw [hstart] at hok
      cases hok
    | some startedAt =>
      rw [hstart] at hok
      cases hok
      exact ⟨hrows, fun e' _ => sameRows_metrics e' _ rows⟩
  agrees {rows rows' t} _ _ hsame hok := by
    unfold trackWorkflow at hok ⊢
    rw [← hsame.1]
    cases hstart : (rows.workflow sender.executionId).bind WorkflowStatus.startedAt with
    | none =>
      rw [hstart] at hok
      cases hok
    | some startedAt =>
      rw [hstart] at hok
      cases hok
      exact ⟨_, rfl, hsame⟩

end

/-! ## All receivers -/

section

variable {owner : UUID → UUID}

/-- The receiver of the database keeps to the execution of the event. -/
theorem keepsTo_databaseCallback {event : ResultEvent} (howned : OwnedEvent owner (.result event))
    (clock : Clock) (arguments : List Dict) :
    KeepsTo owner event.executionId (databaseCallback clock arguments event) := by
  cases event with
  | workflowExecutionPending sender user => exact keepsTo_pendingCallback sender user
  | workflowPaused sender => exact keepsTo_changeWorkflow fun row => { row with status := .paused }
  | triggerActionAwaitingData sender workflow => exact keepsTo_awaitingDataCallback workflow
  | actionStarted sender workflow => exact keepsTo_actionStartCallback howned arguments clock
  | actionOutcome outcome sender workflow data hdata =>
    exact keepsTo_actionOutcomeCallback outcome howned data clock

/-- A saved state of an execution is found among those of the execution. -/
theorem exists_saved_filter {saved : List SavedWorkflow} {e : UUID} :
    (∃ row ∈ saved.filter (·.workflowExecutionId = e), row.workflowExecutionId = e) ↔
      ∃ row ∈ saved, row.workflowExecutionId = e := by
  simp [List.mem_filter]

/-- The rows of an execution: those of the statuses, and its saved states. -/
theorem rowsOf_eq_iff {e : UUID} {s t : StatusTables} :
    rowsOf e s = rowsOf e t ↔ SameRows e s.rows t.rows ∧
      s.savedWorkflow.filter (·.workflowExecutionId = e) =
        t.savedWorkflow.filter (·.workflowExecutionId = e) := by
  unfold rowsOf SameRows
  rw [Prod.mk.injEq, Prod.mk.injEq, and_assoc]

/-- Deleting one saved state leaves those of others. -/
theorem filter_deleteSaved {e e' : UUID} (h : e' ≠ e) (saved : List SavedWorkflow) :
    (deleteSaved e saved).filter (·.workflowExecutionId = e') =
      saved.filter (·.workflowExecutionId = e') := by
  unfold deleteSaved
  rw [List.filter_filter]
  refine List.filter_congr fun row _ => ?_
  by_cases hrow : row.workflowExecutionId = e'
  · simp [hrow, h]
  · simp [hrow]

/-- After deleting it, an execution has no saved state. -/
theorem filter_deleteSaved_self (e : UUID) (saved : List SavedWorkflow) :
    (deleteSaved e saved).filter (·.workflowExecutionId = e) = [] := by
  unfold deleteSaved
  rw [List.filter_filter]
  exact List.filter_eq_nil_iff.mpr fun row _ => by simp

/-- A handling changes nothing of other executions, and looks at nothing of them. -/
structure KeepsRows (owner : UUID → UUID) (e : UUID)
    (handle : StatusTables → Except Exn StatusTables) : Prop where
  frame : ∀ {s t}, OwnedRows owner s.rows → handle s = .ok t →
    OwnedRows owner t.rows ∧ ∀ e', e' ≠ e → rowsOf e' t = rowsOf e' s
  agrees : ∀ {s s' t}, OwnedRows owner s.rows → OwnedRows owner s'.rows →
    rowsOf e s = rowsOf e s' → handle s = .ok t →
      ∃ t', handle s' = .ok t' ∧ rowsOf e t' = rowsOf e t

/-- A receiver of the rows beside a change of the saved states. -/
theorem keepsRows_of_keepsTo {e : UUID} {receiver : Tables → Except Exn Tables}
    (h : KeepsTo owner e receiver) {change : List SavedWorkflow → List SavedWorkflow}
    (hframe : ∀ saved, ∀ e', e' ≠ e → (change saved).filter (·.workflowExecutionId = e') =
      saved.filter (·.workflowExecutionId = e'))
    (hagrees : ∀ saved saved', saved.filter (·.workflowExecutionId = e) =
        saved'.filter (·.workflowExecutionId = e) →
      (change saved').filter (·.workflowExecutionId = e) =
        (change saved).filter (·.workflowExecutionId = e)) :
    KeepsRows owner e fun tables => (receiver tables.rows).bind fun rows =>
      .ok { rows, savedWorkflow := change tables.savedWorkflow } where
  frame {s t} hrows hok := by
    obtain ⟨rows, hr, ht⟩ := Except.bind_eq_ok.mp hok
    cases ht
    obtain ⟨howned, hsame⟩ := h.frame hrows hr
    exact ⟨howned, fun e' he => rowsOf_eq_iff.mpr ⟨hsame e' he, hframe s.savedWorkflow e' he⟩⟩
  agrees {s s' t} hrows hrows' hview hok := by
    obtain ⟨rows, hr, ht⟩ := Except.bind_eq_ok.mp hok
    cases ht
    obtain ⟨hsame, hsaved⟩ := rowsOf_eq_iff.mp hview
    obtain ⟨rows', hr', hend⟩ := h.agrees hrows hrows' hsame hr
    refine ⟨_, Except.bind_eq_ok.mpr ⟨rows', hr', rfl⟩, rowsOf_eq_iff.mpr ⟨?_, ?_⟩⟩
    · exact ⟨hend.1.symm, hend.2.symm⟩
    · exact hagrees s.savedWorkflow s'.savedWorkflow hsaved

/-- A receiver of the rows alone. -/
theorem keepsRows_of_rows {e : UUID} {receiver : Tables → Except Exn Tables}
    (h : KeepsTo owner e receiver) :
    KeepsRows owner e fun tables => (receiver tables.rows).bind fun rows =>
      .ok { tables with rows } :=
  keepsRows_of_keepsTo h (fun _ _ _ => rfl) fun _ _ hsaved => hsaved.symm

/-- A receiver of the rows that also deletes the saved state of its execution. -/
theorem keepsRows_of_end {e : UUID} {receiver : Tables → Except Exn Tables}
    (h : KeepsTo owner e receiver) :
    KeepsRows owner e fun tables => (receiver tables.rows).bind fun rows =>
      .ok { rows, savedWorkflow := deleteSaved e tables.savedWorkflow } :=
  keepsRows_of_keepsTo h (fun saved _ he => filter_deleteSaved he saved) fun saved saved' _ => by
    rw [filter_deleteSaved_self, filter_deleteSaved_self]

/-- Saving a state keeps to its execution. -/
theorem keepsRows_saveWorkflow (saved : SavedWorkflow) :
    KeepsRows owner saved.workflowExecutionId fun tables =>
      if ∃ row ∈ tables.savedWorkflow, row.workflowExecutionId = saved.workflowExecutionId then
        throw .integrityError
      else pure { tables with savedWorkflow := tables.savedWorkflow ++ [saved] } where
  frame {s t} hrows hok := by
    split_ifs at hok
    cases hok
    refine ⟨hrows, fun e' he => rowsOf_eq_iff.mpr ⟨.refl e' s.rows, ?_⟩⟩
    rw [List.filter_append, List.filter_cons_of_neg (by simpa using he.symm), List.filter_nil,
      List.append_nil]
  agrees {s s' t} _ _ hview hok := by
    obtain ⟨hsame, hsaved⟩ := rowsOf_eq_iff.mp hview
    split_ifs at hok with hmem
    cases hok
    have hmem' : ¬ ∃ row ∈ s'.savedWorkflow,
        row.workflowExecutionId = saved.workflowExecutionId := by
      rw [← exists_saved_filter, ← hsaved, exists_saved_filter]
      exact hmem
    refine ⟨_, if_neg hmem', rowsOf_eq_iff.mpr ⟨⟨hsame.1.symm, hsame.2.symm⟩, ?_⟩⟩
    rw [List.filter_append, List.filter_append, hsaved]

/-- Every handling keeps to the execution of its event. -/
theorem keepsRows_handleStatus {handling : StatusHandling}
    (howned : OwnedEvent owner handling.event) :
    KeepsRows owner handling.event.executionId (handleStatus · handling) := by
  obtain ⟨clock, converted, event⟩ := handling
  cases event with
  | result event =>
    cases harguments : StatusHandling.arguments ⟨clock, converted, .result event⟩ event with
    | error exn =>
      have hraises : ∀ tables t, handleStatus tables ⟨clock, converted, .result event⟩ ≠ .ok t := by
        intro tables t hok
        unfold handleStatus at hok
        dsimp only at hok
        rw [harguments] at hok
        cases hok
      exact ⟨fun _ hok => absurd hok (hraises _ _), fun _ _ _ hok => absurd hok (hraises _ _)⟩
    | ok arguments =>
      have heq : (handleStatus · ⟨clock, converted, .result event⟩) = fun tables =>
          (databaseCallback clock arguments event tables.rows).bind fun rows =>
            .ok { tables with rows } := by
        funext tables
        unfold handleStatus
        dsimp only
        rw [harguments]
        rfl
      rw [heq]
      exact keepsRows_of_rows (keepsTo_databaseCallback howned clock arguments)
  | workflowExecutionStart sender =>
    exact keepsRows_of_rows (keepsTo_changeWorkflow (WorkflowStatus.running clock.now))
  | workflowShutdown sender =>
    have heq : (handleStatus · ⟨clock, converted, .workflowShutdown sender⟩) = fun tables =>
        (changeWorkflow sender.executionId (WorkflowStatus.completed clock.now) tables.rows >>=
          trackWorkflow sender clock).bind fun rows => .ok
            { rows, savedWorkflow := deleteSaved sender.executionId tables.savedWorkflow } := by
      funext tables
      unfold handleStatus
      dsimp only
      cases changeWorkflow sender.executionId (WorkflowStatus.completed clock.now) tables.rows with
      | error exn => rfl
      | ok rows => rfl
    rw [heq]
    exact keepsRows_of_end ((keepsTo_changeWorkflow _).bind (keepsTo_trackWorkflow sender clock))
  | workflowAborted sender =>
    have heq : (handleStatus · ⟨clock, converted, .workflowAborted sender⟩) = fun tables =>
        (changeWorkflow sender.executionId (WorkflowStatus.aborted clock.now) tables.rows >>=
          fun rows => .ok ((rows.lastActionStatus sender.executionId).elim rows fun item =>
            rows.putAction item.1 (ActionStatus.aborted item.2))).bind fun rows => .ok
              { rows, savedWorkflow := deleteSaved sender.executionId tables.savedWorkflow } := by
      funext tables
      unfold handleStatus
      dsimp only
      simp only [abortLastAction_eq]
      cases changeWorkflow sender.executionId (WorkflowStatus.aborted clock.now) tables.rows with
      | error exn => rfl
      | ok rows => rfl
    rw [heq]
    refine keepsRows_of_end ((keepsTo_changeWorkflow _).bind (keepsTo_lastAction _ fun row => ?_))
    unfold ActionStatus.aborted
    split_ifs
    · rfl
    · rfl
  | workflowResumed executionId =>
    exact ⟨fun hrows hok => (by cases hok; exact ⟨hrows, fun _ _ => rfl⟩),
      fun _ _ hview hok => (by cases hok; exact ⟨_, rfl, hview.symm⟩)⟩
  | triggerActionTaken executionId =>
    exact ⟨fun hrows hok => (by cases hok; exact ⟨hrows, fun _ _ => rfl⟩),
      fun _ _ hview hok => (by cases hok; exact ⟨_, rfl, hview.symm⟩)⟩
  | saveWorkflow saved => exact keepsRows_saveWorkflow saved

/-- Handling a status is local to the execution of its event. -/
theorem handleStatus_local :
    Local (fun handling : StatusHandling => handling.event.executionId) rowsOf
      (fun tables => OwnedRows owner tables.rows) (fun handling => OwnedEvent owner handling.event)
      (fun tables handling => handleStatus tables handling) where
  keeps _ _ _ hrows howned hok := ((keepsRows_handleStatus howned).frame hrows hok).1
  frame _ _ _ e hrows howned hok he := ((keepsRows_handleStatus howned).frame hrows hok).2 e he
  agrees _ _ _ _ hrows hrows' howned hview hok :=
    (keepsRows_handleStatus howned).agrees hrows hrows' hview hok

end

/-- The events of an execution. -/
def eventsOf (e : UUID) (run : List StatusHandling) : List StatusHandling :=
  run.filter (·.event.executionId = e)

/-- **Executions are isolated**: however their events are interleaved, the receivers raise nothing
exactly if they raise nothing on the events of any one execution, and then the rows of every execution
are those that its own events leave. -/
theorem executions_isolated {owner : UUID → UUID} {run : List StatusHandling}
    (howned : ∀ handling ∈ run, OwnedEvent owner handling.event) {tables : StatusTables}
    (hrows : OwnedRows owner tables.rows) :
    ((∃ after, handleAll run tables = .ok after) ↔
        ∀ e, ∃ after, handleAll (eventsOf e run) tables = .ok after) ∧
      ∀ after, handleAll run tables = .ok after → ∀ e alone,
        handleAll (eventsOf e run) tables = .ok alone → rowsOf e alone = rowsOf e after :=
  handleStatus_local.foldlM_iff howned hrows

/-- A workflow in two executions. -/
def firstSender : WorkflowSender :=
  { name := "scan", id := 1, executionId := 10 }

def secondSender : WorkflowSender :=
  { name := "scan", id := 1, executionId := 20 }

/-- The second execution is over while the first one is in its action. -/
def twoExecutions : List StatusHandling :=
  [⟨⟨0, "0Z"⟩, false, .result (.workflowExecutionPending firstSender none)⟩,
   ⟨⟨1, "1Z"⟩, false, .result (.workflowExecutionPending secondSender none)⟩,
   ⟨⟨2, "2Z"⟩, false, .workflowExecutionStart secondSender⟩,
   ⟨⟨3, "3Z"⟩, false, .workflowExecutionStart firstSender⟩,
   ⟨⟨4, "4Z"⟩, false, .result (.actionStarted
     { name := "ping", id := 2, executionId := 11, appName := "Network", actionName := "ping"
       arguments := [] } firstSender)⟩,
   ⟨⟨5, "5Z"⟩, false, .workflowShutdown secondSender⟩]

/-- Of two executions the first has the rows it would have alone. -/
theorem executions_isolated_two :
    ∃ after alone, handleAll twoExecutions .start = .ok after ∧
      handleAll (eventsOf 10 twoExecutions) .start = .ok alone ∧ rowsOf 10 alone = rowsOf 10 after :=
  ⟨_, _, rfl, rfl, (@executions_isolated (fun _ => 10) twoExecutions
    (by simp [twoExecutions, OwnedEvent, firstSender]) .start (by rintro item ⟨⟩)).2 _ rfl _ _ rfl⟩

end Walkoff.Analysis
