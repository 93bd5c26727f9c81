import Walkoff.Analysis.Frames

/-!
# What the signals of a run do

A workflow event is always encoded when it carries no data; the data of `WorkflowShutdown`
is the accumulator and has to be JSON. `WorkflowPaused` and `TriggerActionAwaitingData` are
sent only after a row is added to the table of saved workflows, which takes one row for an
execution, with app instances that can be pickled.
-/

set_option autoImplicit false

namespace Walkoff.Analysis

open Walkoff.Model Walkoff.Program
open Walkoff.Library (Ends Within OrderedDict lift bind_apply bind_eq_ok)

variable {σ : Type}

/-- The packet of a workflow event with its data as text. -/
def workflowPacket (o : Origin) (event : WalkoffEvent) (text : String) : Packet :=
  { event, user := o.user, executionId := o.executionId, senderId := none
    actionExecutionId := none, arguments := [], additionalData := some text }

/-! ## Workflow events -/

/-- The message of an event of a workflow. -/
theorem eventToProtobuf_workflow {event : WalkoffEvent} (h : event.eventType = .workflow)
    (o : Origin) (data : Option PyVal) (startArguments : List Argument) :
    eventToProtobuf .workflow ⟨o.executionId, o.user⟩ event data startArguments =
      ((data.getD .none).dumps).map (workflowPacket o event) := by
  unfold eventToProtobuf
  rw [h]
  cases (data.getD .none).dumps <;> rfl

/-- Sending a workflow event that saves nothing sends its packet if the data is JSON. -/
theorem sendEvent_eq {event : WalkoffEvent} (hevent : event.eventType = .workflow)
    (hsaves : event.savesWorkflow = false) (env : Env σ) (o : Origin) (data : Option PyVal)
    (w : World σ) : sendEvent env o event data w = match (data.getD .none).dumps with
      | .ok text => .ok () (w.withPacket (workflowPacket o event text))
      | .error e => .error e w := by
  rw [sendEvent, handleEvent_eq_sendPacket hsaves, sendPacket, bind_apply,
    eventToProtobuf_workflow hevent]
  cases (data.getD .none).dumps <;> rfl

/-- The start of an execution is always announced. -/
theorem sendEvent_start (env : Env σ) (o : Origin) (w : World σ) :
    sendEvent env o .workflowExecutionStart none w =
      .ok () (w.withPacket (workflowPacket o .workflowExecutionStart "null")) :=
  sendEvent_eq rfl rfl env o none w

/-- The beginning of a run never raises. -/
theorem announceStart_ok (env : Env σ) (ctx : Context)
    (environmentVariables : List EnvironmentVariable) (w : World σ) : ∃ w', announceStart env ctx environmentVariables w = .ok () w' := by
  unfold announceStart fileEnvironmentVariables
  split
  · exact ⟨_, sendEvent_start env ctx.origin w⟩
  · exact ⟨_, sendEvent_start env ctx.origin _⟩

/-- An abort is always reported. -/
theorem sendEvent_aborted (env : Env σ) (o : Origin) (w : World σ) :
    sendEvent env o .workflowAborted none w =
      .ok () (w.withPacket (workflowPacket o .workflowAborted "null")) :=
  sendEvent_eq rfl rfl env o none w

/-! ## Saving the workflow -/

/-- The exception of saving an execution, if it cannot be saved. -/
def saveRefusal (env : Env σ) (executionId : UUID) (w : World σ) : Option Exn :=
  if !env.instancesPickle w.instances w.behaviour then some statementError
  else if (w.savedState executionId).isSome then some .integrityError
  else none

/-- An execution can be saved if its app instances pickle and it has no row yet. -/
theorem saveRefusal_eq_none_iff {env : Env σ} {executionId : UUID} {w : World σ} :
    saveRefusal env executionId w = none ↔
      env.instancesPickle w.instances w.behaviour = true ∧ w.savedState executionId = none := by
  unfold saveRefusal
  cases env.instancesPickle w.instances w.behaviour with
  | false => simp
  | true =>
    cases w.savedState executionId with
    | none => simp
    | some saved => simp

/-- **A row is added if the execution can be saved.** -/
theorem addSavedWorkflow_eq (env : Env σ) {o : Origin} {action : Action}
    (h : o.executingAction = some action) (w : World σ) :
    addSavedWorkflow env o w = match saveRefusal env o.executionId w with
      | none => .ok () ((w.withSavedWorkflow
          (savedWorkflowFromWorkflow o action w.instances)).logged (.saved action.id true))
      | some e => .error e (w.logged (.saved action.id false)) := by
  unfold addSavedWorkflow saveRefusal
  rw [h]
  cases hpickle : env.instancesPickle w.instances w.behaviour with
  | false => simp [bind_apply, hpickle, observe]
  | true =>
    cases hsaved : w.savedState o.executionId with
    | none => simp [bind_apply, hpickle, hsaved, observe]
    | some saved => simp [bind_apply, hpickle, hsaved, observe]

/-- A pause is saved and reported, or refused. -/
theorem sendEvent_paused (env : Env σ) {o : Origin} {action : Action}
    (h : o.executingAction = some action) (w : World σ) :
    sendEvent env o .workflowPaused none w = match saveRefusal env o.executionId w with
      | none => .ok () (((w.withSavedWorkflow
          (savedWorkflowFromWorkflow o action w.instances)).logged (.saved action.id true)).withPacket
            (workflowPacket o .workflowPaused "null"))
      | some e => .error e (w.logged (.saved action.id false)) := by
  rw [sendEvent, handleEvent_eq_save rfl, bind_apply, addSavedWorkflow_eq env h]
  cases saveRefusal env o.executionId w with
  | none =>
    simp only [sendPacket, bind_apply, eventToProtobuf_workflow (rfl :
      WalkoffEvent.workflowPaused.eventType = .workflow)]
    rfl
  | some e => rfl

/-! ## Shutting down -/

/-- **Shutting down** reports the accumulator and clears it, or raises when the accumulator
is not JSON. -/
theorem shutdown_eq (env : Env σ) (ctx : Context) (w : World σ) :
    let w₁ := { w with behaviour := env.shutdownInstances w.instances w.behaviour }
    let accumulator := w.accumulators ctx.executionId
    shutdown env ctx w = match (accumulator.asJson ctx.executionId).dumps with
      | .ok text => .ok () { w₁.withPacket (workflowPacket ctx.origin .workflowShutdown text) with
          accumulators := Function.update w.accumulators ctx.executionId accumulator.clear }
      | .error e => .error e w₁ := by
  intro w₁ accumulator
  have hsend : sendEvent env ctx.origin .workflowShutdown (some (accumulator.asJson ctx.executionId)) w₁ = _ :=
    sendEvent_eq rfl rfl env ctx.origin (some (accumulator.asJson ctx.executionId)) w₁
  simp only [Option.getD_some] at hsend
  have hshutdown : shutdown env ctx w = (sendEvent env ctx.origin .workflowShutdown
      (some (accumulator.asJson ctx.executionId)) >>= fun _ => do
        putAccumulator ctx.executionId (← getAccumulator ctx.executionId).clear) w₁ := rfl
  rw [hshutdown, bind_apply, hsend]
  cases (accumulator.asJson ctx.executionId).dumps <;> rfl

/-! ## Awaiting data -/

/-- The packet of an await, if the action's own arguments can be encoded. -/
def awaitPacket (o : Origin) (sender : Sender) : Except Exn Packet :=
  eventToProtobuf sender ⟨o.executionId, o.user⟩ .triggerActionAwaitingData none []

/-- **An await is saved and reported**; it is refused when the execution cannot be saved, and it
is saved without being reported when the packet cannot be encoded. -/
theorem awaitData_eq (env : Env σ) {o : Origin} {action : Action}
    (h : o.executingAction = some action) (sender : Sender) (w : World σ) :
    let saved := (w.withSavedWorkflow
      (savedWorkflowFromWorkflow o action w.instances)).logged (.saved action.id true)
    awaitData env o action sender w = match saveRefusal env o.executionId w with
      | some e => .error e (w.logged (.saved action.id false))
      | none => match awaitPacket o sender with
        | .ok packet => .ok
            (.actionResult { result := .str "trigger", status := some "trigger" })
            ((saved.withPacket packet).logged (.awaiting action.id))
        | .error e => .error e saved := by
  intro saved
  rw [awaitData, handleEvent_eq_save rfl, bind_apply, bind_apply, addSavedWorkflow_eq env h]
  cases saveRefusal env o.executionId w with
  | some e => rfl
  | none =>
    simp only [sendPacket, bind_apply]
    unfold awaitPacket
    cases eventToProtobuf sender ⟨o.executionId, o.user⟩ .triggerActionAwaitingData none [] <;> rfl

/-- The packet of an await has its event and its execution. -/
theorem awaitPacket_event {o : Origin} {sender : Sender} {packet : Packet}
    (h : awaitPacket o sender = .ok packet) :
    packet.event = .triggerActionAwaitingData ∧ packet.executionId = o.executionId :=
  eventToProtobuf_event h

/-- **An action that waits for data** is started and then awaits, or raises before that. -/
theorem performAction_awaits (env : Env σ) {o : Origin} {action : Action} {resume : Bool}
    (h : (action.trigger.isSome && !resume) = true) (arguments : List Argument) (w : World σ) :
    (∃ e w', performAction env o action arguments resume w = .error e w' ∧
        Frame Never (Inner o.executionId) w w') ∨
      ∃ sender w₁, Frame Never (Inner o.executionId) w w₁ ∧
        performAction env o action arguments resume w = awaitData env o action sender w₁ := by
  unfold performAction executeAction
  simp only [h, if_true, bind_apply]
  have hsetup := (frame_setupAppInstance (P := Never) env o action).ends w
  cases hdevice : setupAppInstance env o action w with
  | error e w₁ => exact .inl ⟨e, w₁, rfl, hsetup.of_error hdevice⟩
  | ok deviceId w₁ =>
    have hframe := hsetup.of_ok hdevice
    have hstart := (frame_startAction (P := Never) env o action arguments).ends w₁
    cases hsender : startAction env o action arguments w₁ with
    | error e w₂ =>
      exact .inl ⟨e, w₂, by simp only [hsender], hframe.trans (hstart.of_error hsender)⟩
    | ok sender w₂ =>
      exact .inr ⟨sender, w₂, hframe.trans (hstart.of_ok hsender), by simp only [hsender]⟩

section

variable {env : Env σ} {resume : Bool}

/-- An action that waits for data makes the turn raise, whether or not it can be saved. -/
theorem awaits_not_status {o : Origin} {action : Action} (haction : o.executingAction = some action)
    (h : (action.trigger.isSome && !resume) = true) (arguments : List Argument) (w w' : World σ)
    (status : String) :
    performAction env o action arguments resume w ≠ .ok (.status status) w' := by
  intro hstatus
  rcases performAction_awaits env h arguments w with ⟨e, w₁, hraised, -⟩ | ⟨sender, w₁, -, hawait⟩
  · rw [hraised] at hstatus
    cases hstatus
  · rw [hawait, awaitData_eq env haction] at hstatus
    cases hrefusal : saveRefusal env o.executionId w₁ with
    | some e =>
      rw [hrefusal] at hstatus
      cases hstatus
    | none =>
      rw [hrefusal] at hstatus
      cases hpacket : awaitPacket o sender <;> simp [hpacket] at hstatus

/-- Only an action that waits for data returns an `ActionResult`. -/
theorem awaits_of_actionResult {o : Origin} {action : Action} {arguments : List Argument}
    {w w' : World σ} {result : ActionResult}
    (h : performAction env o action arguments resume w = .ok (.actionResult result) w') :
    (action.trigger.isSome && !resume) = true := by
  by_contra hnot
  obtain ⟨status, _, hstatus, -⟩ :=
    (performAction_runs env o (Bool.eq_false_iff.mpr hnot) arguments w).of_ok h
  cases hstatus

end

end Walkoff.Analysis
