import Walkoff.Library.Effect
import Walkoff.Program.ResultHandlers

/-!
# What the receivers do with the packets

A packet sets the status of the row of its execution, whatever the status was, and the two
that end an execution delete its saved state. Packets of one execution never raise as long
as the execution has a row.
-/

set_option autoImplicit false

namespace Walkoff.Analysis

open Walkoff.Model Walkoff.Program
open Walkoff.Library (Within OrderedDict bind_apply finalState)

variable {σ : Type}

/-- The status a packet sets. -/
def statusAfter : WalkoffEvent → Option WorkflowStatusEnum
  | .workflowExecutionStart => some .running
  | .workflowPaused => some .paused
  | .triggerActionAwaitingData => some .awaitingData
  | .workflowShutdown => some .completed
  | .workflowAborted => some .aborted
  | _ => none

/-- The two events whose receivers delete the saved state. -/
def endsExecution : WalkoffEvent → Bool
  | .workflowShutdown | .workflowAborted => true
  | _ => false

/-- The world of the controller after a packet. -/
def afterPacket (row : WorkflowStatus) (packet : Packet) (w : World σ) : World σ :=
  { w with
    workflowStatus := match statusAfter packet.event with
      | some status => OrderedDict.set packet.executionId { row with status } w.workflowStatus
      | none => w.workflowStatus
    savedWorkflow := if endsExecution packet.event then
        w.savedWorkflow.filter (·.workflowExecutionId ≠ packet.executionId)
      else w.savedWorkflow }

/-- The status of an execution with a row is set. -/
theorem setStatus_eq {executionId : UUID} {w : World σ} {row : WorkflowStatus}
    (h : OrderedDict.get? executionId w.workflowStatus = some row) (status : WorkflowStatusEnum) :
    setStatus executionId status w = .ok () { w with
      workflowStatus := OrderedDict.set executionId { row with status } w.workflowStatus } := by
  simp [setStatus, bind_apply, h]

/-- **A packet of an execution with a row** sets its status. -/
theorem receivePacket_eq {packet : Packet} {w : World σ} {row : WorkflowStatus}
    (h : OrderedDict.get? packet.executionId w.workflowStatus = some row) :
    receivePacket packet w = .ok () (afterPacket row packet w) := by
  have hset := setStatus_eq h
  obtain ⟨event, user, executionId, senderId, actionExecutionId, arguments, data⟩ := packet
  cases event <;>
    simp [receivePacket, workflowStarted, workflowPaused, workflowAwaitingData, workflowEnded,
      workflowAborted, deleteSavedState, bind_apply, hset, afterPacket, statusAfter, endsExecution]

/-- Without a row a receiver raises, if it has anything to do. -/
theorem finalState_receivePacket_of_none {packet : Packet} {w : World σ}
    (h : OrderedDict.get? packet.executionId w.workflowStatus = none) :
    finalState (receivePacket packet w) = w := by
  have hset : ∀ status, setStatus packet.executionId status w = .error .attributeError w := by
    simp [setStatus, bind_apply, h]
  obtain ⟨event, user, executionId, senderId, actionExecutionId, arguments, data⟩ := packet
  cases event <;>
    simp [receivePacket, workflowStarted, workflowPaused, workflowAwaitingData, workflowEnded,
      workflowAborted, bind_apply, hset, finalState]

/-- After a packet its execution has the row with the new status. -/
theorem get?_afterPacket {row : WorkflowStatus} {packet : Packet} {w : World σ}
    (h : OrderedDict.get? packet.executionId w.workflowStatus = some row) :
    OrderedDict.get? packet.executionId (afterPacket row packet w).workflowStatus =
      some { row with status := (statusAfter packet.event).getD row.status } := by
  unfold afterPacket
  cases statusAfter packet.event with
  | none => simpa using h
  | some status => simp

/-- The last packet that sets a status decides. -/
def finalStatus (status : WorkflowStatusEnum) (packets : List Packet) : WorkflowStatusEnum :=
  packets.foldl (fun status packet => (statusAfter packet.event).getD status) status

/-- Packets are followed one after another. -/
theorem finalStatus_append (status : WorkflowStatusEnum) (packets packets' : List Packet) :
    finalStatus status (packets ++ packets') = finalStatus (finalStatus status packets) packets' :=
  List.foldl_append ..

/-- The saved states after the packets of an execution. -/
def savedAfter (executionId : UUID) (packets : List Packet) (saved : List SavedWorkflow) :
    List SavedWorkflow :=
  if packets.any (fun packet => endsExecution packet.event) then
    saved.filter (·.workflowExecutionId ≠ executionId)
  else saved

/-- The same of the saved states. -/
theorem savedAfter_cons (executionId : UUID) (packet : Packet) (packets : List Packet)
    (saved : List SavedWorkflow) :
    savedAfter executionId packets (if endsExecution packet.event then
        saved.filter (·.workflowExecutionId ≠ executionId) else saved) =
      savedAfter executionId (packet :: packets) saved := by
  unfold savedAfter
  rw [List.any_cons]
  cases hends : endsExecution packet.event with
  | false => rfl
  | true =>
    simp only [if_true, Bool.true_or, List.filter_filter, Bool.and_self, ite_self]

/-- **The packets of an execution are received**: the last one that sets a status decides, the
saved state goes if one of them ends the execution, and nothing else changes. -/
theorem receiveResults_eq {executionId : UUID} {packets : List Packet} {w : World σ}
    {row : WorkflowStatus} (h : OrderedDict.get? executionId w.workflowStatus = some row)
    (hpackets : ∀ p ∈ packets, p.executionId = executionId) :
    ∃ workflowStatus, receiveResults packets w = .ok () { w with
        workflowStatus, savedWorkflow := savedAfter executionId packets w.savedWorkflow } ∧
      OrderedDict.get? executionId workflowStatus =
        some { row with status := finalStatus row.status packets } := by
  induction packets generalizing w row with
  | nil => exact ⟨w.workflowStatus, rfl, h⟩
  | cons packet packets ih =>
    obtain ⟨rfl, hrest⟩ := List.forall_mem_cons.mp hpackets
    obtain ⟨workflowStatus, hreceived, hstatus⟩ := ih (get?_afterPacket h) hrest
    refine ⟨workflowStatus, ?_, hstatus⟩
    rw [receiveResults, bind_apply, receivePacket_eq h]
    dsimp only
    rw [hreceived, ← savedAfter_cons]
    rfl

/-! ## What receiving leaves alone -/

section

variable {R : World σ → World σ → Prop} [Std.Refl R] [IsTrans (World σ) R]
  (htables : ∀ w workflowStatus savedWorkflow, R w { w with workflowStatus, savedWorkflow })

include htables

omit [Std.Refl R] [IsTrans (World σ) R] in
/-- Deleting a saved state keeps what its parts keep. -/
theorem within_deleteSavedState (executionId : UUID) :
    Within R (deleteSavedState executionId : M σ Unit) :=
  fun w => htables w w.workflowStatus _

/-- Setting a status keeps what its parts keep. -/
theorem within_setStatus (executionId : UUID) (status : WorkflowStatusEnum) :
    Within R (setStatus executionId status : M σ Unit) := by
  refine Within.bind Within.get fun w => ?_
  cases OrderedDict.get? executionId w.workflowStatus with
  | none => exact Within.throw _
  | some row => exact fun w => htables w _ w.savedWorkflow

/-- Receiving a packet keeps what its parts keep. -/
theorem within_receivePacket (packet : Packet) : Within R (receivePacket packet : M σ Unit) := by
  have hset := within_setStatus htables packet.executionId
  have hdelete := within_deleteSavedState htables packet.executionId
  unfold receivePacket
  cases packet.event with
  | workflowExecutionStart => exact hset .running
  | workflowPaused => exact hset .paused
  | triggerActionAwaitingData => exact hset .awaitingData
  | workflowShutdown => exact Within.bind (hset .completed) fun _ => hdelete
  | workflowAborted => exact Within.bind (hset .aborted) fun _ => hdelete
  | _ => exact Within.pure _

/-- **Receiving packets changes the two tables only.** -/
theorem within_receiveResults (packets : List Packet) :
    Within R (receiveResults packets : M σ Unit) := by
  induction packets with
  | nil => exact Within.pure _
  | cons packet packets ih => exact Within.bind (within_receivePacket htables packet) fun _ => ih

end

/-- The log is the same. -/
def SameLog (w w' : World σ) : Prop := w'.log = w.log

instance : Std.Refl (SameLog : World σ → World σ → Prop) where
  refl _ := rfl

instance : IsTrans (World σ) SameLog where
  trans _ _ _ huv hvw := hvw.trans huv

/-- Receiving packets logs nothing. -/
theorem sameLog_receiveResults (packets : List Packet) :
    Within SameLog (receiveResults packets : M σ Unit) :=
  within_receiveResults (fun _ _ _ => rfl) packets

end Walkoff.Analysis
