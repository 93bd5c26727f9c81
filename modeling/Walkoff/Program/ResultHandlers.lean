import Walkoff.Program.ResultsSender

/-!
# Handling results at the controller

The receivers of `walkoff.server.workflowresults`: they set the status of the execution's
row without looking at the status it has, and the two that end an execution delete its
saved state.
-/

set_option autoImplicit false

namespace Walkoff.Program

open Walkoff.Model
open Walkoff.Library (OrderedDict)

variable {σ : Type}

/-- Set the status of an execution's row; there has to be one. -/
def setStatus (executionId : UUID) (status : WorkflowStatusEnum) : M σ Unit := do
  let w ← get
  match OrderedDict.get? executionId w.workflowStatus with
  | none => throw .attributeError
  | some row => modify fun w => { w with
      workflowStatus := OrderedDict.set executionId { row with status } w.workflowStatus }

/-- Delete the saved state of an execution, if there is one. -/
def deleteSavedState (executionId : UUID) : M σ Unit :=
  modify fun w => { w with
    savedWorkflow := w.savedWorkflow.filter (·.workflowExecutionId ≠ executionId) }

/-- `__workflow_pending`: the row is made pending, or made. -/
def workflowPending (executionId workflowId : UUID) : M σ Unit :=
  modify fun w => { w with
    workflowStatus := OrderedDict.set executionId
      (match OrderedDict.get? executionId w.workflowStatus with
        | some row => { row with status := .pending }
        | none => { executionId, workflowId, status := .pending }) w.workflowStatus }

/-- `__workflow_started_callback`. -/
def workflowStarted (executionId : UUID) : M σ Unit := setStatus executionId .running

/-- `__workflow_paused_callback`. -/
def workflowPaused (executionId : UUID) : M σ Unit := setStatus executionId .paused

/-- `__workflow_awaiting_data_callback`. -/
def workflowAwaitingData (executionId : UUID) : M σ Unit := setStatus executionId .awaitingData

/-- `__workflow_ended_callback`. -/
def workflowEnded (executionId : UUID) : M σ Unit := do
  setStatus executionId .completed
  deleteSavedState executionId

/-- `__workflow_aborted`. -/
def workflowAborted (executionId : UUID) : M σ Unit := do
  setStatus executionId .aborted
  deleteSavedState executionId

/-- The receivers of a packet taken off the results socket, as far as they change the
status of the workflow. -/
def receivePacket (packet : Packet) : M σ Unit :=
  match packet.event with
  | .workflowExecutionStart => workflowStarted packet.executionId
  | .workflowPaused => workflowPaused packet.executionId
  | .triggerActionAwaitingData => workflowAwaitingData packet.executionId
  | .workflowShutdown => workflowEnded packet.executionId
  | .workflowAborted => workflowAborted packet.executionId
  | _ => pure ()

/-- `receive_results`: the packets in the order in which they were sent. -/
def receiveResults : List Packet → M σ Unit
  | [] => pure ()
  | packet :: packets => do
    receivePacket packet
    receiveResults packets

end Walkoff.Program
