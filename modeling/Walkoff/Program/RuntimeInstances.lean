import Walkoff.Library.Glob
import Walkoff.Program.CachedAccumulators
import Walkoff.Program.RemoteExecution

/-!
# The app instances of a runtime

The runtime of an app keeps a Redis set of the devices whose instances have been created, one entry
for each execution and device. `ActionExecution.create_device` adds to it and
`WorkflowExecution.on_delete` takes out what belongs to an execution.
-/

set_option autoImplicit false

namespace Walkoff.Program

open Walkoff.Model
open Walkoff.Library (Glob.matchGlob OrderedDict finalState)

variable {σ : Type}

/-- `format_app_instance_key`. -/
def formatAppInstanceKey (workflowExecutionId : UUID) (deviceId : PyVal) : String :=
  workflowExecutionId.str ++ ":" ++ deviceId.toStr

namespace WorkflowExecution

/-- `format_scan_pattern`. -/
def formatScanPattern (workflowExecId : UUID) : String :=
  workflowExecId.str ++ ":" ++ "*"

/-- `sscan_iter` over the set of app instances. An entry that is removed is not come by again, and
any other one still is, so it makes no difference that the loop removes what comes. -/
def sscanIter (pattern : String) (order : ScanOrder) : Executing σ (List String) := do
  pure (order.order ((← get).instances.filter (Glob.matchGlob pattern)))

/-- `srem`. -/
def srem (key : String) : Executing σ Unit :=
  modify fun s => { s with instances := s.instances.filter (· ≠ key) }

/-- `on_delete`. -/
def onDelete (workflowExecId : UUID) (order : ScanOrder) : Executing σ HttpResponse := do
  (← sscanIter (formatScanPattern workflowExecId) order).forM srem
  pure { statusCode := 204, json := none }

end WorkflowExecution

/-- A runtime that has served nothing yet. -/
def RuntimeState.start (behaviour : σ) (cache : OrderedDict (String × String) PyVal) :
    RuntimeState σ :=
  { behaviour, calls := [], instances := [], cache }

/-- A request that a runtime serves: the execution of an action, or the end of an execution. -/
inductive RuntimeOp where
  | post (newId workflowExecId : UUID) (data : PyVal)
  | delete (workflowExecId : UUID) (order : ScanOrder)

/-- The state a request leaves, whether it is answered or an exception escapes. -/
def RuntimeOp.next (apps : RuntimeApps σ) (appName : String) (s : RuntimeState σ) :
    RuntimeOp → RuntimeState σ
  | .post newId workflowExecId data =>
    finalState (ActionExecution.onPost apps appName newId workflowExecId data s)
  | .delete workflowExecId order => finalState (WorkflowExecution.onDelete workflowExecId order s)

/-- The state after some requests, one after another. -/
def RuntimeState.serve (apps : RuntimeApps σ) (appName : String) (s : RuntimeState σ)
    (ops : List RuntimeOp) : RuntimeState σ :=
  ops.foldl (RuntimeOp.next apps appName) s

end Walkoff.Program
