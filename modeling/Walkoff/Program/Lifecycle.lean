import Walkoff.Program.Controller
import Walkoff.Program.WorkflowExecutor

/-!
# The life of one execution

The controller queues a request, a worker runs it, the controller receives the packets the
run has sent, and users resume the paused execution, send data to its trigger or abort it.
Here these steps follow each other: a run and the receipt of its packets is one step.
-/

set_option autoImplicit false

namespace Walkoff.Program

open Walkoff.Model
open Walkoff.Library (Ended finalState)

variable {σ : Type}

/-- What happens next in the life of an execution. -/
inductive LifecycleOp where
  /-- A worker takes the next request off the queue and runs it, and the controller receives
  the results. -/
  | work (thread : String) (control : ℕ → Control) (turns : ℕ)
  /-- `resume_workflow`. -/
  | resume (user : Option String)
  /-- `resume_trigger_step`, for an execution that awaits data. -/
  | answer (dataIn : PyVal) (arguments : List Argument) (user : Option String)
  /-- `abort_workflow`. -/
  | abort

/-- The packets a run has sent are received. -/
def receiveSince (sent : List Packet) (w : World σ) : World σ :=
  finalState (receiveResults (w.sent.drop sent.length) w)

/-- The world after a step, if it can be taken. -/
def lifecycleStep (env : Env σ) (executionId : UUID) (w : World σ) :
    LifecycleOp → Option (World σ)
  | .work thread control turns =>
    match w.requestQueue with
    | [] => none
    | request :: requests =>
      match execute env control turns thread request { w with requestQueue := requests } with
      | .ok (.running _) _ => none
      | .ok .returned w' => some (receiveSince w.sent w')
      | .error _ w' => some (receiveSince w.sent w')
  | .resume user => some (finalState (resumeWorkflow executionId user w))
  | .answer dataIn arguments user =>
    if w.status executionId = some .awaitingData then
      some (finalState (resumeTriggerStep env executionId dataIn arguments user w))
    else none
  | .abort => some (finalState (abortWorkflow executionId w))

/-- The life of an execution as a transition system. -/
def LifecycleStep (env : Env σ) (executionId : UUID) (w : World σ) (op : LifecycleOp)
    (w' : World σ) : Prop :=
  lifecycleStep env executionId w op = some w'

/-- The controller starts an execution of a stored workflow. -/
def lifecycleStart (behaviour : σ) (workflows : List Workflow) (workflowId executionId : UUID)
    (start : Option UUID) (startArguments : List Argument)
    (environmentVariables : List EnvironmentVariable) (user : Option String) : World σ :=
  finalState (executeWorkflow workflowId executionId start startArguments false
    environmentVariables user (World.start behaviour workflows))

end Walkoff.Program
