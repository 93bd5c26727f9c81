import Walkoff.Program.WorkflowExecutor

/-!
# A sample app

The concrete runs of this development use one app with one unbound action without
parameters. What its function returns is up to the run.
-/

set_option autoImplicit false

namespace Walkoff.Analysis

open Walkoff.Model Walkoff.Program

/-- The API of the sample app: its action declares the statuses `Success` and `trigger`. -/
def sampleApis : AppApis :=
  [("App", [("act",
    { run := "act", parameters := [], defaultReturn := none
      returns := some [("Success", none), ("trigger", none)] })])]

/-- The sample app with a function that keeps no state; conditions hold. -/
def sampleEnv (appFunction : Action → ActionResult) : Env Unit where
  accumulatorType := .external
  appApis := sampleApis
  isAppActionBound _ _ := pure false
  validateParameter value _ _ := pure value
  appFunction action _ _ _ := (.ok (appFunction action), ())
  condition _ _ _ _ := (.ok true, ())
  createInstance _ _ := ()
  shutdownInstances _ _ := ()
  instancesPickle _ _ := true

/-- The sample app whose function returns nothing and the default status. -/
def succeeding : Env Unit :=
  sampleEnv fun _ => { result := .none, status := none }

/-- An action of the sample app. -/
def sampleAction (id : UUID) (trigger : Option ConditionalExpression) : Action :=
  { id, appName := "App", actionName := "act", name := "act", deviceId := none, arguments := []
    trigger }

/-- A branch without a condition. -/
def sampleBranch (id sourceId destinationId : UUID) (status : String) : Branch :=
  { id, sourceId, destinationId, status := some status, condition := none, priority := 999 }

/-- A workflow that starts at the action 1. -/
def sampleWorkflow (actions : List Action) (branches : List Branch) : Workflow :=
  { id := 100, name := "sample", start := some 1, isValid := true, actions, branches
    environmentVariables := [] }

/-- A trigger without conditions. -/
def sampleTrigger : ConditionalExpression :=
  .mk 20 .and false [] []

/-- The request for the first run of the execution 7 of a sample workflow. -/
def sampleRequest : Request :=
  { workflowId := 100, executionId := 7, start := none, startArguments := [], resume := false
    environmentVariables := [], user := none }

/-- A database with one workflow and the pending execution 7 of it. -/
def pendingWorld (workflow : Workflow) : World Unit :=
  { World.start () [workflow] with
    workflowStatus := [(7, { executionId := 7, workflowId := workflow.id, status := .pending })] }

/-- The actions 1 and 2, one after the other. -/
def twoActions (trigger trigger' : Option ConditionalExpression) : Workflow :=
  sampleWorkflow [sampleAction 1 trigger, sampleAction 2 trigger'] [sampleBranch 10 1 2 "Success"]

/-- A loop whose context is told nothing. -/
def undisturbed (_ : ℕ) : Control :=
  { pause := false, abort := false }

/-- A loop whose context is told to pause at a boundary. -/
def pausedAt (n boundary : ℕ) : Control :=
  { pause := n == boundary, abort := false }

end Walkoff.Analysis
