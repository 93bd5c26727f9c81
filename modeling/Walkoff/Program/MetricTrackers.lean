import Walkoff.Library.KeyedRows
import Walkoff.Model.ResultRows

/-!
# Keeping the metrics

What the receivers of `walkoff.server.workflowresults` do to the metrics when an action or a
workflow has ended: they look for the row of its app, of the action in it and of the status in
that, and create the rows that are missing.
-/

set_option autoImplicit false

namespace Walkoff.Program.Results

open Walkoff.Model Walkoff.Model.Results
open Walkoff.Library (findOrCreate)

/-- The statuses of an action: `get_action_status`, then `update` or a new row. -/
def trackStatus (status : String) (executionTime : ℚ) :
    List ActionStatusMetric → List ActionStatusMetric :=
  findOrCreate ActionStatusMetric.status status (ActionStatusMetric.new status executionTime)
    (ActionStatusMetric.update executionTime)

/-- The actions of an app: `get_action_by_id`, then its status or a new row. -/
def trackAction (status : String) (actionId : UUID) (actionName : String) (executionTime : ℚ) :
    List ActionMetric → List ActionMetric :=
  findOrCreate ActionMetric.actionId actionId
    { actionId, actionName
      actionStatuses := [ActionStatusMetric.new status executionTime] }
    fun metric => { metric with
      actionStatuses := trackStatus status executionTime metric.actionStatuses }

/-- What `__update_action_tracker` does to the row of the app. -/
def trackApp (status : String) (actionId : UUID) (actionName : String) (executionTime : ℚ)
    (metric : AppMetric) : AppMetric :=
  { metric with
    count := metric.count + 1
    actions := trackAction status actionId actionName executionTime metric.actions }

/-- `__update_action_tracker`, on a row that has been completed at a time. -/
def updateActionTracker (status : String) (row : ActionStatus) (completedAt : ℚ)
    (metrics : Metrics) : Metrics :=
  let track := trackApp status row.actionId row.actionName (completedAt - row.startedAt)
  { metrics with
    apps := findOrCreate AppMetric.app row.appName (track (AppMetric.new row.appName)) track
      metrics.apps }

/-- The part of `__workflow_ended_callback` that updates the metrics. -/
def updateWorkflowMetric (id : UUID) (name : String) (executionTime : ℚ) (metrics : Metrics) :
    Metrics :=
  { metrics with
    workflows := findOrCreate WorkflowMetric.workflowId id
      (WorkflowMetric.new id name executionTime) (WorkflowMetric.update executionTime)
      metrics.workflows }

/-- The events after which the metrics of an action are updated. -/
inductive ActionOutcome where
  | actionExecutionSuccess
  | actionExecutionError
  | actionArgumentsInvalid
  deriving DecidableEq, Repr

/-- The status under which the receiver of an outcome counts it: `__update_success_action_tracker`
or `__update_error_action_tracker`. -/
def ActionOutcome.tracked : ActionOutcome → String
  | .actionExecutionSuccess => "success"
  | .actionExecutionError | .actionArgumentsInvalid => "error"

/-- What the receivers of an outcome make of the row of the action. -/
def ActionOutcome.complete (outcome : ActionOutcome) (row : ActionStatus) (result : String)
    (now : ℚ) : ActionStatus :=
  match outcome with
  | .actionExecutionSuccess => row.completedSuccess result now
  | .actionExecutionError | .actionArgumentsInvalid => row.completedFailure result now

/-- An event after which metrics are updated, with the row its receiver finds. -/
inductive MetricEvent where
  | action (outcome : ActionOutcome) (row : ActionStatus) (now : ℚ)
  | workflowShutdown (id : UUID) (name : String) (startedAt now : ℚ)

/-- The metrics after an event. -/
def trackEvent (metrics : Metrics) : MetricEvent → Metrics
  | .action outcome row now => updateActionTracker outcome.tracked row now metrics
  | .workflowShutdown id name startedAt now =>
    updateWorkflowMetric id name (now - startedAt) metrics

/-- The metrics after some events, from empty tables. -/
def metricsAfter (events : List MetricEvent) : Metrics :=
  events.foldl trackEvent { apps := [], workflows := [] }

end Walkoff.Program.Results
