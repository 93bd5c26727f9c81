import Mathlib.Data.Rat.Defs
import Walkoff.Model.World

/-!
# The rows behind the results of an execution

The tables `workflow_status` and `action_status` with all their columns, and the tables of the
metrics. Times are exact rational numbers of seconds.
-/

set_option autoImplicit false

namespace Walkoff.Model.Results

/-- `ActionStatusEnum`. -/
inductive ActionStatusEnum where
  | executing
  | awaitingData
  | success
  | failure
  | aborted
  deriving DecidableEq, Repr

/-- A row of the table `workflow_status`. -/
structure WorkflowStatus where
  executionId : UUID
  workflowId : UUID
  name : String
  status : WorkflowStatusEnum
  startedAt : Option ℚ
  completedAt : Option ℚ
  user : Option String
  deriving DecidableEq

/-- `WorkflowStatus(execution_id, workflow_id, name, user)`. -/
def WorkflowStatus.new (executionId workflowId : UUID) (name : String) (user : Option String) :
    WorkflowStatus :=
  { executionId, workflowId, name, status := .pending, startedAt := none, completedAt := none
    user }

/-- A row of the table `action_status`; its `started_at` is set when it is inserted. -/
structure ActionStatus where
  executionId : UUID
  actionId : UUID
  name : String
  appName : String
  actionName : String
  result : Option String
  arguments : Option String
  status : ActionStatusEnum
  startedAt : ℚ
  completedAt : Option ℚ
  workflowStatusId : Option UUID
  deriving DecidableEq

/-- `completed_success`. -/
def ActionStatus.completedSuccess (self : ActionStatus) (result : String) (now : ℚ) :
    ActionStatus :=
  { self with status := .success, result := some result, completedAt := some now }

/-- `completed_failure`. -/
def ActionStatus.completedFailure (self : ActionStatus) (result : String) (now : ℚ) :
    ActionStatus :=
  { self with status := .failure, result := some result, completedAt := some now }

/-- A row of the table `action_status_metric`. -/
structure ActionStatusMetric where
  status : String
  count : ℕ
  avgTime : ℚ
  deriving DecidableEq

namespace ActionStatusMetric

/-- `ActionStatusMetric(status, avg_time)`. -/
def new (status : String) (avgTime : ℚ) : ActionStatusMetric :=
  { status, avgTime, count := 1 }

/-- `ActionStatusMetric.update`. -/
def update (executionTime : ℚ) (self : ActionStatusMetric) : ActionStatusMetric :=
  { self with count := self.count + 1, avgTime := (self.avgTime + executionTime) / 2 }

end ActionStatusMetric

/-- A row of the table `action_metric`. -/
structure ActionMetric where
  actionId : UUID
  actionName : String
  actionStatuses : List ActionStatusMetric
  deriving DecidableEq

/-- A row of the table `app_metric`. -/
structure AppMetric where
  app : String
  count : ℕ
  actions : List ActionMetric
  deriving DecidableEq

/-- `AppMetric(app)`. -/
def AppMetric.new (app : String) : AppMetric :=
  { app, count := 0, actions := [] }

/-- A row of the table `workflow_metric`. -/
structure WorkflowMetric where
  workflowId : UUID
  workflowName : String
  count : ℕ
  avgTime : ℚ
  deriving DecidableEq

namespace WorkflowMetric

/-- `WorkflowMetric(workflow_id, workflow_name, avg_time)`. -/
def new (workflowId : UUID) (workflowName : String) (avgTime : ℚ) : WorkflowMetric :=
  { workflowId, workflowName, avgTime, count := 1 }

/-- `WorkflowMetric.update`. -/
def update (executionTime : ℚ) (self : WorkflowMetric) : WorkflowMetric :=
  { self with count := self.count + 1, avgTime := (self.avgTime + executionTime) / 2 }

end WorkflowMetric

/-- The tables of the metrics. -/
structure Metrics where
  apps : List AppMetric
  workflows : List WorkflowMetric
  deriving DecidableEq

end Walkoff.Model.Results
