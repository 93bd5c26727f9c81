import Mathlib.Data.List.Dedup
import Walkoff.Library.OrderedDict
import Walkoff.Model.PyVal

/-!
# Scheduled tasks

The table of scheduled tasks, the job store of the scheduler, and the requests that change
both: `walkoff.serverdb.scheduledtasks`, `walkoff.scheduler` and
`walkoff.server.endpoints.scheduler`.
-/

set_option autoImplicit false

namespace Walkoff.Program

open Walkoff.Library
open Walkoff.Library.OrderedDict (nextId)
open Walkoff.Model (PyVal UUID)

/-- The types of triggers; a task without a trigger is `unspecified`. -/
inductive TriggerType where
  | date
  | interval
  | cron
  deriving DecidableEq, Repr

/-- A `task_trigger`. -/
structure TaskTrigger where
  type : TriggerType
  args : PyVal

/-- The status of a task. -/
inductive TaskStatus where
  | running
  | stopped
  deriving DecidableEq, Repr

/-- A row of the table `scheduled_task` with its scheduled workflows. -/
structure ScheduledTask where
  name : String
  description : String
  status : TaskStatus
  workflows : List UUID
  trigger : Option TaskTrigger

/-- A job: the argument of `execute_workflow` and the trigger. -/
structure Job where
  workflowId : String
  trigger : TaskTrigger

/-- The tasks, and the jobs by their ids. -/
structure SchedulerState where
  tasks : OrderedDict ℤ ScheduledTask
  jobs : OrderedDict String Job

/-- `str` of a task id; a task that is not in the database has none. -/
def taskIdStr : Option ℤ → String
  | none => "None"
  | some taskId => toString taskId

/-- `construct_task_id`. -/
def constructTaskId (scheduledTaskId : Option ℤ) (workflowId : String) : String :=
  taskIdStr scheduledTaskId ++ "-" ++ workflowId

/-- `Scheduler.schedule_workflows`, with `add_job(..., replace_existing=True)`. -/
def scheduleWorkflows (taskId : Option ℤ) (workflowIds : List String) (trigger : TaskTrigger)
    (jobs : OrderedDict String Job) : OrderedDict String Job :=
  workflowIds.foldl
    (fun jobs workflowId => jobs.set (constructTaskId taskId workflowId) { workflowId, trigger }) jobs

/-- `Scheduler.unschedule_workflows`: a `JobLookupError` is logged. -/
def unscheduleWorkflows (taskId : Option ℤ) (workflowIds : List String)
    (jobs : OrderedDict String Job) : OrderedDict String Job :=
  workflowIds.foldl (fun jobs workflowId => jobs.pop (constructTaskId taskId workflowId)) jobs

/-- `_get_workflow_ids_as_list` of a task that was read from the database, as texts. -/
def ScheduledTask.workflowIds (task : ScheduledTask) : List String :=
  task.workflows.map UUID.str

/-- What the endpoints use of Python's `UUID` and of the triggers of the scheduler: the id that a
text is read as, and whether a trigger can be made from its arguments. -/
structure SchedulerEnv where
  uuid : String → Option UUID
  validArgs : TaskTrigger → Bool

/-- A body of the schema `AddScheduledTask`. -/
structure AddScheduledTask where
  name : String
  description : Option String
  status : Option TaskStatus
  workflows : Option (List String)
  taskTrigger : Option TaskTrigger

/-- The actions of `control_scheduled_task`. -/
inductive ControlAction where
  | start
  | stop
  deriving DecidableEq, Repr

/-- The requests; a body without `action` is one of the schema `ScheduledTask`, too. -/
inductive TaskRequest where
  | createScheduledTask (data : AddScheduledTask)
  | controlScheduledTask (taskId : ℤ) (action : Option ControlAction)
  | deleteScheduledTask (taskId : ℤ)

section

variable (env : SchedulerEnv)

/-- The answer to a request, as a status code. -/
abbrev Answered := ℕ × SchedulerState

/-- `ScheduledTask.__init__` of a task whose trigger could be made: the row as it is stored, and
the jobs after `_start_workflows`, which is called while `self.id` is `None`. -/
def initTask (data : AddScheduledTask) (workflows : List String)
    (jobs : OrderedDict String Job) : ScheduledTask × OrderedDict String Job :=
  let task : ScheduledTask := {
    name := data.name
    description := data.description.getD ""
    status := data.status.getD .running
    workflows := workflows.dedup.filterMap env.uuid
    trigger := data.taskTrigger }
  match task.trigger with
  | none => (task, jobs)
  | some trigger =>
    if task.status = .running then (task, scheduleWorkflows none workflows.dedup trigger jobs)
    else (task, jobs)

/-- `create_scheduled_task`: without `workflows` it raises. -/
def createScheduledTask (data : AddScheduledTask) (state : SchedulerState) : Answered :=
  match data.workflows with
  | none => (500, state)
  | some workflows =>
    if workflows.any fun workflow => (env.uuid workflow).isNone then (400, state)
    else if state.tasks.any (·.2.name = data.name) then (400, state)
    else if data.taskTrigger.any (!env.validArgs ·) then (400, state)
    else
      let (task, jobs) := initTask env data workflows state.jobs
      (201, { tasks := state.tasks.set (nextId state.tasks) task, jobs })

/-- `ScheduledTask.start`: a trigger that cannot be made again raises. -/
def ScheduledTask.start (taskId : ℤ) (task : ScheduledTask) (state : SchedulerState) : Answered :=
  if task.status ≠ .running then
    let tasks := state.tasks.set taskId { task with status := .running }
    match task.trigger with
    | none => (200, { state with tasks })
    | some trigger =>
      if env.validArgs trigger then
        (200, { tasks, jobs := scheduleWorkflows (some taskId) task.workflowIds trigger state.jobs })
      else (500, state)
  else (200, state)

/-- `ScheduledTask.stop`. -/
def ScheduledTask.stop (taskId : ℤ) (task : ScheduledTask) (state : SchedulerState) : Answered :=
  if task.status ≠ .stopped then
    (200, {
      tasks := state.tasks.set taskId { task with status := .stopped }
      jobs := unscheduleWorkflows (some taskId) task.workflowIds state.jobs })
  else (200, state)

/-- `control_scheduled_task`: without `action` it raises. -/
def controlScheduledTask (taskId : ℤ) (action : Option ControlAction) (state : SchedulerState) :
    Answered :=
  match state.tasks.get? taskId with
  | none => (404, state)
  | some task =>
    match action with
    | none => (500, state)
    | some .start => task.start env taskId state
    | some .stop => task.stop taskId state

/-- `delete_scheduled_task`, which does not look at the jobs. -/
def deleteScheduledTask (taskId : ℤ) (state : SchedulerState) : Answered :=
  match state.tasks.get? taskId with
  | none => (404, state)
  | some _ => (204, { state with tasks := state.tasks.pop taskId })

/-- The endpoint of a request. -/
def handleTask (request : TaskRequest) (state : SchedulerState) : Answered :=
  match request with
  | .createScheduledTask data => createScheduledTask env data state
  | .controlScheduledTask taskId action => controlScheduledTask env taskId action state
  | .deleteScheduledTask taskId => deleteScheduledTask taskId state

/-- One request after the other. -/
def SchedulerStep (state : SchedulerState) (request : TaskRequest) (state' : SchedulerState) :
    Prop :=
  (handleTask env request state).2 = state'

end

end Walkoff.Program
