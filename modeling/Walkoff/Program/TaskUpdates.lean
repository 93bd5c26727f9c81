import Walkoff.Library.Effect
import Walkoff.Model.Accumulator
import Walkoff.Model.PyEquality
import Walkoff.Program.Scheduler

/-!
# Looking up jobs and updating tasks

What the scheduler reads off the ids of its jobs, and `ScheduledTask.update`, which changes
the trigger, the name, the workflows and the status of a task one after the other and passes
each change on to the job store.
-/

set_option autoImplicit false

namespace Walkoff.Program

open Walkoff.Library
open Walkoff.Model (Exn Key PyVal UUID pyEq)

/-- What the scheduler and an update of a task raise. -/
inductive SchedulerExn where
  | invalidTriggerArgs (message : String)
  | jobLookupError
  /-- A job id that does not have two parts. -/
  | valueError
  /-- What the constructor of a trigger raises besides what `construct_trigger` catches, and what
  the database raises. -/
  | library (e : Exn)
  deriving DecidableEq, Repr

/-! ## Lookups -/

/-- `split_task_id`. -/
def splitTaskId (taskId : String) : List String :=
  ((taskId.toList.splitOn '-').map String.ofList).take 2

/-- The task id and the workflow id of a job. -/
def splitJob (jobId : String) : Except SchedulerExn (String × String) :=
  match splitTaskId jobId with
  | [task, workflowExecutionId] => pure (task, workflowExecutionId)
  | _ => throw .valueError

/-- One more workflow of a task. -/
def addScheduled (tasks : OrderedDict String (List String)) (job : String × String) :
    OrderedDict String (List String) :=
  tasks.set job.1 ((tasks.get? job.1).getD [] ++ [job.2])

/-- `get_all_scheduled_workflows`. -/
def getAllScheduledWorkflows (jobs : OrderedDict String Job) :
    Except SchedulerExn (OrderedDict String (List String)) := do
  let split ← jobs.keys.mapM splitJob
  pure (split.foldl addScheduled [])

/-- A task id as a value. -/
def taskIdValue : Option ℤ → PyVal
  | none => .none
  | some taskId => .int taskId

/-- `get_scheduled_workflows`: the text from the job id is compared with the task id as it was
given. -/
def getScheduledWorkflows (taskId : Option ℤ) (jobs : OrderedDict String Job) :
    Except SchedulerExn (List String) := do
  let split ← jobs.keys.mapM splitJob
  pure ((split.filter fun job => pyEq (.str job.1) (taskIdValue taskId)).map Prod.snd)

/-- `reschedule_job`. -/
def rescheduleJob (trigger : TaskTrigger) (jobs : OrderedDict String Job) (jobId : String) :
    Except SchedulerExn (OrderedDict String Job) :=
  match jobs.get? jobId with
  | some job => pure (jobs.set jobId { job with trigger })
  | none => throw .jobLookupError

/-- `Scheduler.update_workflows`. -/
def updateWorkflows (taskId : Option ℤ) (trigger : TaskTrigger) (jobs : OrderedDict String Job) :
    Except SchedulerExn (OrderedDict String Job) := do
  let workflowIds ← getScheduledWorkflows taskId jobs
  (workflowIds.map (constructTaskId taskId)).dedup.foldlM (rescheduleJob trigger) jobs

/-! ## Updates -/

/-- A task in the session: the ids of its workflows are `UUID`s where they were read from the
database, and texts where they come from a request and are still to be flushed. -/
structure SessionTask where
  name : String
  description : String
  status : TaskStatus
  workflows : List Key
  /-- `trigger_type` and `trigger_args`; `none` is the type `unspecified` without arguments. -/
  trigger : Option TaskTrigger

/-- A task as it is read from the database. -/
def ScheduledTask.load (task : ScheduledTask) : SessionTask where
  name := task.name
  description := task.description
  status := task.status
  workflows := task.workflows.map .uuid
  trigger := task.trigger

/-- The task in the session and the jobs. -/
structure TaskSession where
  task : SessionTask
  jobs : OrderedDict String Job

/-- A body of the schema `ScheduledTask` as an update reads it. -/
structure TaskUpdate where
  name : Option String
  description : Option String
  status : Option TaskStatus
  workflows : Option (List String)
  taskTrigger : Option TaskTrigger

section

-- What the constructor of a trigger of the scheduler library raises on some arguments, and what
-- `uuid.UUID` reads of a text.
variable (makeTrigger : TaskTrigger → Except Exn Unit) (readUuid : String → Option UUID)
  (taskId : ℤ)

/-- `validate_uuids`. -/
def validateUuids (uuids : List String) : List String :=
  uuids.filter fun uuid => (readUuid uuid).isNone

/-- `construct_trigger`. -/
def constructTrigger : Option TaskTrigger → Except SchedulerExn TaskTrigger
  | none => throw (.invalidTriggerArgs "Invalid scheduler type unspecified with args \x7b\x7d.")
  | some trigger =>
    match makeTrigger trigger with
    | .ok _ => pure trigger
    | .error .keyError | .error .valueError | .error .typeError =>
      throw (.invalidTriggerArgs "Invalid scheduler arguments")
    | .error e => throw (.library e)

/-- An update of a task: an exception leaves the session and the jobs as they are. -/
abbrev TaskM := EStateM SchedulerExn TaskSession

/-- `_update_scheduler`. -/
def updateScheduler (trigger : TaskTrigger) : TaskM Unit := fun session =>
  match updateWorkflows (some taskId) trigger session.jobs with
  | .ok jobs => .ok () { session with jobs }
  | .error e => .error e session

/-- The assignment to `trigger_type` and `trigger_args`. -/
def setTrigger (trigger : TaskTrigger) : TaskM Unit :=
  modify fun session => { session with task := { session.task with trigger := some trigger } }

/-- The first branch of `update`: the trigger that was made, if any. -/
def updateTrigger : Option TaskTrigger → TaskM (Option TaskTrigger)
  | none => pure none
  | some taskTrigger => do
    let trigger ← lift (constructTrigger makeTrigger (some taskTrigger))
    updateScheduler taskId trigger
    setTrigger taskTrigger
    pure (some trigger)

def updateName : Option String → TaskM Unit
  | none => pure ()
  | some name =>
    modify fun session => { session with task := { session.task with name } }

def updateDescription : Option String → TaskM Unit
  | none => pure ()
  | some description =>
    modify fun session => { session with task := { session.task with description } }

/-- The id of a workflow after a flush: `UUIDType` stores the `UUID` of a text. -/
def flushedId : Key → Except SchedulerExn Key
  | .uuid u => pure (.uuid u)
  | .text s =>
    match readUuid s with
    | some u => pure (.uuid u)
    | none => throw (.library .valueError)

/-- `_get_workflow_ids_as_list`: the relationship is dynamic, so that new rows are flushed and all
are read from the database. -/
def getWorkflowIdsAsList : TaskM (List Key) := do
  let session ← get
  let workflows ← lift (session.task.workflows.mapM (flushedId readUuid))
  set { session with task := { session.task with workflows } }
  pure workflows

/-- `__get_different_workflows`: a `UUID` never equals a text. -/
def getDifferentWorkflows (stored : List Key) (workflows : List String) : List Key × List Key :=
  let original := stored.dedup
  let incoming := (workflows.map Key.text).dedup
  (incoming.filter (!original.contains ·), original.filter (!incoming.contains ·))

/-- The trigger of `_modify_workflows` and `_start_workflows`: the one that was given, or the
one of the row. -/
def givenOrOwn (trigger : Option TaskTrigger) (task : SessionTask) :
    Except SchedulerExn TaskTrigger :=
  match trigger with
  | some trigger => pure trigger
  | none => constructTrigger makeTrigger task.trigger

/-- The jobs of some more and some less workflows. -/
def moveJobs (new removed : List Key) (trigger : TaskTrigger) : TaskM Unit :=
  modify fun session => { session with
    jobs := unscheduleWorkflows (some taskId) (removed.map Key.str)
      (scheduleWorkflows (some taskId) (new.map Key.str) trigger session.jobs) }

/-- `_modify_workflows`. -/
def modifyWorkflows (workflows : List String) (trigger : Option TaskTrigger) : TaskM Unit := do
  let different := getDifferentWorkflows (← getWorkflowIdsAsList readUuid) workflows
  let before ← get
  set { before with task := { before.task with workflows := workflows.map Key.text } }
  if before.task.trigger.isSome ∧ before.task.status = .running then do
    let trigger ← lift (givenOrOwn makeTrigger trigger before.task)
    moveJobs taskId different.1 different.2 trigger
  else pure ()

/-- The third branch of `update`: an empty list of workflows is ignored. -/
def updateTaskWorkflows (trigger : Option TaskTrigger) : Option (List String) → TaskM Unit
  | none | some [] => pure ()
  | some workflows => modifyWorkflows makeTrigger readUuid taskId workflows trigger

/-- `_start_workflows`. -/
def startWorkflows : TaskM Unit := do
  let trigger ← lift (givenOrOwn makeTrigger none (← get).task)
  let workflows ← getWorkflowIdsAsList readUuid
  modify fun session => { session with
    jobs := scheduleWorkflows (some taskId) (workflows.map Key.str) trigger session.jobs }

/-- `_stop_workflows`. -/
def stopWorkflows : TaskM Unit := do
  let workflows ← getWorkflowIdsAsList readUuid
  modify fun session => { session with
    jobs := unscheduleWorkflows (some taskId) (workflows.map Key.str) session.jobs }

/-- `_update_status`. -/
def changeStatus (status : TaskStatus) : TaskM Unit := do
  modify fun session => { session with task := { session.task with status } }
  match status with
  | .running => startWorkflows makeTrigger readUuid taskId
  | .stopped => stopWorkflows readUuid taskId

/-- The last branch of `update`. -/
def updateStatus : Option TaskStatus → TaskM Unit
  | none => pure ()
  | some status => do
    let session ← get
    if status ≠ session.task.status then changeStatus makeTrigger readUuid taskId status else pure ()

/-- `ScheduledTask.update`. -/
def updateTask (jsonIn : TaskUpdate) : TaskM Unit := do
  let trigger ← updateTrigger makeTrigger taskId jsonIn.taskTrigger
  updateName jsonIn.name
  updateDescription jsonIn.description
  updateTaskWorkflows makeTrigger readUuid taskId trigger jsonIn.workflows
  updateStatus makeTrigger readUuid taskId jsonIn.status

end

end Walkoff.Program
