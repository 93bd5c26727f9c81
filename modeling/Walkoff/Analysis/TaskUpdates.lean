import Walkoff.Analysis.SchedulerLookups

/-!
# What an update of a task does

An update makes its changes one after the other and constructs the trigger again where it
needs it. `updated` is what all of them come to; a task without a trigger is started before
the trigger is missed. The ids of submitted workflows are texts up to the next query, which
flushes them.
-/

set_option autoImplicit false

namespace Walkoff.Analysis

open Walkoff.Program
open Walkoff.Library
open Walkoff.Model (Exn Key UUID)

/-- Every job id is one that `schedule_workflows` makes. -/
def JobIdsMade (jobs : OrderedDict String Job) : Prop :=
  ∀ jobId ∈ jobs.keys, ∃ taskId w, jobId = constructTaskId taskId w

/-- The exceptions that `construct_trigger` makes an `InvalidTriggerArgs` of. -/
def CaughtByConstructor (e : Exn) : Prop :=
  e = .keyError ∨ e = .valueError ∨ e = .typeError

/-! ## The update as a whole -/

section Update

variable {makeTrigger : TaskTrigger → Except Exn Unit} {readUuid : String → Option UUID}
  {taskId : ℤ} {jobs : OrderedDict String Job}

/-- The workflow that an id in the session stands for. -/
def workflowOf (readUuid : String → Option UUID) : Key → Option UUID
  | .uuid u => some u
  | .text s => readUuid s

/-- The ids of the workflows as texts. -/
def workflowTexts (task : SessionTask) : List String :=
  task.workflows.map Key.str

/-- The task after a flush. -/
def flushedTask (readUuid : String → Option UUID) (task : SessionTask) : SessionTask :=
  { task with workflows := task.workflows.map fun key => (workflowOf readUuid key).elim key .uuid }

/-- The trigger, the name and the description after an update. -/
def prepared (json : TaskUpdate) (task : SessionTask) : SessionTask where
  name := json.name.getD task.name
  description := json.description.getD task.description
  status := task.status
  workflows := task.workflows
  trigger := json.taskTrigger.or task.trigger

/-- The workflows of a request, if it has any. -/
def submitted (json : TaskUpdate) : Option (List String) :=
  match json.workflows with
  | none | some [] => none
  | some workflows => some workflows

/-- The jobs after `_modify_workflows`: all the submitted ones are new, and all the stored ones
are removed. -/
def movedJobs (taskId : ℤ) (task : SessionTask) (workflows : List String)
    (jobs : OrderedDict String Job) : OrderedDict String Job :=
  match task.trigger with
  | none => jobs
  | some trigger =>
    if task.status = .running then
      unscheduleWorkflows (some taskId) (task.workflows.dedup.map Key.str)
        (scheduleWorkflows (some taskId) ((workflows.map Key.text).dedup.map Key.str) trigger jobs)
    else jobs

/-- The session after the third branch. -/
def withWorkflows (taskId : ℤ) (json : TaskUpdate) (session : TaskSession) : TaskSession :=
  match submitted json with
  | none => session
  | some workflows => {
      task := { session.task with workflows := workflows.map Key.text }
      jobs := movedJobs taskId session.task workflows session.jobs }

/-- The session after a change of the status; without a trigger, nothing is flushed. -/
def restarted (readUuid : String → Option UUID) (taskId : ℤ) (status : TaskStatus)
    (session : TaskSession) : TaskSession :=
  let task := flushedTask readUuid { session.task with status }
  match status, session.task.trigger with
  | .running, some trigger => {
      task
      jobs := scheduleWorkflows (some taskId) (workflowTexts task) trigger session.jobs }
  | .running, none => { session with task := { session.task with status } }
  | .stopped, _ => {
      task
      jobs := unscheduleWorkflows (some taskId) (workflowTexts task) session.jobs }

/-- The session after the last branch. -/
def withStatus (readUuid : String → Option UUID) (taskId : ℤ) (json : TaskUpdate)
    (session : TaskSession) : TaskSession :=
  match json.status with
  | none => session
  | some status =>
    if status = session.task.status then session else restarted readUuid taskId status session

/-- The session after all branches. -/
def updated (readUuid : String → Option UUID) (taskId : ℤ) (json : TaskUpdate)
    (session : TaskSession) : TaskSession :=
  withStatus readUuid taskId json
    (withWorkflows taskId json { session with task := prepared json session.task })

/-- The update starts a task that has no trigger. -/
def StartsWithoutTrigger (json : TaskUpdate) (task : SessionTask) : Prop :=
  json.status = some .running ∧ task.status = .stopped ∧ json.taskTrigger = none ∧
    task.trigger = none

instance (json : TaskUpdate) (task : SessionTask) : Decidable (StartsWithoutTrigger json task) :=
  decidable_of_iff (json.status = some .running ∧ task.status = .stopped ∧
    json.taskTrigger.isNone ∧ task.trigger.isNone) (by
      simp only [Option.isNone_iff_eq_none, StartsWithoutTrigger])

/-- Made job ids have hyphens. -/
theorem JobIdsMade.hyphen (h : JobIdsMade jobs) : ∀ jobId ∈ jobs.keys, '-' ∈ jobId.toList := by
  intro jobId hjob
  obtain ⟨t, w, rfl⟩ := h jobId hjob
  exact hyphen_mem_constructTaskId t w

/-! ## Flushing -/

/-- A query flushes the ids that are texts of `UUID`s, and reads them as such. -/
theorem getWorkflowIdsAsList_eq {task : SessionTask}
    (h : ∀ key ∈ task.workflows, (workflowOf readUuid key).isSome) :
    getWorkflowIdsAsList readUuid { task, jobs } =
      .ok (flushedTask readUuid task).workflows { task := flushedTask readUuid task, jobs } := by
  have hflushed : task.workflows.mapM (flushedId readUuid) =
      .ok (flushedTask readUuid task).workflows := by
    unfold flushedTask
    generalize task.workflows = keys at h
    induction keys with
    | nil => rfl
    | cons key keys ih =>
      obtain ⟨hkey, hkeys⟩ := List.forall_mem_cons.mp h
      refine Except.mapM_cons_ok ?_ (ih hkeys)
      show flushedId readUuid key = .ok ((workflowOf readUuid key).elim key .uuid)
      obtain ⟨u, hu⟩ := Option.isSome_iff_exists.mp hkey
      rw [hu]
      cases key with
      | uuid v =>
        obtain rfl := Option.some.inj hu
        rfl
      | text s =>
        have hread : readUuid s = some u := hu
        rw [flushedId, hread]
        rfl
  show (lift (task.workflows.mapM (flushedId readUuid)) >>= _ : TaskM (List Key)) { task, jobs } = _
  rw [hflushed]
  rfl

/-- Loaded workflows are all ids. -/
theorem workflowOf_uuid {task : SessionTask} (h : ∀ key ∈ task.workflows, ∃ u, key = .uuid u) :
    ∀ key ∈ task.workflows, (workflowOf readUuid key).isSome := by
  intro key hkey
  obtain ⟨u, rfl⟩ := h key hkey
  rfl

/-- Of a task that is read from the database there is nothing to flush. -/
theorem flushedTask_uuid {task : SessionTask} (h : ∀ key ∈ task.workflows, ∃ u, key = .uuid u) :
    flushedTask readUuid task = task := by
  have hsame : (task.workflows.map fun key => (workflowOf readUuid key).elim key .uuid) =
      task.workflows := by
    refine (List.map_congr_left fun key hkey => ?_).trans (List.map_id _)
    obtain ⟨u, rfl⟩ := h key hkey
    rfl
  unfold flushedTask
  rw [hsame]

/-- The ids that the endpoint lets through can be read. -/
theorem isSome_of_validateUuids {uuids : List String} (h : validateUuids readUuid uuids = []) :
    ∀ uuid ∈ uuids, (readUuid uuid).isSome := by
  intro uuid huuid
  have hread := List.filter_eq_nil_iff.mp h uuid huuid
  simpa [Option.isSome_iff_ne_none] using hread

/-! ## The branches -/

/-- `update_workflows` changes no job. -/
theorem updateWorkflows_eq (h : JobIdsMade jobs) (trigger : TaskTrigger) :
    updateWorkflows (some taskId) trigger jobs = .ok jobs := by
  rw [updateWorkflows, getScheduledWorkflows_eq h.hyphen]
  rfl

/-- A trigger that can be made is constructed. -/
theorem constructTrigger_of_ok {trigger : TaskTrigger} (h : makeTrigger trigger = .ok ()) :
    constructTrigger makeTrigger (some trigger) = .ok trigger := by
  rw [constructTrigger, h]
  rfl

/-- A given trigger that can be made is put in the place of the old one. -/
theorem updateTrigger_of_valid {json : TaskUpdate} {task : SessionTask} (hids : JobIdsMade jobs)
    (hvalid : ∀ trigger, json.taskTrigger = some trigger → makeTrigger trigger = .ok ()) :
    updateTrigger makeTrigger taskId json.taskTrigger { task, jobs } =
      .ok json.taskTrigger { jobs, task := { task with trigger := json.taskTrigger.or task.trigger } } := by
  cases htrigger : json.taskTrigger with
  | none => rfl
  | some trigger =>
    rw [updateTrigger, constructTrigger_of_ok (hvalid trigger htrigger)]
    have hjobs : updateScheduler taskId trigger { task, jobs } = .ok () { task, jobs } := by
      rw [updateScheduler, updateWorkflows_eq hids]
    show (updateScheduler taskId trigger >>= fun _ => setTrigger trigger >>= fun _ =>
      pure (some trigger)) { task, jobs } = _
    rw [bind_of_ok hjobs]
    rfl

/-- All submitted workflows count as new, and all stored ones as removed. -/
theorem getDifferentWorkflows_uuid {stored : List Key} (workflows : List String)
    (h : ∀ key ∈ stored, ∃ u, key = .uuid u) :
    getDifferentWorkflows stored workflows =
      ((workflows.map Key.text).dedup, stored.dedup) := by
  have hnew : ∀ key ∈ (workflows.map Key.text).dedup,
      (!stored.dedup.contains key) = true := by
    intro key hkey
    obtain ⟨w, -, rfl⟩ := List.mem_map.mp (List.mem_dedup.mp hkey)
    simp only [List.contains_eq_mem, List.mem_dedup, Bool.not_eq_true', decide_eq_false_iff_not]
    intro hstored
    obtain ⟨u, hu⟩ := h _ hstored
    cases hu
  have hremoved : ∀ key ∈ stored.dedup,
      (!(workflows.map Key.text).dedup.contains key) = true := by
    intro key hkey
    obtain ⟨u, rfl⟩ := h key (List.mem_dedup.mp hkey)
    simp
  rw [getDifferentWorkflows]
  exact Prod.ext (List.filter_eq_self.mpr hnew) (List.filter_eq_self.mpr hremoved)

/-- A task that has the given trigger is started with its own. -/
theorem givenOrOwn_eq {given : Option TaskTrigger} {task : SessionTask} {trigger : TaskTrigger}
    (htrigger : task.trigger = some trigger) (hmake : makeTrigger trigger = .ok ())
    (hgiven : ∀ t, given = some t → task.trigger = some t) :
    givenOrOwn makeTrigger given task = .ok trigger := by
  cases given with
  | none =>
    rw [givenOrOwn, htrigger]
    exact constructTrigger_of_ok hmake
  | some t =>
    obtain rfl := Option.some.inj (htrigger.symm.trans (hgiven t rfl))
    rfl

/-- The third branch moves the jobs of a running task with a trigger. -/
theorem updateTaskWorkflows_eq {json : TaskUpdate} {task : SessionTask}
    {given : Option TaskTrigger} (hload : ∀ key ∈ task.workflows, ∃ u, key = .uuid u)
    (hmake : ∀ trigger, task.trigger = some trigger → makeTrigger trigger = .ok ())
    (hgiven : ∀ t, given = some t → task.trigger = some t) :
    updateTaskWorkflows makeTrigger readUuid taskId given json.workflows { task, jobs } =
      .ok () (withWorkflows taskId json { task, jobs }) := by
  unfold withWorkflows submitted
  cases json.workflows with
  | none => rfl
  | some workflows =>
    cases workflows with
    | nil => rfl
    | cons w rest =>
      show modifyWorkflows makeTrigger readUuid taskId (w :: rest) given { task, jobs } = .ok () _
      rw [modifyWorkflows, bind_of_ok (getWorkflowIdsAsList_eq (workflowOf_uuid hload)),
        flushedTask_uuid hload]
      show (if task.trigger.isSome = true ∧ task.status = .running then
          lift (givenOrOwn makeTrigger given task) >>= fun trigger =>
            moveJobs taskId (getDifferentWorkflows task.workflows (w :: rest)).1
              (getDifferentWorkflows task.workflows (w :: rest)).2 trigger
        else pure () : TaskM Unit)
          { task := { task with workflows := (w :: rest).map Key.text }, jobs } = _
      rw [getDifferentWorkflows_uuid _ hload]
      dsimp only [movedJobs]
      cases htrigger : task.trigger with
      | none => rfl
      | some trigger =>
        by_cases hrunning : task.status = .running
        · rw [if_pos ⟨rfl, hrunning⟩, givenOrOwn_eq htrigger (hmake trigger htrigger) hgiven,
            ← htrigger]
          simp only [htrigger, if_pos hrunning]
          rfl
        · rw [if_neg (fun h => hrunning h.2)]
          simp only [if_neg hrunning]
          rfl

/-- What a task without a trigger answers to a start. -/
def triggerMissing : SchedulerExn :=
  .invalidTriggerArgs "Invalid scheduler type unspecified with args \x7b\x7d."

/-- Without a trigger a task cannot be started. -/
theorem startWorkflows_none {task : SessionTask} (h : task.trigger = none) :
    startWorkflows makeTrigger readUuid taskId { task, jobs } =
      .error triggerMissing { task, jobs } := by
  have hgiven : givenOrOwn makeTrigger none task = .error triggerMissing := by
    rw [givenOrOwn, h]
    rfl
  unfold startWorkflows
  rw [bind_of_ok (get_apply _), hgiven]
  rfl

/-- A start flushes the workflows and schedules them. -/
theorem startWorkflows_some {task : SessionTask} {trigger : TaskTrigger}
    (h : task.trigger = some trigger) (hmake : makeTrigger trigger = .ok ())
    (hread : ∀ key ∈ task.workflows, (workflowOf readUuid key).isSome) :
    startWorkflows makeTrigger readUuid taskId { task, jobs } =
      .ok () {
        task := flushedTask readUuid task
        jobs := scheduleWorkflows (some taskId) (workflowTexts (flushedTask readUuid task)) trigger
          jobs } := by
  have hgiven : givenOrOwn makeTrigger none task = .ok trigger :=
    givenOrOwn_eq h hmake fun _ h => by cases h
  unfold startWorkflows
  rw [bind_of_ok (get_apply _), hgiven]
  exact bind_of_ok (getWorkflowIdsAsList_eq hread)

/-- A stop flushes the workflows and unschedules them. -/
theorem stopWorkflows_eq {task : SessionTask}
    (hread : ∀ key ∈ task.workflows, (workflowOf readUuid key).isSome) :
    stopWorkflows readUuid taskId { task, jobs } =
      .ok () {
        task := flushedTask readUuid task
        jobs := unscheduleWorkflows (some taskId) (workflowTexts (flushedTask readUuid task))
          jobs } :=
  bind_of_ok (getWorkflowIdsAsList_eq hread)

/-- The last branch restarts the task, and raises if it starts one without a trigger. -/
theorem updateStatus_eq {json : TaskUpdate} {task : SessionTask}
    (hmake : ∀ trigger, task.trigger = some trigger → makeTrigger trigger = .ok ())
    (hread : ∀ key ∈ task.workflows, (workflowOf readUuid key).isSome) :
    updateStatus makeTrigger readUuid taskId json.status { task, jobs } =
      if json.status = some .running ∧ task.status = .stopped ∧ task.trigger = none then
        .error triggerMissing (withStatus readUuid taskId json { task, jobs })
      else .ok () (withStatus readUuid taskId json { task, jobs }) := by
  unfold withStatus
  cases hjson : json.status with
  | none => rw [if_neg (fun h => by cases h.1)]; rfl
  | some status =>
    show (if status ≠ task.status then changeStatus makeTrigger readUuid taskId status
      else pure () : TaskM Unit) { task, jobs } = _
    by_cases hsame : status = task.status
    · rw [if_neg (not_not_intro hsame), if_neg]
      · simp only [if_pos hsame]
        rfl
      · rintro ⟨hrunning, hstopped, -⟩
        rw [← hsame, Option.some.inj hrunning] at hstopped
        cases hstopped
    · rw [if_pos hsame]
      simp only [if_neg hsame]
      cases status with
      | stopped =>
        rw [if_neg (fun h => by cases h.1)]
        exact @stopWorkflows_eq readUuid taskId jobs { task with status := .stopped } hread
      | running =>
        have hstopped : task.status = .stopped := by
          cases hstatus : task.status with
          | stopped => rfl
          | running => exact absurd hstatus.symm hsame
        cases htrigger : task.trigger with
        | none =>
          rw [if_pos ⟨rfl, hstopped, rfl⟩]
          have hown : SessionTask.trigger { task with status := .running } = none := htrigger
          refine (startWorkflows_none hown).trans ?_
          simp only [restarted, htrigger]
        | some trigger =>
          rw [if_neg (fun h => by cases h.2.2)]
          have hown : SessionTask.trigger { task with status := .running } = some trigger := htrigger
          refine (startWorkflows_some hown (hmake trigger htrigger) hread).trans ?_
          simp only [restarted, htrigger]

/-- The change of the workflows keeps the status. -/
theorem withWorkflows_status (taskId : ℤ) (json : TaskUpdate) (session : TaskSession) :
    (withWorkflows taskId json session).task.status = session.task.status := by
  unfold withWorkflows
  cases submitted json <;> rfl

/-- The change of the workflows keeps the trigger. -/
theorem withWorkflows_trigger (taskId : ℤ) (json : TaskUpdate) (session : TaskSession) :
    (withWorkflows taskId json session).task.trigger = session.task.trigger := by
  unfold withWorkflows
  cases submitted json <;> rfl

/-- Submitted workflows are those of the request. -/
theorem workflows_of_submitted {json : TaskUpdate} {texts : List String}
    (h : submitted json = some texts) : json.workflows.getD [] = texts := by
  unfold submitted at h
  split at h
  · cases h
  · cases h
  · rename_i hworkflows
    rw [hworkflows]
    exact Option.some.inj h

/-- **An update makes all its changes**, and then raises if it starts a task without a trigger. -/
theorem updateTask_eq {json : TaskUpdate} {task : SessionTask} (hids : JobIdsMade jobs)
    (hload : ∀ key ∈ task.workflows, ∃ u, key = .uuid u)
    (hstored : ∀ trigger, task.trigger = some trigger → makeTrigger trigger = .ok ())
    (huuids : validateUuids readUuid (json.workflows.getD []) = [])
    (hvalid : ∀ trigger, json.taskTrigger = some trigger → makeTrigger trigger = .ok ()) :
    updateTask makeTrigger readUuid taskId json { task, jobs } =
      if StartsWithoutTrigger json task then
        .error triggerMissing (updated readUuid taskId json { task, jobs })
      else .ok () (updated readUuid taskId json { task, jobs }) := by
  have hmake : ∀ trigger, (prepared json task).trigger = some trigger →
      makeTrigger trigger = .ok () := by
    intro trigger htrigger
    rcases Option.or_eq_some_iff.mp htrigger with hjson | ⟨-, htask⟩
    · exact hvalid trigger hjson
    · exact hstored trigger htask
  have hgiven : ∀ t, json.taskTrigger = some t → (prepared json task).trigger = some t := by
    intro t ht
    rw [prepared, ht]
    rfl
  have hprepared : ∀ k : Option TaskTrigger → TaskM Unit,
      (updateTrigger makeTrigger taskId json.taskTrigger >>= fun trigger =>
        updateName json.name >>= fun _ => updateDescription json.description >>= fun _ =>
          k trigger) { task, jobs } = k json.taskTrigger { task := prepared json task, jobs } := by
    intro k
    rw [bind_of_ok (updateTrigger_of_valid hids hvalid)]
    unfold prepared
    cases json.name <;> cases json.description <;> rfl
  have hsame : ∀ key ∈ (prepared json task).workflows, ∃ u, key = .uuid u := hload
  refine (hprepared _).trans ((bind_of_ok (updateTaskWorkflows_eq hsame hmake hgiven)).trans ?_)
  have hmoved : ∀ trigger,
      (withWorkflows taskId json { task := prepared json task, jobs }).task.trigger = some trigger →
        makeTrigger trigger = .ok () := by
    rw [withWorkflows_trigger]
    exact hmake
  have hread : ∀ key ∈ (withWorkflows taskId json
      { task := prepared json task, jobs }).task.workflows, (workflowOf readUuid key).isSome := by
    unfold withWorkflows
    cases hsub : submitted json with
    | none => exact workflowOf_uuid hsame
    | some texts =>
      intro key hkey
      obtain ⟨text, htext, rfl⟩ := List.mem_map.mp hkey
      refine isSome_of_validateUuids huuids text ?_
      rw [workflows_of_submitted hsub]
      exact htext
  refine (updateStatus_eq hmoved hread).trans (if_congr ?_ rfl rfl)
  rw [withWorkflows_trigger, withWorkflows_status]
  show _ ↔ _ ∧ _ ∧ _ ∧ _
  rw [← Option.or_eq_none_iff]
  rfl

/-- The workflows of a loaded task are ids. -/
theorem load_uuid (task : ScheduledTask) : ∀ key ∈ task.load.workflows, ∃ u, key = .uuid u := by
  intro key hkey
  obtain ⟨u, -, rfl⟩ := List.mem_map.mp hkey
  exact ⟨u, rfl⟩

/-- The session after an update with a valid trigger, whether it raises or not. -/
theorem finalState_updateTask {json : TaskUpdate}
    {task : ScheduledTask} (hids : JobIdsMade jobs)
    (hstored : ∀ trigger, task.trigger = some trigger → makeTrigger trigger = .ok ())
    (huuids : validateUuids readUuid (json.workflows.getD []) = [])
    (hvalid : ∀ trigger, json.taskTrigger = some trigger → makeTrigger trigger = .ok ()) :
    finalState (updateTask makeTrigger readUuid taskId json { task := task.load, jobs }) =
      updated readUuid taskId json { task := task.load, jobs } := by
  rw [updateTask_eq hids (load_uuid task) hstored huuids hvalid]
  split <;> rfl

end Update

/-- Restarting sets the status. -/
theorem restarted_status (readUuid : String → Option UUID) (taskId : ℤ) (status : TaskStatus)
    (session : TaskSession) : (restarted readUuid taskId status session).task.status = status := by
  unfold restarted
  split <;> rfl

/-- An update has the given status or the old one. -/
theorem updated_status (readUuid : String → Option UUID) (taskId : ℤ) (json : TaskUpdate)
    (session : TaskSession) :
    (updated readUuid taskId json session).task.status =
      json.status.getD session.task.status := by
  have hmoved := withWorkflows_status taskId json
    { session with task := prepared json session.task }
  unfold updated withStatus
  cases json.status with
  | none => exact hmoved
  | some status =>
    dsimp only
    split
    · rename_i hsame
      exact hsame.symm
    · exact restarted_status readUuid taskId _ _

/-! ## Rejected updates -/

/-- The update succeeds, or it raises `InvalidTriggerArgs` and leaves the task and the jobs as
they were. -/
def RejectedUnchanged (makeTrigger : TaskTrigger → Except Exn Unit)
    (readUuid : String → Option UUID) (taskId : ℤ) (json : TaskUpdate) (session : TaskSession) :
    Prop :=
  (∃ session', updateTask makeTrigger readUuid taskId json session = .ok () session') ∨
    ∃ message, updateTask makeTrigger readUuid taskId json session =
      .error (.invalidTriggerArgs message) session

section Rejected

variable {makeTrigger : TaskTrigger → Except Exn Unit} {readUuid : String → Option UUID}
  {taskId : ℤ} {jobs : OrderedDict String Job}

/-- A trigger that cannot be made is refused. -/
theorem updateTask_of_invalid {json : TaskUpdate} {session : TaskSession} {trigger : TaskTrigger}
    {e : SchedulerExn} (hjson : json.taskTrigger = some trigger)
    (h : constructTrigger makeTrigger (some trigger) = .error e) :
    updateTask makeTrigger readUuid taskId json session = .error e session := by
  rw [updateTask, hjson]
  refine bind_of_error ?_
  rw [updateTrigger, h]
  rfl

/-- **A rejected update changes nothing exactly if** a trigger is refused, if at all, with an
exception that is caught, and the update does not start a task that has no trigger. -/
theorem rejectedUnchanged_iff {json : TaskUpdate} {task : ScheduledTask} (hids : JobIdsMade jobs)
    (hstored : ∀ trigger, task.trigger = some trigger → makeTrigger trigger = .ok ())
    (huuids : validateUuids readUuid (json.workflows.getD []) = []) :
    RejectedUnchanged makeTrigger readUuid taskId json { task := task.load, jobs } ↔
      (∀ trigger e, json.taskTrigger = some trigger → makeTrigger trigger = .error e →
        CaughtByConstructor e) ∧ ¬StartsWithoutTrigger json task.load := by
  by_cases hvalid : ∀ trigger, json.taskTrigger = some trigger → makeTrigger trigger = .ok ()
  · have hcaught : ∀ trigger e, json.taskTrigger = some trigger → makeTrigger trigger = .error e →
        CaughtByConstructor e := by
      intro trigger e hjson he
      rw [hvalid trigger hjson] at he
      cases he
    rw [RejectedUnchanged, updateTask_eq hids (load_uuid task) hstored huuids hvalid]
    by_cases hstarts : StartsWithoutTrigger json task.load
    · rw [if_pos hstarts]
      refine iff_of_false ?_ fun h => h.2 hstarts
      rintro (⟨session', h⟩ | ⟨message, h⟩)
      · cases h
      · -- The task is running now, and it was not before.
        have hsession : updated readUuid taskId json { task := task.load, jobs } =
            { task := task.load, jobs } :=
          (EStateM.Result.error.inj h).2
        have hstatus := updated_status readUuid taskId json { task := task.load, jobs }
        rw [hsession, hstarts.1, hstarts.2.1] at hstatus
        cases hstatus
    · rw [if_neg hstarts]
      exact iff_of_true (.inl ⟨_, rfl⟩) ⟨hcaught, hstarts⟩
  · obtain ⟨trigger, hinvalid⟩ := not_forall.mp hvalid
    obtain ⟨hjson, hmake⟩ := Classical.not_imp.mp hinvalid
    have hstarts : ¬StartsWithoutTrigger json task.load := by
      rintro ⟨-, -, hnone, -⟩
      rw [hjson] at hnone
      cases hnone
    cases he : makeTrigger trigger with
    | ok _ => exact absurd he hmake
    | error e =>
      by_cases hcaught : CaughtByConstructor e
      · have hrefused : constructTrigger makeTrigger (some trigger) =
            .error (.invalidTriggerArgs "Invalid scheduler arguments") := by
          rw [constructTrigger, he]
          rcases hcaught with rfl | rfl | rfl <;> rfl
        refine iff_of_true (.inr ⟨_, updateTask_of_invalid hjson hrefused⟩) ⟨?_, hstarts⟩
        · intro trigger' e' hjson' he'
          obtain rfl := Option.some.inj (hjson.symm.trans hjson')
          obtain rfl := Except.error.inj (he.symm.trans he')
          exact hcaught
      · have hescapes : constructTrigger makeTrigger (some trigger) = .error (.library e) := by
          rw [constructTrigger, he]
          split
          · rename_i h
            cases h
          · rename_i h
            exact absurd (.inl (Except.error.inj h)) hcaught
          · rename_i h
            exact absurd (.inr (.inl (Except.error.inj h))) hcaught
          · rename_i h
            exact absurd (.inr (.inr (Except.error.inj h))) hcaught
          · rename_i h
            rw [Except.error.inj h]
            rfl
        rw [RejectedUnchanged, updateTask_of_invalid hjson hescapes]
        refine iff_of_false ?_ fun h => hcaught (h.1 trigger e hjson he)
        rintro (⟨session', h⟩ | ⟨message, h⟩)
        · cases h
        · cases h

end Rejected

/-- Every trigger can be made. -/
def makeAny : TaskTrigger → Except Exn Unit := fun _ => .ok ()

def hourly : TaskTrigger :=
  { type := .interval, args := .dict [("hours", .int 1)] }

/-- A task with one workflow. -/
def reportTask (status : TaskStatus) (trigger : Option TaskTrigger) : ScheduledTask :=
  { name := "report", description := "", status, workflows := [1], trigger }

def noUpdate : TaskUpdate :=
  { name := none, description := none, status := none, workflows := none, taskTrigger := none }

/-- A trigger whose day the scheduler library does not know. -/
def someday : TaskTrigger :=
  { type := .cron, args := .dict [("day_of_week", .str "aaaaaaaaa")] }

/-- Every trigger can be made but those on no day. -/
def makeOnDays (trigger : TaskTrigger) : Except Exn Unit :=
  match trigger.args with
  | .dict [("day_of_week", .str "aaaaaaaaa")] => .error .valueError
  | _ => .ok ()

/-- A running task with its job is as it was when a new trigger is refused. -/
theorem refused_trigger_unchanged :
    RejectedUnchanged makeOnDays UUID.parse 1
      { noUpdate with
        name := some "renamed", workflows := some [UUID.str 2], taskTrigger := some someday }
      { task := (reportTask .running (some hourly)).load
        jobs := scheduleWorkflows (some 1) [UUID.str 1] hourly [] } := by
  have hids : JobIdsMade (scheduleWorkflows (some 1) [UUID.str 1] hourly []) := by
    intro jobId hjob
    rcases (mem_keys_scheduleWorkflows _ _ _ _).mp hjob with hnil | ⟨w, -, hid⟩
    · cases hnil
    · exact ⟨some 1, w, hid⟩
  have hstored : ∀ trigger, (reportTask .running (some hourly)).trigger = some trigger →
      makeOnDays trigger = .ok () := by
    intro trigger htrigger
    obtain rfl := Option.some.inj htrigger
    rfl
  refine (rejectedUnchanged_iff hids hstored ?_).mpr ⟨?_, ?_⟩
  · show [UUID.str 2].filter (fun uuid => (UUID.parse uuid).isNone) = []
    rw [List.filter_singleton, UUID.parse_str]
    rfl
  · rintro trigger e htrigger he
    obtain rfl := Option.some.inj htrigger
    exact .inr (.inl (Except.error.inj he).symm)
  · rintro ⟨h, -⟩
    cases h

/-- A task without a trigger is renamed and started; it has the new name and runs when the
missing trigger is noticed. -/
theorem started_without_trigger_changed :
    ¬RejectedUnchanged makeAny UUID.parse 1
      { noUpdate with name := some "renamed", status := some .running }
      { task := (reportTask .stopped none).load, jobs := [] } := by
  rintro (⟨session', h⟩ | ⟨message, h⟩)
  · cases h
  · have hname : "renamed" = "report" := congrArg (fun result => (finalState result).task.name) h
    revert hname
    decide

end Walkoff.Analysis
