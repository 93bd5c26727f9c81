import Walkoff.Analysis.TaskUpdates

/-!
# The jobs of an updated task

The job store agrees with the row of a task while there is a job with its trigger for each
workflow of a running task. Here is what an update leaves of that: every workflow that a
running task keeps loses its job, the jobs it had keep their trigger, and a new job is named by
the text of the request, which only is that of the row if it is written as `str` writes it.
-/

set_option autoImplicit false

namespace Walkoff.Analysis

open Walkoff.Program
open Walkoff.Library
open Walkoff.Model (Exn Key UUID)

/-! ## Rows and jobs -/

/-- The task has the workflow with this id. -/
def HasWorkflow (readUuid : String → Option UUID) (task : SessionTask) (w : String) : Prop :=
  ∃ key ∈ task.workflows, ∃ u : UUID, workflowOf readUuid key = some u ∧ w = u.str

/-- The trigger of the job of a workflow, if the task has one. -/
def jobTrigger (taskId : ℤ) (jobs : OrderedDict String Job) (w : String) : Option TaskTrigger :=
  (jobs.get? (constructTaskId (some taskId) w)).map Job.trigger

/-- The jobs of the task agree with its row: while it runs and has a trigger, there is one with
this trigger for each of its workflows, and there are no others. -/
def TaskInStep (readUuid : String → Option UUID) (taskId : ℤ) (session : TaskSession) : Prop :=
  ∀ w trigger, jobTrigger taskId session.jobs w = some trigger ↔
    session.task.status = .running ∧ session.task.trigger = some trigger ∧
      HasWorkflow readUuid session.task w

/-- The workflows that a task is to have after an update. -/
def ToHave (readUuid : String → Option UUID) (json : TaskUpdate) (task : SessionTask)
    (w : String) : Prop :=
  match submitted json with
  | none => HasWorkflow readUuid task w
  | some texts => ∃ text ∈ texts, ∃ u : UUID, readUuid text = some u ∧ w = u.str

/-- The task has the submitted workflows, its jobs agree with its row, and all other jobs are
as they were. -/
structure RescheduledExactly (readUuid : String → Option UUID) (taskId : ℤ) (json : TaskUpdate)
    (before after : TaskSession) : Prop where
  workflows : ∀ w, HasWorkflow readUuid after.task w ↔ ToHave readUuid json before.task w
  inStep : TaskInStep readUuid taskId after
  others : ∀ jobId, (∀ w, jobId ≠ constructTaskId (some taskId) w) →
    after.jobs.get? jobId = before.jobs.get? jobId

/-- The text is the id of a workflow as `str` writes it. -/
def Canonical (readUuid : String → Option UUID) (text : String) : Prop :=
  ∃ u : UUID, readUuid text = some u ∧ text = u.str

/-- If the task was running and has a trigger now: without new workflows, it keeps its trigger or
has no workflows if it is still to run; and new workflows are written as `str` writes them, and
are none of those it had if it is still to run. -/
def MovesInStep (readUuid : String → Option UUID) (json : TaskUpdate) (task : ScheduledTask) :
    Prop :=
  task.status = .running → ∀ trigger, json.taskTrigger.or task.trigger = some trigger →
    match submitted json with
    | none => json.status.getD task.status = .running →
        task.trigger = some trigger ∨ task.workflows = []
    | some texts => (∀ text ∈ texts, Canonical readUuid text) ∧
        (json.status.getD task.status = .running → ∀ text ∈ texts, ∀ u ∈ task.workflows,
          text ≠ UUID.str u)

section Jobs

variable {readUuid : String → Option UUID} {taskId : ℤ} {jobs : OrderedDict String Job}

/-- The jobs of a task are told apart by their workflows. -/
theorem constructTaskId_right_inj {taskId : Option ℤ} {v w : String} :
    constructTaskId taskId v = constructTaskId taskId w ↔ v = w := by
  refine ⟨fun h => ?_, congrArg _⟩
  have hlist := congrArg String.toList h
  rw [toList_constructTaskId, toList_constructTaskId] at hlist
  exact String.toList_injective (List.cons_injective (List.append_cancel_left hlist))

/-- After scheduling, the workflows have the trigger. -/
theorem jobTrigger_schedule (workflowIds : List String) (trigger : TaskTrigger) (w : String) :
    jobTrigger taskId (scheduleWorkflows (some taskId) workflowIds trigger jobs) w =
      if w ∈ workflowIds then some trigger else jobTrigger taskId jobs w := by
  unfold jobTrigger
  by_cases hw : w ∈ workflowIds
  · rw [if_pos hw, get?_scheduleWorkflows_of_mem jobs hw]
    rfl
  · rw [if_neg hw, get?_scheduleWorkflows]
    intro v hv hid
    rw [constructTaskId_right_inj.mp hid] at hw
    exact hw hv

/-- After unscheduling, the workflows have no job. -/
theorem jobTrigger_unschedule (workflowIds : List String) (w : String) :
    jobTrigger taskId (unscheduleWorkflows (some taskId) workflowIds jobs) w =
      if w ∈ workflowIds then none else jobTrigger taskId jobs w := by
  unfold jobTrigger
  rw [get?_unscheduleWorkflows]
  simp only [constructTaskId_right_inj, exists_eq_right']
  split <;> rfl

/-- Leaving out repetitions leaves the texts. -/
theorem mem_str_dedup {keys : List Key} {w : String} :
    w ∈ keys.dedup.map Key.str ↔ ∃ key ∈ keys, key.str = w := by
  simp only [List.mem_map, List.mem_dedup]

/-- What the change of the workflows does to the jobs. -/
theorem jobTrigger_moved (task : SessionTask) (texts : List String) (w : String) :
    jobTrigger taskId (movedJobs taskId task texts jobs) w =
      if task.status = .running ∧ task.trigger.isSome then
        if w ∈ workflowTexts task then none
        else if w ∈ texts then task.trigger else jobTrigger taskId jobs w
      else jobTrigger taskId jobs w := by
  have hold : w ∈ task.workflows.dedup.map Key.str ↔ w ∈ workflowTexts task :=
    mem_str_dedup.trans List.mem_map.symm
  have hnew : w ∈ (texts.map Key.text).dedup.map Key.str ↔ w ∈ texts := by
    rw [mem_str_dedup]
    simp [Key.str]
  unfold movedJobs
  cases htrigger : task.trigger with
  | none => rw [if_neg (fun h => by cases h.2)]
  | some trigger =>
    by_cases hrunning : task.status = .running
    · rw [if_pos ⟨hrunning, rfl⟩]
      simp only [if_pos hrunning]
      rw [jobTrigger_unschedule, jobTrigger_schedule, if_congr hold rfl (if_congr hnew rfl rfl)]
    · rw [if_neg (fun h => hrunning h.1)]
      simp only [if_neg hrunning]

/-- A loaded task has the workflows whose texts it has. -/
theorem hasWorkflow_load (task : ScheduledTask) (w : String) :
    HasWorkflow readUuid task.load w ↔ w ∈ workflowTexts task.load := by
  constructor
  · rintro ⟨key, hkey, u, hu, rfl⟩
    obtain ⟨v, -, rfl⟩ := List.mem_map.mp hkey
    have hsame : v = u := Option.some.inj hu
    exact List.mem_map.mpr ⟨.uuid v, hkey, congrArg UUID.str hsame⟩
  · intro hw
    obtain ⟨key, hkey, rfl⟩ := List.mem_map.mp hw
    obtain ⟨v, -, rfl⟩ := List.mem_map.mp hkey
    exact ⟨.uuid v, hkey, v, rfl, rfl⟩

/-- The texts of a loaded task are written ids. -/
theorem mem_workflowTexts_load (task : ScheduledTask) (w : String) :
    w ∈ workflowTexts task.load ↔ ∃ u ∈ task.workflows, w = UUID.str u := by
  simp [workflowTexts, ScheduledTask.load, Key.str, eq_comm]

/-- A task with submitted texts has the workflows they are read as. -/
theorem hasWorkflow_texts (task : SessionTask) (texts : List String) (w : String) :
    HasWorkflow readUuid { task with workflows := texts.map Key.text } w ↔
      ∃ text ∈ texts, ∃ u : UUID, readUuid text = some u ∧ w = u.str := by
  constructor
  · rintro ⟨key, hkey, u, hu, rfl⟩
    obtain ⟨text, htext, rfl⟩ := List.mem_map.mp hkey
    exact ⟨text, htext, u, hu, rfl⟩
  · rintro ⟨text, htext, u, hu, rfl⟩
    exact ⟨.text text, List.mem_map_of_mem htext, u, hu, rfl⟩

/-- What is read after a flush are the workflows of the task. -/
theorem mem_workflowTexts_flushed {task : SessionTask}
    (h : ∀ key ∈ task.workflows, (workflowOf readUuid key).isSome) (w : String) :
    w ∈ workflowTexts (flushedTask readUuid task) ↔ HasWorkflow readUuid task w := by
  unfold workflowTexts flushedTask HasWorkflow
  rw [List.map_map, List.mem_map]
  constructor
  · rintro ⟨key, hkey, rfl⟩
    obtain ⟨u, hu⟩ := Option.isSome_iff_exists.mp (h key hkey)
    refine ⟨key, hkey, u, hu, ?_⟩
    show Key.str ((workflowOf readUuid key).elim key .uuid) = _
    rw [hu]
    rfl
  · rintro ⟨key, hkey, u, hu, rfl⟩
    refine ⟨key, hkey, ?_⟩
    show Key.str ((workflowOf readUuid key).elim key .uuid) = _
    rw [hu]
    rfl

/-- Flushing does not change what a key is read as. -/
theorem workflowOf_flushed (key : Key) :
    workflowOf readUuid ((workflowOf readUuid key).elim key .uuid) = workflowOf readUuid key := by
  cases h : workflowOf readUuid key with
  | none => exact h
  | some u => rfl

/-- A flush changes no workflow. -/
theorem hasWorkflow_flushed (task : SessionTask) (w : String) :
    HasWorkflow readUuid (flushedTask readUuid task) w ↔ HasWorkflow readUuid task w := by
  unfold HasWorkflow flushedTask
  constructor
  · rintro ⟨_, hkey, hread⟩
    obtain ⟨key, hmem, rfl⟩ := List.mem_map.mp hkey
    rw [workflowOf_flushed] at hread
    exact ⟨key, hmem, hread⟩
  · rintro ⟨key, hkey, hread⟩
    rw [← workflowOf_flushed key] at hread
    exact ⟨_, List.mem_map_of_mem hkey, hread⟩

/-! ## Restarting -/

/-- The jobs after a change of the status. -/
theorem jobTrigger_restarted {session : TaskSession}
    (h : ∀ key ∈ session.task.workflows, (workflowOf readUuid key).isSome) (status : TaskStatus)
    (w : String) [Decidable (HasWorkflow readUuid session.task w)] :
    jobTrigger taskId (restarted readUuid taskId status session).jobs w =
      match status with
      | .running => if HasWorkflow readUuid session.task w then
          session.task.trigger.or (jobTrigger taskId session.jobs w)
        else jobTrigger taskId session.jobs w
      | .stopped => if HasWorkflow readUuid session.task w then none
        else jobTrigger taskId session.jobs w := by
  have hmem : w ∈ workflowTexts (flushedTask readUuid { session.task with status }) ↔
      HasWorkflow readUuid session.task w :=
    @mem_workflowTexts_flushed readUuid { session.task with status } h w
  unfold restarted
  cases status with
  | stopped =>
    dsimp only
    rw [jobTrigger_unschedule]
    exact if_congr hmem rfl rfl
  | running =>
    cases htrigger : session.task.trigger with
    | none =>
      dsimp only
      split <;> rfl
    | some trigger =>
      dsimp only
      rw [jobTrigger_schedule]
      exact if_congr hmem rfl rfl

/-- Restarting keeps the trigger. -/
theorem restarted_trigger (status : TaskStatus) (session : TaskSession) :
    (restarted readUuid taskId status session).task.trigger = session.task.trigger := by
  unfold restarted
  split <;> rfl

/-- Restarting keeps the workflows. -/
theorem hasWorkflow_restarted (status : TaskStatus) (session : TaskSession) (w : String) :
    HasWorkflow readUuid (restarted readUuid taskId status session).task w ↔
      HasWorkflow readUuid session.task w := by
  have hflushed := @hasWorkflow_flushed readUuid { session.task with status } w
  unfold restarted
  split
  · exact hflushed
  · exact Iff.rfl
  · exact hflushed

/-! ## The update -/

/-- The session after all branches, by the status before and after. -/
theorem updated_eq (json : TaskUpdate) (session : TaskSession) (moved : TaskSession)
    (hmoved : moved =
      withWorkflows taskId json { session with task := prepared json session.task }) :
    updated readUuid taskId json session =
      if json.status.getD session.task.status = session.task.status then moved
      else restarted readUuid taskId (json.status.getD session.task.status) moved := by
  have hstatus : moved.task.status = session.task.status := by
    rw [hmoved]
    exact withWorkflows_status taskId json _
  unfold updated withStatus
  rw [← hmoved]
  cases json.status with
  | none => exact (if_pos rfl).symm
  | some status =>
    dsimp only [Option.getD_some]
    rw [hstatus]

/-- An update has the given trigger or the old one. -/
theorem updated_trigger (json : TaskUpdate) (session : TaskSession) :
    (updated readUuid taskId json session).task.trigger =
      json.taskTrigger.or session.task.trigger := by
  rw [updated_eq json session _ rfl]
  split
  · exact withWorkflows_trigger taskId json _
  · exact (restarted_trigger _ _).trans (withWorkflows_trigger taskId json _)

/-- The ids in the session can be read: they come from the database or passed the endpoint. -/
theorem workflowOf_withWorkflows {json : TaskUpdate} {task : ScheduledTask}
    (huuids : validateUuids readUuid (json.workflows.getD []) = []) :
    ∀ key ∈ (withWorkflows taskId json { task := prepared json task.load, jobs }).task.workflows,
      (workflowOf readUuid key).isSome := by
  unfold withWorkflows
  cases hsub : submitted json with
  | none => exact workflowOf_uuid (load_uuid task)
  | some texts =>
    intro key hkey
    obtain ⟨text, htext, rfl⟩ := List.mem_map.mp hkey
    refine isSome_of_validateUuids huuids text ?_
    rw [workflows_of_submitted hsub]
    exact htext

/-- With the submitted workflows, a task has those they are read as. -/
theorem hasWorkflow_withWorkflows (json : TaskUpdate) (session : TaskSession) (w : String) :
    HasWorkflow readUuid
        (withWorkflows taskId json { session with task := prepared json session.task }).task w ↔
      ToHave readUuid json session.task w := by
  unfold ToHave withWorkflows
  cases submitted json with
  | none => exact Iff.rfl
  | some texts => exact hasWorkflow_texts (prepared json session.task) texts w

/-- The task has the submitted workflows after the update. -/
theorem hasWorkflow_updated (json : TaskUpdate) (session : TaskSession) (w : String) :
    HasWorkflow readUuid (updated readUuid taskId json session).task w ↔
      ToHave readUuid json session.task w := by
  have hmoved := @hasWorkflow_withWorkflows readUuid taskId json session w
  rw [updated_eq json _ _ rfl]
  split
  · exact hmoved
  · exact (hasWorkflow_restarted _ _ w).trans hmoved

/-- Where the row asks for no job there is none. -/
theorem jobTrigger_eq_none {task : ScheduledTask} {w : String}
    (h : TaskInStep readUuid taskId { task := task.load, jobs })
    (hnot : task.status = .running → task.trigger.isSome → w ∉ workflowTexts task.load) :
    jobTrigger taskId jobs w = none := by
  cases hjob : jobTrigger taskId jobs w with
  | none => rfl
  | some trigger =>
    obtain ⟨hrunning, htrigger, hhas⟩ := (h w trigger).mp hjob
    exact absurd ((hasWorkflow_load task w).mp hhas)
      (hnot hrunning (by rw [show task.trigger = some trigger from htrigger]; rfl))

/-- The jobs that the row of an updated task asks for. -/
def RowAsks (readUuid : String → Option UUID) (json : TaskUpdate) (task : ScheduledTask)
    (w : String) (trigger : TaskTrigger) : Prop :=
  json.status.getD task.status = .running ∧ json.taskTrigger.or task.trigger = some trigger ∧
    ToHave readUuid json task.load w

/-- When an updated task is in step with its jobs. -/
theorem taskInStep_updated {json : TaskUpdate} {task : ScheduledTask} :
    TaskInStep readUuid taskId (updated readUuid taskId json { task := task.load, jobs }) ↔
      ∀ w trigger, jobTrigger taskId
          (updated readUuid taskId json { task := task.load, jobs }).jobs w = some trigger ↔
        RowAsks readUuid json task w trigger := by
  refine forall_congr' fun w => forall_congr' fun trigger => iff_congr Iff.rfl ?_
  rw [hasWorkflow_updated, updated_status, updated_trigger]
  rfl

/-- A task that is not running is stopped. -/
theorem status_eq_stopped {status : TaskStatus} (h : status ≠ .running) : status = .stopped := by
  cases status with
  | running => exact absurd rfl h
  | stopped => rfl

section

open scoped Classical

variable {json : TaskUpdate} {task : ScheduledTask}
  (huuids : validateUuids readUuid (json.workflows.getD []) = [])

include huuids

/-- The jobs after an update by those that the third branch leaves: a task that goes on keeps
them, one that is started gets jobs, and one that is stopped loses them. -/
theorem jobTrigger_updated {w : String} {left : Option TaskTrigger}
    (hleft : jobTrigger taskId
      (withWorkflows taskId json { task := prepared json task.load, jobs }).jobs w = left) :
    jobTrigger taskId (updated readUuid taskId json { task := task.load, jobs }).jobs w =
      if json.status.getD task.status = task.status then left
      else if ToHave readUuid json task.load w then
        if json.status.getD task.status = .running then (json.taskTrigger.or task.trigger).or left
        else none
      else left := by
  have hmoved := @hasWorkflow_withWorkflows readUuid taskId json { task := task.load, jobs } w
  rw [updated_eq json _ _ rfl]
  by_cases hsame : json.status.getD task.status = task.status
  · rw [if_pos hsame]
    exact (congrArg (fun session : TaskSession => jobTrigger taskId session.jobs w)
      (if_pos hsame)).trans hleft
  · rw [if_neg hsame]
    refine (congrArg (fun session : TaskSession => jobTrigger taskId session.jobs w)
      (if_neg hsame)).trans ?_
    rw [jobTrigger_restarted (workflowOf_withWorkflows huuids), hleft, withWorkflows_trigger]
    show (match json.status.getD task.status with
      | .running => if HasWorkflow readUuid _ w then (json.taskTrigger.or task.trigger).or left
        else left
      | .stopped => if HasWorkflow readUuid _ w then none else left) = _
    cases json.status.getD task.status with
    | running => exact if_congr hmoved rfl rfl
    | stopped => exact if_congr hmoved rfl rfl

/-- A task that was stopped is in step afterwards. -/
theorem inStep_of_stopped (h : TaskInStep readUuid taskId { task := task.load, jobs })
    (hstopped : task.status = .stopped) (w : String) (trigger : TaskTrigger) :
    jobTrigger taskId (updated readUuid taskId json { task := task.load, jobs }).jobs w =
        some trigger ↔ RowAsks readUuid json task w trigger := by
  have hleft : jobTrigger taskId
      (withWorkflows taskId json { task := prepared json task.load, jobs }).jobs w = none := by
    have hnone : jobTrigger taskId jobs w = none :=
      jobTrigger_eq_none h fun hrunning => by rw [hstopped] at hrunning; cases hrunning
    unfold withWorkflows
    cases submitted json with
    | none => exact hnone
    | some texts =>
      dsimp only
      rw [jobTrigger_moved, if_neg, hnone]
      rintro ⟨hrunning, -⟩
      cases hstopped.symm.trans hrunning
  rw [jobTrigger_updated huuids hleft]
  unfold RowAsks
  rw [hstopped]
  cases json.status.getD .stopped with
  | stopped => simp
  | running => simp [and_comm]

/-- A task without a trigger has no jobs, neither before nor afterwards. -/
theorem inStep_of_untriggered (h : TaskInStep readUuid taskId { task := task.load, jobs })
    (hnone : json.taskTrigger.or task.trigger = none) (w : String) (trigger : TaskTrigger) :
    jobTrigger taskId (updated readUuid taskId json { task := task.load, jobs }).jobs w =
        some trigger ↔ RowAsks readUuid json task w trigger := by
  have hleft : jobTrigger taskId
      (withWorkflows taskId json { task := prepared json task.load, jobs }).jobs w = none := by
    have hjobs : jobTrigger taskId jobs w = none := jobTrigger_eq_none h fun _ hsome => by
      rw [(Option.or_eq_none_iff.mp hnone).2] at hsome
      cases hsome
    unfold withWorkflows
    cases submitted json with
    | none => exact hjobs
    | some texts =>
      dsimp only
      rw [jobTrigger_moved, if_neg, hjobs]
      rintro ⟨-, hsome⟩
      rw [show (prepared json task.load).trigger = none from hnone] at hsome
      cases hsome
  rw [jobTrigger_updated huuids hleft, hnone]
  unfold RowAsks
  rw [hnone]
  simp

/-- A running task without new workflows: if it is to run on, its jobs keep their trigger. -/
theorem inStep_of_kept {trigger : TaskTrigger}
    (h : TaskInStep readUuid taskId { task := task.load, jobs })
    (hsub : submitted json = none) (hrunning : task.status = .running)
    (htrigger : json.taskTrigger.or task.trigger = some trigger) :
    (∀ w x, jobTrigger taskId (updated readUuid taskId json { task := task.load, jobs }).jobs w =
        some x ↔ RowAsks readUuid json task w x) ↔
      (json.status.getD task.status = .running →
        task.trigger = some trigger ∨ task.workflows = []) := by
  have htohave : ∀ w, ToHave readUuid json task.load w ↔ w ∈ workflowTexts task.load := by
    intro w
    rw [ToHave, hsub]
    exact hasWorkflow_load task w
  have hleft : ∀ w, jobTrigger taskId
      (withWorkflows taskId json { task := prepared json task.load, jobs }).jobs w =
        if w ∈ workflowTexts task.load then task.trigger else none := by
    intro w
    rw [withWorkflows, hsub]
    by_cases hold : w ∈ workflowTexts task.load
    · rw [if_pos hold]
      cases htask : task.trigger with
      | none => exact jobTrigger_eq_none h fun _ hsome => by rw [htask] at hsome; cases hsome
      | some own => exact (h w own).mpr ⟨hrunning, htask, (hasWorkflow_load task w).mpr hold⟩
    · rw [if_neg hold]
      exact jobTrigger_eq_none h fun _ _ => hold
  simp only [fun w => jobTrigger_updated huuids (hleft w), RowAsks, htohave, htrigger, hrunning,
    Option.some.injEq]
  cases json.status.getD .running with
  | stopped => simp +contextual
  | running =>
    simp only [if_true, true_and, forall_const]
    constructor
    · intro hstep
      cases hworkflows : task.workflows with
      | nil => exact .inr rfl
      | cons u rest =>
        have hu : u.str ∈ workflowTexts task.load :=
          (mem_workflowTexts_load task _).mpr ⟨u, by rw [hworkflows]; exact List.mem_cons_self, rfl⟩
        have hjob := (hstep u.str trigger).mpr ⟨rfl, hu⟩
        rw [if_pos hu] at hjob
        exact .inl hjob
    · rintro (hsame | hnil) w x
      · rw [hsame]
        split
        · rename_i hw
          simp [hw]
        · rename_i hw
          simp [hw]
      · have hw : w ∉ workflowTexts task.load := by
          intro hold
          obtain ⟨u, hu, -⟩ := (mem_workflowTexts_load task w).mp hold
          rw [hnil] at hu
          cases hu
        simp [hw]

omit huuids

/-- With submitted workflows, the task is to have those that the texts are read as. -/
theorem toHave_submitted {session : SessionTask} {texts : List String} {w : String}
    (hsub : submitted json = some texts) :
    ToHave readUuid json session w ↔
      ∃ text ∈ texts, ∃ u : UUID, readUuid text = some u ∧ w = u.str := by
  rw [ToHave, hsub]

/-- A workflow that the task is to have is named as `str` writes it. -/
theorem canonical_of_toHave {session : SessionTask} {texts : List String} {w : String}
    (hread : ∀ u : UUID, readUuid u.str = some u) (hsub : submitted json = some texts)
    (h : ToHave readUuid json session w) : Canonical readUuid w := by
  obtain ⟨-, -, u, -, rfl⟩ := (toHave_submitted hsub).mp h
  exact ⟨u, hread u, rfl⟩

/-- A workflow that the task has had is named as `str` writes it. -/
theorem canonical_of_mem_workflowTexts {w : String} (hread : ∀ u : UUID, readUuid u.str = some u)
    (h : w ∈ workflowTexts task.load) : Canonical readUuid w := by
  obtain ⟨u, -, rfl⟩ := (mem_workflowTexts_load task w).mp h
  exact ⟨u, hread u, rfl⟩

/-- A submitted text that is written as `str` writes it names a workflow the task is to have. -/
theorem toHave_of_canonical {session : SessionTask} {texts : List String} {text : String}
    (hsub : submitted json = some texts) (htext : text ∈ texts) (h : Canonical readUuid text) :
    ToHave readUuid json session text := by
  obtain ⟨u, hu, hcanonical⟩ := h
  exact (toHave_submitted hsub).mpr ⟨text, htext, u, hu, hcanonical⟩

/-- Where the submitted texts are written as `str` writes them and name new workflows, the new texts
name the workflows that the task is to have. -/
theorem mem_new_iff_toHave {texts : List String} {w : String} (hsub : submitted json = some texts)
    (hcanonical : ∀ text ∈ texts, Canonical readUuid text)
    (hnew : ∀ text ∈ texts, ∀ u ∈ task.workflows, text ≠ UUID.str u) :
    (w ∈ texts ∧ w ∉ workflowTexts task.load) ↔ ToHave readUuid json task.load w := by
  constructor
  · exact fun hw => toHave_of_canonical hsub hw.1 (hcanonical w hw.1)
  · intro hhave
    obtain ⟨text, htext, u, hu, rfl⟩ := (toHave_submitted hsub).mp hhave
    obtain ⟨v, hv, htextv⟩ := hcanonical text htext
    obtain rfl := Option.some.inj (hu.symm.trans hv)
    rw [← htextv]
    refine ⟨htext, fun hold => ?_⟩
    obtain ⟨o, ho, htexto⟩ := (mem_workflowTexts_load task text).mp hold
    exact hnew text htext o ho htexto

/-- With submitted workflows, the third branch leaves a running task the jobs of the new texts. -/
theorem jobTrigger_withWorkflows_new {trigger : TaskTrigger} {texts : List String}
    (h : TaskInStep readUuid taskId { task := task.load, jobs })
    (hsub : submitted json = some texts) (hrunning : task.status = .running)
    (htrigger : json.taskTrigger.or task.trigger = some trigger) (w : String) :
    jobTrigger taskId (withWorkflows taskId json { task := prepared json task.load, jobs }).jobs w =
      if w ∈ texts ∧ w ∉ workflowTexts task.load then some trigger else none := by
  have hprepared : (prepared json task.load).trigger = some trigger := htrigger
  have hmoves : (prepared json task.load).status = .running ∧
      (prepared json task.load).trigger.isSome :=
    ⟨hrunning, by rw [hprepared]; rfl⟩
  rw [withWorkflows, hsub]
  dsimp only
  rw [jobTrigger_moved, if_pos hmoves, hprepared]
  show (if w ∈ workflowTexts task.load then none
    else if w ∈ texts then some trigger else jobTrigger taskId jobs w) = _
  by_cases hold : w ∈ workflowTexts task.load
  · rw [if_pos hold, if_neg (fun hw => hw.2 hold)]
  · rw [if_neg hold, jobTrigger_eq_none h fun _ _ => hold]
    exact if_congr ⟨fun hw => ⟨hw, hold⟩, And.left⟩ rfl rfl

include huuids

/-- A running task with new workflows: their jobs are named by the texts of the request, and
those that it had lose theirs. -/
theorem inStep_of_new {trigger : TaskTrigger} {texts : List String}
    (hread : ∀ u : UUID, readUuid u.str = some u)
    (h : TaskInStep readUuid taskId { task := task.load, jobs })
    (hsub : submitted json = some texts) (hrunning : task.status = .running)
    (htrigger : json.taskTrigger.or task.trigger = some trigger) :
    (∀ w x, jobTrigger taskId (updated readUuid taskId json { task := task.load, jobs }).jobs w =
        some x ↔ RowAsks readUuid json task w x) ↔
      (∀ text ∈ texts, Canonical readUuid text) ∧
        (json.status.getD task.status = .running → ∀ text ∈ texts, ∀ u ∈ task.workflows,
          text ≠ UUID.str u) := by
  have hleft := jobTrigger_withWorkflows_new h hsub hrunning htrigger
  simp only [fun w => jobTrigger_updated huuids (hleft w), RowAsks, htrigger, hrunning,
    Option.some.injEq]
  cases json.status.getD .running with
  | stopped =>
    simp only [reduceCtorEq, if_false, false_and, iff_false, false_imp_iff, and_true]
    constructor
    · intro hstep text htext
      by_contra hnot
      refine hstep text trigger ?_
      rw [if_neg fun hhave => hnot (canonical_of_toHave hread hsub hhave),
        if_pos ⟨htext, fun hold => hnot (canonical_of_mem_workflowTexts hread hold)⟩]
    · intro hcanonical w x hjob
      split at hjob
      · cases hjob
      · rename_i hnot
        split at hjob
        · rename_i hnew
          exact hnot (toHave_of_canonical hsub hnew.1 (hcanonical w hnew.1))
        · cases hjob
  | running =>
    simp only [if_true, true_and, forall_const]
    constructor
    · intro hstep
      have hnew : ∀ text ∈ texts, ∀ u ∈ task.workflows, text ≠ UUID.str u := by
        rintro _ htext u hu rfl
        have hjob := (hstep u.str trigger).mpr
          ⟨rfl, toHave_of_canonical hsub htext ⟨u, hread u, rfl⟩⟩
        rw [if_neg (fun hw => hw.2 ((mem_workflowTexts_load task _).mpr ⟨u, hu, rfl⟩))] at hjob
        cases hjob
      refine ⟨fun text htext => ?_, hnew⟩
      have hfresh : text ∉ workflowTexts task.load := by
        intro hold
        obtain ⟨u, hu, htextu⟩ := (mem_workflowTexts_load task text).mp hold
        exact hnew text htext u hu htextu
      exact canonical_of_toHave hread hsub
        ((hstep text trigger).mp (by rw [if_pos ⟨htext, hfresh⟩])).2
    · rintro ⟨hcanonical, hnew⟩ w x
      rw [← mem_new_iff_toHave hsub hcanonical hnew]
      split
      · rename_i hw
        rw [Option.some.injEq]
        exact ⟨fun hx => ⟨hx, hw⟩, And.left⟩
      · rename_i hw
        exact iff_of_false (fun hjob => by cases hjob) fun hx => hw hx.2

/-- For a task that was in step, when it is after an update. -/
theorem taskInStep_updated_iff (hread : ∀ u : UUID, readUuid u.str = some u)
    (h : TaskInStep readUuid taskId { task := task.load, jobs }) :
    TaskInStep readUuid taskId (updated readUuid taskId json { task := task.load, jobs }) ↔
      MovesInStep readUuid json task := by
  rw [taskInStep_updated]
  by_cases hrunning : task.status = .running
  · cases htrigger : json.taskTrigger.or task.trigger with
    | none =>
      refine iff_of_true (inStep_of_untriggered huuids h htrigger) fun _ trigger hsome => ?_
      rw [htrigger] at hsome
      cases hsome
    | some trigger =>
      have hmoves : MovesInStep readUuid json task ↔
          match submitted json with
          | none => json.status.getD task.status = .running →
              task.trigger = some trigger ∨ task.workflows = []
          | some texts => (∀ text ∈ texts, Canonical readUuid text) ∧
              (json.status.getD task.status = .running → ∀ text ∈ texts, ∀ u ∈ task.workflows,
                text ≠ UUID.str u) := by
        refine ⟨fun hmoves => hmoves hrunning trigger htrigger, fun hmoves _ trigger' hsome => ?_⟩
        obtain rfl := Option.some.inj (htrigger.symm.trans hsome)
        exact hmoves
      rw [hmoves]
      cases hsub : submitted json with
      | none => exact inStep_of_kept huuids h hsub hrunning htrigger
      | some texts => exact inStep_of_new huuids hread h hsub hrunning htrigger
  · exact iff_of_true (inStep_of_stopped huuids h (status_eq_stopped hrunning))
      fun hrun => absurd hrun hrunning

end

/-- Scheduling leaves the jobs of other tasks. -/
theorem get?_schedule_of_other {jobId : String} (h : ∀ w, jobId ≠ constructTaskId (some taskId) w)
    (workflowIds : List String) (trigger : TaskTrigger) (jobs : OrderedDict String Job) :
    (scheduleWorkflows (some taskId) workflowIds trigger jobs).get? jobId = jobs.get? jobId :=
  get?_scheduleWorkflows workflowIds jobs fun w _ => h w

/-- Unscheduling leaves the jobs of other tasks. -/
theorem get?_unschedule_of_other {jobId : String}
    (h : ∀ w, jobId ≠ constructTaskId (some taskId) w) (workflowIds : List String)
    (jobs : OrderedDict String Job) :
    (unscheduleWorkflows (some taskId) workflowIds jobs).get? jobId = jobs.get? jobId := by
  rw [get?_unscheduleWorkflows, if_neg]
  rintro ⟨w, -, hid⟩
  exact h w hid

/-- The jobs of the other tasks are left alone. -/
theorem get?_updated_of_other {jobId : String} (h : ∀ w, jobId ≠ constructTaskId (some taskId) w)
    (json : TaskUpdate) (session : TaskSession) :
    (updated readUuid taskId json session).jobs.get? jobId = session.jobs.get? jobId := by
  have hmoved : (withWorkflows taskId json
      { session with task := prepared json session.task }).jobs.get? jobId =
        session.jobs.get? jobId := by
    unfold withWorkflows
    cases submitted json with
    | none => rfl
    | some texts =>
      dsimp only [movedJobs]
      split
      · rfl
      · split
        · rw [get?_unschedule_of_other h, get?_schedule_of_other h]
        · rfl
  rw [updated_eq json session _ rfl, ← hmoved]
  split
  · rfl
  · unfold restarted
    split
    · exact get?_schedule_of_other h _ _ _
    · rfl
    · exact get?_unschedule_of_other h _ _

end Jobs

/-- **An update reschedules exactly its task if and only if** the task was stopped, or has no
trigger, or: without new workflows, it is stopped, keeps its trigger or has no workflows; with new
workflows, they are written as `str` writes them, and none of them is a workflow of a task that
goes on running. -/
theorem rescheduledExactly_iff {makeTrigger : TaskTrigger → Except Exn Unit}
    {readUuid : String → Option UUID} {taskId : ℤ} {jobs : OrderedDict String Job}
    {json : TaskUpdate} {task : ScheduledTask} (hread : ∀ u : UUID, readUuid u.str = some u)
    (hids : JobIdsMade jobs)
    (hstored : ∀ trigger, task.trigger = some trigger → makeTrigger trigger = .ok ())
    (huuids : validateUuids readUuid (json.workflows.getD []) = [])
    (hvalid : ∀ trigger, json.taskTrigger = some trigger → makeTrigger trigger = .ok ())
    (hstep : TaskInStep readUuid taskId { task := task.load, jobs }) :
    RescheduledExactly readUuid taskId json { task := task.load, jobs }
        (finalState (updateTask makeTrigger readUuid taskId json { task := task.load, jobs })) ↔
      MovesInStep readUuid json task := by
  rw [finalState_updateTask hids hstored huuids hvalid,
    ← taskInStep_updated_iff huuids hread hstep]
  refine ⟨RescheduledExactly.inStep, fun hafter => ⟨fun w => ?_, hafter, fun jobId hother => ?_⟩⟩
  · exact hasWorkflow_updated json { task := task.load, jobs } w
  · exact get?_updated_of_other hother json { task := task.load, jobs }

/-- The running task 1 with its job. -/
def runningReport : TaskSession where
  task := (reportTask .running (some hourly)).load
  jobs := scheduleWorkflows (some 1) [UUID.str 1] hourly []

/-- The job ids of the example are made of tasks and workflows. -/
theorem jobIdsMade_runningReport : JobIdsMade runningReport.jobs := by
  intro jobId hjob
  rcases (mem_keys_scheduleWorkflows _ _ _ _).mp hjob with hnil | ⟨w, -, hid⟩
  · cases hnil
  · exact ⟨some 1, w, hid⟩

/-- The task of the example is in step with its jobs. -/
theorem taskInStep_runningReport : TaskInStep UUID.parse 1 runningReport := by
  intro w trigger
  unfold runningReport
  rw [jobTrigger_schedule, hasWorkflow_load, mem_workflowTexts_load]
  by_cases hw : w = UUID.str 1
  · rw [if_pos (List.mem_singleton.mpr hw)]
    exact ⟨fun h => ⟨rfl, h, 1, List.mem_singleton.mpr rfl, hw⟩, fun h => h.2.1⟩
  · rw [if_neg (fun h => hw (List.mem_singleton.mp h))]
    refine iff_of_false (fun h => by cases h) fun h => ?_
    obtain ⟨u, hu, hwu⟩ := h.2.2
    rw [List.mem_singleton.mp hu] at hwu
    exact hw hwu

/-- The update gives the task this workflow. -/
def workflowUpdate (workflow : UUID) : TaskUpdate :=
  { noUpdate with workflows := some [workflow.str] }

/-- The workflow of the example's update is an id. -/
theorem validateUuids_workflowUpdate (workflow : UUID) :
    validateUuids UUID.parse ((workflowUpdate workflow).workflows.getD []) = [] := by
  show [workflow.str].filter (fun uuid => (UUID.parse uuid).isNone) = []
  rw [List.filter_singleton, UUID.parse_str]
  rfl

/-- A running task gets another workflow with a job instead of the one it had. -/
theorem other_workflow_rescheduled :
    RescheduledExactly UUID.parse 1 (workflowUpdate 2) runningReport
      (finalState (updateTask makeAny UUID.parse 1 (workflowUpdate 2) runningReport)) := by
  refine (rescheduledExactly_iff UUID.parse_str jobIdsMade_runningReport (fun _ _ => rfl)
    (validateUuids_workflowUpdate 2) (fun _ _ => rfl) taskInStep_runningReport).mpr
    fun _ trigger _ => ⟨?_, ?_⟩
  · exact List.forall_mem_singleton.mpr ⟨2, UUID.parse_str 2, rfl⟩
  · intro _
    refine List.forall_mem_singleton.mpr (List.forall_mem_singleton.mpr fun hsame => ?_)
    have htwo := UUID.str_injective hsame
    revert htwo
    decide

/-- A workflow that a running task keeps loses its job. -/
theorem kept_workflow_unscheduled :
    TaskInStep UUID.parse 1 runningReport ∧
      ¬RescheduledExactly UUID.parse 1 (workflowUpdate 1) runningReport
        (finalState (updateTask makeAny UUID.parse 1 (workflowUpdate 1) runningReport)) := by
  refine ⟨taskInStep_runningReport, fun hafter => ?_⟩
  have hstate : finalState (updateTask makeAny UUID.parse 1 (workflowUpdate 1) runningReport) =
      updated UUID.parse 1 (workflowUpdate 1) runningReport :=
    finalState_updateTask jobIdsMade_runningReport (fun _ _ => rfl)
      (validateUuids_workflowUpdate 1) (fun _ _ => rfl)
  have hinStep := hafter.inStep
  rw [hstate] at hinStep
  have hmoves := (taskInStep_updated_iff (validateUuids_workflowUpdate 1) UUID.parse_str
    taskInStep_runningReport).mp hinStep rfl hourly rfl
  exact hmoves.2 rfl (UUID.str 1) List.mem_cons_self 1 List.mem_cons_self rfl

end Walkoff.Analysis
