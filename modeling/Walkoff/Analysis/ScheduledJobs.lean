import Walkoff.Library.Transition
import Walkoff.Program.Scheduler

/-!
# Scheduled tasks and their jobs

The job store and the table of tasks are changed by the same requests, but a task is scheduled
before it has an id, and a deletion does not reach the job store. The other requests keep the
two in step, because the id of a job names its task and its workflow.
-/

set_option autoImplicit false

namespace Walkoff.Analysis

open Walkoff.Program
open Walkoff.Library
open Walkoff.Library.OrderedDict (nextId nextId_not_mem)
open Walkoff.Model (UUID)

/-- A job that a task asks for. -/
def AskedBy (taskId : ℤ) (task : ScheduledTask) (jobId : String) : Prop :=
  task.status = .running ∧ task.trigger.isSome ∧
    ∃ workflow ∈ task.workflows, jobId = constructTaskId (some taskId) workflow.str

/-- A job that the table of tasks asks for. -/
def Asked (tasks : OrderedDict ℤ ScheduledTask) (jobId : String) : Prop :=
  ∃ taskId task, tasks.get? taskId = some task ∧ AskedBy taskId task jobId

/-- The jobs are those the tasks ask for. -/
def JobsAgree (state : SchedulerState) : Prop :=
  ∀ jobId, jobId ∈ state.jobs.keys ↔ Asked state.tasks jobId

/-- A task that asks for jobs. -/
def AsksForJobs (task : ScheduledTask) : Prop :=
  task.status = .running ∧ task.trigger.isSome ∧ task.workflows ≠ []

/-- The body passes the checks of `create_scheduled_task`, and the task asks for jobs. -/
def CreatesJobs (env : SchedulerEnv) (state : SchedulerState) (data : AddScheduledTask) : Prop :=
  ∃ workflows, data.workflows = some workflows ∧ workflows ≠ [] ∧
    (∀ workflow ∈ workflows, (env.uuid workflow).isSome) ∧
    (∀ row ∈ state.tasks, row.2.name ≠ data.name) ∧
    data.status.getD .running = .running ∧
    ∃ trigger, data.taskTrigger = some trigger ∧ env.validArgs trigger = true

/-- The request does not create a task that asks for jobs, and does not delete one. -/
def KeepsJobs (env : SchedulerEnv) (state : SchedulerState) : TaskRequest → Prop
  | .createScheduledTask data => ¬ CreatesJobs env state data
  | .controlScheduledTask _ _ => True
  | .deleteScheduledTask taskId => ∀ task, state.tasks.get? taskId = some task →
      ¬ AsksForJobs task

/-! ## Job ids -/

section JobIds

/-- An id is written with 36 characters. -/
theorem str_length (workflow : UUID) : workflow.str.toList.length = 36 := by
  unfold UUID.str
  have hlength := UUID.hexDigits_length 32 workflow.toNat
  simp [hlength]

/-- The text of a number has digits and a sign. -/
theorem mem_repr {a : ℤ} {c : Char} (h : c ∈ a.repr.toList) : c = '-' ∨ c.isDigit = true := by
  have hnat : ∀ n : ℕ, c ∈ n.repr.toList → c.isDigit = true := by
    intro n hn
    rw [Nat.toList_repr] at hn
    exact Nat.isDigit_of_mem_toDigits (by decide) (by decide) hn
  cases a with
  | ofNat n => exact .inr (hnat n h)
  | negSucc n =>
    have hmem : c ∈ '-' :: n.succ.repr.toList := by
      simpa [Int.repr] using h
    rcases List.mem_cons.mp hmem with rfl | hmem
    · exact .inl rfl
    · exact .inr (hnat _ hmem)

/-- The text of a natural number has no sign. -/
theorem natRepr_ne_neg (m n : ℕ) : m.repr.toList ≠ '-' :: n.repr.toList := by
  intro h
  have hmem : '-' ∈ Nat.toDigits 10 m := by
    rw [← Nat.toList_repr, h]
    exact List.mem_cons_self
  have hdigit := Nat.isDigit_of_mem_toDigits (by decide) (by decide) hmem
  revert hdigit
  decide

/-- Integers that are written the same are equal. -/
theorem repr_injective {a b : ℤ} (h : a.repr.toList = b.repr.toList) : a = b := by
  have hneg : ∀ n : ℕ, (Int.negSucc n).repr.toList = '-' :: n.succ.repr.toList := by
    intro n
    simp [Int.repr]
  cases a with
  | ofNat m =>
    cases b with
    | ofNat n => exact congrArg Int.ofNat (Model.PyVal.natRepr_injective h)
    | negSucc n => exact absurd (h.trans (hneg n)) (natRepr_ne_neg m n.succ)
  | negSucc m =>
    cases b with
    | ofNat n => exact absurd (h.symm.trans (hneg m)) (natRepr_ne_neg n m.succ)
    | negSucc n =>
      rw [hneg, hneg] at h
      have hsucc := Model.PyVal.natRepr_injective (List.cons_injective h)
      rw [Nat.succ.inj hsucc]

/-- The characters of the id of a job. -/
theorem toList_constructTaskId (taskId : Option ℤ) (workflowId : String) :
    (constructTaskId taskId workflowId).toList =
      (taskIdStr taskId).toList ++ '-' :: workflowId.toList := by
  simp [constructTaskId]

/-- **A job id names its task and its workflow.** -/
theorem constructTaskId_inj {a b : ℤ} {u v : UUID}
    (h : constructTaskId (some a) u.str = constructTaskId (some b) v.str) : a = b ∧ u = v := by
  have hlist := congrArg String.toList h
  rw [toList_constructTaskId, toList_constructTaskId] at hlist
  obtain ⟨hid, hworkflow⟩ := List.append_inj' hlist (by simp [str_length])
  refine ⟨repr_injective hid, UUID.str_injective ?_⟩
  exact String.toList_injective (List.cons_injective hworkflow)

/-- The job of a task without an id is not that of a task with one. -/
theorem constructTaskId_none_ne (workflowId : String) (taskId : ℤ) (workflow : UUID) :
    constructTaskId none workflowId ≠ constructTaskId (some taskId) workflow.str := by
  intro h
  have hlist := congrArg String.toList h
  rw [toList_constructTaskId, toList_constructTaskId] at hlist
  cases hrepr : taskId.repr.toList with
  | nil =>
    have hsame : (taskIdStr (some taskId)).toList = [] := hrepr
    rw [hsame] at hlist
    cases hlist
  | cons c cs =>
    have hsame : (taskIdStr (some taskId)).toList = c :: cs := hrepr
    rw [hsame] at hlist
    have hc : 'N' = c := (List.cons.inj hlist).1
    have hmem : 'N' ∈ taskId.repr.toList := by
      rw [hrepr, hc]
      exact List.mem_cons_self
    rcases mem_repr hmem with hsign | hdigit
    · revert hsign
      decide
    · revert hdigit
      decide

/-- Scheduling workflows adds their jobs. -/
theorem mem_keys_scheduleWorkflows {jobId : String} (taskId : Option ℤ) (workflowIds : List String)
    (trigger : TaskTrigger) (jobs : OrderedDict String Job) :
    jobId ∈ (scheduleWorkflows taskId workflowIds trigger jobs).keys ↔
      jobId ∈ jobs.keys ∨ ∃ workflowId ∈ workflowIds, jobId = constructTaskId taskId workflowId := by
  unfold scheduleWorkflows
  induction workflowIds generalizing jobs with
  | nil => simp
  | cons workflowId rest ih =>
    rw [List.foldl_cons, ih, OrderedDict.mem_keys_set]
    simp only [List.mem_cons, exists_eq_or_imp]
    tauto

/-- Unscheduling workflows takes their jobs out. -/
theorem mem_keys_unscheduleWorkflows {jobId : String} (taskId : Option ℤ)
    (workflowIds : List String) (jobs : OrderedDict String Job) :
    jobId ∈ (unscheduleWorkflows taskId workflowIds jobs).keys ↔
      jobId ∈ jobs.keys ∧ ∀ workflowId ∈ workflowIds, jobId ≠ constructTaskId taskId workflowId := by
  unfold unscheduleWorkflows
  induction workflowIds generalizing jobs with
  | nil => simp
  | cons workflowId rest ih =>
    rw [List.foldl_cons, ih, OrderedDict.keys_pop]
    simp only [List.mem_filter, List.forall_mem_cons, decide_eq_true_eq]
    tauto

end JobIds

/-! ## What is asked for after a request -/

section Asked

variable {tasks : OrderedDict ℤ ScheduledTask} {taskId : ℤ} {task : ScheduledTask}
  {jobId : String}

/-- A job that another task asks for. -/
def AskedElsewhere (taskId : ℤ) (tasks : OrderedDict ℤ ScheduledTask) (jobId : String) : Prop :=
  ∃ otherId, otherId ≠ taskId ∧ ∃ other, tasks.get? otherId = some other ∧
    AskedBy otherId other jobId

/-- A job is asked for by a stored task or elsewhere. -/
theorem asked_of_get? (h : tasks.get? taskId = some task) :
    Asked tasks jobId ↔ AskedBy taskId task jobId ∨ AskedElsewhere taskId tasks jobId := by
  constructor
  · rintro ⟨otherId, other, hget, hasked⟩
    by_cases hid : otherId = taskId
    · subst hid
      obtain rfl := Option.some.inj (h.symm.trans hget)
      exact .inl hasked
    · exact .inr ⟨otherId, hid, other, hget, hasked⟩
  · rintro (hasked | ⟨otherId, -, other, hget, hasked⟩)
    · exact ⟨taskId, task, h, hasked⟩
    · exact ⟨otherId, other, hget, hasked⟩

/-- Without the task a job is asked for elsewhere. -/
theorem asked_of_get?_none (h : tasks.get? taskId = none) :
    Asked tasks jobId ↔ AskedElsewhere taskId tasks jobId := by
  constructor
  · rintro ⟨otherId, other, hget, hasked⟩
    refine ⟨otherId, ?_, other, hget, hasked⟩
    rintro rfl
    rw [h] at hget
    cases hget
  · rintro ⟨otherId, -, other, hget, hasked⟩
    exact ⟨otherId, other, hget, hasked⟩

/-- After a task was stored, a job is asked for by it or elsewhere. -/
theorem asked_set :
    Asked (tasks.set taskId task) jobId ↔
      AskedBy taskId task jobId ∨ AskedElsewhere taskId tasks jobId := by
  rw [asked_of_get? (OrderedDict.get?_set_self taskId task tasks)]
  refine or_congr_right ⟨?_, ?_⟩
  · rintro ⟨otherId, hid, other, hget, hasked⟩
    exact ⟨otherId, hid, other, (OrderedDict.get?_set_of_ne hid task tasks).symm.trans hget, hasked⟩
  · rintro ⟨otherId, hid, other, hget, hasked⟩
    exact ⟨otherId, hid, other, (OrderedDict.get?_set_of_ne hid task tasks).trans hget, hasked⟩

/-- After a task was deleted, a job is asked for elsewhere. -/
theorem asked_pop : Asked (tasks.pop taskId) jobId ↔ AskedElsewhere taskId tasks jobId := by
  have hget : ∀ otherId, (tasks.pop taskId).get? otherId =
      if otherId = taskId then none else tasks.get? otherId := fun otherId =>
    OrderedDict.get?_pop taskId otherId tasks
  constructor
  · rintro ⟨otherId, other, hother, hasked⟩
    rw [hget] at hother
    by_cases hid : otherId = taskId
    · rw [if_pos hid] at hother
      cases hother
    · rw [if_neg hid] at hother
      exact ⟨otherId, hid, other, hother, hasked⟩
  · rintro ⟨otherId, hid, other, hother, hasked⟩
    refine ⟨otherId, other, ?_, hasked⟩
    rw [hget, if_neg hid]
    exact hother

/-- No other task asks for the job of a task and a workflow. -/
theorem not_askedElsewhere (workflow : UUID) :
    ¬ AskedElsewhere taskId tasks (constructTaskId (some taskId) workflow.str) := by
  rintro ⟨otherId, hid, other, -, -, -, otherWorkflow, -, hjob⟩
  exact hid (constructTaskId_inj hjob).1.symm

/-- The ids of the workflows of a task are written ones. -/
theorem mem_workflowIds {workflowId : String} :
    workflowId ∈ task.workflowIds ↔ ∃ workflow ∈ task.workflows, workflow.str = workflowId :=
  List.mem_map

end Asked

/-! ## The requests -/

section Requests

variable {env : SchedulerEnv} {state : SchedulerState}

/-- Starting a task keeps the jobs in step with the table. -/
theorem jobsAgree_start {taskId : ℤ} {task : ScheduledTask} (h : JobsAgree state)
    (hget : state.tasks.get? taskId = some task) :
    JobsAgree (task.start env taskId state).2 := by
  unfold ScheduledTask.start
  by_cases hstatus : task.status ≠ .running
  · have hnot : ∀ jobId, ¬ AskedBy taskId task jobId := fun _ hasked => hstatus hasked.1
    rw [if_pos hstatus]
    cases htrigger : task.trigger with
    | none =>
      intro jobId
      dsimp only
      rw [h jobId, asked_of_get? hget, asked_set]
      refine or_congr_left ⟨fun hasked => absurd hasked (hnot jobId), ?_⟩
      rintro ⟨-, hsome, -⟩
      cases hsome
    | some trigger =>
      dsimp only
      by_cases hvalid : env.validArgs trigger = true
      · rw [if_pos hvalid]
        intro jobId
        dsimp only
        rw [mem_keys_scheduleWorkflows, h jobId, asked_of_get? hget, asked_set]
        have hasked : (∃ workflowId ∈ task.workflowIds,
            jobId = constructTaskId (some taskId) workflowId) ↔
            AskedBy taskId { task with status := .running, trigger := some trigger } jobId := by
          constructor
          · rintro ⟨_, hmem, rfl⟩
            obtain ⟨workflow, hworkflow, rfl⟩ := mem_workflowIds.mp hmem
            exact ⟨rfl, rfl, workflow, hworkflow, rfl⟩
          · rintro ⟨-, -, workflow, hworkflow, rfl⟩
            exact ⟨_, mem_workflowIds.mpr ⟨workflow, hworkflow, rfl⟩, rfl⟩
        rw [or_iff_right (hnot jobId), or_comm]
        exact or_congr_left hasked
      · rw [if_neg hvalid]
        exact h
  · rw [if_neg hstatus]
    exact h

/-- Stopping a task keeps the jobs in step with the table. -/
theorem jobsAgree_stop {taskId : ℤ} {task : ScheduledTask} (h : JobsAgree state)
    (hget : state.tasks.get? taskId = some task) :
    JobsAgree (task.stop taskId state).2 := by
  unfold ScheduledTask.stop
  by_cases hstatus : task.status ≠ .stopped
  · rw [if_pos hstatus]
    intro jobId
    dsimp only
    rw [mem_keys_unscheduleWorkflows, h jobId, asked_of_get? hget, asked_set]
    constructor
    · rintro ⟨hasked | helsewhere, hnone⟩
      · obtain ⟨-, -, workflow, hworkflow, rfl⟩ := hasked
        exact absurd rfl (hnone _ (mem_workflowIds.mpr ⟨workflow, hworkflow, rfl⟩))
      · exact .inr helsewhere
    · rintro (hasked | helsewhere)
      · cases hasked.1
      · refine ⟨.inr helsewhere, ?_⟩
        rintro _ hmem rfl
        obtain ⟨workflow, -, rfl⟩ := mem_workflowIds.mp hmem
        exact not_askedElsewhere workflow helsewhere
  · rw [if_neg hstatus]
    exact h

/-- **A deletion keeps the jobs in step exactly if** the task asks for none. -/
theorem jobsAgree_delete_iff (taskId : ℤ) (h : JobsAgree state) :
    JobsAgree (deleteScheduledTask taskId state).2 ↔
      KeepsJobs env state (.deleteScheduledTask taskId) := by
  unfold deleteScheduledTask
  show _ ↔ ∀ task, state.tasks.get? taskId = some task → ¬ AsksForJobs task
  cases hget : state.tasks.get? taskId with
  | none =>
    refine ⟨?_, fun _ => h⟩
    intro _ task htask
    cases htask
  | some task =>
    constructor
    · rintro hafter task' htask ⟨hrunning, htrigger, hworkflows⟩
      obtain rfl := Option.some.inj htask
      obtain ⟨workflow, hworkflow⟩ := List.exists_mem_of_ne_nil _ hworkflows
      have hasked : AskedBy taskId task (constructTaskId (some taskId) workflow.str) :=
        ⟨hrunning, htrigger, workflow, hworkflow, rfl⟩
      have hbefore := (h _).mpr ((asked_of_get? hget).mpr (.inl hasked))
      exact not_askedElsewhere workflow (asked_pop.mp ((hafter _).mp hbefore))
    · intro hnot jobId
      dsimp only
      rw [h jobId, asked_of_get? hget, asked_pop]
      refine ⟨?_, .inr⟩
      rintro (⟨hrunning, htrigger, workflow, hworkflow, -⟩ | helsewhere)
      · exact absurd ⟨hrunning, htrigger, List.ne_nil_of_mem hworkflow⟩ (hnot task rfl)
      · exact helsewhere

/-- The checks of `create_scheduled_task`, one after the other. -/
def PassesChecks (env : SchedulerEnv) (state : SchedulerState) (data : AddScheduledTask)
    (workflows : List String) : Prop :=
  (∀ workflow ∈ workflows, (env.uuid workflow).isSome) ∧
    (∀ row ∈ state.tasks, row.2.name ≠ data.name) ∧
    ∀ trigger, data.taskTrigger = some trigger → env.validArgs trigger = true

/-- A request that passes the checks stores its task and schedules it. -/
theorem createScheduledTask_of_passes {data : AddScheduledTask} {workflows : List String}
    (hworkflows : data.workflows = some workflows) (h : PassesChecks env state data workflows) :
    createScheduledTask env data state = (201, {
      tasks := state.tasks.set (nextId state.tasks) (initTask env data workflows state.jobs).1
      jobs := (initTask env data workflows state.jobs).2 }) := by
  obtain ⟨huuids, hname, hvalid⟩ := h
  unfold createScheduledTask
  rw [hworkflows]
  dsimp only
  rw [if_neg, if_neg, if_neg]
  · cases htrigger : data.taskTrigger with
    | none => simp
    | some trigger => simp [hvalid trigger htrigger]
  · simpa using hname
  · simpa [Option.isSome_iff_ne_none] using huuids

/-- A request that does not pass changes nothing. -/
theorem createScheduledTask_of_not_passes {data : AddScheduledTask}
    (h : ∀ workflows, data.workflows = some workflows → ¬ PassesChecks env state data workflows) :
    (createScheduledTask env data state).2 = state := by
  unfold createScheduledTask
  cases hworkflows : data.workflows with
  | none => rfl
  | some workflows =>
    dsimp only
    split
    · rfl
    · split
      · rfl
      · split
        · rfl
        · rename_i huuids hname hvalid
          refine absurd ⟨?_, ?_, ?_⟩ (h workflows hworkflows)
          · simpa [Option.isSome_iff_ne_none] using huuids
          · simpa using hname
          · intro trigger htrigger
            rw [htrigger] at hvalid
            simpa using hvalid

/-- A task that asks for no jobs is made without any. -/
theorem initTask_of_not_creates {data : AddScheduledTask} {workflows : List String}
    (hworkflows : data.workflows = some workflows) (h : PassesChecks env state data workflows)
    (hnot : ¬ CreatesJobs env state data) :
    (initTask env data workflows state.jobs).2 = state.jobs ∧
      ∀ taskId jobId, ¬ AskedBy taskId (initTask env data workflows state.jobs).1 jobId := by
  unfold initTask
  cases htrigger : data.taskTrigger with
  | none =>
    refine ⟨rfl, ?_⟩
    rintro taskId jobId ⟨-, hsome, -⟩
    cases hsome
  | some trigger =>
    dsimp only
    by_cases hrunning : data.status.getD .running = .running
    · rw [if_pos hrunning]
      have hempty : workflows = [] := by
        by_contra hne
        exact hnot ⟨workflows, hworkflows, hne, h.1, h.2.1, hrunning, trigger, htrigger,
          h.2.2 trigger htrigger⟩
      subst hempty
      refine ⟨rfl, ?_⟩
      rintro taskId jobId ⟨-, -, workflow, hworkflow, -⟩
      cases hworkflow
    · rw [if_neg hrunning]
      exact ⟨rfl, fun _ _ hasked => hrunning hasked.1⟩

/-- **A creation keeps the jobs in step exactly if** the new task asks for none. -/
theorem jobsAgree_create_iff (data : AddScheduledTask) (h : JobsAgree state) :
    JobsAgree (createScheduledTask env data state).2 ↔
      KeepsJobs env state (.createScheduledTask data) := by
  show _ ↔ ¬ CreatesJobs env state data
  have hfresh : state.tasks.get? (nextId state.tasks) = none := by
    have hnot := nextId_not_mem state.tasks
    rw [OrderedDict.mem_keys_iff, Option.not_isSome_iff_eq_none] at hnot
    exact hnot
  by_cases hpasses : ∃ workflows, data.workflows = some workflows ∧
      PassesChecks env state data workflows
  · obtain ⟨workflows, hworkflows, hpasses⟩ := hpasses
    rw [createScheduledTask_of_passes hworkflows hpasses]
    by_cases hcreates : CreatesJobs env state data
    · refine iff_of_false ?_ (not_not_intro hcreates)
      intro hafter
      obtain ⟨workflows', hworkflows', hne, -, -, hrunning, trigger, htrigger, -⟩ := hcreates
      obtain rfl := Option.some.inj (hworkflows.symm.trans hworkflows')
      obtain ⟨workflow, hworkflow⟩ := List.exists_mem_of_ne_nil _ hne
      have hjobs : (initTask env data workflows state.jobs).2 =
          scheduleWorkflows none workflows.dedup trigger state.jobs := by
        unfold initTask
        rw [htrigger, hrunning]
        rfl
      have hjob : constructTaskId none workflow ∈
          (initTask env data workflows state.jobs).2.keys := by
        rw [hjobs, mem_keys_scheduleWorkflows]
        exact .inr ⟨workflow, List.mem_dedup.mpr hworkflow, rfl⟩
      obtain ⟨taskId, task, -, -, -, asked, -, hid⟩ := (hafter _).mp hjob
      exact constructTaskId_none_ne workflow taskId asked hid
    · refine iff_of_true ?_ hcreates
      obtain ⟨hjobs, hnone⟩ := initTask_of_not_creates hworkflows hpasses hcreates
      intro jobId
      dsimp only
      rw [hjobs, h jobId, asked_of_get?_none hfresh, asked_set, or_iff_right (hnone _ _)]
  · rw [createScheduledTask_of_not_passes (fun workflows hworkflows hp =>
      hpasses ⟨workflows, hworkflows, hp⟩)]
    refine ⟨?_, fun _ => h⟩
    rintro - ⟨workflows, hworkflows, -, huuids, hname, -, trigger, htrigger, hvalid⟩
    refine hpasses ⟨workflows, hworkflows, huuids, hname, ?_⟩
    intro trigger' htrigger'
    obtain rfl := Option.some.inj (htrigger.symm.trans htrigger')
    exact hvalid

/-- **A request keeps the jobs in step exactly if** it neither creates nor deletes a task that
asks for jobs. -/
theorem jobsAgree_step_iff {state' : SchedulerState} {request : TaskRequest} (h : JobsAgree state)
    (hstep : SchedulerStep env state request state') :
    JobsAgree state' ↔ KeepsJobs env state request := by
  rw [← hstep]
  cases request with
  | createScheduledTask data => exact jobsAgree_create_iff data h
  | deleteScheduledTask taskId => exact jobsAgree_delete_iff taskId h
  | controlScheduledTask taskId action =>
    refine iff_of_true ?_ trivial
    show JobsAgree (controlScheduledTask env taskId action state).2
    unfold controlScheduledTask
    cases hget : state.tasks.get? taskId with
    | none => exact h
    | some task =>
      cases action with
      | none => exact h
      | some action =>
        cases action with
        | start => exact jobsAgree_start h hget
        | stop => exact jobsAgree_stop h hget

end Requests

/-- Before there are tasks and jobs. -/
def noTasks : SchedulerState :=
  { tasks := [], jobs := [] }

/-- **The jobs are those the tasks ask for exactly if** no task that asks for jobs is created or
deleted. -/
theorem jobsAgree_iff (env : SchedulerEnv) (requests : List TaskRequest) (state : SchedulerState) :
    Always (SchedulerStep env) JobsAgree noTasks requests state ↔
      Run (Guarded (SchedulerStep env) (KeepsJobs env)) noTasks requests state := by
  have hstart : JobsAgree noTasks := by
    intro jobId
    constructor
    · intro hmem
      cases hmem
    · rintro ⟨taskId, task, hget, -⟩
      cases hget
  exact @Run.always_iff _ _ (SchedulerStep env) JobsAgree (fun _ => True) (KeepsJobs env)
    (fun _ _ _ _ _ _ => trivial) (fun _ _ _ _ h hstep => jobsAgree_step_iff h hstep) _ _ _ trivial
    hstart

/-- The body of a task that runs a workflow on a date. -/
def dailyReport : AddScheduledTask where
  name := "report"
  description := none
  status := some .running
  workflows := some ["00000000-0000-0000-0000-000000000001"]
  taskTrigger := some { type := .date, args := .dict [("run_date", .str "2018-01-25 10:00:00")] }

/-- A scheduler whose triggers can all be made. -/
def anyTrigger : SchedulerEnv where
  uuid := UUID.parse
  validArgs _ := true

/-- A running task that was created and then stopped still has its job. -/
theorem stopped_task_still_runs :
    ∃ state, Run (SchedulerStep anyTrigger) noTasks
        [.createScheduledTask dailyReport, .controlScheduledTask 1 (some .stop)] state ∧
      ¬ JobsAgree state ∧ state.jobs.keys = ["None-00000000-0000-0000-0000-000000000001"] ∧
      ∃ task, state.tasks.get? 1 = some task ∧ task.status = .stopped := by
  refine ⟨_, .cons rfl (.cons rfl (.refl _)), ?_, by decide, _, rfl, rfl⟩
  intro h
  have hjob := (h "None-00000000-0000-0000-0000-000000000001").mp (by decide)
  obtain ⟨taskId, task, -, -, -, workflow, -, hid⟩ := hjob
  exact constructTaskId_none_ne "00000000-0000-0000-0000-000000000001" taskId workflow hid

end Walkoff.Analysis
