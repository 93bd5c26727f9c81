import Walkoff.Analysis.ScheduledJobs
import Walkoff.Program.TaskUpdates

/-!
# What the scheduler finds by a task id

A job id joins the id of a task with the id of a workflow by a hyphen, and is taken apart at
its first two. The ids of workflows have hyphens, so no job is found under the ids it was
scheduled with: the lookups are right where there is nothing to find.
-/

set_option autoImplicit false

namespace Walkoff.Analysis

open Walkoff.Program
open Walkoff.Library
open Walkoff.Model (UUID)

/-! ## What is scheduled -/

/-- A call of `schedule_workflows` or of `unschedule_workflows`. -/
inductive SchedulerCall where
  | schedule (taskId : ℤ) (workflowIds : List UUID) (trigger : TaskTrigger)
  | unschedule (taskId : ℤ) (workflowIds : List UUID)

/-- The job store after a call. -/
def jobsAfter (jobs : OrderedDict String Job) : SchedulerCall → OrderedDict String Job
  | .schedule taskId workflowIds trigger =>
    scheduleWorkflows (some taskId) (workflowIds.map UUID.str) trigger jobs
  | .unschedule taskId workflowIds =>
    unscheduleWorkflows (some taskId) (workflowIds.map UUID.str) jobs

/-- What is scheduled: the trigger of each workflow of each task. -/
abbrev Schedule := ℤ → UUID → Option TaskTrigger

/-- What is scheduled after a call, by what the call is for. -/
def scheduledAfter (schedule : Schedule) : SchedulerCall → Schedule
  | .schedule taskId workflowIds trigger => fun t u =>
    if t = taskId ∧ u ∈ workflowIds then some trigger else schedule t u
  | .unschedule taskId workflowIds => fun t u =>
    if t = taskId ∧ u ∈ workflowIds then none else schedule t u

/-- The job store holds a schedule. -/
structure Holds (jobs : OrderedDict String Job) (schedule : Schedule) : Prop where
  job : ∀ t (u : UUID), jobs.get? (constructTaskId (some t) u.str) =
    (schedule t u).map fun trigger => { workflowId := u.str, trigger }
  only : ∀ jobId ∈ jobs.keys, ∃ t, ∃ u : UUID, jobId = constructTaskId (some t) u.str

/-- What `get_scheduled_workflows` returns are the workflows that are scheduled for the task. -/
def FindsTask (jobs : OrderedDict String Job) (schedule : Schedule) (taskId : ℤ) : Prop :=
  ∃ workflowIds, getScheduledWorkflows (some taskId) jobs = .ok workflowIds ∧
    ∀ w, w ∈ workflowIds ↔ ∃ u, (schedule taskId u).isSome ∧ w = u.str

/-- What `get_all_scheduled_workflows` returns are the workflows that are scheduled, by task. -/
def FindsAll (jobs : OrderedDict String Job) (schedule : Schedule) : Prop :=
  ∃ tasks, getAllScheduledWorkflows jobs = .ok tasks ∧
    ∀ task w, (∃ workflowIds, tasks.get? task = some workflowIds ∧ w ∈ workflowIds) ↔
      ∃ t u, (schedule t u).isSome ∧ task = taskIdStr (some t) ∧ w = u.str

/-- `update_workflows` gives the trigger to the jobs of the task and to no others. -/
def UpdatesTask (jobs : OrderedDict String Job) (schedule : Schedule) (taskId : ℤ)
    (trigger : TaskTrigger) : Prop :=
  ∃ jobs', updateWorkflows (some taskId) trigger jobs = .ok jobs' ∧
    (∀ jobId, jobId ∈ jobs'.keys ↔ jobId ∈ jobs.keys) ∧
    (∀ u, (schedule taskId u).isSome →
      (jobs'.get? (constructTaskId (some taskId) u.str)).map Job.trigger = some trigger) ∧
    ∀ jobId, (∀ u : UUID, jobId ≠ constructTaskId (some taskId) u.str) →
      jobs'.get? jobId = jobs.get? jobId

/-- The lookups are exact. -/
def LookupsExact (jobs : OrderedDict String Job) (schedule : Schedule) : Prop :=
  (∀ taskId, FindsTask jobs schedule taskId) ∧ FindsAll jobs schedule ∧
    ∀ taskId trigger, UpdatesTask jobs schedule taskId trigger

/-! ## The job store holds the schedule -/

section Holds

variable {jobs : OrderedDict String Job} {schedule : Schedule}

/-- Scheduling leaves the jobs of others. -/
theorem get?_scheduleWorkflows {taskId : Option ℤ} {trigger : TaskTrigger} {jobId : String}
    (workflowIds : List String) (jobs : OrderedDict String Job)
    (h : ∀ w ∈ workflowIds, jobId ≠ constructTaskId taskId w) :
    (scheduleWorkflows taskId workflowIds trigger jobs).get? jobId = jobs.get? jobId := by
  induction workflowIds generalizing jobs with
  | nil => rfl
  | cons w rest ih =>
    obtain ⟨hw, hrest⟩ := List.forall_mem_cons.mp h
    exact (ih _ hrest).trans (OrderedDict.get?_set_of_ne hw _ _)

/-- A scheduled workflow has a job with the trigger. -/
theorem get?_scheduleWorkflows_of_mem {taskId : Option ℤ} {trigger : TaskTrigger} {w : String}
    {workflowIds : List String} (jobs : OrderedDict String Job) (hw : w ∈ workflowIds) :
    (scheduleWorkflows taskId workflowIds trigger jobs).get? (constructTaskId taskId w) =
      some { workflowId := w, trigger } := by
  induction workflowIds using List.reverseRecOn with
  | nil => cases hw
  | append_singleton rest last ih =>
    have hsplit : scheduleWorkflows taskId (rest ++ [last]) trigger jobs =
        (scheduleWorkflows taskId rest trigger jobs).set (constructTaskId taskId last)
          { workflowId := last, trigger } := by
      rw [scheduleWorkflows, List.foldl_append]
      rfl
    rw [hsplit, OrderedDict.get?_set]
    by_cases hlast : constructTaskId taskId w = constructTaskId taskId last
    · have hsame : w = last := by
        have hlist := congrArg String.toList hlast
        rw [toList_constructTaskId, toList_constructTaskId] at hlist
        exact String.toList_injective (List.cons_injective (List.append_cancel_left hlist))
      rw [if_pos hlast, hsame]
    · rw [if_neg hlast]
      rcases List.mem_append.mp hw with hrest | hlast'
      · exact ih hrest
      · exact absurd (congrArg (constructTaskId taskId) (List.mem_singleton.mp hlast')) hlast

/-- Unscheduling takes out the jobs of the workflows and no others. -/
theorem get?_unscheduleWorkflows {taskId : Option ℤ} {jobId : String} (workflowIds : List String)
    (jobs : OrderedDict String Job) :
    (unscheduleWorkflows taskId workflowIds jobs).get? jobId =
      if ∃ w ∈ workflowIds, jobId = constructTaskId taskId w then none else jobs.get? jobId := by
  induction workflowIds generalizing jobs with
  | nil =>
    rw [if_neg (fun ⟨_, h, _⟩ => by cases h)]
    rfl
  | cons w rest ih =>
    refine (ih _).trans ?_
    rw [OrderedDict.get?_pop]
    simp only [List.mem_cons, exists_eq_or_imp]
    by_cases hw : jobId = constructTaskId taskId w
    · simp [hw]
    · simp [hw]

/-- No jobs hold the empty schedule. -/
theorem Holds.empty : Holds [] fun _ _ => none where
  job _ _ := rfl
  only _ h := by cases h

/-- After scheduling, the jobs hold what is scheduled. -/
theorem Holds.scheduled (h : Holds jobs schedule) (taskId : ℤ) (workflowIds : List UUID)
    (trigger : TaskTrigger) :
    Holds (jobsAfter jobs (.schedule taskId workflowIds trigger))
      (scheduledAfter schedule (.schedule taskId workflowIds trigger)) where
  job t u := by
    show (scheduleWorkflows (some taskId) (workflowIds.map UUID.str) trigger jobs).get? _ =
      (if t = taskId ∧ u ∈ workflowIds then some trigger else schedule t u).map _
    by_cases hu : t = taskId ∧ u ∈ workflowIds
    · rw [if_pos hu, hu.1]
      exact get?_scheduleWorkflows_of_mem jobs (List.mem_map_of_mem hu.2)
    · rw [if_neg hu, ← h.job]
      refine get?_scheduleWorkflows _ _ fun w hw hid => hu ?_
      obtain ⟨v, hv, rfl⟩ := List.mem_map.mp hw
      obtain ⟨ht, rfl⟩ := constructTaskId_inj hid
      exact ⟨ht, hv⟩
  only jobId hjob := by
    rcases (mem_keys_scheduleWorkflows _ _ _ _).mp hjob with hjob | ⟨w, hw, hid⟩
    · exact h.only jobId hjob
    · obtain ⟨v, -, rfl⟩ := List.mem_map.mp hw
      exact ⟨taskId, v, hid⟩

/-- After unscheduling, the jobs hold what is still scheduled. -/
theorem Holds.unscheduled (h : Holds jobs schedule) (taskId : ℤ) (workflowIds : List UUID) :
    Holds (jobsAfter jobs (.unschedule taskId workflowIds))
      (scheduledAfter schedule (.unschedule taskId workflowIds)) where
  job t u := by
    show (unscheduleWorkflows (some taskId) (workflowIds.map UUID.str) jobs).get? _ =
      (if t = taskId ∧ u ∈ workflowIds then none else schedule t u).map _
    rw [get?_unscheduleWorkflows]
    by_cases hu : t = taskId ∧ u ∈ workflowIds
    · rw [if_pos hu, hu.1, if_pos ⟨u.str, List.mem_map_of_mem hu.2, rfl⟩]
      rfl
    · rw [if_neg hu, if_neg, h.job]
      rintro ⟨w, hw, hid⟩
      obtain ⟨v, hv, rfl⟩ := List.mem_map.mp hw
      obtain ⟨ht, rfl⟩ := constructTaskId_inj hid
      exact hu ⟨ht, hv⟩
  only jobId hjob := h.only jobId ((mem_keys_unscheduleWorkflows _ _ _).mp hjob).1

/-- **The job store holds what is scheduled**, after any calls. -/
theorem holds_after (calls : List SchedulerCall) (h : Holds jobs schedule) :
    Holds (calls.foldl jobsAfter jobs) (calls.foldl scheduledAfter schedule) := by
  induction calls generalizing jobs schedule with
  | nil => exact h
  | cons call rest ih =>
    cases call with
    | schedule taskId workflowIds trigger => exact ih (h.scheduled taskId workflowIds trigger)
    | unschedule taskId workflowIds => exact ih (h.unscheduled taskId workflowIds)

end Holds

/-! ## What is read off a job id -/

/-- A number is written without a hyphen. -/
theorem hyphen_not_mem_natRepr (n : ℕ) : '-' ∉ n.repr.toList := by
  intro h
  rw [Nat.toList_repr] at h
  have hdigit := Nat.isDigit_of_mem_toDigits (by decide) (by decide) h
  revert hdigit
  decide

/-- The first group of a workflow id, up to its first hyphen. -/
theorem str_split (u : UUID) : ∃ first rest, '-' ∉ first ∧ u.str.toList = first ++ '-' :: rest := by
  have hfirst : '-' ∉ (UUID.hexDigits 32 u.toNat).take 8 := fun h =>
    UUID.hexDigits_ne_hyphen _ _ _ (List.take_subset _ _ h) rfl
  rw [UUID.str, String.toList_ofList]
  simp only [List.append_assoc, List.cons_append]
  exact ⟨_, _, hfirst, rfl⟩

/-- An id is written with hyphens. -/
theorem hyphen_mem_str (u : UUID) : '-' ∈ u.str.toList := by
  obtain ⟨first, rest, -, h⟩ := str_split u
  rw [h]
  exact List.mem_append_right _ List.mem_cons_self

/-- What is read as the workflow id has no hyphen. -/
theorem splitJob_constructTaskId (taskId : ℤ) (u : UUID) :
    ∃ task w, splitJob (constructTaskId (some taskId) u.str) = .ok (task, w) ∧
      '-' ∉ w.toList := by
  obtain ⟨first, rest, hfirst, hstr⟩ := str_split u
  have hparts : ∀ {a b : List Char} {more : List (List Char)},
      (constructTaskId (some taskId) u.str).toList.splitOn '-' = a :: b :: more → '-' ∉ b →
        ∃ task w, splitJob (constructTaskId (some taskId) u.str) = .ok (task, w) ∧
          '-' ∉ w.toList := by
    intro a b more h hb
    refine ⟨String.ofList a, String.ofList b, ?_, by rwa [String.toList_ofList]⟩
    rw [splitJob, splitTaskId, h]
    rfl
  have hlist := toList_constructTaskId (some taskId) u.str
  rw [hstr] at hlist
  cases taskId with
  | ofNat n =>
    change _ = n.repr.toList ++ _ at hlist
    have hsplit := congrArg (List.splitOn '-') hlist
    rw [List.splitOn_append_cons_self_of_not_mem (hyphen_not_mem_natRepr n),
      List.splitOn_append_cons_self_of_not_mem hfirst] at hsplit
    exact hparts hsplit hfirst
  | negSucc n =>
    have hneg : (taskIdStr (some (Int.negSucc n))).toList = '-' :: n.succ.repr.toList := by
      simp [taskIdStr, toString, Int.repr]
    rw [hneg] at hlist
    have hsplit := congrArg (List.splitOn '-') hlist
    change _ = List.splitOn '-' ([] ++ '-' :: (n.succ.repr.toList ++ '-' :: (first ++ '-' :: rest)))
      at hsplit
    rw [List.splitOn_append_cons_self_of_not_mem List.not_mem_nil,
      List.splitOn_append_cons_self_of_not_mem (hyphen_not_mem_natRepr n.succ)] at hsplit
    exact hparts hsplit (hyphen_not_mem_natRepr n.succ)

/-- The ids of the jobs of tasks are all split, and the workflows split off have no hyphen. -/
theorem mapM_splitJob {jobIds : List String}
    (h : ∀ jobId ∈ jobIds, ∃ t, ∃ u : UUID, jobId = constructTaskId (some t) u.str) :
    ∃ split, jobIds.mapM splitJob = .ok split ∧ split.length = jobIds.length ∧
      ∀ job ∈ split, '-' ∉ job.2.toList := by
  induction jobIds with
  | nil => exact ⟨[], rfl, rfl, fun _ h => by cases h⟩
  | cons jobId rest ih =>
    obtain ⟨⟨t, u, rfl⟩, hrest⟩ := List.forall_mem_cons.mp h
    obtain ⟨task, w, hjob, hw⟩ := splitJob_constructTaskId t u
    obtain ⟨split, hsplit, hlength, hall⟩ := ih hrest
    exact ⟨(task, w) :: split, Except.mapM_cons_ok hjob hsplit, congrArg (· + 1) hlength,
      List.forall_mem_cons.mpr ⟨hw, hall⟩⟩

/-- Adding a job adds its workflow to its task. -/
theorem mem_addScheduled {tasks : OrderedDict String (List String)} {job : String × String}
    {task w : String} :
    (∃ ws, (addScheduled tasks job).get? task = some ws ∧ w ∈ ws) ↔
      (∃ ws, tasks.get? task = some ws ∧ w ∈ ws) ∨ (task, w) = job := by
  unfold addScheduled
  rw [OrderedDict.get?_set]
  by_cases htask : task = job.1
  · subst htask
    rw [if_pos rfl]
    cases hget : OrderedDict.get? job.1 tasks with
    | none => simp [Prod.ext_iff]
    | some ws => simp [Prod.ext_iff]
  · rw [if_neg htask, or_iff_left]
    rintro rfl
    exact htask rfl

/-- The same of several jobs. -/
theorem mem_foldl_addScheduled {split : List (String × String)}
    {tasks : OrderedDict String (List String)} {task w : String} :
    (∃ ws, (split.foldl addScheduled tasks).get? task = some ws ∧ w ∈ ws) ↔
      (∃ ws, tasks.get? task = some ws ∧ w ∈ ws) ∨ (task, w) ∈ split := by
  induction split generalizing tasks with
  | nil => simp
  | cons job rest ih => rw [List.foldl_cons, ih, mem_addScheduled, List.mem_cons, or_assoc]

/-! ## The lookups -/

/-- A job id with a hyphen is split. -/
theorem splitJob_of_hyphen {jobId : String} (h : '-' ∈ jobId.toList) :
    ∃ job, splitJob jobId = .ok job := by
  obtain ⟨first, rest, hlist, hfirst⟩ := List.eq_append_cons_of_mem h
  have hsplit := congrArg (List.splitOn '-') hlist
  rw [List.splitOn_append_cons_self_of_not_mem hfirst] at hsplit
  cases hrest : rest.splitOn '-' with
  | nil => exact absurd hrest (List.splitOn_ne_nil _ _)
  | cons second more =>
    rw [hrest] at hsplit
    refine ⟨(String.ofList first, String.ofList second), ?_⟩
    rw [splitJob, splitTaskId, hsplit]
    rfl

/-- The same of several. -/
theorem mapM_splitJob_of_hyphen {jobIds : List String} (h : ∀ jobId ∈ jobIds, '-' ∈ jobId.toList) :
    ∃ split, jobIds.mapM splitJob = .ok split := by
  induction jobIds with
  | nil => exact ⟨[], rfl⟩
  | cons jobId rest ih =>
    obtain ⟨hhyphen, hrest⟩ := List.forall_mem_cons.mp h
    obtain ⟨job, hjob⟩ := splitJob_of_hyphen hhyphen
    obtain ⟨split, hsplit⟩ := ih hrest
    exact ⟨job :: split, Except.mapM_cons_ok hjob hsplit⟩

/-- The id of a job has a hyphen. -/
theorem hyphen_mem_constructTaskId (taskId : Option ℤ) (w : String) :
    '-' ∈ (constructTaskId taskId w).toList := by
  rw [toList_constructTaskId]
  exact List.mem_append_right _ List.mem_cons_self

/-- No job is found by a task id: a text is no integer. -/
theorem getScheduledWorkflows_eq {jobs : OrderedDict String Job}
    (h : ∀ jobId ∈ jobs.keys, '-' ∈ jobId.toList) (taskId : ℤ) :
    getScheduledWorkflows (some taskId) jobs = .ok [] := by
  obtain ⟨split, hsplit⟩ := mapM_splitJob_of_hyphen h
  have hnone : (split.filter fun job =>
      Model.pyEq (.str job.1) (taskIdValue (some taskId))) = [] :=
    List.filter_eq_nil_iff.mpr fun _ _ => Bool.false_ne_true
  rw [getScheduledWorkflows, hsplit]
  show Except.ok ((split.filter fun job =>
      Model.pyEq (.str job.1) (taskIdValue (some taskId))).map Prod.snd) = _
  rw [hnone]
  rfl

section Lookups

variable {jobs : OrderedDict String Job} {schedule : Schedule}

/-- The ids of the scheduled jobs have hyphens. -/
theorem Holds.hyphen (h : Holds jobs schedule) : ∀ jobId ∈ jobs.keys, '-' ∈ jobId.toList := by
  intro jobId hjob
  obtain ⟨t, u, rfl⟩ := h.only jobId hjob
  exact hyphen_mem_constructTaskId (some t) u.str

/-- `get_scheduled_workflows` is right about a task exactly if nothing is scheduled for it. -/
theorem findsTask_iff (h : Holds jobs schedule) (taskId : ℤ) :
    FindsTask jobs schedule taskId ↔ ∀ u, schedule taskId u = none := by
  constructor
  · rintro ⟨workflowIds, hget, hmem⟩ u
    have hempty : workflowIds = [] :=
      Except.ok.inj (hget.symm.trans (getScheduledWorkflows_eq h.hyphen taskId))
    by_contra hu
    have hfound := (hmem u.str).mpr ⟨u, Option.isSome_iff_ne_none.mpr hu, rfl⟩
    rw [hempty] at hfound
    cases hfound
  · intro hnone
    refine ⟨[], getScheduledWorkflows_eq h.hyphen taskId, fun w => ⟨fun hw => (by cases hw), ?_⟩⟩
    rintro ⟨u, hu, -⟩
    rw [hnone u] at hu
    cases hu

/-- `get_all_scheduled_workflows` is right exactly if nothing is scheduled at all. -/
theorem findsAll_iff (h : Holds jobs schedule) :
    FindsAll jobs schedule ↔ ∀ t u, schedule t u = none := by
  obtain ⟨split, hsplit, hlength, hhyphen⟩ := mapM_splitJob h.only
  have hget : getAllScheduledWorkflows jobs = .ok (split.foldl addScheduled []) := by
    rw [getAllScheduledWorkflows, hsplit]
    rfl
  constructor
  · rintro ⟨tasks, htasks, hmem⟩ t u
    obtain rfl := Except.ok.inj (htasks.symm.trans hget)
    by_contra hu
    obtain ⟨ws, hws, hw⟩ :=
      (hmem _ u.str).mpr ⟨t, u, Option.isSome_iff_ne_none.mpr hu, rfl, rfl⟩
    rcases mem_foldl_addScheduled.mp ⟨ws, hws, hw⟩ with ⟨_, hnil, -⟩ | hin
    · cases hnil
    · exact hhyphen _ hin (hyphen_mem_str u)
  · intro hnone
    refine ⟨_, hget, fun task w => ⟨fun hfound => ?_, ?_⟩⟩
    · have hkeys : jobs.keys = [] := by
        refine List.eq_nil_iff_forall_not_mem.mpr fun jobId hjob => ?_
        obtain ⟨t, u, rfl⟩ := h.only jobId hjob
        rw [OrderedDict.mem_keys_iff, h.job, hnone] at hjob
        cases hjob
      rw [hkeys] at hlength
      rcases mem_foldl_addScheduled.mp hfound with ⟨_, hnil, -⟩ | hin
      · cases hnil
      · rw [List.length_eq_zero_iff.mp hlength] at hin
        cases hin
    · rintro ⟨t, u, hu, -⟩
      rw [hnone] at hu
      cases hu

/-- `update_workflows` is right exactly if the jobs of the task have the trigger already. -/
theorem updatesTask_iff (h : Holds jobs schedule) (taskId : ℤ) (trigger : TaskTrigger) :
    UpdatesTask jobs schedule taskId trigger ↔
      ∀ u t, schedule taskId u = some t → t = trigger := by
  have hupdate : updateWorkflows (some taskId) trigger jobs = .ok jobs := by
    rw [updateWorkflows, getScheduledWorkflows_eq h.hyphen]
    rfl
  constructor
  · rintro ⟨jobs', hjobs, -, hgiven, -⟩ u t hu
    obtain rfl := Except.ok.inj (hupdate.symm.trans hjobs)
    have hjob := hgiven u (by rw [hu]; rfl)
    rw [h.job, hu] at hjob
    exact Option.some.inj hjob
  · intro hall
    refine ⟨jobs, hupdate, fun _ => Iff.rfl, fun u hu => ?_, fun _ _ => rfl⟩
    obtain ⟨t, ht⟩ := Option.isSome_iff_exists.mp hu
    rw [h.job, ht, ← hall u t ht]
    rfl

end Lookups

/-- **The lookups are exact exactly when nothing is scheduled**, after any calls. -/
theorem lookupsExact_iff (calls : List SchedulerCall) :
    LookupsExact (calls.foldl jobsAfter []) (calls.foldl scheduledAfter fun _ _ => none) ↔
      ∀ t u, calls.foldl scheduledAfter (fun _ _ => none) t u = none := by
  have h := holds_after calls Holds.empty
  constructor
  · rintro ⟨-, hall, -⟩
    exact (findsAll_iff h).mp hall
  · intro hnone
    refine ⟨fun t => (findsTask_iff h t).mpr (hnone t), (findsAll_iff h).mpr hnone, ?_⟩
    intro t trigger
    refine (updatesTask_iff h t trigger).mpr fun u t' hu => ?_
    rw [hnone] at hu
    cases hu

/-- A workflow of the task 1. -/
def reportCalls : List SchedulerCall :=
  [.schedule 1 [1] { type := .interval, args := .dict [("hours", .int 1)] }]

/-- A report that is scheduled is not found. -/
theorem scheduled_report_not_found :
    ¬LookupsExact (reportCalls.foldl jobsAfter [])
      (reportCalls.foldl scheduledAfter fun _ _ => none) := by
  rintro ⟨hfinds, -, -⟩
  have hnone := (findsTask_iff (holds_after reportCalls Holds.empty) 1).mp (hfinds 1) 1
  cases hnone

end Walkoff.Analysis
