import Walkoff.Library.Averages
import Walkoff.Program.MetricTrackers

/-!
# What the metrics say about the events

The metrics have one row for every app, action, status and workflow that had an event, its count
is the number of events, and the count of an app is the sum of those of its statuses. The
average time of a row is the halving average of the execution times of its events. That is
their mean exactly if from the third on they are all the mean of the first two.
-/

set_option autoImplicit false

namespace Walkoff.Analysis

open Walkoff.Model Walkoff.Model.Results Walkoff.Program.Results
open Walkoff.Library (KeepsKey rowsAt rowsAt_findOrCreate_self rowsAt_findOrCreate_of_ne
  rowsAt_cases sum_findOrCreate forall_findOrCreate nodup_findOrCreate mean halving
  EvenFromThird halving_append)

/-! ## Exact metrics -/

/-- What has a metric with an average: a status of an action of an app, or a workflow. -/
inductive MetricKey where
  | status (app : String) (actionId : UUID) (status : String)
  | workflow (id : UUID)
  deriving DecidableEq

/-- The key that an event counts for. -/
def metricKey : MetricEvent → MetricKey
  | .action outcome row _ => .status row.appName row.actionId outcome.tracked
  | .workflowShutdown id _ _ _ => .workflow id

/-- The execution time of an event. -/
def executionTime : MetricEvent → ℚ
  | .action _ row now => now - row.startedAt
  | .workflowShutdown _ _ startedAt now => now - startedAt

/-- The execution times of a key, in the order of the events. -/
def timesOf (key : MetricKey) (events : List MetricEvent) : List ℚ :=
  (events.filter (metricKey · = key)).map executionTime

/-- Count and average time of the rows of a status. -/
def statusCounts (status : String) (rows : List ActionStatusMetric) : List (ℕ × ℚ) :=
  (rowsAt ActionStatusMetric.status status rows).map fun row => (row.count, row.avgTime)

/-- Those of a status of an action. -/
def actionCounts (actionId : UUID) (status : String) (actions : List ActionMetric) :
    List (ℕ × ℚ) :=
  (rowsAt ActionMetric.actionId actionId actions).flatMap fun metric =>
    statusCounts status metric.actionStatuses

/-- Those of a key. -/
def countsOf (metrics : Metrics) : MetricKey → List (ℕ × ℚ)
  | .status app actionId status =>
    (rowsAt AppMetric.app app metrics.apps).flatMap fun metric =>
      actionCounts actionId status metric.actions
  | .workflow id => (rowsAt WorkflowMetric.workflowId id metrics.workflows).map fun row =>
      (row.count, row.avgTime)

/-- The one row with the number and an average of some times, if there are any. -/
def summary (average : List ℚ → ℚ) : List ℚ → List (ℕ × ℚ)
  | [] => []
  | t :: ts => [((t :: ts).length, average (t :: ts))]

/-- No two rows of one action in an app, or of one status in an action. -/
def NoSecondRowIn (app : AppMetric) : Prop :=
  (app.actions.map ActionMetric.actionId).Nodup ∧
    ∀ action ∈ app.actions, (action.actionStatuses.map ActionStatusMetric.status).Nodup

/-- No two rows of one app, of one action in an app, of one status in an action, or of one
workflow. -/
structure NoSecondRow (metrics : Metrics) : Prop where
  apps : (metrics.apps.map AppMetric.app).Nodup
  actions : ∀ app ∈ metrics.apps, NoSecondRowIn app
  workflows : (metrics.workflows.map WorkflowMetric.workflowId).Nodup

/-- The sum of the counts of the statuses of an action. -/
def completionCount (action : ActionMetric) : ℕ :=
  (action.actionStatuses.map ActionStatusMetric.count).sum

/-- The count of an app is the sum of the counts of the statuses of its actions. -/
def CountIsSum (app : AppMetric) : Prop :=
  app.count = (app.actions.map completionCount).sum

/-- The metrics count the events and average their times. -/
structure Summarizes (average : List ℚ → ℚ) (events : List MetricEvent) (metrics : Metrics) :
    Prop where
  counts : ∀ key, countsOf metrics key = summary average (timesOf key events)
  sums : ∀ app ∈ metrics.apps, CountIsSum app
  noSecondRow : NoSecondRow metrics

/-- **Exact metrics**: the average times are the means. -/
def MetricsExact (events : List MetricEvent) (metrics : Metrics) : Prop :=
  Summarizes mean events metrics

/-- An event adds its time to those of its key. -/
theorem timesOf_append (key : MetricKey) (events : List MetricEvent) (event : MetricEvent) :
    timesOf key (events ++ [event]) = if metricKey event = key then
      timesOf key events ++ [executionTime event] else timesOf key events := by
  unfold timesOf
  rw [List.filter_append, List.map_append]
  by_cases hkey : metricKey event = key
  · rw [if_pos hkey, List.filter_cons_of_pos (by simp [hkey])]
    rfl
  · rw [if_neg hkey, List.filter_cons_of_neg (by simp [hkey])]
    simp

/-! ## One event -/

/-- The rows of a key after one more time. -/
def addTime (time : ℚ) : List (ℕ × ℚ) → List (ℕ × ℚ)
  | [] => [(1, time)]
  | (count, average) :: rest => (count + 1, (average + time) / 2) :: rest

/-- Adding a time to a summary is the summary with the time. -/
theorem addTime_summary (ts : List ℚ) (t : ℚ) :
    addTime t (summary halving ts) = summary halving (ts ++ [t]) := by
  cases ts with
  | nil => rfl
  | cons t₁ ts =>
    have hne : t₁ :: ts ≠ [] := List.cons_ne_nil _ _
    show [((t₁ :: ts).length + 1, (halving (t₁ :: ts) + t) / 2)] =
      [((t₁ :: ts ++ [t]).length, halving (t₁ :: ts ++ [t]))]
    rw [halving_append _ hne, List.length_append, List.length_singleton]

section

variable (tracked : String) (id : UUID) (name : String) (time : ℚ)

/-- Counting a status keeps its key. -/
theorem keepsKey_status : KeepsKey ActionStatusMetric.status tracked
    (ActionStatusMetric.new tracked time) (ActionStatusMetric.update time) :=
  ⟨rfl, fun _ => rfl⟩

/-- Counting an action keeps its key. -/
theorem keepsKey_action : KeepsKey ActionMetric.actionId id
    { actionId := id, actionName := name
      actionStatuses := [ActionStatusMetric.new tracked time] }
    fun metric => { metric with
      actionStatuses := trackStatus tracked time metric.actionStatuses } :=
  ⟨rfl, fun _ => rfl⟩

/-- Counting an app keeps its key. -/
theorem keepsKey_app (app : String) : KeepsKey AppMetric.app app
    (trackApp tracked id name time (AppMetric.new app)) (trackApp tracked id name time) :=
  ⟨rfl, fun _ => rfl⟩

/-- Counting a workflow keeps its key. -/
theorem keepsKey_workflow : KeepsKey WorkflowMetric.workflowId id
    (WorkflowMetric.new id name time) (WorkflowMetric.update time) :=
  ⟨rfl, fun _ => rfl⟩

/-- Counting a status adds the time to its own count only. -/
theorem statusCounts_trackStatus (status : String) (rows : List ActionStatusMetric) :
    statusCounts status (trackStatus tracked time rows) =
      if tracked = status then addTime time (statusCounts status rows)
      else statusCounts status rows := by
  unfold statusCounts trackStatus
  by_cases h : tracked = status
  · subst h
    rw [rowsAt_findOrCreate_self (keepsKey_status tracked time), if_pos rfl]
    cases rowsAt ActionStatusMetric.status tracked rows with
    | nil => rfl
    | cons row rest => rfl
  · rw [rowsAt_findOrCreate_of_ne (keepsKey_status tracked time) fun heq => h heq.symm, if_neg h]

/-- Counting an action adds the time to its own count only. -/
theorem actionCounts_trackAction (actionId : UUID) (status : String)
    {actions : List ActionMetric} (h : (actions.map ActionMetric.actionId).Nodup) :
    actionCounts actionId status (trackAction tracked id name time actions) =
      if id = actionId ∧ tracked = status then addTime time (actionCounts actionId status actions)
      else actionCounts actionId status actions := by
  unfold actionCounts trackAction
  by_cases hid : id = actionId
  · subst hid
    have hcounts := statusCounts_trackStatus tracked time status
    rw [rowsAt_findOrCreate_self (keepsKey_action tracked id name time)]
    rcases rowsAt_cases h id with hnone | ⟨metric, _, hone⟩
    · have hnew : statusCounts status [ActionStatusMetric.new tracked time] =
        if tracked = status then addTime time [] else [] := hcounts []
      rw [hnone]
      simpa using hnew
    · rw [hone]
      simpa using hcounts metric.actionStatuses
  · rw [rowsAt_findOrCreate_of_ne (keepsKey_action tracked id name time) fun heq => hid heq.symm,
      if_neg fun heq => hid heq.1]

end

/-- An event makes no second row. -/
theorem noSecondRow_trackEvent {metrics : Metrics} (h : NoSecondRow metrics)
    (event : MetricEvent) : NoSecondRow (trackEvent metrics event) := by
  cases event with
  | workflowShutdown id name startedAt now =>
    exact ⟨h.apps, h.actions, nodup_findOrCreate (keepsKey_workflow id name _) h.workflows⟩
  | action outcome row now =>
    refine ⟨nodup_findOrCreate (keepsKey_app _ _ _ _ _) h.apps, ?_, h.workflows⟩
    have htrack : ∀ metric, NoSecondRowIn metric → NoSecondRowIn (trackApp outcome.tracked
        row.actionId row.actionName (now - row.startedAt) metric) := by
      rintro metric ⟨hactions, hstatuses⟩
      refine ⟨nodup_findOrCreate (keepsKey_action _ _ _ _) hactions,
        forall_findOrCreate ?_ ?_ hstatuses⟩
      · exact List.nodup_singleton _
      · exact fun action haction => nodup_findOrCreate (keepsKey_status _ _) haction
    have hnew := htrack (AppMetric.new row.appName) ⟨List.nodup_nil, List.forall_mem_nil _⟩
    exact forall_findOrCreate hnew htrack h.actions

/-- The counts of a key after an event: one more time for the key of the event. -/
theorem countsOf_trackEvent {metrics : Metrics} (h : NoSecondRow metrics) (event : MetricEvent)
    (key : MetricKey) :
    countsOf (trackEvent metrics event) key =
      if metricKey event = key then addTime (executionTime event) (countsOf metrics key)
      else countsOf metrics key := by
  cases event with
  | workflowShutdown id name startedAt now =>
    cases key with
    | status app actionId status => rfl
    | workflow id' =>
      have hkey : metricKey (.workflowShutdown id name startedAt now) = .workflow id := rfl
      rw [hkey]
      show ((rowsAt WorkflowMetric.workflowId id' (Library.findOrCreate _ _ _ _ _)).map _) = _
      by_cases hid : id = id'
      · subst hid
        rw [rowsAt_findOrCreate_self (keepsKey_workflow id name (now - startedAt)),
          if_pos rfl]
        show _ = addTime (now - startedAt)
          ((rowsAt WorkflowMetric.workflowId id metrics.workflows).map _)
        cases rowsAt WorkflowMetric.workflowId id metrics.workflows with
        | nil => rfl
        | cons row rest => rfl
      · rw [rowsAt_findOrCreate_of_ne (keepsKey_workflow id name (now - startedAt))
          fun heq => hid heq.symm, if_neg fun heq => hid (MetricKey.workflow.inj heq)]
        rfl
  | action outcome row now =>
    cases key with
    | workflow id => rfl
    | status app actionId status =>
      show ((rowsAt AppMetric.app app (Library.findOrCreate _ _ _ _ _)).flatMap _) = _
      by_cases happ : row.appName = app
      · subst happ
        rw [rowsAt_findOrCreate_self
          (keepsKey_app outcome.tracked row.actionId row.actionName (now - row.startedAt) _)]
        have hkey : metricKey (.action outcome row now) = .status row.appName actionId status ↔
            row.actionId = actionId ∧ outcome.tracked = status := by
          simp [metricKey]
        rw [if_congr hkey rfl rfl]
        show _ = if _ then addTime (now - row.startedAt)
            ((rowsAt AppMetric.app row.appName metrics.apps).flatMap _)
          else (rowsAt AppMetric.app row.appName metrics.apps).flatMap _
        have hcounts := @actionCounts_trackAction outcome.tracked row.actionId row.actionName
          (now - row.startedAt) actionId status
        rcases rowsAt_cases h.apps row.appName with hnone | ⟨metric, hmetric, hone⟩
        · rw [hnone]
          have hnew : actionCounts actionId status (trackAction outcome.tracked row.actionId
              row.actionName (now - row.startedAt) []) = if row.actionId = actionId ∧
                outcome.tracked = status then addTime (now - row.startedAt) [] else [] :=
            @hcounts [] List.nodup_nil
          simpa [trackApp, AppMetric.new] using hnew
        · rw [hone]
          simpa [trackApp] using hcounts (h.actions metric hmetric).1
      · rw [rowsAt_findOrCreate_of_ne
          (keepsKey_app outcome.tracked row.actionId row.actionName (now - row.startedAt) _)
          fun heq => happ heq.symm, if_neg ?_]
        · rfl
        · intro heq
          exact happ (MetricKey.status.inj heq).1

/-- An event adds one to the count of its app and to that of the status of its action. -/
theorem sums_trackEvent {metrics : Metrics} (h : ∀ app ∈ metrics.apps, CountIsSum app)
    (event : MetricEvent) : ∀ app ∈ (trackEvent metrics event).apps, CountIsSum app := by
  cases event with
  | workflowShutdown id name startedAt now => exact h
  | action outcome row now =>
    have haction : ∀ action : ActionMetric, completionCount { action with
        actionStatuses := trackStatus outcome.tracked (now - row.startedAt)
          action.actionStatuses } = completionCount action + 1 :=
      fun action => sum_findOrCreate ActionStatusMetric.count rfl (fun _ => rfl) action.actionStatuses
    have htrack : ∀ metric, CountIsSum metric → CountIsSum (trackApp outcome.tracked
        row.actionId row.actionName (now - row.startedAt) metric) := by
      intro metric hmetric
      have hsum : ((trackAction outcome.tracked row.actionId row.actionName
          (now - row.startedAt) metric.actions).map completionCount).sum =
            (metric.actions.map completionCount).sum + 1 :=
        sum_findOrCreate completionCount rfl haction metric.actions
      unfold CountIsSum at hmetric ⊢
      show metric.count + 1 = _
      rw [hmetric]
      exact hsum.symm
    have hnew := htrack (AppMetric.new row.appName) rfl
    exact forall_findOrCreate hnew htrack h

/-! ## All events -/

/-- **The metrics after any events** count them, and average their times by halving. -/
theorem summarizes_halving (events : List MetricEvent) :
    Summarizes halving events (metricsAfter events) := by
  induction events using List.reverseRecOn with
  | nil =>
    refine ⟨?_, List.forall_mem_nil _, List.nodup_nil, List.forall_mem_nil _, List.nodup_nil⟩
    intro key
    cases key with
    | status app actionId status => rfl
    | workflow id => rfl
  | append_singleton events event ih =>
    have hafter : metricsAfter (events ++ [event]) = trackEvent (metricsAfter events) event :=
      List.foldl_append
    rw [hafter]
    refine ⟨?_, sums_trackEvent ih.sums event, noSecondRow_trackEvent ih.noSecondRow event⟩
    intro key
    rw [countsOf_trackEvent ih.noSecondRow, ih.counts]
    rw [timesOf_append]
    split
    · exact addTime_summary _ _
    · rfl

/-- What the execution times have to be like for the metrics to be exact. -/
def EvenTimes (events : List MetricEvent) : Prop :=
  ∀ key, EvenFromThird (timesOf key events)

/-- The metrics are exact if the halving average of every key is its mean. -/
theorem metricsExact_iff_halving (events : List MetricEvent) :
    MetricsExact events (metricsAfter events) ↔
      ∀ key, timesOf key events ≠ [] → halving (timesOf key events) = mean (timesOf key events) := by
  obtain ⟨hcounts, hsums, hrows⟩ := summarizes_halving events
  constructor
  · intro h key hne
    have heq := (hcounts key).symm.trans (h.counts key)
    revert hne heq
    cases timesOf key events with
    | nil => exact fun hne => absurd rfl hne
    | cons t ts =>
      intro _ heq
      exact (Prod.mk.inj (List.cons.inj heq).1).2
  · intro h
    refine ⟨fun key => ?_, hsums, hrows⟩
    have heq := h key
    rw [hcounts key]
    revert heq
    cases timesOf key events with
    | nil => exact fun _ => rfl
    | cons t ts =>
      intro heq
      exact congrArg (fun average => [((t :: ts).length, average)])
        (heq (List.cons_ne_nil _ _))

/-- After even times, one more event keeps the metrics exact exactly if it keeps the times
even. -/
theorem metricsExact_append_iff {events : List MetricEvent} (h : EvenTimes events)
    (event : MetricEvent) :
    MetricsExact (events ++ [event]) (metricsAfter (events ++ [event])) ↔
      EvenTimes (events ++ [event]) := by
  rw [metricsExact_iff_halving]
  constructor
  · intro hmean key
    have hkey := hmean key
    rw [timesOf_append] at hkey ⊢
    split
    · rename_i heq
      rw [if_pos heq] at hkey
      exact ((h key).append_iff _).mp (hkey (by simp))
    · exact h key
  · exact fun heven key hne => (heven key).halving_eq_mean hne

/-- Times that are even were even before the last event. -/
theorem EvenTimes.of_append {events : List MetricEvent} {event : MetricEvent}
    (h : EvenTimes (events ++ [event])) : EvenTimes events := by
  intro key
  have hkey := h key
  rw [timesOf_append] at hkey
  split at hkey
  · exact hkey.of_append
  · exact hkey

/-- **When the metrics are exact**: throughout a sequence of events exactly if the execution
times of each key are even. -/
theorem metricsExact_throughout_iff (events : List MetricEvent) :
    (∀ past, past <+: events → MetricsExact past (metricsAfter past)) ↔ EvenTimes events := by
  induction events using List.reverseRecOn with
  | nil =>
    refine ⟨fun _ key => trivial, fun _ past hpast => ?_⟩
    rw [List.prefix_nil.mp hpast, metricsExact_iff_halving]
    exact fun key hne => absurd rfl hne
  | append_singleton events event ih =>
    constructor
    · intro h
      have heven : EvenTimes events :=
        ih.mp fun past hpast => h past (hpast.trans (List.prefix_append _ _))
      exact (metricsExact_append_iff heven event).mp (h _ List.prefix_rfl)
    · intro h past hpast
      rcases List.prefix_concat_iff.mp hpast with rfl | hpast
      · exact (metricsExact_append_iff h.of_append event).mpr h
      · exact ih.mpr h.of_append past hpast

/-- Three shutdowns of a workflow after 1, 1 and 4 seconds. -/
def threeShutdowns : List MetricEvent :=
  [.workflowShutdown 100 "sample" 0 1, .workflowShutdown 100 "sample" 0 1,
   .workflowShutdown 100 "sample" 0 4]

/-- **The average of three times** is not their mean: it is 5/2, the mean is 2. -/
theorem third_time_weighs_half :
    ¬MetricsExact threeShutdowns (metricsAfter threeShutdowns) := by
  rw [metricsExact_iff_halving]
  intro h
  have htimes : timesOf (.workflow 100) threeShutdowns = [1 - 0, 1 - 0, 4 - 0] := rfl
  have hmean := h (.workflow 100) (by rw [htimes]; exact List.cons_ne_nil _ _)
  rw [htimes] at hmean
  revert hmean
  norm_num [halving, mean]

end Walkoff.Analysis
