import Walkoff.Analysis.ControllerSteps
import Walkoff.Analysis.RunEnds
import Walkoff.Library.Transition

/-!
# An execution at rest

When the steps of an execution follow each other, at most one request is queued, and only
while the execution is pending or has been aborted; a resumption starts at the saved action.
-/

set_option autoImplicit false

namespace Walkoff.Analysis

open Walkoff.Model Walkoff.Program
open Walkoff.Library (Run OrderedDict finalState)

variable {σ : Type} {executionId workflowId : UUID}

/-- The queued request fits the saved state: a first run has none, a resumption starts at its
action. -/
structure Fits (executionId workflowId : UUID) (w : World σ) (request : Request) : Prop where
  execution : request.executionId = executionId
  workflow : request.workflowId = workflowId
  status : w.status executionId = some .pending ∨ w.status executionId = some .aborted
  first : request.resume = false → w.savedState executionId = none
  resumed : request.resume = true → ∀ saved, w.savedState executionId = some saved →
    request.start = some saved.actionId

/-- The invariant of the life of an execution. -/
structure Orderly (executionId workflowId : UUID) (w : World σ) : Prop where
  queue : w.requestQueue = [] ∨
    ∃ request, w.requestQueue = [request] ∧ Fits executionId workflowId w request
  row : ∀ row, OrderedDict.get? executionId w.workflowStatus = some row → row.workflowId = workflowId
  saved : ∀ saved, w.savedState executionId = some saved → saved.workflowId = workflowId

/-- What the invariant looks at. -/
theorem Orderly.congr {w w' : World σ} (h : Orderly executionId workflowId w)
    (hqueue : w'.requestQueue = w.requestQueue) (hstatus : w'.workflowStatus = w.workflowStatus)
    (hsaved : w'.savedWorkflow = w.savedWorkflow) : Orderly executionId workflowId w' := by
  have hrow : w'.status executionId = w.status executionId := by
    rw [World.status, World.status, hstatus]
  have hstate : w'.savedState executionId = w.savedState executionId := by
    rw [World.savedState, World.savedState, hsaved]
  refine ⟨?_, ?_, ?_⟩
  · rw [hqueue]
    refine h.queue.imp_right ?_
    rintro ⟨request, hrequest, hfits⟩
    refine ⟨request, hrequest, ?_⟩
    exact ⟨hfits.execution, hfits.workflow, hrow ▸ hfits.status, hstate ▸ hfits.first,
      hstate ▸ hfits.resumed⟩
  · rw [hstatus]
    exact h.row
  · rw [hstate]
    exact h.saved

/-- Outside the states pending and aborted nothing is queued. -/
theorem Orderly.queue_eq_nil {w : World σ} (h : Orderly executionId workflowId w)
    {status : WorkflowStatusEnum} (hstatus : w.status executionId = some status)
    (hne : status ≠ .pending ∧ status ≠ .aborted) : w.requestQueue = [] := by
  rcases h.queue with hqueue | ⟨request, -, hfits⟩
  · exact hqueue
  · rcases hfits.status with hpending | haborted
    · rw [hstatus, Option.some.injEq] at hpending
      exact absurd hpending hne.1
    · rw [hstatus, Option.some.injEq] at haborted
      exact absurd haborted hne.2

/-- The row of an execution that is continued. -/
theorem row_of_continued {start : Option UUID} {resume : Bool} {w w' : World σ}
    {row : WorkflowStatus} (h : Continued workflowId executionId start resume w w')
    (hbefore : ∀ row, OrderedDict.get? executionId w.workflowStatus = some row →
      row.workflowId = workflowId)
    (hrow : OrderedDict.get? executionId w'.workflowStatus = some row) :
    row.workflowId = workflowId := by
  rw [h.workflowStatus, get?_workflowPending, Option.some.injEq] at hrow
  rw [← hrow]
  cases hget : OrderedDict.get? executionId w.workflowStatus with
  | none => rfl
  | some old => exact hbefore old hget

/-- Continuing an execution queues a request that fits. -/
theorem orderly_of_continued {start : Option UUID} {resume : Bool} {w w' : World σ}
    (h : Continued workflowId executionId start resume w w') (hqueue : w.requestQueue = [])
    (hrow : ∀ row, OrderedDict.get? executionId w.workflowStatus = some row →
      row.workflowId = workflowId)
    (hsaved : ∀ saved, w.savedState executionId = some saved →
      saved.workflowId = workflowId ∧ resume = true ∧ start = some saved.actionId) :
    Orderly executionId workflowId w' := by
  have hstate : w'.savedState executionId = w.savedState executionId := by
    rw [World.savedState, World.savedState, h.savedWorkflow]
  refine ⟨?_, fun row hget => row_of_continued h hrow hget, ?_⟩
  · rcases h.requestQueue with hsame | ⟨request, hqueued, hpushed⟩
    · exact .inl (hsame.trans hqueue)
    · rw [hqueue, List.nil_append] at hpushed
      refine .inr ⟨request, hpushed, hqueued.executionId, hqueued.workflowId, .inl h.status, ?_, ?_⟩
      · intro hfirst
        rw [hqueued.resume] at hfirst
        rw [hstate]
        cases hget : w.savedState executionId with
        | none => rfl
        | some saved =>
          have hresume := (hsaved saved hget).2.1
          rw [hfirst] at hresume
          cases hresume
      · intro _ saved hget
        rw [hstate] at hget
        rw [hqueued.start]
        exact (hsaved saved hget).2.2
  · intro saved hget
    rw [hstate] at hget
    exact (hsaved saved hget).1

/-- There is no saved state exactly if no row is of the execution. -/
theorem savedState_eq_none_iff {w : World σ} : w.savedState executionId = none ↔
    w.savedWorkflow.filter (·.workflowExecutionId = executionId) = [] := by
  simp [World.savedState, List.find?_eq_none, List.filter_eq_nil_iff]

/-- Without its rows an execution has no saved state. -/
theorem savedState_filter {w w' : World σ}
    (h : w'.savedWorkflow = w.savedWorkflow.filter (·.workflowExecutionId ≠ executionId)) :
    w'.savedState executionId = none := by
  rw [savedState_eq_none_iff, h, List.filter_filter, List.filter_eq_nil_iff]
  simp

/-- A first row of an execution is its saved state. -/
theorem savedState_append {w w' : World σ} {saved : SavedWorkflow}
    (hnone : w.savedState executionId = none) (hid : saved.workflowExecutionId = executionId)
    (h : w'.savedWorkflow = w.savedWorkflow ++ [saved]) : w'.savedState executionId = some saved := by
  rw [World.savedState] at hnone
  rw [World.savedState, h, List.find?_append, hnone]
  simp [hid]

/-- The row of an execution with a status. -/
theorem row_of_status {w : World σ} {status : WorkflowStatusEnum}
    (h : w.status executionId = some status) :
    ∃ row, OrderedDict.get? executionId w.workflowStatus = some row ∧ row.status = status :=
  Option.map_eq_some_iff.mp h

/-- **A worker that takes a request takes the only one**, of an execution that has a row. -/
theorem orderly_work {env : Env σ} {w w' : World σ} {thread : String} {control : ℕ → Control}
    {turns : ℕ} (h : Orderly executionId workflowId w)
    (hstep : LifecycleStep env executionId w (.work thread control turns) w') :
    ∃ request row, w.requestQueue = [request] ∧ Fits executionId workflowId w request ∧
      OrderedDict.get? executionId w.workflowStatus = some row ∧
      (row.status = .pending ∨ row.status = .aborted) ∧ w'.requestQueue = [] ∧
      WorkEnds executionId workflowId row w w' := by
  obtain ⟨request, requests, hqueue, -⟩ := lifecycleStep_work hstep
  rcases h.queue with hnil | ⟨request', hone, hfits⟩
  · rw [hqueue] at hnil
    cases hnil
  · rw [hqueue] at hone
    cases hone
    have hrow : ∃ row, OrderedDict.get? executionId w.workflowStatus = some row ∧
        (row.status = .pending ∨ row.status = .aborted) := by
      rcases hfits.status with hstatus | hstatus
      · obtain ⟨row, hrow, hpending⟩ := row_of_status hstatus
        exact ⟨row, hrow, .inl hpending⟩
      · obtain ⟨row, hrow, haborted⟩ := row_of_status hstatus
        exact ⟨row, hrow, .inr haborted⟩
    obtain ⟨row, hrow, hstatus⟩ := hrow
    obtain ⟨hrest, hends⟩ := workEnds_of_step hqueue hfits.execution hrow hstep
    rw [hfits.workflow] at hends
    exact ⟨request, row, hqueue, hfits, hrow, hstatus, hrest, hends⟩

/-- **Every step keeps the execution orderly.** -/
theorem orderly_step (env : Env σ) {w w' : World σ} {op : LifecycleOp}
    (h : Orderly executionId workflowId w) (hstep : LifecycleStep env executionId w op w') :
    Orderly executionId workflowId w' := by
  cases op with
  | work thread control turns =>
    obtain ⟨request, row, -, -, hrow, -, hrest, hends⟩ := orderly_work h hstep
    have hafter : ∀ {status saved entries}, After executionId row w w' status saved entries →
        (∀ row', OrderedDict.get? executionId w'.workflowStatus = some row' →
          row'.workflowId = workflowId) := by
      intro status saved entries hafter row' hrow'
      rw [hafter.row, Option.some.injEq] at hrow'
      rw [← hrow']
      exact h.row row hrow
    have hkept : w'.savedWorkflow = w.savedWorkflow → ∀ saved, w'.savedState executionId = some saved →
        saved.workflowId = workflowId := by
      intro hsame saved hsaved
      rw [World.savedState, hsame] at hsaved
      exact h.saved saved hsaved
    cases hends with
    | kept status hstatus hw' => exact ⟨.inl hrest, hafter hw', hkept hw'.savedWorkflow⟩
    | ended status hstatus hw' =>
      refine ⟨.inl hrest, hafter hw', fun saved hsaved => ?_⟩
      rw [savedState_filter hw'.savedWorkflow] at hsaved
      cases hsaved
    | halted status saved entries hstatus hnone hids hentries hw' =>
      refine ⟨.inl hrest, hafter hw', fun saved' hsaved => ?_⟩
      rw [savedState_append hnone hids.1 hw'.savedWorkflow, Option.some.injEq] at hsaved
      rw [← hsaved]
      exact hids.2
    | refused action hw' => exact ⟨.inl hrest, hafter hw', hkept hw'.savedWorkflow⟩
  | resume user =>
    obtain rfl := Option.some.inj hstep
    rcases resumeWorkflow_cases executionId user w with hsame | ⟨row, start, hrow, hpaused, hstart, hc⟩
    · rw [hsame]
      exact h
    · rw [h.row row hrow] at hc
      have hstatus := status_eq_of_row hrow
      rw [hpaused] at hstatus
      exact orderly_of_continued hc (h.queue_eq_nil hstatus (by decide)) h.row fun saved hsaved =>
        ⟨h.saved saved hsaved, rfl, hstart saved hsaved⟩
  | answer dataIn arguments user =>
    unfold LifecycleStep lifecycleStep at hstep
    dsimp only at hstep
    split at hstep
    case isFalse => cases hstep
    case isTrue hwaiting =>
      obtain rfl := Option.some.inj hstep
      cases resumeTriggerStep_cases env executionId dataIn arguments user w with
      | unanswered hframe =>
        exact h.congr hframe.requestQueue hframe.workflowStatus hframe.savedWorkflow
      | @answered saved w₁ hsaved hframe hcontinued =>
        have hkept : Orderly executionId workflowId (w₁.logged (.trigger saved.actionId true)) :=
          h.congr hframe.requestQueue hframe.workflowStatus hframe.savedWorkflow
        rcases hcontinued with hsame | hc
        · rw [hsame]
          exact hkept
        · rw [h.saved saved hsaved] at hc
          have hnil := h.queue_eq_nil hwaiting (by decide)
          rw [← hframe.requestQueue] at hnil
          refine orderly_of_continued hc hnil hkept.row fun saved' hsaved' => ?_
          have hsame : w.savedState executionId = some saved' := by
            rw [← hframe.savedState executionId]
            exact hsaved'
          rw [hsaved, Option.some.injEq] at hsame
          subst hsame
          exact ⟨h.saved saved hsaved, rfl, rfl⟩
  | abort =>
    obtain rfl := Option.some.inj hstep
    cases abortWorkflow_cases executionId w with
    | told published heq =>
      rw [heq]
      exact h.congr rfl rfl rfl
    | aborted row hrow heq =>
      rw [heq]
      have hnone : World.savedState { w with
          workflowStatus := OrderedDict.set executionId { row with status := .aborted } w.workflowStatus
          savedWorkflow := w.savedWorkflow.filter (·.workflowExecutionId ≠ executionId) }
          executionId = none := savedState_filter (w := w) rfl
      refine ⟨h.queue.imp_right ?_, ?_, ?_⟩
      · rintro ⟨request, hrequest, hfits⟩
        refine ⟨request, hrequest, hfits.execution, hfits.workflow, .inr ?_, fun _ => hnone, ?_⟩
        · simp [World.status]
        · intro _ saved hsaved
          rw [hnone] at hsaved
          cases hsaved
      · intro row' hrow'
        rw [OrderedDict.get?_set_self, Option.some.injEq] at hrow'
        rw [← hrow']
        exact h.row row hrow
      · intro saved hsaved
        rw [hnone] at hsaved
        cases hsaved

/-- **An execution is orderly from its start.** -/
theorem orderly_start (behaviour : σ) (workflows : List Workflow) (workflowId executionId : UUID)
    (start : Option UUID) (startArguments : List Argument)
    (environmentVariables : List EnvironmentVariable) (user : Option String) :
    Orderly executionId workflowId (lifecycleStart behaviour workflows workflowId executionId start
      startArguments environmentVariables user) := by
  rcases executeWorkflow_cases workflowId executionId start startArguments false
    environmentVariables user (World.start behaviour workflows) with hsame | hc
  · rw [lifecycleStart, hsame]
    refine ⟨.inl rfl, ?_, ?_⟩
    · rintro row ⟨⟩
    · rintro saved ⟨⟩
  · exact orderly_of_continued hc rfl (by rintro row ⟨⟩) (by rintro saved ⟨⟩)

end Walkoff.Analysis
