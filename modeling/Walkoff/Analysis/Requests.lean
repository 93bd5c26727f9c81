import Walkoff.Analysis.LastTurn

/-!
# From a request to the loop

`WorkflowExecutor.execute` makes a context for a request if the execution has a status other
than aborted and the workflow is there and valid; a resumed execution also needs its saved
state. With a context it runs the loop.
-/

set_option autoImplicit false

namespace Walkoff.Analysis

open Walkoff.Model Walkoff.Program
open Walkoff.Library (Ended OrderedDict bind_apply bind_of_ok get_apply modify_apply pure_apply finalState)

variable {σ : Type} {env : Env σ} {control : ℕ → Control} {turns : ℕ} {thread : String}
  {request : Request}

/-- A worker can make a context for the request. -/
def Startable (request : Request) (w : World σ) : Prop :=
  ∃ status workflow, w.status request.executionId = some status ∧ status ≠ .aborted ∧
    w.workflow request.workflowId = some workflow ∧ workflow.isValid = true ∧
    (request.resume = true → (w.savedState request.executionId).isSome = true)

/-- Setting the accumulator up returns. -/
theorem initAccumulator_ok (env : Env σ) (ctx : Context) (fromResumed : Bool) (w : World σ) :
    ∃ w₁, initAccumulator env ctx fromResumed w = .ok () w₁ := by
  unfold initAccumulator makeAccumulator
  cases env.accumulatorType with
  | memory => exact ⟨_, rfl⟩
  | external => exact ⟨_, rfl⟩

/-- Making a new context returns it. -/
theorem makeNewContext_ok (env : Env σ) (workflow : Workflow) (executionId : UUID)
    (user : Option String) (w : World σ) : ∃ w₁, makeNewContext env workflow executionId user w =
      .ok (newContext workflow executionId none) w₁ := by
  obtain ⟨w₁, h⟩ := initAccumulator_ok env (newContext workflow executionId none) (user.any (· ≠ ""))
    { w with instances := [] }
  refine ⟨w₁, ?_⟩
  rw [makeNewContext, bind_apply, modify_apply]
  dsimp only
  rw [bind_apply, h]
  rfl

/-- Where a state is saved, the resumed context is made. -/
theorem makeResumedContext_ok (env : Env σ) (workflow : Workflow) {executionId : UUID}
    (user : Option String) {w : World σ} (hsaved : (w.savedState executionId).isSome = true) :
    ∃ w₁, makeResumedContext env workflow executionId user w =
      .ok (some (newContext workflow executionId user)) w₁ := by
  obtain ⟨saved, hsaved⟩ := Option.isSome_iff_exists.mp hsaved
  obtain ⟨w₁, h⟩ := initAccumulator_ok env (newContext workflow executionId user) true
    { w with instances := saved.appInstances }
  refine ⟨w₁, ?_⟩
  rw [makeResumedContext, bind_apply, get_apply]
  simp only [hsaved]
  rw [bind_apply, modify_apply]
  dsimp only
  rw [bind_apply, h]
  rfl

/-- Where none is saved, there is no context. -/
theorem makeResumedContext_none (env : Env σ) (workflow : Workflow) {executionId : UUID}
    (user : Option String) {w : World σ} (hsaved : ¬ (w.savedState executionId).isSome = true) :
    makeResumedContext env workflow executionId user w = .ok none w := by
  rw [Option.not_isSome_iff_eq_none] at hsaved
  rw [makeResumedContext, bind_apply, get_apply]
  simp only [hsaved, pure_apply]

/-- What `prepare` does for an execution that is not aborted. -/
theorem prepare_eq {status : WorkflowStatusEnum} {w : World σ}
    (hstatus : w.status request.executionId = some status) (haborted : status ≠ .aborted) :
    prepare env request w = (match w.workflow request.workflowId with
      | none => throw .attributeError
      | some workflow =>
        if !workflow.isValid then pure none
        else if request.resume then
          makeResumedContext env workflow request.executionId request.user
        else makeNewContext env workflow request.executionId request.user >>= fun ctx =>
          pure (some ctx) : M σ (Option Context)) w := by
  refine (bind_of_ok (get_apply w)).trans ?_
  generalize w.status request.executionId = found at hstatus
  subst hstatus
  cases status with
  | aborted => exact absurd rfl haborted
  | _ => rfl

/-- **A context is made for a startable request**: the one of its execution. -/
theorem prepare_of_startable (env : Env σ) {w : World σ} (h : Startable request w) :
    ∃ workflow user w₁, w.workflow request.workflowId = some workflow ∧
      prepare env request w = .ok (some (newContext workflow request.executionId user)) w₁ := by
  obtain ⟨status, workflow, hstatus, haborted, hworkflow, hvalid, hresumed⟩ := h
  rw [prepare_eq hstatus haborted, hworkflow]
  dsimp only
  rw [hvalid, if_neg (by decide)]
  cases hresume : request.resume with
  | true =>
    obtain ⟨w₁, hmade⟩ := makeResumedContext_ok env workflow request.user (hresumed hresume)
    exact ⟨workflow, request.user, w₁, rfl, hmade⟩
  | false =>
    obtain ⟨w₁, hmade⟩ := makeNewContext_ok env workflow request.executionId request.user w
    refine ⟨workflow, none, w₁, rfl, ?_⟩
    rw [if_neg Bool.false_ne_true, bind_apply, hmade]
    rfl

/-- **Without a startable request there is no context**, and nothing has been done. -/
theorem prepare_of_not_startable_eq (env : Env σ) {w : World σ} (h : ¬ Startable request w) :
    prepare env request w = .ok none w ∨ ∃ e, prepare env request w = .error e w := by
  cases hstatus : w.status request.executionId with
  | none => exact .inr ⟨.attributeError, by simp [prepare, bind_apply, hstatus]⟩
  | some status =>
    by_cases haborted : status = .aborted
    · exact .inl (by simp [prepare, bind_apply, hstatus, haborted])
    · rw [prepare_eq hstatus haborted]
      cases hworkflow : w.workflow request.workflowId with
      | none => exact .inr ⟨_, rfl⟩
      | some workflow =>
        dsimp only
        cases hvalid : workflow.isValid with
        | false => exact .inl rfl
        | true =>
          by_cases hresumed : request.resume = true → (w.savedState request.executionId).isSome = true
          · exact absurd ⟨status, workflow, hstatus, haborted, hworkflow, hvalid, hresumed⟩ h
          · rw [Classical.not_imp] at hresumed
            left
            rw [if_neg (by decide), hresumed.1, if_pos rfl]
            exact makeResumedContext_none env workflow request.user hresumed.2

/-- A request that cannot be started gets no context. -/
theorem prepare_of_not_startable {w : World σ} (h : ¬ Startable request w) (ctx : Context)
    (w₁ : World σ) : prepare env request w ≠ .ok (some ctx) w₁ := by
  intro hmade
  rcases prepare_of_not_startable_eq env h with hnone | ⟨e, hraised⟩
  · rw [hnone] at hmade
    cases hmade
  · rw [hraised] at hmade
    cases hmade

/-- A call without a startable request does nothing. -/
theorem execute_of_not_startable (env : Env σ) (control : ℕ → Control) (turns : ℕ)
    (thread : String) {w : World σ} (h : ¬ Startable request w) :
    finalState (execute env control turns thread request w) = w := by
  rw [execute, bind_apply]
  rcases prepare_of_not_startable_eq env h with hnone | ⟨e, hraised⟩
  · rw [hnone]
    rfl
  · rw [hraised]
    rfl

/-- A call that got as far as a context pops its entry when the strategy returns. -/
theorem execute_of_context {ctx : Context} {w w₁ : World σ}
    (hprepare : prepare env request w = .ok (some ctx) w₁) :
    execute env control turns thread request w =
      match runRequest env control turns request ctx (finalState (register thread ctx w₁)) with
      | .ok (.running vars) w' => .ok (.running vars) w'
      | .ok .returned w' => .ok .returned
          { w' with executingWorkflows := OrderedDict.pop thread w'.executingWorkflows }
      | .error e w' => .error e w' := by
  have hregister : register thread ctx w₁ = .ok () (finalState (register thread ctx w₁)) := rfl
  rw [execute, bind_apply, hprepare]
  dsimp only
  rw [bind_apply, hregister]
  dsimp only
  rw [bind_apply, ← hregister]
  cases runRequest env control turns request ctx (finalState (register thread ctx w₁)) with
  | error e w' => rfl
  | ok progress w' => cases progress <;> rfl

/-- The end of a call changes nothing but the registry. -/
theorem execute_finalState_of_context (control : ℕ → Control) (turns : ℕ) (thread : String)
    {ctx : Context} {w w₁ : World σ}
    (hprepare : prepare env request w = .ok (some ctx) w₁) :
    finalState (execute env control turns thread request w) =
      { finalState (runRequest env control turns request ctx
          (finalState (register thread ctx w₁))) with
        executingWorkflows :=
          (finalState (execute env control turns thread request w)).executingWorkflows } := by
  rw [execute_of_context hprepare]
  cases runRequest env control turns request ctx (finalState (register thread ctx w₁)) with
  | error e w' => rfl
  | ok progress w' => cases progress <;> rfl

/-- A request with a context ends exactly if its run does. -/
theorem ended_execute_of_context {ctx : Context} {w w₁ : World σ}
    (hprepare : prepare env request w = .ok (some ctx) w₁) :
    Ended (execute env control turns thread request w) ↔
      Ended (runRequest env control turns request ctx (finalState (register thread ctx w₁))) := by
  rw [execute_of_context hprepare]
  cases runRequest env control turns request ctx (finalState (register thread ctx w₁)) with
  | error e w' => exact Iff.rfl
  | ok progress w' => cases progress <;> exact Iff.rfl

end Walkoff.Analysis
