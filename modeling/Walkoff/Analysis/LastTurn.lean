import Walkoff.Analysis.RunFrames

/-!
# The turns before the last one

Whatever the analyses say about how a run ends, they say about its last turn: the turns
before it execute an action each, which saves nothing and sends nothing that changes the
status of the workflow.
-/

set_option autoImplicit false

namespace Walkoff.Analysis

open Walkoff.Model Walkoff.Program
open Walkoff.Library (Reaches EndsAt finalState)

variable {σ : Type}

/-- The log entries of a run that neither saves the workflow nor awaits data. -/
def RunEntry : Obs → Prop
  | .saved _ _ | .awaiting _ | .trigger _ _ => False
  | _ => True

/-- The call of an action is an entry of a run. -/
theorem CallsApp.runEntry {action : Action} {entry : Obs} (h : CallsApp action entry) :
    RunEntry entry := by
  obtain ⟨arguments, instanceKey, rfl⟩ := h
  trivial

/-- The trials of branches are entries of a run. -/
theorem TriesBranches.runEntry {entry : Obs} (h : TriesBranches entry) : RunEntry entry := by
  obtain ⟨branch, rfl | rfl⟩ := h <;> trivial

section

variable {env : Env σ} {control : ℕ → Control} {resume : Bool}

/-- The loop goes on with the same workflow. -/
theorem Enters.workflow {vars vars' : LoopVars} {w w₁ w₂ : World σ} {action : Action}
    (h : Enters env control resume vars w action vars' w₁ w₂) :
    vars'.ctx.workflow = vars.ctx.workflow := by
  obtain ⟨actions, ctx, hnext, rfl⟩ := h.yields
  exact (next_executionId env hnext).2

/-- Looking for the next action. -/
theorem frame_next_run {vars : LoopVars} {w w₁ : World σ} {r : Option Action × ActionIter × Context}
    (hnext : vars.actions.next env vars.ctx w = .ok r w₁) :
    Frame RunEntry (Inner vars.ctx.executionId) w w₁ :=
  ((frame_next env vars.ctx vars.actions).of_ok hnext).mono
    (fun _ h => TriesBranches.runEntry h) fun _ h => h

/-- Getting to an action. -/
theorem Enters.frame {vars vars' : LoopVars} {w w₁ w₂ : World σ} {action : Action}
    (h : Enters env control resume vars w action vars' w₁ w₂) :
    Frame RunEntry (Inner vars.ctx.executionId) w w₂ := by
  obtain ⟨actions, ctx, hnext, rfl⟩ := h.yields
  rw [h.visits]
  exact (frame_next_run hnext).trans (frame_logged trivial _)

/-- Executing an action that does not wait for data. -/
theorem frame_performAction_run (env : Env σ) (o : Origin) {action : Action}
    (h : (action.trigger.isSome && !resume) = false) (arguments : List Argument) (w : World σ) :
    Frame RunEntry (Inner o.executionId) w
      (finalState (performAction env o action arguments resume w)) := by
  have hruns := performAction_runs env o h arguments w
  cases hperform : performAction env o action arguments resume w with
  | error e w' =>
    exact (hruns.of_error hperform).mono (fun _ h => CallsApp.runEntry h) fun _ h => h
  | ok r w' =>
    obtain ⟨status, w₁, -, hframe, rfl⟩ := hruns.of_ok hperform
    exact (hframe.mono (fun _ h => CallsApp.runEntry h) fun _ h => h).trans (frame_logged trivial _)

/-- **A turn that goes on** executes an action: its run is an ordinary one, for the same
execution of the same workflow. -/
theorem frame_again {vars vars' : LoopVars} {w w' : World σ}
    (hturn : loopTurn env control resume vars w = .ok (.again vars') w') :
    Frame RunEntry (Inner vars.ctx.executionId) w w' ∧
      vars'.ctx.executionId = vars.ctx.executionId ∧ vars'.ctx.workflow = vars.ctx.workflow := by
  have hcases := loopTurn_cases env control resume vars w
  rw [hturn] at hcases
  cases hcases with
  | @executed action vars'' w₁ w₂ _ status henters hpaused haborted hperform hne =>
    have hwaits : (action.trigger.isSome && !resume) = false := by
      by_contra h
      exact awaits_not_status henters.executingAction (Bool.eq_true_of_not_eq_false h) _ _ _ _ hperform
    have hframe := frame_performAction_run env vars''.ctx.origin hwaits vars.startArguments w₂
    rw [hperform] at hframe
    refine ⟨henters.frame.trans ?_, henters.executionId, henters.workflow⟩
    rw [← henters.executionId]
    exact hframe

/-- **The turns before the last one** keep the execution and its workflow, and are ordinary. -/
theorem frame_reaches {n : ℕ} {vars vars' : LoopVars} {w w' : World σ}
    (h : Reaches (loopTurn env control resume) n vars w vars' w') :
    Frame RunEntry (Inner vars.ctx.executionId) w w' ∧
      vars'.ctx.executionId = vars.ctx.executionId ∧ vars'.ctx.workflow = vars.ctx.workflow := by
  induction h with
  | refl vars w => exact ⟨Std.Refl.refl w, rfl, rfl⟩
  | again hturn _ ih =>
    obtain ⟨hframe, hid, hworkflow⟩ := frame_again hturn
    obtain ⟨hrest, hid', hworkflow'⟩ := ih
    rw [hid] at hrest hid'
    rw [hworkflow] at hworkflow'
    exact ⟨hframe.trans hrest, hid', hworkflow'⟩

end

end Walkoff.Analysis
