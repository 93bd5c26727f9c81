import Walkoff.Analysis.Frames

/-!
# What one turn of the serial loop can do

A turn asks the generator for an action. Without one it shuts the context down; at an
action it pauses, aborts or executes the action. `TurnCases` lists the ways in which a turn
ends, each with the calls that led there, and is all that the analyses of whole runs use of
the loop.
-/

set_option autoImplicit false

namespace Walkoff.Analysis

open Walkoff.Model Walkoff.Program
open Walkoff.Library (Ends Within OrderedDict lift bind_apply bind_eq_ok bind_eq_error)

variable {σ : Type}

/-! ## The turns -/

section

variable (env : Env σ) (control : ℕ → Control) (resume : Bool) (vars : LoopVars)

/-- A turn gets to an action: the generator yields it in the world `w₁`, and the loop goes
on in the world `w₂` with the variables `vars'`. -/
structure Enters (w : World σ) (action : Action) (vars' : LoopVars) (w₁ w₂ : World σ) : Prop where
  yields : ∃ actions ctx, vars.actions.next env vars.ctx w = .ok (some action, actions, ctx) w₁ ∧
    vars' = LoopVars.enter control { vars with actions, ctx } action
  visits : w₂ = w₁.logged (.visited action.id (!(resume && vars.boundary == 0)) resume)

/-- The ends of a turn. -/
inductive TurnCases (w : World σ) : EStateM.Result Exn (World σ) Turn → Prop where
  | branchingRaised {e : Exn} {w' : World σ}
    (hnext : vars.actions.next env vars.ctx w = .error e w') : TurnCases w (.error e w')
  | shutDown {actions : ActionIter} {ctx : Context} {w₁ w' : World σ}
    (hnext : vars.actions.next env vars.ctx w = .ok (none, actions, ctx) w₁)
    (hshutdown : shutdown env ctx w₁ = .ok () w') : TurnCases w (.ok .returned w')
  | shutdownRaised {actions : ActionIter} {ctx : Context} {w₁ w' : World σ} {e : Exn}
    (hnext : vars.actions.next env vars.ctx w = .ok (none, actions, ctx) w₁)
    (hshutdown : shutdown env ctx w₁ = .error e w') : TurnCases w (.error e w')
  | paused {action : Action} {vars' : LoopVars} {w₁ w₂ w' : World σ}
    (henters : Enters env control resume vars w action vars' w₁ w₂)
    (hpaused : vars'.ctx.isPaused = true)
    (hsend : sendEvent env vars'.ctx.origin .workflowPaused none w₂ = .ok () w') :
    TurnCases w (.ok .returned w')
  | pauseRaised {action : Action} {vars' : LoopVars} {w₁ w₂ w' : World σ} {e : Exn}
    (henters : Enters env control resume vars w action vars' w₁ w₂)
    (hpaused : vars'.ctx.isPaused = true)
    (hsend : sendEvent env vars'.ctx.origin .workflowPaused none w₂ = .error e w') :
    TurnCases w (.error e w')
  | aborted {action : Action} {vars' : LoopVars} {w₁ w₂ w' : World σ}
    (henters : Enters env control resume vars w action vars' w₁ w₂)
    (hpaused : vars'.ctx.isPaused = false) (haborted : vars'.ctx.isAborted = true)
    (hsend : sendEvent env vars'.ctx.origin .workflowAborted none w₂ = .ok () w') :
    TurnCases w (.ok .returned w')
  | abortRaised {action : Action} {vars' : LoopVars} {w₁ w₂ w' : World σ} {e : Exn}
    (henters : Enters env control resume vars w action vars' w₁ w₂)
    (hpaused : vars'.ctx.isPaused = false) (haborted : vars'.ctx.isAborted = true)
    (hsend : sendEvent env vars'.ctx.origin .workflowAborted none w₂ = .error e w') :
    TurnCases w (.error e w')
  | actionRaised {action : Action} {vars' : LoopVars} {w₁ w₂ w' : World σ} {e : Exn}
    (henters : Enters env control resume vars w action vars' w₁ w₂)
    (hpaused : vars'.ctx.isPaused = false) (haborted : vars'.ctx.isAborted = false)
    (hperform : performAction env vars'.ctx.origin action vars.startArguments resume w₂ =
      .error e w') : TurnCases w (.error e w')
  | awaited {action : Action} {vars' : LoopVars} {w₁ w₂ w' : World σ} {result : ActionResult}
    (henters : Enters env control resume vars w action vars' w₁ w₂)
    (hpaused : vars'.ctx.isPaused = false) (haborted : vars'.ctx.isAborted = false)
    (hperform : performAction env vars'.ctx.origin action vars.startArguments resume w₂ =
      .ok (.actionResult result) w') : TurnCases w (.error .attributeError w')
  | triggerStatus {action : Action} {vars' : LoopVars} {w₁ w₂ w' : World σ}
    (henters : Enters env control resume vars w action vars' w₁ w₂)
    (hpaused : vars'.ctx.isPaused = false) (haborted : vars'.ctx.isAborted = false)
    (hperform : performAction env vars'.ctx.origin action vars.startArguments resume w₂ =
      .ok (.status "trigger") w') : TurnCases w (.ok .returned w')
  | executed {action : Action} {vars' : LoopVars} {w₁ w₂ w' : World σ} {status : String}
    (henters : Enters env control resume vars w action vars' w₁ w₂)
    (hpaused : vars'.ctx.isPaused = false) (haborted : vars'.ctx.isAborted = false)
    (hperform : performAction env vars'.ctx.origin action vars.startArguments resume w₂ =
      .ok (.status status) w') (hne : status ≠ "trigger") :
    TurnCases w (.ok (.again { vars' with
      ctx := vars'.ctx.updateStatus status, startArguments := [] }) w')

variable {env control resume vars}

/-! ## Computing a turn -/

/-- A turn raises where looking for the next action does. -/
theorem loopTurn_of_branchingRaised {w w' : World σ} {e : Exn}
    (hnext : vars.actions.next env vars.ctx w = .error e w') :
    loopTurn env control resume vars w = .error e w' := by
  rw [loopTurn, bind_apply, hnext]

/-- Without a next action a turn shuts the run down. -/
theorem loopTurn_of_none {w w₁ : World σ} {actions : ActionIter} {ctx : Context}
    (hnext : vars.actions.next env vars.ctx w = .ok (none, actions, ctx) w₁) :
    loopTurn env control resume vars w = (shutdown env ctx >>= fun _ => pure .returned) w₁ := by
  rw [loopTurn, bind_apply, hnext]
  rfl

/-- A turn that gets to an action looks at the two flags and then executes it. -/
theorem Enters.loopTurn_eq {w w₁ w₂ : World σ} {action : Action} {vars' : LoopVars}
    (h : Enters env control resume vars w action vars' w₁ w₂) :
    loopTurn env control resume vars w =
      (if vars'.ctx.isPaused then
          sendEvent env vars'.ctx.origin .workflowPaused none >>= fun _ => pure .returned
        else if vars'.ctx.isAborted then
          sendEvent env vars'.ctx.origin .workflowAborted none >>= fun _ => pure .returned
        else actionTurn env resume vars' action) w₂ := by
  obtain ⟨actions, ctx, hnext, rfl⟩ := h.yields
  rw [loopTurn, bind_apply, hnext, h.visits]
  rfl

/-- Getting to an action keeps the start arguments. -/
theorem Enters.startArguments {w w₁ w₂ : World σ} {action : Action} {vars' : LoopVars}
    (h : Enters env control resume vars w action vars' w₁ w₂) :
    vars'.startArguments = vars.startArguments := by
  obtain ⟨actions, ctx, -, rfl⟩ := h.yields
  rfl

/-- The action got to is the one executing. -/
theorem Enters.executingAction {w w₁ w₂ : World σ} {action : Action} {vars' : LoopVars}
    (h : Enters env control resume vars w action vars' w₁ w₂) :
    vars'.ctx.executingAction = some action := by
  obtain ⟨actions, ctx, -, rfl⟩ := h.yields
  rfl

/-- What a turn makes of the end of `Action.execute`. -/
def afterAction (vars : LoopVars) : EStateM.Result Exn (World σ) ActionReturn →
    EStateM.Result Exn (World σ) Turn
  | .error e w => .error e w
  | .ok (.actionResult _) w => .error .attributeError w
  | .ok (.status s) w =>
    if s = "trigger" then .ok .returned w
    else .ok (.again { vars with ctx := vars.ctx.updateStatus s, startArguments := [] }) w

/-- A turn at an action that is neither paused nor aborted. -/
theorem Enters.loopTurn_eq_afterAction {w w₁ w₂ : World σ} {action : Action} {vars' : LoopVars}
    (h : Enters env control resume vars w action vars' w₁ w₂)
    (hpaused : vars'.ctx.isPaused = false) (haborted : vars'.ctx.isAborted = false) :
    loopTurn env control resume vars w =
      afterAction vars' (performAction env vars'.ctx.origin action vars.startArguments resume w₂) := by
  rw [h.loopTurn_eq, hpaused, haborted, if_neg Bool.false_ne_true, if_neg Bool.false_ne_true,
    actionTurn, h.startArguments, bind_apply]
  cases performAction env vars'.ctx.origin action vars.startArguments resume w₂ with
  | error e w' => rfl
  | ok r w' =>
    cases r with
    | actionResult result => rfl
    | status s =>
      by_cases hs : s = "trigger"
      · simp [hs, afterAction]
      · simp [hs, afterAction]

variable (env control resume vars)

/-- **Every turn is one of these.** -/
theorem loopTurn_cases (w : World σ) :
    TurnCases env control resume vars w (loopTurn env control resume vars w) := by
  cases hnext : vars.actions.next env vars.ctx w with
  | error e w' =>
    rw [loopTurn_of_branchingRaised hnext]
    exact .branchingRaised hnext
  | ok r w₁ =>
    obtain ⟨action, actions, ctx⟩ := r
    cases action with
    | none =>
      rw [loopTurn_of_none hnext, bind_apply]
      cases hshutdown : shutdown env ctx w₁ with
      | error e w' => exact .shutdownRaised hnext hshutdown
      | ok r w' => exact .shutDown hnext hshutdown
    | some action =>
      have henters : Enters env control resume vars w action
          (LoopVars.enter control { vars with actions, ctx } action) w₁ _ :=
        ⟨⟨actions, ctx, hnext, rfl⟩, rfl⟩
      generalize LoopVars.enter control { vars with actions, ctx } action = vars' at henters
      generalize w₁.logged _ = w₂ at henters
      cases hpaused : vars'.ctx.isPaused with
      | true =>
        rw [henters.loopTurn_eq, hpaused, if_pos rfl, bind_apply]
        cases hsend : sendEvent env vars'.ctx.origin .workflowPaused none w₂ with
        | error e w' => exact .pauseRaised henters hpaused hsend
        | ok r w' => exact .paused henters hpaused hsend
      | false =>
        cases haborted : vars'.ctx.isAborted with
        | true =>
          rw [henters.loopTurn_eq, hpaused, haborted, if_neg Bool.false_ne_true, if_pos rfl,
            bind_apply]
          cases hsend : sendEvent env vars'.ctx.origin .workflowAborted none w₂ with
          | error e w' => exact .abortRaised henters hpaused haborted hsend
          | ok r w' => exact .aborted henters hpaused haborted hsend
        | false =>
          rw [henters.loopTurn_eq_afterAction hpaused haborted]
          cases hperform : performAction env vars'.ctx.origin action vars.startArguments resume w₂ with
          | error e w' => exact .actionRaised henters hpaused haborted hperform
          | ok r w' =>
            cases r with
            | actionResult result => exact .awaited henters hpaused haborted hperform
            | status s =>
              by_cases hs : s = "trigger"
              · subst hs
                exact .triggerStatus henters hpaused haborted hperform
              · simp only [afterAction, hs, if_false]
                exact .executed henters hpaused haborted hperform hs

end

end Walkoff.Analysis
