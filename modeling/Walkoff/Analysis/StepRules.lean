import Walkoff.Analysis.LastTurn

/-!
# Relations that every step of a run keeps

Running an action, trying a branch and reporting either are made of a few steps: the app code
acts, an execution id is taken, a result is filed, an event is handled, an app instance is
created and an entry is logged. A reflexive and transitive relation that each of these steps
keeps is kept by all of them together, up to a turn of the loop; only shutting down is left out.
-/

set_option autoImplicit false

namespace Walkoff.Analysis

open Walkoff.Model Walkoff.Program
open Walkoff.Library (Within OrderedDict lift bind_apply get_apply finalState)

variable {σ : Type}

/-- The app code, the accumulators and the app instances are as before. -/
structure SameRuntime (w w' : World σ) : Prop where
  behaviour : w'.behaviour = w.behaviour
  accumulators : w'.accumulators = w.accumulators
  instances : w'.instances = w.instances

instance : Std.Refl (SameRuntime : World σ → World σ → Prop) where
  refl _ := ⟨rfl, rfl, rfl⟩

instance : IsTrans (World σ) SameRuntime where
  trans _ _ _ huv hvw := ⟨hvw.behaviour.trans huv.behaviour,
    hvw.accumulators.trans huv.accumulators, hvw.instances.trans huv.instances⟩

/-- Handling an event changes the tables and the socket only. -/
theorem sameRuntime_handleEvent (env : Env σ) (o : Origin) (sender : Sender)
    (event : WalkoffEvent) (data : Option PyVal) (arguments : List Argument) :
    Within SameRuntime (handleEvent env o sender event data arguments : M σ Unit) := by
  have hsend : Within SameRuntime (sendPacket o sender event data arguments : M σ Unit) :=
    Within.bind (Within.lift _) fun packet w => ⟨rfl, rfl, rfl⟩
  cases hsaves : event.savesWorkflow with
  | false =>
    rw [handleEvent_eq_sendPacket hsaves]
    exact hsend
  | true =>
    rw [handleEvent_eq_save hsaves]
    refine Within.bind (fun w => ?_) fun _ => hsend
    cases haction : o.executingAction with
    | none =>
      unfold addSavedWorkflow
      rw [haction]
      exact Std.Refl.refl w
    | some action =>
      rw [addSavedWorkflow_eq env haction]
      cases saveRefusal env o.executionId w <;> exact ⟨rfl, rfl, rfl⟩

/-- The relation is kept by every step of the runs of an execution. -/
structure StepRules (R : World σ → World σ → Prop) (env : Env σ) (executionId : UUID) :
    Prop where
  condition : ∀ condition dataIn accumulator,
    Within R (behave (env.condition condition dataIn accumulator))
  appFunction : ∀ action arguments instanceKey,
    Within R (behave (env.appFunction action arguments instanceKey))
  newUuid4 : Within R (newUuid4 : M σ ℕ)
  setItem : ∀ key value, Within R (setAccumulatorItem executionId key value : M σ Unit)
  handle : ∀ (o : Origin) sender event data arguments, o.executionId = executionId →
    Within R (handleEvent env o sender event data arguments : M σ Unit)
  create : ∀ key w, key ∉ w.instances → R w { w with
    behaviour := env.createInstance key w.behaviour, instances := w.instances ++ [key] }
  observe : ∀ entry, Within R (observe entry : M σ Unit)

namespace StepRules

variable {R : World σ → World σ → Prop} [Std.Refl R] [IsTrans (World σ) R] {env : Env σ}
  {executionId : UUID} (h : StepRules R env executionId) {o : Origin}
  (ho : o.executionId = executionId)

include h ho

omit [IsTrans (World σ) R] h ho in
/-- Reading the world keeps every reflexive relation. -/
theorem read {α : Type} {f : World σ → α} : Within R (do pure (f (← get)) : M σ α) :=
  fun w => Std.Refl.refl w

/-! ## Actions -/

/-- Setting an instance up keeps what its parts keep. -/
theorem setupAppInstance (action : Action) : Within R (setupAppInstance env o action) := by
  unfold Program.setupAppInstance
  cases action.deviceId with
  | none => exact Within.pure _
  | some argument =>
    refine Within.bind read fun accumulator => ?_
    refine Within.bind (Within.lift _) fun value => ?_
    split
    · exact Within.throw _
    · intro w
      have hreport : Within R (do
          sendEvent env o .appInstanceCreated none
          pure (some (action.appName, value)) : M σ (Option InstanceKey)) :=
        Within.bind (h.handle o .workflow _ _ _ ho) fun _ => Within.pure _
      show R w (finalState ((if (action.appName, value) ∉ w.instances then (do
          modify fun w => { w with
            behaviour := env.createInstance (action.appName, value) w.behaviour
            instances := w.instances ++ [(action.appName, value)] }
          sendEvent env o .appInstanceCreated none
          pure (some (action.appName, value)))
        else pure (some (action.appName, value)) : M σ (Option InstanceKey)) w))
      split
      · rename_i hnew
        exact IsTrans.trans _ _ _ (h.create _ w hnew) (hreport _)
      · exact Std.Refl.refl w

/-- The same of executing an action. -/
theorem executeLocally (action : Action) (arguments : OrderedDict String PyVal)
    (instanceKey : Option InstanceKey) :
    Within R (executeLocally env o action arguments instanceKey) := by
  refine Within.bind (h.observe _) fun _ => ?_
  refine Within.bind (h.appFunction action arguments instanceKey) fun result => ?_
  rw [ho]
  exact Within.bind (h.setItem _ _) fun _ => Within.pure _

/-- The same of reporting a result. -/
theorem reportResult (action : Action) (sender : Sender) (result : ActionResult) :
    Within R (reportResult env o action sender result) := by
  unfold Program.reportResult
  refine Within.bind (Within.lift _) fun result => ?_
  refine Within.bind (Within.lift _) fun failure => ?_
  refine Within.bind (Within.lift _) fun data => ?_
  split
  · exact Within.bind (h.handle o _ _ _ _ ho) fun _ => Within.pure _
  · exact Within.bind (h.handle o _ _ _ _ ho) fun _ => Within.pure _

/-- The same of running an action. -/
theorem runAction (action : Action) (sender : Sender) (arguments : List Argument)
    (instanceKey : Option InstanceKey) :
    Within R (runAction env o action sender arguments instanceKey) := by
  unfold Program.runAction
  refine Within.bind (Within.lift _) fun api => ?_
  refine Within.bind read fun accumulator => ?_
  split
  · rw [ho]
    refine Within.bind (h.setItem _ _) fun _ => ?_
    refine Within.bind (Within.lift _) fun _ => ?_
    exact Within.bind (h.handle o _ _ _ _ ho) fun _ => Within.pure _
  · exact Within.throw _
  · refine Within.bind (Within.lift _) fun _ => ?_
    refine Within.bind (h.executeLocally ho action _ _) fun result => ?_
    exact h.reportResult ho action sender result

/-- The same of starting an action. -/
theorem startAction (action : Action) (arguments : List Argument) :
    Within R (startAction env o action arguments : M σ Sender) := by
  unfold Program.startAction
  refine Within.bind h.newUuid4 fun executionId => ?_
  have hdevice : Within R (resolveDeviceId o action : M σ PyVal) := by
    unfold resolveDeviceId
    cases action.deviceId with
    | none => exact Within.pure _
    | some argument => exact Within.bind read fun _ => Within.lift _
  refine Within.bind hdevice fun deviceId => ?_
  exact Within.bind (h.handle o _ _ _ _ ho) fun _ => Within.pure _

/-- The same of awaiting data. -/
theorem awaitData (action : Action) (sender : Sender) :
    Within R (awaitData env o action sender : M σ ActionReturn) := by
  refine Within.bind (h.handle o _ _ _ _ ho) fun _ => ?_
  exact Within.bind (h.observe _) fun _ => Within.pure _

/-- **The calls of the loop at an action.** -/
theorem performAction (action : Action) (arguments : List Argument) (resume : Bool) :
    Within R (performAction env o action arguments resume) := by
  refine Within.bind (h.setupAppInstance ho action) fun deviceId => ?_
  unfold executeAction
  refine Within.bind (h.startAction ho action arguments) fun sender => ?_
  split
  · exact h.awaitData ho action sender
  · refine Within.bind (h.runAction ho action sender arguments deviceId) fun status => ?_
    exact Within.bind (h.observe _) fun _ => Within.pure _

/-! ## Branches -/

/-- The same of the condition of a branch. -/
theorem branchCondition (branch : Branch) (dataIn : PyVal) :
    Within R (branchCondition env o branch dataIn) := by
  unfold Program.branchCondition
  cases branch.condition with
  | none => exact Within.pure _
  | some condition =>
    refine within_executeExpression h.condition read ?_ dataIn condition
    intro id result
    exact h.handle o _ _ _ _ ho

omit [Std.Refl R] in
/-- The same of counting a branch. -/
theorem countBranch (branch : Branch) (counter : ℕ) :
    Within R (countBranch o branch counter : M σ Unit) := by
  unfold Program.countBranch
  rw [ho]
  exact Within.bind (h.observe _) fun _ => h.setItem _ _

/-- The same of executing a branch. -/
theorem executeBranch (branch : Branch) (status : Option String) (currentAction : Action)
    (counters : UUID → ℕ) :
    Within R (executeBranch env o branch status currentAction counters) := by
  unfold Program.executeBranch
  refine Within.bind (h.countBranch ho branch _) fun _ => ?_
  split
  · refine Within.bind read fun accumulator => ?_
    split
    · exact Within.throw _
    · refine Within.bind (h.branchCondition ho branch _) fun taken => ?_
      refine Within.bind ?_ fun _ => Within.pure _
      unfold reportBranch
      split
      · exact Within.bind (h.handle o _ _ _ _ ho) fun _ => h.observe _
      · exact h.handle o _ _ _ _ ho
  · exact Within.pure _

/-- The same of trying branches in their order. -/
theorem tryBranches (status : Option String) (currentAction : Action) (branches : List Branch)
    (counters : UUID → ℕ) :
    Within R (tryBranches env o status currentAction counters branches) := by
  induction branches generalizing counters with
  | nil => exact Within.pure _
  | cons branch branches ih =>
    rw [Program.tryBranches]
    refine Within.bind (h.executeBranch ho branch status currentAction counters) fun result => ?_
    obtain ⟨destination, counters⟩ := result
    cases destination with
    | some destinationId => exact Within.pure _
    | none => exact ih counters

/-! ## Turns -/

omit ho in
/-- The same of the next action of an iterator. -/
theorem next {ctx : Context} (hctx : ctx.executionId = executionId) (actions : ActionIter) :
    Within R (actions.next env ctx) := by
  cases actions with
  | fresh start => exact Within.pure _
  | finished => exact Within.pure _
  | suspended =>
    refine Within.bind ?_ fun _ => Within.pure _
    unfold getBranch
    split
    · split
      · exact Within.throw _
      · have horigin : ctx.origin.executionId = executionId := hctx
        exact Within.bind (h.tryBranches horigin _ _ _ _) fun _ => Within.pure _
    · exact Within.pure _

end StepRules

section

variable {R : World σ → World σ → Prop} [Std.Refl R] [IsTrans (World σ) R] {env : Env σ}
  {executionId : UUID} (h : StepRules R env executionId) {control : ℕ → Control} {resume : Bool}
  {vars : LoopVars} (hvars : vars.ctx.executionId = executionId)

include h hvars

/-- Getting to an action. -/
theorem StepRules.enters {vars' : LoopVars} {w w₁ w₂ : World σ} {action : Action}
    (henters : Enters env control resume vars w action vars' w₁ w₂) : R w w₂ := by
  obtain ⟨actions, ctx, hnext, rfl⟩ := henters.yields
  have hfirst : R w w₁ := (h.next hvars vars.actions).of_ok hnext
  have hvisit : R w₁ w₂ := by
    rw [henters.visits]
    exact h.observe (.visited action.id _ resume) w₁
  exact IsTrans.trans _ _ _ hfirst hvisit

/-- **A turn that goes on keeps the relation.** -/
theorem StepRules.again {vars' : LoopVars} {w w' : World σ}
    (hturn : loopTurn env control resume vars w = .ok (.again vars') w') : R w w' := by
  have hcases := loopTurn_cases env control resume vars w
  rw [hturn] at hcases
  cases hcases with
  | @executed action vars'' w₁ w₂ _ status henters hpaused haborted hperform hne =>
    have hid : vars''.ctx.origin.executionId = executionId := henters.executionId.trans hvars
    have hentered := h.enters hvars henters
    have hperformed := (h.performAction hid action vars.startArguments resume).of_ok hperform
    exact IsTrans.trans _ _ _ hentered hperformed

/-- **A turn keeps the relation**, unless it gets to shut the context down. -/
theorem StepRules.loopTurn (w : World σ) :
    R w (finalState (loopTurn env control resume vars w)) ∨
      ∃ actions ctx w₁, vars.actions.next env vars.ctx w = .ok (none, actions, ctx) w₁ ∧ R w w₁ := by
  have henter : ∀ {action : Action} {vars' : LoopVars} {w₁ w₂ : World σ},
      Enters env control resume vars w action vars' w₁ w₂ →
        R w w₂ ∧ vars'.ctx.origin.executionId = executionId := fun henters =>
    ⟨h.enters hvars henters, henters.executionId.trans hvars⟩
  have hcases := loopTurn_cases env control resume vars w
  generalize Program.loopTurn env control resume vars w = r at hcases
  cases hcases with
  | branchingRaised hnext => exact .inl ((h.next hvars vars.actions).of_error hnext)
  | shutDown hnext _ => exact .inr ⟨_, _, _, hnext, (h.next hvars vars.actions).of_ok hnext⟩
  | shutdownRaised hnext _ => exact .inr ⟨_, _, _, hnext, (h.next hvars vars.actions).of_ok hnext⟩
  | paused henters _ hsend =>
    obtain ⟨hw, hid⟩ := henter henters
    exact .inl (IsTrans.trans _ _ _ hw ((h.handle _ .workflow _ _ _ hid).of_ok hsend))
  | pauseRaised henters _ hsend =>
    obtain ⟨hw, hid⟩ := henter henters
    exact .inl (IsTrans.trans _ _ _ hw ((h.handle _ .workflow _ _ _ hid).of_error hsend))
  | aborted henters _ _ hsend =>
    obtain ⟨hw, hid⟩ := henter henters
    exact .inl (IsTrans.trans _ _ _ hw ((h.handle _ .workflow _ _ _ hid).of_ok hsend))
  | abortRaised henters _ _ hsend =>
    obtain ⟨hw, hid⟩ := henter henters
    exact .inl (IsTrans.trans _ _ _ hw ((h.handle _ .workflow _ _ _ hid).of_error hsend))
  | actionRaised henters _ _ hperform =>
    obtain ⟨hw, hid⟩ := henter henters
    exact .inl (IsTrans.trans _ _ _ hw ((h.performAction hid _ _ _).of_error hperform))
  | awaited henters _ _ hperform =>
    obtain ⟨hw, hid⟩ := henter henters
    exact .inl (IsTrans.trans _ _ _ hw ((h.performAction hid _ _ _).of_ok hperform))
  | triggerStatus henters _ _ hperform =>
    obtain ⟨hw, hid⟩ := henter henters
    exact .inl (IsTrans.trans _ _ _ hw ((h.performAction hid _ _ _).of_ok hperform))
  | executed henters _ _ hperform _ =>
    obtain ⟨hw, hid⟩ := henter henters
    exact .inl (IsTrans.trans _ _ _ hw ((h.performAction hid _ _ _).of_ok hperform))

/-- **A run of turns that all go on keeps the relation.** -/
theorem StepRules.reaches {n : ℕ} {vars' : LoopVars} {w w' : World σ}
    (hreach : Library.Reaches (Program.loopTurn env control resume) n vars w vars' w') :
    R w w' := by
  induction hreach with
  | refl vars w => exact Std.Refl.refl w
  | @again n vars vars₁ vars₂ w w₁ w₂ hturn _ ih =>
    have hid := (frame_again hturn).2.1
    exact IsTrans.trans _ _ _ (StepRules.again h hvars hturn) (ih (hid.trans hvars))

end

end Walkoff.Analysis
