import Walkoff.Analysis.LifecycleInvariant
import Walkoff.Analysis.Samples

/-!
# Trigger gating

An action with a trigger is to run its app function only after its trigger has been taken.
The first run of an execution awaits data at such an action. A resumed run awaits data
nowhere: it passes every trigger, the one that has been answered and all later ones.
-/

set_option autoImplicit false

namespace Walkoff.Analysis

open Walkoff.Model Walkoff.Program
open Walkoff.Library (Guarded Run Reaches EndsAt exists_endsAt Ended Within OrderedDict bind_of_ok
  finalState follow)

variable {σ : Type} {executionId workflowId : UUID}

/-! ## The property -/

/-- The trigger of an action has been taken since the loop last reached the action. -/
def Answered (log : List Obs) (action : UUID) : Prop :=
  ∃ before after, log = before ++ .trigger action true :: after ∧
    ∀ resume, .visited action true resume ∉ after

/-- App functions of actions with a trigger are called when the trigger has been answered. -/
def Gated (hasTrigger : UUID → Bool) (log : List Obs) : Prop :=
  ∀ before action arguments instanceKey after,
    log = before ++ .appFunction action arguments instanceKey :: after →
      hasTrigger action = true → Answered before action

/-- The action of a workflow with this id has a trigger. -/
def hasTrigger (workflow : Workflow) (action : UUID) : Bool :=
  (workflow.actions.find? (·.id = action)).any (·.trigger.isSome)

/-- The action of a stored workflow has a trigger. -/
def storedTrigger (workflowId : UUID) (w : World σ) (action : UUID) : Bool :=
  (w.workflow workflowId).any fun workflow => hasTrigger workflow action

/-! ## Logs that grow -/

variable {triggers : UUID → Bool}

/-- An answered trigger stays so until its action is visited again. -/
theorem Answered.append {log entries : List Obs} {action : UUID} (h : Answered log action)
    (hentries : ∀ resume, .visited action true resume ∉ entries) :
    Answered (log ++ entries) action := by
  obtain ⟨before, after, rfl, hafter⟩ := h
  refine ⟨before, after ++ entries, by simp, fun resume hmem => ?_⟩
  rcases List.mem_append.mp hmem with hold | hnew
  · exact hafter resume hold
  · exact hentries resume hnew

/-- A trigger that was taken is answered. -/
theorem answered_concat (log : List Obs) (action : UUID) :
    Answered (log ++ [.trigger action true]) action :=
  ⟨log, [], rfl, fun _ => List.not_mem_nil⟩

/-- **A log stays gated** when what is added calls only app functions of actions that have been
answered and are not reached again. -/
theorem Gated.append {log entries : List Obs} (h : Gated triggers log)
    (hentries : ∀ action arguments instanceKey,
      .appFunction action arguments instanceKey ∈ entries → triggers action = true →
        Answered log action ∧ ∀ resume, .visited action true resume ∉ entries) :
    Gated triggers (log ++ entries) := by
  intro before action arguments instanceKey after hsplit htrigger
  rcases List.append_eq_append_iff.mp hsplit with ⟨middle, hbefore, hrest⟩ | ⟨middle, hlog, hrest⟩
  · have hmem : .appFunction action arguments instanceKey ∈ entries := by
      rw [hrest]
      simp
    obtain ⟨hanswered, hvisited⟩ := hentries action arguments instanceKey hmem htrigger
    rw [hbefore]
    refine hanswered.append fun resume hreached => hvisited resume ?_
    rw [hrest]
    exact List.mem_append_left _ hreached
  · cases middle with
    | nil =>
      have hmem : .appFunction action arguments instanceKey ∈ entries := by
        rw [List.nil_append] at hrest
        rw [← hrest]
        exact List.mem_cons_self
      obtain ⟨hanswered, -⟩ := hentries action arguments instanceKey hmem htrigger
      rw [List.append_nil] at hlog
      rw [← hlog]
      exact hanswered
    | cons entry rest =>
      rw [List.cons_append, List.cons.injEq] at hrest
      obtain ⟨rfl, -⟩ := hrest
      exact h before action arguments instanceKey rest hlog htrigger

/-- The step keeps a gated log gated. -/
def KeepsGates (triggers : UUID → Bool) (w w' : World σ) : Prop :=
  Gated triggers w.log → Gated triggers w'.log

instance : Std.Refl (KeepsGates triggers : World σ → World σ → Prop) where
  refl _ := id

instance : IsTrans (World σ) (KeepsGates triggers) where
  trans _ _ _ huv hvw := hvw ∘ huv

/-- No app function of an action with a trigger. -/
def CallsNoTrigger (triggers : UUID → Bool) (entry : Obs) : Prop :=
  ∀ action arguments instanceKey, entry = .appFunction action arguments instanceKey →
    triggers action = false

/-- What calls no trigger keeps the gates. -/
theorem KeepsGates.of_logs {w w' : World σ} (h : Logs (CallsNoTrigger triggers) w w') :
    KeepsGates triggers w w' := by
  obtain ⟨new, hlog, hnew⟩ := h
  intro hgated
  rw [hlog]
  refine hgated.append fun action arguments instanceKey hmem htrigger => ?_
  rw [hnew _ hmem action arguments instanceKey rfl] at htrigger
  cases htrigger

/-- The entries of a turn at an action that starts over. -/
def StartsOver (action : UUID) (entry : Obs) : Prop :=
  (∀ resume, entry ≠ .visited action true resume) ∧
    ∀ other arguments instanceKey, entry = .appFunction other arguments instanceKey → other = action

/-- Starting over at an answered trigger keeps the gates. -/
theorem KeepsGates.of_answered {action : UUID} {w w' : World σ}
    (h : Logs (StartsOver action) w w') (hanswered : Answered w.log action) :
    KeepsGates triggers w w' := by
  obtain ⟨new, hlog, hnew⟩ := h
  intro hgated
  rw [hlog]
  refine hgated.append fun other arguments instanceKey hmem _ => ?_
  obtain rfl := (hnew _ hmem).2 other arguments instanceKey rfl
  exact ⟨hanswered, fun resume hreached => (hnew _ hreached).1 resume rfl⟩

/-! ## The turns of a run -/

/-- An entry that neither reaches an action nor calls an app function. -/
def Calm : Obs → Prop
  | .visited _ _ _ | .appFunction _ _ _ => False
  | _ => True

/-- The trials of branches are calm entries. -/
theorem TriesBranches.calm {entry : Obs} (h : TriesBranches entry) : Calm entry := by
  obtain ⟨branch, rfl | rfl⟩ := h <;> trivial

section

variable {env : Env σ} {control : ℕ → Control} {resume : Bool}

/-- Awaiting data calls no app function. -/
theorem logs_awaitData {o : Origin} {action : Action} (haction : o.executingAction = some action)
    (sender : Sender) (w : World σ) : Logs Calm w (finalState (awaitData env o action sender w)) := by
  rw [awaitData_eq env haction]
  cases saveRefusal env o.executionId w with
  | some e => exact Logs.single w trivial
  | none =>
    have hsaved : Logs Calm w ((w.withSavedWorkflow
        (savedWorkflowFromWorkflow o action w.instances)).logged (.saved action.id true)) :=
      Logs.single (w.withSavedWorkflow _) trivial
    dsimp only
    cases awaitPacket o sender with
    | error e => exact hsaved
    | ok packet => exact hsaved.trans (Logs.single _ trivial)

/-- Executing an action calls its app function, unless it waits for data. -/
theorem logs_performAction {o : Origin} {action : Action} (haction : o.executingAction = some action)
    (arguments : List Argument) (w : World σ) :
    Logs (fun entry => Calm entry ∨
        (action.trigger.isSome && !resume) = false ∧ CallsApp action entry) w
      (finalState (performAction env o action arguments resume w)) := by
  cases hwaits : (action.trigger.isSome && !resume) with
  | false =>
    have hruns := performAction_runs env o hwaits arguments w
    cases hperform : performAction env o action arguments resume w with
    | error e w' => exact Logs.mono (hruns.of_error hperform).log fun _ h => .inr ⟨rfl, h⟩
    | ok r w' =>
      obtain ⟨status, w₁, -, hframe, rfl⟩ := hruns.of_ok hperform
      exact (Logs.mono hframe.log fun _ h => .inr ⟨rfl, h⟩).trans (Logs.single w₁ (.inl trivial))
  | true =>
    rcases performAction_awaits env hwaits arguments w with ⟨e, w₁, hraised, hframe⟩ |
      ⟨sender, w₁, hframe, hawait⟩
    · rw [hraised]
      exact Logs.mono hframe.log fun _ h => h.elim
    · rw [hawait]
      refine Logs.trans (Logs.mono hframe.log fun _ h => h.elim) ?_
      exact (logs_awaitData haction sender w₁).mono fun _ h => .inl h

/-- **What a turn logs**: it tries branches, reaches at most one action, and calls the app
function of that action if it executes it without waiting for data. -/
theorem logs_loopTurn {P : Obs → Prop} {vars : LoopVars} {w : World σ}
    (hcalm : ∀ entry, Calm entry → P entry)
    (hvisit : ∀ action vars' w₁ w₂, Enters env control resume vars w action vars' w₁ w₂ →
      P (.visited action.id (!(resume && vars.boundary == 0)) resume))
    (hcalls : ∀ action vars' w₁ w₂, Enters env control resume vars w action vars' w₁ w₂ →
      vars'.ctx.isPaused = false → vars'.ctx.isAborted = false →
        (action.trigger.isSome && !resume) = false → ∀ entry, CallsApp action entry → P entry) :
    Logs P w (finalState (loopTurn env control resume vars w)) := by
  have hnext : ∀ {r : Option Action × ActionIter × Context} {w₁ : World σ},
      vars.actions.next env vars.ctx w = .ok r w₁ → Logs P w w₁ := by
    intro r w₁ hnext
    exact Logs.mono ((frame_next env vars.ctx vars.actions).of_ok hnext).log
      fun entry h => hcalm entry (TriesBranches.calm h)
  have henter : ∀ {action : Action} {vars' : LoopVars} {w₁ w₂ w' : World σ},
      Enters env control resume vars w action vars' w₁ w₂ → Logs P w₂ w' → Logs P w w' := by
    intro action vars' w₁ w₂ w' henters hrest
    obtain ⟨actions, ctx, hyields, -⟩ := henters.yields
    have hvisited : Logs P w₁ w₂ := by
      rw [henters.visits]
      exact Logs.single w₁ (hvisit action vars' w₁ w₂ henters)
    exact (hnext hyields).trans (hvisited.trans hrest)
  have hshutdown : ∀ {actions : ActionIter} {ctx : Context} {w₁ : World σ},
      vars.actions.next env vars.ctx w = .ok (none, actions, ctx) w₁ →
        Logs P w (finalState (shutdown env ctx w₁)) := by
    intro actions ctx w₁ hyields
    have hframe := frame_shutdown (P := Never) env ctx w₁
    exact (hnext hyields).trans (Logs.mono hframe.log fun _ h => h.elim)
  have hpause : ∀ {action : Action} {vars' : LoopVars} {w₁ w₂ : World σ},
      Enters env control resume vars w action vars' w₁ w₂ →
        Logs P w (finalState (sendEvent env vars'.ctx.origin .workflowPaused none w₂)) := by
    intro action vars' w₁ w₂ henters
    refine henter henters ?_
    rw [sendEvent_paused env (o := vars'.ctx.origin) henters.executingAction]
    cases saveRefusal env vars'.ctx.origin.executionId w₂ with
    | none => exact Logs.single (w₂.withSavedWorkflow _) (hcalm _ trivial)
    | some _ => exact Logs.single w₂ (hcalm _ trivial)
  have hperform : ∀ {action : Action} {vars' : LoopVars} {w₁ w₂ : World σ}
      {r : EStateM.Result Exn (World σ) ActionReturn},
      Enters env control resume vars w action vars' w₁ w₂ →
        vars'.ctx.isPaused = false → vars'.ctx.isAborted = false →
          performAction env vars'.ctx.origin action vars.startArguments resume w₂ = r →
            Logs P w (finalState r) := by
    rintro action vars' w₁ w₂ _ henters hpaused haborted rfl
    refine henter henters ?_
    refine (logs_performAction (o := vars'.ctx.origin) henters.executingAction _ w₂).mono ?_
    rintro entry (hentry | ⟨hwaits, hentry⟩)
    · exact hcalm entry hentry
    · exact hcalls action vars' w₁ w₂ henters hpaused haborted hwaits entry hentry
  have hcases := loopTurn_cases env control resume vars w
  generalize loopTurn env control resume vars w = r at hcases
  cases hcases with
  | branchingRaised hraised =>
    exact Logs.mono ((frame_next env vars.ctx vars.actions).of_error hraised).log
      fun entry h => hcalm entry (TriesBranches.calm h)
  | shutDown hyields h =>
    have hlogs := hshutdown hyields
    rwa [h] at hlogs
  | shutdownRaised hyields h =>
    have hlogs := hshutdown hyields
    rwa [h] at hlogs
  | paused henters _ h =>
    have hlogs := hpause henters
    rwa [h] at hlogs
  | pauseRaised henters _ h =>
    have hlogs := hpause henters
    rwa [h] at hlogs
  | @aborted action vars' w₁ w₂ w' henters _ _ h =>
    rw [sendEvent_aborted] at h
    cases h
    exact henter henters (Std.Refl.refl (r := Logs P) w₂)
  | abortRaised henters _ _ h =>
    rw [sendEvent_aborted] at h
    cases h
  | actionRaised henters hpaused haborted h => exact hperform henters hpaused haborted h
  | awaited henters hpaused haborted h => exact hperform henters hpaused haborted h
  | triggerStatus henters hpaused haborted h => exact hperform henters hpaused haborted h
  | executed henters hpaused haborted h _ => exact hperform henters hpaused haborted h

/-- The generator yields actions of the workflow. -/
theorem Enters.found {vars vars' : LoopVars} {w w₁ w₂ : World σ} {action : Action}
    (h : Enters env control resume vars w action vars' w₁ w₂) :
    vars.ctx.workflow.actions.find? (·.id = action.id) = some action := by
  obtain ⟨actions, ctx, hnext, -⟩ := h.yields
  have hworkflow : ctx.workflow = vars.ctx.workflow := (next_executionId env hnext).2
  have hlookup : ∃ id, ctx.workflow.actions.find? (·.id = id) = some action := by
    have hyield : ∀ {found : Option Action} {ctx' : Context},
        ActionIter.yield ctx' found = (some action, actions, ctx) → found = some action ∧ ctx' = ctx := by
      intro found ctx' heq
      cases found with
      | none => cases heq
      | some a =>
        cases heq
        exact ⟨rfl, rfl⟩
    cases hactions : vars.actions with
    | fresh start =>
      rw [hactions] at hnext
      obtain ⟨hfound, hctx⟩ := hyield (EStateM.Result.ok.inj hnext).1
      rw [← hctx]
      exact ⟨start, hfound⟩
    | finished =>
      rw [hactions] at hnext
      cases hnext
    | suspended =>
      rw [hactions] at hnext
      obtain ⟨⟨currentId, ctx'⟩, w₃, -, hyields⟩ := Library.bind_eq_ok.mp hnext
      obtain ⟨hfound, hctx⟩ := hyield (EStateM.Result.ok.inj hyields).1
      rw [← hctx]
      obtain ⟨id, -, hfound⟩ := Option.bind_eq_some_iff.mp hfound
      exact ⟨id, hfound⟩
  obtain ⟨id, hfound⟩ := hlookup
  have hid : action.id = id := by simpa using List.find?_some hfound
  rw [← hworkflow, hid]
  exact hfound

/-- An action that is got to has a trigger exactly if its workflow says so. -/
theorem Enters.hasTrigger_eq {vars vars' : LoopVars} {w w₁ w₂ : World σ} {action : Action}
    (h : Enters env control resume vars w action vars' w₁ w₂) :
    hasTrigger vars.ctx.workflow action.id = action.trigger.isSome := by
  rw [hasTrigger, h.found, Option.any_some]

/-- A resumed run executes an action with a trigger: it gets to the action and is neither
paused nor aborted there. -/
def ExecutesTrigger (env : Env σ) (control : ℕ → Control) (vars : LoopVars) (w : World σ) : Prop :=
  ∃ action vars' w₁ w₂, Enters env control true vars w action vars' w₁ w₂ ∧
    vars'.ctx.isPaused = false ∧ vars'.ctx.isAborted = false ∧ action.trigger.isSome = true

/-- A turn of a first run, or a turn that executes no action with a trigger. -/
theorem keepsGates_loopTurn {vars : LoopVars} {w : World σ}
    (h : resume = true → ¬ ExecutesTrigger env control vars w) :
    KeepsGates (hasTrigger vars.ctx.workflow) w
      (finalState (loopTurn env control resume vars w)) := by
  refine .of_logs (logs_loopTurn ?_ ?_ ?_)
  · intro entry hcalm action arguments instanceKey heq
    rw [heq] at hcalm
    exact hcalm.elim
  · intro action vars' w₁ w₂ _ other arguments instanceKey heq
    cases heq
  · rintro action vars' w₁ w₂ henters hpaused haborted hwaits entry ⟨arguments, instanceKey, rfl⟩
      other arguments' instanceKey' heq
    cases heq
    rw [henters.hasTrigger_eq]
    cases resume with
    | false => simpa using hwaits
    | true =>
      by_contra htrigger
      exact h rfl ⟨action, vars', w₁, w₂, henters, hpaused, haborted,
        Bool.eq_true_of_not_eq_false htrigger⟩

/-- The first turn of a run gets to the action it starts from. -/
theorem Enters.start {ctx : Context} {start : UUID} {startArguments : List Argument}
    {boundary : ℕ} {vars' : LoopVars} {w w₁ w₂ : World σ} {action : Action}
    (h : Enters env control resume { ctx, actions := .fresh start, startArguments, boundary } w
      action vars' w₁ w₂) : action.id = start := by
  obtain ⟨actions, ctx', hnext, -⟩ := h.yields
  have hyield : ActionIter.yield ctx (ctx.getActionById start) = (some action, actions, ctx') :=
    (EStateM.Result.ok.inj hnext).1
  cases hfound : ctx.getActionById start with
  | none =>
    rw [hfound] at hyield
    cases hyield
  | some a =>
    rw [hfound] at hyield
    cases hyield
    simpa using List.find?_some hfound

/-- A run that starts over at an action whose trigger has been answered. -/
theorem keepsGates_startOver {ctx : Context} {start : UUID} {startArguments : List Argument}
    {w : World σ} (hanswered : Answered w.log start) :
    KeepsGates triggers w (finalState (loopTurn env control true
      { ctx, actions := .fresh start, startArguments, boundary := 0 } w)) := by
  refine @KeepsGates.of_answered _ _ start _ _ (logs_loopTurn ?_ ?_ ?_) hanswered
  · intro entry hcalm
    refine ⟨fun resume heq => ?_, fun other arguments instanceKey heq => ?_⟩
    · rw [heq] at hcalm
      exact hcalm
    · rw [heq] at hcalm
      exact hcalm.elim
  · intro action vars' w₁ w₂ _
    refine ⟨fun resume heq => ?_, fun other arguments instanceKey heq => ?_⟩
    · cases heq
    · cases heq
  · rintro action vars' w₁ w₂ henters _ _ _ entry ⟨arguments, instanceKey, rfl⟩
    refine ⟨fun resume heq => ?_, fun other arguments' instanceKey' heq => ?_⟩
    · cases heq
    · cases heq
      exact henters.start

/-- **A run keeps the gates** if it starts at an action that may be run and executes no action
with a trigger later. -/
theorem keepsGates_runLoop {turns : ℕ} {ctx : Context} {start : UUID}
    {startArguments : List Argument} {w : World σ}
    (hended : Ended (runLoop env control resume turns
      { ctx, actions := .fresh start, startArguments, boundary := 0 } w))
    (hfirst : resume = true → hasTrigger ctx.workflow start = true → Answered w.log start)
    (hlater : resume = true → ∀ k vars w', 0 < k → k < turns →
      Reaches (loopTurn env control true) k
        { ctx, actions := .fresh start, startArguments, boundary := 0 } w vars w' →
      ¬ ExecutesTrigger env control vars w') :
    KeepsGates (hasTrigger ctx.workflow) w (finalState (runLoop env control resume turns
      { ctx, actions := .fresh start, startArguments, boundary := 0 } w)) := by
  obtain ⟨vars', w', hends⟩ := exists_endsAt hended
  refine hends.within fun k vars w₁ hk hreach => ?_
  obtain ⟨-, -, hworkflow⟩ := frame_reaches hreach
  cases k with
  | succ k =>
    rw [← show vars.ctx.workflow = ctx.workflow from hworkflow]
    refine keepsGates_loopTurn fun hresume => ?_
    subst hresume
    exact hlater rfl (k + 1) vars w₁ (Nat.succ_pos k) hk hreach
  | zero =>
    cases hreach
    by_cases hanswer : resume = true ∧ hasTrigger ctx.workflow start = true
    · obtain ⟨rfl, htrigger⟩ := hanswer
      exact keepsGates_startOver (hfirst rfl htrigger)
    · have hturn := @keepsGates_loopTurn σ env control resume
        { ctx, actions := .fresh start, startArguments, boundary := 0 } w
      refine hturn fun hresume => ?_
      subst hresume
      rintro ⟨action, vars', w₁, w₂, henters, -, -, htrigger⟩
      refine hanswer ⟨rfl, ?_⟩
      rw [← henters.start, ← htrigger]
      exact henters.hasTrigger_eq

end

/-! ## A request -/

/-- After its first action a resumed run executes an action with a trigger. -/
def RunsLaterTrigger (env : Env σ) (control : ℕ → Control) (turns : ℕ) (thread : String)
    (request : Request) (w : World σ) : Prop :=
  ∃ ctx w₁ start k vars w', prepare env request w = .ok (some ctx) w₁ ∧
    (request.start.or ctx.workflow.start).or ctx.workflow.start = some start ∧ 0 < k ∧ k < turns ∧
    Reaches (loopTurn env control true) k
      { ctx, actions := .fresh start, startArguments := request.startArguments, boundary := 0 }
      (finalState (announceStart env ctx request.environmentVariables
        (finalState (register thread ctx w₁)))) vars w' ∧
    ExecutesTrigger env control vars w'

/-- What logs nothing leaves the log. -/
theorem Frame.log_eq {w w' : World σ} {E : Packet → Prop} (h : Frame Never E w w') :
    w'.log = w.log := by
  obtain ⟨entries, hlog, hnever⟩ := h.log
  rw [hlog, List.eq_nil_iff_forall_not_mem.mpr hnever, List.append_nil]

/-- **A call of `execute` keeps the gates** if a resumed one starts at an action that may be run
and executes no action with a trigger later. -/
theorem keepsGates_execute {env : Env σ} {control : ℕ → Control} {turns : ℕ} {thread : String}
    {request : Request} {w : World σ} (hended : Ended (execute env control turns thread request w))
    (hfirst : request.resume = true → ∀ saved, w.savedState request.executionId = some saved →
      request.start = some saved.actionId ∧
        (storedTrigger request.workflowId w saved.actionId = true → Answered w.log saved.actionId))
    (hlater : request.resume = true → ¬ RunsLaterTrigger env control turns thread request w) :
    KeepsGates (storedTrigger request.workflowId w) w
      (finalState (execute env control turns thread request w)) := by
  by_cases hstartable : Startable request w
  · obtain ⟨workflow, user, w₁, hworkflow, hctx⟩ := prepare_of_startable env hstartable
    generalize hnew : newContext workflow request.executionId user = ctx at hctx
    have hctxworkflow : ctx.workflow = workflow := by rw [← hnew]; rfl
    have htriggers : storedTrigger request.workflowId w = hasTrigger ctx.workflow := by
      funext action
      rw [storedTrigger, hworkflow, hctxworkflow]
      rfl
    have hprepare := (frame_prepare (P := Never) (E := Never) env request).of_ok hctx
    have hrun := (ended_execute_of_context hctx).mp hended
    obtain ⟨w₂, hannounce⟩ := announceStart_ok env ctx request.environmentVariables
      (finalState (register thread ctx w₁))
    have hlog : w₂.log = w.log := by
      have hends := endsWith_announceStart env ctx request.environmentVariables
        (finalState (register thread ctx w₁))
      rw [hannounce] at hends
      exact hends.log.trans ((List.append_nil _).trans hprepare.log_eq)
    rw [execute_finalState_of_context control turns thread hctx]
    intro hgated
    rw [htriggers] at hgated ⊢
    rw [← hlog] at hgated
    unfold runRequest strategyExecute at hrun ⊢
    rw [bind_of_ok hannounce] at hrun ⊢
    cases hstart : (request.start.or ctx.workflow.start).or ctx.workflow.start with
    | none => exact hgated
    | some start =>
      rw [hstart] at hrun
      refine keepsGates_runLoop hrun (fun hresume htrigger => ?_) ?_ hgated
      · obtain ⟨_, _, -, -, -, -, hresumed⟩ := hstartable
        obtain ⟨saved, hsaved⟩ := Option.isSome_iff_exists.mp (hresumed hresume)
        obtain ⟨hrequest, hanswered⟩ := hfirst hresume saved hsaved
        rw [hrequest, Option.some_or, Option.some_or, Option.some.injEq] at hstart
        subst hstart
        rw [hlog]
        exact hanswered (htriggers ▸ htrigger)
      · intro hresume k vars w' hpos hk hreach htrigger
        refine hlater hresume ⟨ctx, w₁, start, k, vars, w', hctx, hstart, hpos, hk, ?_, htrigger⟩
        rw [hannounce]
        exact hreach
  · rw [execute_of_not_startable env control turns thread hstartable]
    exact fun hgated => hgated

/-! ## Runs of steps -/

/-- The log is gated, and a queued resumption starts at an action that may be run. -/
structure Gates (executionId workflowId : UUID) (w : World σ) : Prop where
  gated : Gated (storedTrigger workflowId w) w.log
  queued : ∀ request ∈ w.requestQueue, request.resume = true →
    ∀ saved, w.savedState executionId = some saved →
      storedTrigger workflowId w saved.actionId = true → Answered w.log saved.actionId

/-- A step that bypasses no trigger: no execution is resumed that is paused at an action with a
trigger, and a resumed run executes no such action after its first one. -/
def BypassesNoTrigger (env : Env σ) (executionId : UUID) (w : World σ) : LifecycleOp → Prop
  | .work thread control turns => ∀ request requests, w.requestQueue = request :: requests →
      request.resume = true →
        ¬ RunsLaterTrigger env control turns thread request { w with requestQueue := requests }
  | .resume _ => w.status executionId = some .paused →
      ∀ saved, w.savedState executionId = some saved →
        storedTrigger saved.workflowId w saved.actionId = false
  | _ => True

/-- The stored trigger depends on the workflows only. -/
theorem storedTrigger_congr {w w' : World σ} (h : w'.workflows = w.workflows) :
    storedTrigger workflowId w' = storedTrigger workflowId w := by
  funext action
  rw [storedTrigger, World.workflow, h]
  rfl

/-- A worker works off a request. -/
theorem gates_work {env : Env σ} {w w' : World σ} {thread : String} {control : ℕ → Control}
    {turns : ℕ} (horderly : Orderly executionId workflowId w) (h : Gates executionId workflowId w)
    (hok : BypassesNoTrigger env executionId w (.work thread control turns))
    (hstep : LifecycleStep env executionId w (.work thread control turns) w') :
    Gates executionId workflowId w' := by
  obtain ⟨request, row, hqueue, hfits, -, -, hrest, hends⟩ := orderly_work horderly hstep
  obtain ⟨request', requests, hqueue', hended, hw'⟩ := lifecycleStep_work hstep
  rw [hqueue] at hqueue'
  cases hqueue'
  have hkeeps := keepsGates_execute hended
    (fun hresume saved hsaved => ?_) (hok request [] hqueue)
  · have htriggers := @storedTrigger_congr _ workflowId _ _ hends.workflows
    refine ⟨?_, ?_⟩
    · rw [htriggers, hw', log_receiveSince]
      rw [hfits.workflow] at hkeeps
      exact hkeeps h.gated
    · rw [hrest]
      rintro request ⟨⟩
  · rw [hfits.execution] at hsaved
    refine ⟨hfits.resumed hresume saved hsaved, fun htrigger => ?_⟩
    rw [hfits.workflow] at htrigger
    have hmem : request ∈ w.requestQueue := by rw [hqueue]; exact List.mem_singleton_self _
    exact h.queued request hmem hresume saved hsaved htrigger

/-- Continuing an execution at an action that may be run. -/
theorem gates_of_continued {start : Option UUID} {resume : Bool} {id : UUID} {w w' : World σ}
    (h : Gated (storedTrigger workflowId w) w.log) (hqueue : w.requestQueue = [])
    (hready : resume = true → ∀ saved, w.savedState executionId = some saved →
      storedTrigger workflowId w saved.actionId = true → Answered w.log saved.actionId)
    (hc : Continued id executionId start resume w w') : Gates executionId workflowId w' := by
  have htriggers := @storedTrigger_congr _ workflowId _ _ hc.workflows
  have hsaved : w'.savedState executionId = w.savedState executionId := by
    rw [World.savedState, hc.savedWorkflow, World.savedState]
  refine ⟨by rw [htriggers, hc.log]; exact h, ?_⟩
  rw [htriggers, hsaved, hc.log]
  intro request hrequest hresume
  rcases hc.requestQueue with hsame | ⟨request', hqueued, hpushed⟩
  · rw [hsame, hqueue] at hrequest
    cases hrequest
  · rw [hpushed, hqueue, List.nil_append, List.mem_singleton] at hrequest
    subst hrequest
    rw [hqueued.resume] at hresume
    exact hready hresume

/-- **Every step that bypasses no trigger keeps the gates.** -/
theorem gates_step {env : Env σ} {w w' : World σ} {op : LifecycleOp}
    (horderly : Orderly executionId workflowId w) (h : Gates executionId workflowId w)
    (hok : BypassesNoTrigger env executionId w op)
    (hstep : LifecycleStep env executionId w op w') : Gates executionId workflowId w' := by
  cases op with
  | work thread control turns => exact gates_work horderly h hok hstep
  | resume user =>
    obtain rfl := Option.some.inj hstep
    rcases resumeWorkflow_cases executionId user w with hsame | ⟨row, start, hrow, hpaused, -, hc⟩
    · rw [hsame]
      exact h
    · have hstatus := status_eq_of_row hrow
      rw [hpaused] at hstatus
      refine gates_of_continued h.gated (horderly.queue_eq_nil hstatus (by decide)) ?_ hc
      intro _ saved hsaved htrigger
      have hnone := hok hstatus saved hsaved
      rw [horderly.saved saved hsaved, htrigger] at hnone
      cases hnone
  | answer dataIn arguments user =>
    unfold LifecycleStep lifecycleStep at hstep
    dsimp only at hstep
    split at hstep
    case isFalse => cases hstep
    case isTrue hwaiting =>
      obtain rfl := Option.some.inj hstep
      have hnil := horderly.queue_eq_nil hwaiting (by decide)
      cases resumeTriggerStep_cases env executionId dataIn arguments user w with
      | unanswered hframe =>
        refine ⟨?_, ?_⟩
        · rw [storedTrigger_congr hframe.workflows]
          refine KeepsGates.of_logs (Logs.mono hframe.log fun entry hentry => ?_) h.gated
          obtain ⟨a, rfl⟩ := hentry
          intro action arguments instanceKey heq
          cases heq
        · rw [hframe.requestQueue, hnil]
          rintro request ⟨⟩
      | @answered saved w₁ hsaved hframe hcontinued =>
        have hlog : (w₁.logged (.trigger saved.actionId true)).log =
            w.log ++ [.trigger saved.actionId true] := by
          rw [World.logged, hframe.log_eq]
        have htriggers : storedTrigger workflowId (w₁.logged (.trigger saved.actionId true)) =
            storedTrigger workflowId w := storedTrigger_congr hframe.workflows
        have hgated : Gated (storedTrigger workflowId (w₁.logged (.trigger saved.actionId true)))
            (w₁.logged (.trigger saved.actionId true)).log := by
          rw [htriggers, hlog]
          refine h.gated.append fun action arguments instanceKey hmem => ?_
          cases List.mem_singleton.mp hmem
        have hqueue : (w₁.logged (.trigger saved.actionId true)).requestQueue = [] :=
          hframe.requestQueue.trans hnil
        rcases hcontinued with hsame | hc
        · rw [hsame]
          refine ⟨hgated, ?_⟩
          rw [hqueue]
          rintro request ⟨⟩
        · refine gates_of_continued hgated hqueue ?_ hc
          intro _ saved' hsaved' _
          have hkept : w.savedState executionId = some saved' :=
            (hframe.savedState executionId).symm.trans hsaved'
          rw [hsaved, Option.some.injEq] at hkept
          subst hkept
          rw [hlog]
          exact answered_concat w.log saved.actionId
  | abort =>
    obtain rfl := Option.some.inj hstep
    cases abortWorkflow_cases executionId w with
    | told published heq =>
      rw [heq]
      exact ⟨h.gated, h.queued⟩
    | aborted row hrow heq =>
      rw [heq]
      refine ⟨h.gated, fun request _ _ saved hsaved => ?_⟩
      rw [savedState_filter (w := w) rfl] at hsaved
      cases hsaved

/-- At the start the gates hold. -/
theorem gates_start (behaviour : σ) (workflows : List Workflow) (workflowId executionId : UUID)
    (start : Option UUID) (startArguments : List Argument)
    (environmentVariables : List EnvironmentVariable) (user : Option String) :
    Gates executionId workflowId (lifecycleStart behaviour workflows workflowId executionId start
      startArguments environmentVariables user) := by
  have hgated : Gated (storedTrigger workflowId (World.start behaviour workflows)) [] := by
    intro before action arguments instanceKey after hsplit
    simp at hsplit
  rcases executeWorkflow_cases workflowId executionId start startArguments false
    environmentVariables user (World.start behaviour workflows) with hsame | hc
  · rw [lifecycleStart, hsame]
    exact ⟨hgated, by rintro request ⟨⟩⟩
  · exact gates_of_continued hgated rfl (by rintro ⟨⟩) hc

/-- **Triggers gate their actions** in every run that bypasses no trigger. -/
theorem triggers_gated {env : Env σ} {behaviour : σ} {workflows : List Workflow}
    {start : Option UUID} {startArguments : List Argument}
    {environmentVariables : List EnvironmentVariable} {user : Option String}
    {ops : List LifecycleOp} {w : World σ}
    (hrun : Run (Guarded (LifecycleStep env executionId) (BypassesNoTrigger env executionId))
      (lifecycleStart behaviour workflows workflowId executionId start startArguments
        environmentVariables user) ops w) :
    Gated (storedTrigger workflowId w) w.log := by
  have hstart := orderly_start behaviour workflows workflowId executionId start startArguments
    environmentVariables user
  have hgates := gates_start behaviour workflows workflowId executionId start startArguments
    environmentVariables user
  have hinvariant := hrun.invariant
    (I := fun w => Orderly executionId workflowId w ∧ Gates executionId workflowId w)
    (fun _ _ _ h hstep => ⟨orderly_step env h.1 hstep.2, gates_step h.1 h.2 hstep.1 hstep.2⟩)
    ⟨hstart, hgates⟩
  exact hinvariant.2.gated

/-- The app of the sample whose function returns the status `trigger`. -/
def triggering : Env Unit :=
  sampleEnv fun _ => { result := .none, status := some "trigger" }

/-- An execution awaits data at its only action, is answered, and runs it. -/
theorem triggers_gated_answer :
    ∃ w, Run (Guarded (LifecycleStep triggering 7) (BypassesNoTrigger triggering 7))
        (lifecycleStart () [sampleWorkflow [sampleAction 1 (some sampleTrigger)] []] 100 7 none [] []
          none)
        [.work "Thread-1" undisturbed 1, .answer .none [] none, .work "Thread-1" undisturbed 1] w ∧
      .appFunction 1 [] none ∈ w.log ∧ Gated (storedTrigger 100 w) w.log := by
  have hrun : (follow (lifecycleStep triggering 7)
      (lifecycleStart () [sampleWorkflow [sampleAction 1 (some sampleTrigger)] []] 100 7 none [] []
        none)
      [.work "Thread-1" undisturbed 1, .answer .none [] none, .work "Thread-1" undisturbed 1]).any
        (fun w => .appFunction 1 [] none ∈ w.log) = true := by
    decide +kernel
  obtain ⟨w, hw, hcalled⟩ := (Option.any_eq_true _ _).mp hrun
  have hguarded := @Guarded.of_forall _ _ _ (BypassesNoTrigger triggering 7) _ _ _
    (.of_follow hw) ?_
  · exact ⟨w, hguarded, of_decide_eq_true hcalled, triggers_gated hguarded⟩
  · -- a run of one turn has no later action
    have hwork : ∀ w, BypassesNoTrigger triggering 7 w (.work "Thread-1" undisturbed 1) := by
      rintro w request requests - - ⟨ctx, w₁, start, k, vars, w', -, -, hpos, hk, -⟩
      omega
    simp only [List.forall_mem_cons, List.not_mem_nil, false_imp_iff, implies_true, and_true]
    exact ⟨hwork, fun _ => trivial, hwork⟩

/-- An execution is paused at its first action and resumed: the resumed run goes on to its
second action, which has a trigger, and calls its app function at once. -/
theorem resumed_run_passes_trigger :
    ∃ w, Run (LifecycleStep succeeding 7)
        (lifecycleStart () [twoActions none (some sampleTrigger)] 100 7 none [] [] none)
        [.work "Thread-1" (pausedAt 0) 3, .resume none, .work "Thread-1" undisturbed 3] w ∧
      ¬ Gated (storedTrigger 100 w) w.log := by
  have hrun : (follow (lifecycleStep succeeding 7)
      (lifecycleStart () [twoActions none (some sampleTrigger)] 100 7 none [] [] none)
      [.work "Thread-1" (pausedAt 0) 3, .resume none, .work "Thread-1" undisturbed 3]).any
        (fun w => storedTrigger 100 w 2 ∧ .trigger 2 true ∉ w.log ∧ .appFunction 2 [] none ∈ w.log) =
      true := by
    decide +kernel
  obtain ⟨w, hw, hlog⟩ := (Option.any_eq_true _ _).mp hrun
  obtain ⟨htrigger, hnever, hcalled⟩ := of_decide_eq_true hlog
  refine ⟨w, .of_follow hw, fun hgated => hnever ?_⟩
  obtain ⟨before, after, hsplit⟩ := List.append_of_mem hcalled
  obtain ⟨earlier, later, hanswered, -⟩ := hgated before 2 [] none after hsplit htrigger
  rw [hsplit, hanswered]
  simp

end Walkoff.Analysis
