import Walkoff.Analysis.ActionCalls
import Walkoff.Analysis.Receivers
import Walkoff.Analysis.Requests
import Walkoff.Program.Interleavings

/-!
# How a run leaves the tables

A run of the loop ends in one of four ways as far as the tables are concerned: it saves
nothing and reports nothing, it ends the execution, it saves the workflow, or it is refused
to save it. `WorkEnds` says what is then left when the controller has received the packets.
-/

set_option autoImplicit false

namespace Walkoff.Analysis

open Walkoff.Model Walkoff.Program
open Walkoff.Library (EndsAt Ended exists_endsAt OrderedDict bind_apply finalState)

variable {σ : Type}

/-! ## The run of the loop -/

/-- A run saves nothing and sends nothing that changes the status. -/
abbrev Ordinary (executionId : UUID) (w w' : World σ) : Prop :=
  Frame RunEntry (Inner executionId) w w'

/-- The tables and the log after the end of a run, in terms of the world it is entered in. -/
structure EndsWith (w w' : World σ) (saved : List SavedWorkflow) (entries : List Obs)
    (packets : List Packet) : Prop where
  workflows : w'.workflows = w.workflows
  workflowStatus : w'.workflowStatus = w.workflowStatus
  requestQueue : w'.requestQueue = w.requestQueue
  savedWorkflow : w'.savedWorkflow = w.savedWorkflow ++ saved
  log : w'.log = w.log ++ entries
  sent : w'.sent = w.sent ++ packets

/-- The ends of a run. `cause` is what it takes for the run to be refused. -/
inductive RunEnds (executionId workflowId : UUID) (cause : Prop) (w w' : World σ) : Prop where
  | silent (h : Ordinary executionId w w')
  /-- The execution is completed or aborted. -/
  | ended {w₁ : World σ} {packet : Packet} (h : Ordinary executionId w w₁)
    (hid : packet.executionId = executionId) (hevent : endsExecution packet.event = true)
    (hend : EndsWith w₁ w' [] [] [packet])
  /-- The workflow is saved; an await that cannot be encoded is not reported. -/
  | halted {w₁ : World σ} (saved : SavedWorkflow) (entries : List Obs) (packets : List Packet)
    (h : Ordinary executionId w w₁) (hnone : w₁.savedState executionId = none)
    (hsaved : saved.workflowExecutionId = executionId ∧ saved.workflowId = workflowId)
    (hentries : ∀ entry ∈ entries, entry = .awaiting saved.actionId)
    (hone : packets.length ≤ 1)
    (hpackets : ∀ p ∈ packets, p.executionId = executionId ∧ p.event.savesWorkflow = true)
    (hend : EndsWith w₁ w' [saved] (.saved saved.actionId true :: entries) packets)
  /-- The workflow cannot be saved. -/
  | refused {w₁ : World σ} {action : UUID} (h : Ordinary executionId w w₁) (hcause : cause)
    (hend : EndsWith w₁ w' [] [.saved action false] [])

/-- A run ends the same after an ordinary stretch before it. -/
theorem RunEnds.after {executionId workflowId : UUID} {cause cause' : Prop} {u v w : World σ}
    (hcause' : cause → cause') (huv : Ordinary executionId u v)
    (h : RunEnds executionId workflowId cause v w) :
    RunEnds executionId workflowId cause' u w := by
  cases h with
  | silent h => exact .silent (huv.trans h)
  | ended h hid hevent hend => exact .ended (huv.trans h) hid hevent hend
  | halted saved entries packets h hnone hsaved hentries hone hpackets hend =>
    exact .halted saved entries packets (huv.trans h) hnone hsaved hentries hone hpackets hend
  | refused h hcause hend => exact .refused (huv.trans h) (hcause' hcause) hend

section

variable {env : Env σ} {control : ℕ → Control} {resume : Bool}

/-- A shutdown is an end of a run. -/
theorem runEnds_shutdown (env : Env σ) (ctx : Context) (w : World σ) :
    RunEnds ctx.executionId ctx.workflow.id False w (finalState (shutdown env ctx w)) := by
  rw [shutdown_eq]
  cases ((w.accumulators ctx.executionId).asJson ctx.executionId).dumps with
  | error e =>
    exact .silent ⟨rfl, rfl, rfl, rfl, rfl, rfl, ⟨[], by simp [finalState]⟩,
      ⟨[], by simp [finalState]⟩⟩
  | ok text =>
    exact .ended (Std.Refl.refl w) rfl rfl ⟨rfl, rfl, rfl, (List.append_nil _).symm,
      (List.append_nil _).symm, rfl⟩

/-- A pause is an end of a run, refused exactly if its state cannot be saved. -/
theorem runEnds_paused {o : Origin} {action : Action} (haction : o.executingAction = some action)
    (w : World σ) :
    RunEnds o.executionId o.workflowId (saveRefusal env o.executionId w).isSome w
      (finalState (sendEvent env o .workflowPaused none w)) := by
  rw [sendEvent_paused env haction]
  cases hrefusal : saveRefusal env o.executionId w with
  | none =>
    have hsaved := (saveRefusal_eq_none_iff.mp hrefusal).2
    refine .halted (savedWorkflowFromWorkflow o action w.instances) []
      [workflowPacket o .workflowPaused "null"] (Std.Refl.refl w) hsaved ⟨rfl, rfl⟩ (by simp)
      le_rfl ?_
      ⟨rfl, rfl, rfl, rfl, rfl, rfl⟩
    intro p hp
    rw [List.mem_singleton.mp hp]
    exact ⟨rfl, rfl⟩
  | some e =>
    have hend : EndsWith w (w.logged (.saved action.id false)) [] [.saved action.id false] [] :=
      ⟨rfl, rfl, rfl, (List.append_nil _).symm, rfl, (List.append_nil _).symm⟩
    exact .refused (Std.Refl.refl w) rfl hend

/-- The same of an await. -/
theorem runEnds_awaitData {o : Origin} {action : Action} (haction : o.executingAction = some action)
    (sender : Sender) (w : World σ) :
    RunEnds o.executionId o.workflowId (saveRefusal env o.executionId w).isSome w
      (finalState (awaitData env o action sender w)) := by
  rw [awaitData_eq env haction]
  cases hrefusal : saveRefusal env o.executionId w with
  | some e =>
    have hend : EndsWith w (w.logged (.saved action.id false)) [] [.saved action.id false] [] :=
      ⟨rfl, rfl, rfl, (List.append_nil _).symm, rfl, (List.append_nil _).symm⟩
    exact .refused (Std.Refl.refl w) rfl hend
  | none =>
    have hsaved := (saveRefusal_eq_none_iff.mp hrefusal).2
    dsimp only
    cases hpacket : awaitPacket o sender with
    | error e =>
      exact .halted (savedWorkflowFromWorkflow o action w.instances) [] [] (Std.Refl.refl w) hsaved
        ⟨rfl, rfl⟩ (by simp) (Nat.zero_le 1) (by simp)
        ⟨rfl, rfl, rfl, rfl, rfl, (List.append_nil _).symm⟩
    | ok packet =>
      obtain ⟨hevent, hid⟩ := awaitPacket_event hpacket
      have hlog : (w.log ++ [.saved action.id true]) ++ [.awaiting action.id] =
          w.log ++ [.saved action.id true, .awaiting action.id] := List.append_assoc ..
      refine .halted (savedWorkflowFromWorkflow o action w.instances) [.awaiting action.id] [packet]
        (Std.Refl.refl w) hsaved ⟨rfl, rfl⟩ (by simp [savedWorkflowFromWorkflow]) le_rfl ?_
        ⟨rfl, rfl, rfl, rfl, hlog, rfl⟩
      intro p hp
      rw [List.mem_singleton.mp hp, hevent]
      exact ⟨hid, rfl⟩

/-- An action that waits for data gets to its await, and the execution cannot be saved there: the
app instances do not pickle, or it has a saved state. -/
def AwaitRefused (env : Env σ) (o : Origin) (action : Action) (arguments : List Argument)
    (resume : Bool) (w : World σ) : Prop :=
  (action.trigger.isSome && !resume) = true ∧ ∃ key device,
    instanceKeyOf action (w.accumulators o.executionId) = .ok key ∧
      startedWith action arguments (w.accumulators o.executionId) = .ok device ∧
      (saveRefusal env o.executionId (withInstance env key w)).isSome

/-- Executing an action is ordinary, or ends in an await. -/
theorem runEnds_performAction {o : Origin} {action : Action}
    (haction : o.executingAction = some action) (arguments : List Argument) (w : World σ) :
    RunEnds o.executionId o.workflowId (AwaitRefused env o action arguments resume w) w
      (finalState (performAction env o action arguments resume w)) := by
  cases hwaits : (action.trigger.isSome && !resume) with
  | false => exact .silent (frame_performAction_run env o hwaits arguments w)
  | true =>
    rcases performAction_awaits_at env o action arguments hwaits w with ⟨e, w₁, hraised, hframe⟩ |
      ⟨key, device, sender, w₁, hkey, hstarted, hframe, hawait, hrefusal⟩
    · rw [hraised]
      exact .silent (hframe.mono (fun _ h => h.elim) fun _ h => h)
    · rw [hawait]
      refine (runEnds_awaitData haction sender w₁).after (fun hcause => ?_)
        (hframe.mono (fun _ h => h.elim) fun _ h => h)
      rw [hrefusal] at hcause
      exact ⟨hwaits, key, device, hkey, hstarted, hcause⟩

/-- A turn gets to a pause or to an await that cannot be saved. -/
inductive TurnRefused (env : Env σ) (control : ℕ → Control) (resume : Bool) (vars : LoopVars)
    (w : World σ) : Prop where
  | pause {action : Action} {vars' : LoopVars} {w₁ w₂ : World σ}
    (henters : Enters env control resume vars w action vars' w₁ w₂)
    (hpaused : vars'.ctx.isPaused = true)
    (hrefused : (saveRefusal env vars'.ctx.executionId w₂).isSome)
  | await {action : Action} {vars' : LoopVars} {w₁ w₂ : World σ}
    (henters : Enters env control resume vars w action vars' w₁ w₂)
    (hpaused : vars'.ctx.isPaused = false) (haborted : vars'.ctx.isAborted = false)
    (hrefused : AwaitRefused env vars'.ctx.origin action vars.startArguments resume w₂)

/-- **The end of a turn** is the end of the run it is the last turn of. -/
theorem runEnds_loopTurn (env : Env σ) (control : ℕ → Control) (resume : Bool) (vars : LoopVars)
    (w : World σ) :
    RunEnds vars.ctx.executionId vars.ctx.workflow.id
      (TurnRefused env control resume vars w) w
      (finalState (loopTurn env control resume vars w)) := by
  have henter : ∀ {action : Action} {vars' : LoopVars} {w₁ w₂ w' : World σ} {cause : Prop},
      (cause → TurnRefused env control resume vars w) →
      Enters env control resume vars w action vars' w₁ w₂ →
        RunEnds vars'.ctx.origin.executionId vars'.ctx.origin.workflowId cause w₂ w' →
          RunEnds vars.ctx.executionId vars.ctx.workflow.id
            (TurnRefused env control resume vars w) w w' := by
    intro action vars' w₁ w₂ w' cause hcause henters hends
    have hid : vars'.ctx.origin.executionId = vars.ctx.executionId := henters.executionId
    have hworkflow : vars'.ctx.origin.workflowId = vars.ctx.workflow.id :=
      congrArg Workflow.id henters.workflow
    rw [hid, hworkflow] at hends
    exact hends.after hcause henters.frame
  have hshutdown : ∀ {actions : ActionIter} {ctx : Context} {w₁ : World σ},
      vars.actions.next env vars.ctx w = .ok (none, actions, ctx) w₁ →
        RunEnds vars.ctx.executionId vars.ctx.workflow.id
          (TurnRefused env control resume vars w) w
          (finalState (shutdown env ctx w₁)) := by
    intro actions ctx w₁ hnext
    obtain ⟨hid, hworkflow⟩ := next_executionId env hnext
    have hends := runEnds_shutdown env ctx w₁
    rw [show ctx.executionId = _ from hid, show ctx.workflow = _ from hworkflow] at hends
    exact hends.after False.elim (frame_next_run hnext)
  have hperform : ∀ {action : Action} {vars' : LoopVars} {w₁ w₂ : World σ}
      {r : EStateM.Result Exn (World σ) ActionReturn},
      Enters env control resume vars w action vars' w₁ w₂ →
        vars'.ctx.isPaused = false → vars'.ctx.isAborted = false →
        performAction env vars'.ctx.origin action vars.startArguments resume w₂ = r →
          RunEnds vars.ctx.executionId vars.ctx.workflow.id
            (TurnRefused env control resume vars w) w (finalState r) := by
    rintro action vars' w₁ w₂ _ henters hpaused haborted rfl
    exact henter (fun hrefused => .await henters hpaused haborted hrefused) henters
      (runEnds_performAction henters.executingAction _ _)
  have hcases := loopTurn_cases env control resume vars w
  generalize loopTurn env control resume vars w = r at hcases
  cases hcases with
  | branchingRaised hnext =>
    have hframe := (frame_next env vars.ctx vars.actions).of_error hnext
    exact .silent (hframe.mono (fun _ h => TriesBranches.runEntry h) fun _ h => h)
  | shutDown hnext h =>
    have hends := hshutdown hnext
    rw [h] at hends
    exact hends
  | shutdownRaised hnext h =>
    have hends := hshutdown hnext
    rw [h] at hends
    exact hends
  | @paused action vars' w₁ w₂ w' henters hpaused h =>
    have hends := @runEnds_paused σ env vars'.ctx.origin action henters.executingAction w₂
    rw [h] at hends
    exact henter (fun hrefused => .pause henters hpaused hrefused) henters hends
  | @pauseRaised action vars' w₁ w₂ w' e henters hpaused h =>
    have hends := @runEnds_paused σ env vars'.ctx.origin action henters.executingAction w₂
    rw [h] at hends
    exact henter (fun hrefused => .pause henters hpaused hrefused) henters hends
  | @aborted action vars' w₁ w₂ w' henters _ _ h =>
    rw [sendEvent_aborted] at h
    cases h
    have hend : EndsWith w₂ (w₂.withPacket (workflowPacket vars'.ctx.origin .workflowAborted "null"))
        [] [] [workflowPacket vars'.ctx.origin .workflowAborted "null"] :=
      ⟨rfl, rfl, rfl, (List.append_nil _).symm, (List.append_nil _).symm, rfl⟩
    exact henter False.elim henters (.ended (Std.Refl.refl w₂) rfl rfl hend)
  | abortRaised henters _ _ h =>
    rw [sendEvent_aborted] at h
    cases h
  | actionRaised henters hpaused haborted h => exact hperform henters hpaused haborted h
  | awaited henters hpaused haborted h => exact hperform henters hpaused haborted h
  | triggerStatus henters hpaused haborted h => exact hperform henters hpaused haborted h
  | executed henters hpaused haborted h _ => exact hperform henters hpaused haborted h

/-- A run of the loop ends, within its turns, in a halt that cannot be saved. -/
def LoopRefused (env : Env σ) (control : ℕ → Control) (resume : Bool) (turns : ℕ) (vars : LoopVars)
    (w : World σ) : Prop :=
  ∃ vars' w', EndsAt (loopTurn env control resume) turns vars w vars' w' ∧
    TurnRefused env control resume vars' w'

/-- **A run of the loop ends like its last turn.** -/
theorem runEnds_runLoop {turns : ℕ} {vars : LoopVars} {w : World σ}
    (hended : Ended (runLoop env control resume turns vars w)) :
    RunEnds vars.ctx.executionId vars.ctx.workflow.id
      (LoopRefused env control resume turns vars w) w
      (finalState (runLoop env control resume turns vars w)) := by
  obtain ⟨vars', w', hends⟩ := exists_endsAt hended
  obtain ⟨_, -, hreach⟩ := hends.reaches
  obtain ⟨hframe, hid, hworkflow⟩ := frame_reaches hreach
  have hturn := runEnds_loopTurn env control resume vars' w'
  rw [hid, hworkflow] at hturn
  rw [runLoop, hends.finalState_loop]
  exact hturn.after (fun hcause => ⟨vars', w', hends, hcause⟩) hframe

end

/-! ## A call of `execute` -/

/-- Announcing the start sends the packet for it and no more. -/
theorem endsWith_announceStart (env : Env σ) (ctx : Context)
    (environmentVariables : List EnvironmentVariable) (w : World σ) :
    EndsWith w (finalState (announceStart env ctx environmentVariables w)) [] []
      [workflowPacket ctx.origin .workflowExecutionStart "null"] := by
  unfold announceStart fileEnvironmentVariables
  split
  · exact ⟨rfl, rfl, rfl, (List.append_nil _).symm, (List.append_nil _).symm, rfl⟩
  · exact ⟨rfl, rfl, rfl, (List.append_nil _).symm, (List.append_nil _).symm, rfl⟩

/-- A run that has announced its start ends in a halt that cannot be saved. -/
def RunRefused (env : Env σ) (control : ℕ → Control) (turns : ℕ) (request : Request) (ctx : Context)
    (w : World σ) : Prop :=
  ∃ start, (request.start.or ctx.workflow.start).or ctx.workflow.start = some start ∧
    LoopRefused env control request.resume turns
      { ctx, actions := .fresh start, startArguments := request.startArguments, boundary := 0 } w

/-- A run that has announced its start ends like its loop. -/
theorem runEnds_strategyRest {env : Env σ} {control : ℕ → Control} {turns : ℕ} {request : Request}
    {ctx : Context} {w : World σ} (hended : Ended (strategyRest env control turns request ctx w)) :
    RunEnds ctx.executionId ctx.workflow.id (RunRefused env control turns request ctx w) w
      (finalState (strategyRest env control turns request ctx w)) := by
  unfold strategyRest at hended ⊢
  cases hstart : (request.start.or ctx.workflow.start).or ctx.workflow.start with
  | none => exact .silent (Std.Refl.refl w)
  | some start =>
    rw [hstart] at hended
    exact (runEnds_runLoop hended).after (fun hcause => ⟨start, hstart, hcause⟩) (Std.Refl.refl w)

/-- The run of a request announces its start and then runs the loop. -/
theorem runEnds_runRequest {env : Env σ} {control : ℕ → Control} {turns : ℕ} {request : Request}
    {ctx : Context} {w : World σ} (hended : Ended (runRequest env control turns request ctx w)) :
    RunEnds ctx.executionId ctx.workflow.id True
      (finalState (announceStart env ctx request.environmentVariables w))
      (finalState (runRequest env control turns request ctx w)) := by
  obtain ⟨w₁, hannounce⟩ := announceStart_ok env ctx request.environmentVariables w
  rw [runRequest_eq, bind_apply, hannounce] at hended ⊢
  exact (runEnds_strategyRest hended).after (fun _ => trivial) (Std.Refl.refl w₁)

/-- The world a call enters the loop in. -/
def announced (env : Env σ) (thread : String) (request : Request) (ctx : Context) (w : World σ) : World σ :=
  finalState (announceStart env ctx request.environmentVariables (finalState (register thread ctx w)))

/-- The run of a request has its last turn with the variables `vars` in the world `v`. -/
def LastTurnAt (env : Env σ) (control : ℕ → Control) (turns : ℕ) (thread : String)
    (request : Request) (w : World σ) (vars : LoopVars) (v : World σ) : Prop :=
  ∃ ctx w₁ start, prepare env request w = .ok (some ctx) w₁ ∧
    (request.start.or ctx.workflow.start).or ctx.workflow.start = some start ∧
    EndsAt (loopTurn env control request.resume) turns
      { ctx, actions := .fresh start, startArguments := request.startArguments, boundary := 0 }
      (announced env thread request ctx w₁) vars v

/-- A run has one last turn. -/
theorem LastTurnAt.unique {env : Env σ} {control : ℕ → Control} {turns : ℕ} {thread : String}
    {request : Request} {w v v' : World σ} {vars vars' : LoopVars}
    (h : LastTurnAt env control turns thread request w vars v)
    (h' : LastTurnAt env control turns thread request w vars' v') : vars = vars' ∧ v = v' := by
  obtain ⟨ctx, w₁, start, hprepare, hstart, hends⟩ := h
  obtain ⟨ctx', w₁', start', hprepare', hstart', hends'⟩ := h'
  rw [hprepare] at hprepare'
  cases hprepare'
  rw [hstart] at hstart'
  cases hstart'
  exact hends.unique hends'

/-- **A call with a context** ends with the last turn of its run, unless there is no action to
start from. -/
theorem execute_lastTurn {env : Env σ} {control : ℕ → Control} {turns : ℕ} {thread : String}
    {request : Request} {ctx : Context} {w w₁ : World σ}
    (hprepare : prepare env request w = .ok (some ctx) w₁)
    (hended : Ended (execute env control turns thread request w)) :
    ∃ v, finalState (execute env control turns thread request w) = { v with executingWorkflows :=
        (finalState (execute env control turns thread request w)).executingWorkflows } ∧
      (v = announced env thread request ctx w₁ ∧
          (∀ vars v₁, ¬ LastTurnAt env control turns thread request w vars v₁) ∨ ∃ vars v₁,
        LastTurnAt env control turns thread request w vars v₁ ∧
        v = finalState (loopTurn env control request.resume vars v₁)) := by
  refine ⟨_, execute_finalState_of_context control turns thread hprepare, ?_⟩
  have hrun := (ended_execute_of_context hprepare).mp hended
  obtain ⟨w₂, hannounce⟩ := announceStart_ok env ctx request.environmentVariables
    (finalState (register thread ctx w₁))
  have hannounced : announced env thread request ctx w₁ = w₂ := by
    rw [announced, hannounce]
    rfl
  unfold runRequest strategyExecute at hrun ⊢
  rw [bind_apply, hannounce] at hrun ⊢
  dsimp only at hrun ⊢
  cases hstart : (request.start.or ctx.workflow.start).or ctx.workflow.start with
  | none =>
    refine .inl ⟨hannounced.symm, ?_⟩
    rintro vars v₁ ⟨ctx', w₁', start, hprepare', hstart', -⟩
    rw [hprepare] at hprepare'
    cases hprepare'
    rw [hstart] at hstart'
    cases hstart'
  | some start =>
    rw [hstart] at hrun
    obtain ⟨vars, v₁, hends⟩ := exists_endsAt hrun
    refine .inr ⟨vars, v₁, ⟨ctx, w₁, start, hprepare, hstart, ?_⟩, ?_⟩
    · rw [hannounced]
      exact hends
    · exact hends.finalState_loop

/-- **A call that runs** announces the start and ends like its run; the registry apart, it
leaves the world of the run. -/
theorem runEnds_execute {env : Env σ} {control : ℕ → Control} {turns : ℕ} {thread : String}
    {request : Request} {w : World σ} (hstartable : Startable request w)
    (hended : Ended (execute env control turns thread request w)) :
    ∃ workflow start w₁ w₂, w.workflow request.workflowId = some workflow ∧
      start.executionId = request.executionId ∧ start.event = .workflowExecutionStart ∧
      EndsWith w w₁ [] [] [start] ∧
      RunEnds request.executionId workflow.id True w₁ w₂ ∧
      finalState (execute env control turns thread request w) = { w₂ with executingWorkflows :=
        (finalState (execute env control turns thread request w)).executingWorkflows } := by
  obtain ⟨workflow, user, w₁, hworkflow, hctx⟩ := prepare_of_startable env hstartable
  have hprepare := (frame_prepare (P := Never) (E := Never) env request).of_ok hctx
  have hrun := (ended_execute_of_context hctx).mp hended
  have hfinal := execute_finalState_of_context control turns thread hctx
  have hannounce := endsWith_announceStart env (newContext workflow request.executionId user)
    request.environmentVariables
    (finalState (register thread (newContext workflow request.executionId user) w₁))
  have hends := runEnds_runRequest hrun
  obtain ⟨entries, hlog, hnever⟩ := hprepare.log
  obtain ⟨packets, hsent, hnever'⟩ := hprepare.sent
  have hentries : entries = [] := List.eq_nil_iff_forall_not_mem.mpr hnever
  have hpackets : packets = [] := List.eq_nil_iff_forall_not_mem.mpr hnever'
  rw [hentries, List.append_nil] at hlog
  rw [hpackets, List.append_nil] at hsent
  refine ⟨workflow, workflowPacket (newContext workflow request.executionId user).origin
    .workflowExecutionStart "null", _, _, hworkflow, rfl, rfl, ⟨?_, ?_, ?_, ?_, ?_, ?_⟩, hends, hfinal⟩
  · exact hannounce.workflows.trans hprepare.workflows
  · exact hannounce.workflowStatus.trans hprepare.workflowStatus
  · exact hannounce.requestQueue.trans hprepare.requestQueue
  · exact hannounce.savedWorkflow.trans (congrArg (· ++ []) hprepare.savedWorkflow)
  · exact hannounce.log.trans (congrArg (· ++ []) hlog)
  · exact hannounce.sent.trans (congrArg (· ++ [_]) hsent)

/-! ## A request worked off -/

/-- The tables and the log after a request has been worked off. -/
structure After (executionId : UUID) (row : WorkflowStatus) (w w' : World σ)
    (status : WorkflowStatusEnum) (saved : List SavedWorkflow) (entries : List Obs) : Prop where
  workflows : w'.workflows = w.workflows
  row : OrderedDict.get? executionId w'.workflowStatus = some { row with status }
  savedWorkflow : w'.savedWorkflow = saved
  log : ∃ new, w'.log = w.log ++ (new ++ entries) ∧ ∀ entry ∈ new, RunEntry entry

/-- **What working off a request leaves behind.** -/
inductive WorkEnds (executionId workflowId : UUID) (row : WorkflowStatus) (w w' : World σ) :
    Prop where
  /-- The request cannot be started, or its run ends without a word. -/
  | kept (status : WorkflowStatusEnum)
    (hstatus : status = row.status ∨ row.status ≠ .aborted ∧ status = .running)
    (h : After executionId row w w' status w.savedWorkflow [])
  | ended (status : WorkflowStatusEnum) (hstatus : status = .completed ∨ status = .aborted)
    (h : After executionId row w w' status
      (w.savedWorkflow.filter (·.workflowExecutionId ≠ executionId)) [])
  | halted (status : WorkflowStatusEnum) (saved : SavedWorkflow) (entries : List Obs)
    (hstatus : status ≠ .completed ∧ status ≠ .aborted ∧ status ≠ .pending)
    (hnone : w.savedState executionId = none)
    (hsaved : saved.workflowExecutionId = executionId ∧ saved.workflowId = workflowId)
    (hentries : ∀ entry ∈ entries, entry = .awaiting saved.actionId)
    (h : After executionId row w w' status (w.savedWorkflow ++ [saved])
      (.saved saved.actionId true :: entries))
  | refused (action : UUID)
    (h : After executionId row w w' .running w.savedWorkflow [.saved action false])

/-- Working a request off leaves the workflows. -/
theorem WorkEnds.workflows {executionId workflowId : UUID} {row : WorkflowStatus}
    {w w' : World σ} (h : WorkEnds executionId workflowId row w w') :
    w'.workflows = w.workflows := by
  cases h with
  | kept _ _ h => exact h.workflows
  | ended _ _ h => exact h.workflows
  | halted _ _ _ _ _ _ _ h => exact h.workflows
  | refused _ h => exact h.workflows

/-- Inner packets change neither the status nor the saved states. -/
theorem inner_of_changesStatus {executionId : UUID} {packets : List Packet}
    (h : ∀ p ∈ packets, Inner executionId p) (status : WorkflowStatusEnum) :
    finalStatus status packets = status ∧
      packets.any (fun packet => endsExecution packet.event) = false := by
  induction packets generalizing status with
  | nil => exact ⟨rfl, rfl⟩
  | cons packet packets ih =>
    obtain ⟨hpacket, hrest⟩ := List.forall_mem_cons.mp h
    have hevent := hpacket.2
    have hnone : statusAfter packet.event = none ∧ endsExecution packet.event = false := by
      cases hname : packet.event <;> rw [hname] at hevent <;> first | exact ⟨rfl, rfl⟩ | cases hevent
    obtain ⟨hstatus, hany⟩ := ih hrest status
    refine ⟨?_, ?_⟩
    · rw [show packet :: packets = [packet] ++ packets from rfl, finalStatus_append]
      simpa [finalStatus, hnone.1] using hstatus
    · simpa [hnone.2] using hany

/-- Packets that save the workflow neither end its execution nor make it pending. -/
theorem finalStatus_of_saves {packets : List Packet}
    (h : ∀ p ∈ packets, p.event.savesWorkflow = true) (status : WorkflowStatusEnum)
    (hstatus : status ≠ .completed ∧ status ≠ .aborted ∧ status ≠ .pending) :
    (finalStatus status packets ≠ .completed ∧ finalStatus status packets ≠ .aborted ∧
        finalStatus status packets ≠ .pending) ∧
      packets.any (fun packet => endsExecution packet.event) = false := by
  induction packets generalizing status with
  | nil => exact ⟨hstatus, rfl⟩
  | cons packet packets ih =>
    obtain ⟨hpacket, hrest⟩ := List.forall_mem_cons.mp h
    have hevent : packet.event = .workflowPaused ∨ packet.event = .triggerActionAwaitingData := by
      cases hname : packet.event <;> rw [hname] at hpacket <;>
        first | exact .inl rfl | exact .inr rfl | cases hpacket
    rcases hevent with hevent | hevent
    · obtain ⟨hfinal, hany⟩ := ih hrest .paused (by decide)
      refine ⟨?_, by rw [List.any_cons, hany, hevent]; rfl⟩
      simpa [finalStatus, hevent, statusAfter] using hfinal
    · obtain ⟨hfinal, hany⟩ := ih hrest .awaitingData (by decide)
      refine ⟨?_, by rw [List.any_cons, hany, hevent]; rfl⟩
      simpa [finalStatus, hevent, statusAfter] using hfinal

/-- Receiving the packets of a run that has started. -/
theorem receiveSince_eq {executionId : UUID} {row : WorkflowStatus} {start : Packet}
    {inner last : List Packet} {sent : List Packet} {w : World σ}
    (hrow : OrderedDict.get? executionId w.workflowStatus = some row)
    (hsent : w.sent = sent ++ (start :: (inner ++ last)))
    (hstart : start.executionId = executionId ∧ start.event = .workflowExecutionStart)
    (hinner : ∀ p ∈ inner, Inner executionId p) (hlast : ∀ p ∈ last, p.executionId = executionId) :
    ∃ workflowStatus,
      receiveSince sent w = { w with
        workflowStatus, savedWorkflow := savedAfter executionId last w.savedWorkflow } ∧
      OrderedDict.get? executionId workflowStatus =
        some { row with status := finalStatus .running last } := by
  have hpackets : ∀ p ∈ start :: (inner ++ last), p.executionId = executionId := by
    intro p hp
    rcases List.mem_cons.mp hp with rfl | hp
    · exact hstart.1
    · exact (List.mem_append.mp hp).elim (fun h => (hinner p h).1) (hlast p)
  obtain ⟨workflowStatus, hreceived, hstatus⟩ := receiveResults_eq hrow hpackets
  obtain ⟨hfinal, hany⟩ := inner_of_changesStatus hinner .running
  have hsaved : savedAfter executionId (start :: (inner ++ last)) w.savedWorkflow =
      savedAfter executionId last w.savedWorkflow := by
    have hends : endsExecution start.event = false := by
      rw [hstart.2]
      rfl
    rw [savedAfter, savedAfter, List.any_cons, List.any_append, hany, hends, Bool.false_or,
      Bool.false_or]
  refine ⟨workflowStatus, ?_, ?_⟩
  · have hdrop : w.sent.drop sent.length = start :: (inner ++ last) := by
      rw [hsent, List.drop_left]
    unfold receiveSince
    rw [hdrop, hreceived, hsaved]
    rfl
  · rw [hstatus, show start :: (inner ++ last) = [start] ++ (inner ++ last) from rfl,
      finalStatus_append, finalStatus_append]
    have hrunning : finalStatus row.status [start] = .running := by
      simp [finalStatus, hstart.2, statusAfter]
    rw [hrunning, hfinal]

/-- Receiving what was sent logs nothing. -/
theorem log_receiveSince (sent : List Packet) (w : World σ) : (receiveSince sent w).log = w.log :=
  sameLog_receiveResults _ w

/-- A step in which a worker works off a request. -/
theorem lifecycleStep_work {env : Env σ} {executionId : UUID} {thread : String}
    {control : ℕ → Control} {turns : ℕ} {w w' : World σ}
    (h : LifecycleStep env executionId w (.work thread control turns) w') :
    ∃ request requests, w.requestQueue = request :: requests ∧
      Ended (execute env control turns thread request { w with requestQueue := requests }) ∧
      w' = receiveSince w.sent (finalState
        (execute env control turns thread request { w with requestQueue := requests })) := by
  unfold LifecycleStep lifecycleStep at h
  cases hqueue : w.requestQueue with
  | nil =>
    rw [hqueue] at h
    cases h
  | cons request requests =>
    rw [hqueue] at h
    refine ⟨request, requests, rfl, ?_⟩
    dsimp only at h
    cases hresult : execute env control turns thread request { w with requestQueue := requests } with
    | error e w₁ =>
      rw [hresult] at h
      exact ⟨trivial, (Option.some.inj h).symm⟩
    | ok progress w₁ =>
      rw [hresult] at h
      cases progress with
      | running vars => cases h
      | returned => exact ⟨trivial, (Option.some.inj h).symm⟩

/-- The receipt of the packets of a run, from what the run has left behind. -/
theorem after_receiveSince {executionId : UUID} {row : WorkflowStatus} {start : Packet}
    {saved : List SavedWorkflow} {entries : List Obs} {last : List Packet} {w w₁ w₂ w₃ : World σ}
    (executingWorkflows : OrderedDict String UUID)
    (hrow : OrderedDict.get? executionId w.workflowStatus = some row)
    (hstart : start.executionId = executionId ∧ start.event = .workflowExecutionStart)
    (hannounce : EndsWith w w₁ [] [] [start]) (hordinary : Ordinary executionId w₁ w₂)
    (hend : EndsWith w₂ w₃ saved entries last) (hlast : ∀ p ∈ last, p.executionId = executionId) :
    After executionId row w (receiveSince w.sent { w₃ with executingWorkflows })
        (finalStatus .running last) (savedAfter executionId last (w.savedWorkflow ++ saved)) entries ∧
      (receiveSince w.sent { w₃ with executingWorkflows }).requestQueue = w.requestQueue := by
  obtain ⟨inner, hinner, hpackets⟩ := hordinary.sent
  obtain ⟨new, hnew, hentries⟩ := hordinary.log
  have hsent : w₃.sent = w.sent ++ (start :: (inner ++ last)) := by
    rw [hend.sent, hinner, hannounce.sent]
    simp only [List.append_assoc, List.cons_append, List.nil_append]
  have hrow₃ : OrderedDict.get? executionId w₃.workflowStatus = some row := by
    rw [hend.workflowStatus, hordinary.workflowStatus, hannounce.workflowStatus, hrow]
  obtain ⟨workflowStatus, hreceived, hstatus⟩ :=
    @receiveSince_eq _ _ _ _ _ _ _ { w₃ with executingWorkflows } hrow₃ hsent hstart hpackets hlast
  rw [hreceived]
  refine ⟨⟨?_, hstatus, ?_, new, ?_, hentries⟩, ?_⟩
  · exact hend.workflows.trans (hordinary.workflows.trans hannounce.workflows)
  · simp only [hend.savedWorkflow, hordinary.savedWorkflow, hannounce.savedWorkflow, List.append_nil]
  · simp only [hend.log, hnew, hannounce.log, List.append_nil, List.append_assoc]
  · exact hend.requestQueue.trans (hordinary.requestQueue.trans hannounce.requestQueue)

/-- Up to the end of the run the saved state stays. -/
theorem savedState_of_ordinary {executionId : UUID} {start : Packet} {w w₁ w₂ : World σ}
    (hannounce : EndsWith w w₁ [] [] [start]) (hordinary : Ordinary executionId w₁ w₂) :
    w₂.savedState executionId = w.savedState executionId := by
  rw [hordinary.savedState, World.savedState, hannounce.savedWorkflow, List.append_nil]
  rfl

/-- **Working off a request** of an execution that has a row. -/
theorem workEnds_of_step {env : Env σ} {executionId : UUID} {thread : String}
    {control : ℕ → Control} {turns : ℕ} {request : Request} {requests : List Request}
    {row : WorkflowStatus} {w w' : World σ} (hqueue : w.requestQueue = request :: requests)
    (hid : request.executionId = executionId)
    (hrow : OrderedDict.get? executionId w.workflowStatus = some row)
    (hstep : LifecycleStep env executionId w (.work thread control turns) w') :
    w'.requestQueue = requests ∧ WorkEnds executionId request.workflowId row w w' := by
  obtain ⟨_, _, hqueue', hended, rfl⟩ := lifecycleStep_work hstep
  rw [hqueue] at hqueue'
  cases hqueue'
  generalize hpopped : { w with requestQueue := requests } = v at hended ⊢
  have hsent : w.sent = v.sent := by rw [← hpopped]
  have hrequests : requests = v.requestQueue := by rw [← hpopped]
  have hrowv : OrderedDict.get? executionId v.workflowStatus = some row := by
    rw [← hpopped]
    exact hrow
  have hpop : ∀ {w' status saved entries}, After executionId row v w' status saved entries →
      After executionId row w w' status saved entries := by
    intro w' status saved entries h
    subst hpopped
    exact ⟨h.workflows, h.row, h.savedWorkflow, h.log⟩
  have hsaved : v.savedWorkflow = w.savedWorkflow := by rw [← hpopped]
  rw [hsent, hrequests]
  by_cases hstartable : Startable request v
  · obtain ⟨workflow, start, w₁, w₂, hworkflow, hstart, hevent, hannounce, hends, hfinal⟩ :=
      runEnds_execute hstartable hended
    have hworkflowId : workflow.id = request.workflowId := by
      simpa using List.find?_some hworkflow
    rw [hfinal]
    generalize World.executingWorkflows _ = executingWorkflows
    rw [hid] at hstart hends
    rw [hworkflowId] at hends
    have hstarted : row.status ≠ .aborted := by
      obtain ⟨status, -, hstatus, hne, -⟩ := hstartable
      rw [hid, World.status, hrowv, Option.map_some, Option.some.injEq] at hstatus
      rw [hstatus]
      exact hne
    cases hends with
    | silent h =>
      obtain ⟨hafter, hrest⟩ := after_receiveSince executingWorkflows hrowv ⟨hstart, hevent⟩ hannounce h
        ⟨rfl, rfl, rfl, (List.append_nil _).symm, (List.append_nil _).symm, (List.append_nil _).symm⟩
        (by simp)
      refine ⟨hrest, .kept .running (.inr ⟨hstarted, rfl⟩) ?_⟩
      rw [List.append_nil, hsaved] at hafter
      exact hpop hafter
    | @ended v₁ packet h hpacket hends hend =>
      obtain ⟨hafter, hrest⟩ := after_receiveSince executingWorkflows hrowv ⟨hstart, hevent⟩ hannounce h hend
        (by simpa using hpacket)
      refine ⟨hrest, .ended (finalStatus .running [packet]) ?_ ?_⟩
      · cases hname : packet.event <;> simp_all [finalStatus, statusAfter, endsExecution]
      · rw [List.append_nil, hsaved] at hafter
        have hfilter : savedAfter executionId [packet] w.savedWorkflow =
            w.savedWorkflow.filter (·.workflowExecutionId ≠ executionId) := by
          rw [savedAfter, List.any_cons, hends, Bool.true_or, if_pos rfl]
        rw [hfilter] at hafter
        exact hpop hafter
    | halted saved entries packets h hnone hids hentries _ hpackets hend =>
      obtain ⟨hafter, hrest⟩ := after_receiveSince executingWorkflows hrowv ⟨hstart, hevent⟩
        hannounce h hend fun p hp => (hpackets p hp).1
      obtain ⟨hstatus, hkept⟩ := finalStatus_of_saves (fun p hp => (hpackets p hp).2)
        .running (by decide)
      refine ⟨hrest, .halted _ saved entries hstatus ?_ hids hentries ?_⟩
      · rw [savedState_of_ordinary hannounce h, World.savedState, hsaved] at hnone
        exact hnone
      · rw [savedAfter, hkept, if_neg Bool.false_ne_true, hsaved] at hafter
        exact hpop hafter
    | @refused v₁ action h _ hend =>
      obtain ⟨hafter, hrest⟩ := after_receiveSince executingWorkflows hrowv ⟨hstart, hevent⟩ hannounce h hend
        (by simp)
      refine ⟨hrest, .refused action ?_⟩
      rw [List.append_nil, hsaved] at hafter
      exact hpop hafter
  · rw [execute_of_not_startable env control turns thread hstartable]
    have hnothing : receiveSince v.sent v = v := by
      rw [receiveSince, List.drop_length]
      rfl
    rw [hnothing]
    refine ⟨rfl, .kept row.status (.inl rfl) (hpop ⟨rfl, hrowv, hsaved, [], ?_, by simp⟩)⟩
    simp only [List.append_nil]

end Walkoff.Analysis
