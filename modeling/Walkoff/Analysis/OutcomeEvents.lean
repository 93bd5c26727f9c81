import Walkoff.Analysis.ActionCalls
import Walkoff.Analysis.BranchSearch
import Walkoff.Analysis.Receivers
import Walkoff.Analysis.Requests
import Walkoff.Analysis.Samples
import Walkoff.Program.Pool

/-!
# The outcome of a request

A worker tells the controller how it left a request by one of the events `WorkflowShutdown`,
`WorkflowPaused`, `WorkflowAborted` and `TriggerActionAwaitingData`. Several ways out of
`WorkflowExecutor.execute` send none of them, and the execution stays as it was: the request
cannot be started, its last turn raises before the event, or an app returns the status
`trigger`, which ends the loop like an await.
-/

set_option autoImplicit false

namespace Walkoff.Analysis

open Walkoff.Model Walkoff.Program
open Walkoff.Library (EndsAt Ended Turn exists_endsAt OrderedDict bind_apply finalState)

variable {σ : Type}

/-! ## What a request should report -/

/-- The packets sent between two worlds. -/
def sentSince (w w' : World σ) : List Packet :=
  w'.sent.drop w.sent.length

/-- One outcome is sent, no action event follows it, a shutdown leaves the accumulator empty,
and the controller does not find the execution pending or running afterwards. -/
structure OneOutcome (executionId : UUID) (w w' : World σ) : Prop where
  outcome : ∃ before packet after, sentSince w w' = before ++ packet :: after ∧
    packet.executionId = executionId ∧ packet.event.isOutcome = true ∧
    (∀ p ∈ before ++ after, p.event.isOutcome = false) ∧
    (∀ p ∈ after, p.event.eventType ≠ .action) ∧
    (packet.event = .workflowShutdown → (w'.accumulators executionId).entries = [])
  settled : ∀ (v : World σ) (row : WorkflowStatus),
    OrderedDict.get? executionId v.workflowStatus = some row →
      ∃ v' row', receiveResults (sentSince w w') v = .ok () v' ∧
        OrderedDict.get? executionId v'.workflowStatus = some row' ∧
        row'.status ≠ .pending ∧ row'.status ≠ .running

/-- Nothing that is sent is an outcome. -/
def Quiet (executionId : UUID) (w w' : World σ) : Prop :=
  ∃ new, w'.sent = w.sent ++ new ∧
    ∀ p ∈ new, p.executionId = executionId ∧ p.event.isOutcome = false

/-- What is sent ends with an outcome and has no other. -/
def Reports (executionId : UUID) (w w' : World σ) : Prop :=
  ∃ before packet, w'.sent = w.sent ++ (before ++ [packet]) ∧
    (∀ p ∈ before, p.executionId = executionId ∧ p.event.isOutcome = false) ∧
    packet.executionId = executionId ∧ packet.event.isOutcome = true ∧
    (packet.event = .workflowShutdown → (w'.accumulators executionId).entries = [])

/-- What sends only inner events is quiet. -/
theorem Quiet.of_frame {P : Obs → Prop} {executionId : UUID} {w w' : World σ}
    (h : Frame P (Inner executionId) w w') : Quiet executionId w w' := by
  obtain ⟨new, hsent, hnew⟩ := h.sent
  refine ⟨new, hsent, fun p hp => ⟨(hnew p hp).1, ?_⟩⟩
  have hstatus := (hnew p hp).2
  cases hevent : p.event <;> rw [hevent] at hstatus <;> first | rfl | cases hstatus

/-- Two quiet steps are one. -/
theorem Quiet.trans {executionId : UUID} {u v w : World σ} (huv : Quiet executionId u v)
    (hvw : Quiet executionId v w) : Quiet executionId u w := by
  obtain ⟨new, hsent, hnew⟩ := huv
  obtain ⟨new', hsent', hnew'⟩ := hvw
  exact ⟨new ++ new', by rw [hsent', hsent, List.append_assoc],
    fun p hp => (List.mem_append.mp hp).elim (hnew p) (hnew' p)⟩

/-- After a quiet step, what reports an outcome does so. -/
theorem Quiet.reports {executionId : UUID} {u v w : World σ} (huv : Quiet executionId u v)
    (hvw : Reports executionId v w) : Reports executionId u w := by
  obtain ⟨new, hsent, hnew⟩ := huv
  obtain ⟨before, packet, hsent', hbefore, hpacket⟩ := hvw
  refine ⟨new ++ before, packet, by rw [hsent', hsent]; simp only [List.append_assoc], ?_, hpacket⟩
  exact fun p hp => (List.mem_append.mp hp).elim (hnew p) (hbefore p)

/-- A report depends on what is sent and on the accumulators only. -/
theorem Reports.congr {executionId : UUID} {w w' w'' : World σ} (h : Reports executionId w w')
    (hsent : w''.sent = w'.sent) (haccumulators : w''.accumulators = w'.accumulators) :
    Reports executionId w w'' := by
  obtain ⟨before, packet, hnew, hbefore, hid, houtcome, hempty⟩ := h
  exact ⟨before, packet, hsent.trans hnew, hbefore, hid, houtcome,
    fun hshutdown => haccumulators ▸ hempty hshutdown⟩

/-- A quiet run reports nothing. -/
theorem Quiet.not_oneOutcome {executionId : UUID} {w w' : World σ} (h : Quiet executionId w w') :
    ¬ OneOutcome executionId w w' := by
  intro hone
  obtain ⟨new, hsent, hnew⟩ := h
  obtain ⟨before, packet, after, hsince, -, houtcome, -⟩ := hone.outcome
  rw [sentSince, hsent, List.drop_left] at hsince
  have hmem : packet ∈ new := by
    rw [hsince]
    simp
  rw [(hnew packet hmem).2] at houtcome
  cases houtcome

/-- After an outcome the execution is neither pending nor running. -/
theorem finalStatus_quiet {status : WorkflowStatusEnum} {packet : Packet}
    (h : packet.event.isOutcome = true) :
    finalStatus status [packet] ≠ .pending ∧ finalStatus status [packet] ≠ .running := by
  cases hevent : packet.event <;> simp_all [finalStatus, statusAfter, WalkoffEvent.isOutcome]

/-- **A run that reports settles the execution.** -/
theorem Reports.oneOutcome {executionId : UUID} {w w' : World σ} (h : Reports executionId w w') :
    OneOutcome executionId w w' := by
  obtain ⟨before, packet, hsent, hbefore, hid, houtcome, hempty⟩ := h
  have hsince : sentSince w w' = before ++ [packet] := by
    rw [sentSince, hsent, List.drop_left]
  refine ⟨⟨before, packet, [], hsince, hid, houtcome, ?_, by simp, hempty⟩, fun v row hrow => ?_⟩
  · exact fun p hp => (hbefore p (by simpa using hp)).2
  · have hpackets : ∀ p ∈ sentSince w w', p.executionId = executionId := by
      rw [hsince]
      intro p hp
      rcases List.mem_append.mp hp with hp | hp
      · exact (hbefore p hp).1
      · rw [List.mem_singleton.mp hp]
        exact hid
    obtain ⟨_, hreceived, hstatus⟩ := receiveResults_eq hrow hpackets
    refine ⟨_, _, hreceived, hstatus, ?_⟩
    rw [hsince, finalStatus_append]
    exact finalStatus_quiet houtcome

/-! ## The last turn -/

section

variable (env : Env σ) (control : ℕ → Control) (resume : Bool)

/-- A turn ends the run without an outcome. -/
inductive TurnSilent (vars : LoopVars) (w : World σ) : Prop where
  /-- The branches of the current action cannot be searched: no result is filed for it, or a
  condition raises. -/
  | branch (hsearch : NextRaises env vars.ctx w vars.actions)
  /-- At the end of the workflow, the accumulator is not JSON. -/
  | shutdown {w₁ : World σ} {actions : ActionIter} {ctx : Context} {e : Exn}
    (hnext : vars.actions.next env vars.ctx w = .ok (none, actions, ctx) w₁)
    (hdumps : ((w₁.accumulators ctx.executionId).asJson ctx.executionId).dumps = .error e)
  /-- The pause cannot be saved: the app instances do not pickle, or the execution has a saved
  state already. -/
  | pause {vars' : LoopVars} {w₁ w₂ : World σ} {action : Action}
    (henters : Enters env control resume vars w action vars' w₁ w₂)
    (hpaused : vars'.ctx.isPaused = true)
    (hrefused : (saveRefusal env vars'.ctx.executionId w₂).isSome)
  /-- The device, the arguments, the API, the app function or its result do not let the action
  come to its end, or its await cannot be saved or encoded. -/
  | action {vars' : LoopVars} {w₁ w₂ : World σ} {action : Action}
    (henters : Enters env control resume vars w action vars' w₁ w₂)
    (hpaused : vars'.ctx.isPaused = false) (haborted : vars'.ctx.isAborted = false)
    (hfails : ¬ Performs env vars'.ctx.origin action vars.startArguments resume w₂)
  /-- The app function returns the status `trigger`. -/
  | triggerStatus {vars' : LoopVars} {w₁ w₂ : World σ} {action : Action}
    (henters : Enters env control resume vars w action vars' w₁ w₂)
    (hpaused : vars'.ctx.isPaused = false) (haborted : vars'.ctx.isAborted = false)
    (hwaits : (action.trigger.isSome && !resume) = false)
    (hreturns : PerformsTo env vars'.ctx.origin action vars.startArguments resume w₂ "trigger")

variable {env control resume}

/-- Getting to an action is quiet. -/
theorem Enters.quiet {vars vars' : LoopVars} {w w₁ w₂ : World σ} {action : Action}
    (h : Enters env control resume vars w action vars' w₁ w₂) :
    Quiet vars.ctx.executionId w w₂ :=
  .of_frame h.frame

/-- An action that raises or has a status reports nothing: it did not get to await data. -/
theorem quiet_performAction (env : Env σ) (resume : Bool) (o : Origin) {action : Action}
    (haction : o.executingAction = some action) (arguments : List Argument) {w : World σ}
    (h : ∀ result w', performAction env o action arguments resume w ≠
      .ok (.actionResult result) w') :
    Quiet o.executionId w (finalState (performAction env o action arguments resume w)) := by
  cases hwaits : (action.trigger.isSome && !resume) with
  | false => exact .of_frame (frame_performAction_run env o hwaits arguments w)
  | true =>
    rcases performAction_awaits env hwaits arguments w with ⟨e, w₁, hraised, hframe⟩ |
      ⟨sender, w₁, hframe, hawait⟩
    · rw [hraised]
      exact .of_frame hframe
    · rw [hawait] at h ⊢
      refine (Quiet.of_frame hframe).trans ?_
      rw [awaitData_eq env haction] at h ⊢
      cases hrefusal : saveRefusal env o.executionId w₁ with
      | some e => exact ⟨[], by simp [finalState, World.logged], by simp⟩
      | none =>
        rw [hrefusal] at h
        cases hpacket : awaitPacket o sender with
        | error e =>
          exact ⟨[], by simp [finalState, World.logged, World.withSavedWorkflow], by simp⟩
        | ok packet =>
          rw [hpacket] at h
          exact absurd rfl (h _ _)

/-- A turn at an action that raises, or that returns a status, has sent no outcome. -/
theorem Enters.quiet_afterAction {vars vars' : LoopVars} {w w₁ w₂ : World σ} {action : Action}
    (henters : Enters env control resume vars w action vars' w₁ w₂)
    (hpaused : vars'.ctx.isPaused = false) (haborted : vars'.ctx.isAborted = false)
    (h : ∀ result w', performAction env vars'.ctx.origin action vars.startArguments resume w₂ ≠
      .ok (.actionResult result) w') :
    Quiet vars.ctx.executionId w (finalState (loopTurn env control resume vars w)) := by
  have hquiet := quiet_performAction env resume vars'.ctx.origin henters.executingAction
    vars.startArguments h
  have hfinal : finalState (loopTurn env control resume vars w) =
      finalState (performAction env vars'.ctx.origin action vars.startArguments resume w₂) := by
    rw [henters.loopTurn_eq_afterAction hpaused haborted]
    cases hperform : performAction env vars'.ctx.origin action vars.startArguments resume w₂ with
    | error e w' => rfl
    | ok r w' =>
      cases r with
      | actionResult result => exact absurd hperform (h result w')
      | status s =>
        simp only [afterAction]
        split <;> rfl
  rw [hfinal]
  refine henters.quiet.trans ?_
  rw [← henters.executionId]
  exact hquiet

/-- **A silent turn sends no outcome.** -/
theorem TurnSilent.quiet {vars : LoopVars} {w : World σ}
    (h : TurnSilent env control resume vars w) :
    Quiet vars.ctx.executionId w (finalState (loopTurn env control resume vars w)) := by
  cases h with
  | branch hsearch =>
    obtain ⟨e, w', hnext⟩ := (next_raises_iff env vars.ctx _ w).mpr hsearch
    rw [loopTurn_of_branchingRaised hnext]
    exact .of_frame ((frame_next env vars.ctx vars.actions).of_error hnext)
  | @shutdown w₁ actions ctx e hnext hdumps =>
    rw [loopTurn_of_none hnext, bind_apply, shutdown_eq]
    simp only [hdumps]
    exact (Quiet.of_frame (frame_next_run hnext)).trans ⟨[], by simp [finalState], by simp⟩
  | @pause vars' w₁ w₂ action henters hpaused hrefused =>
    obtain ⟨e, hrefusal⟩ := Option.isSome_iff_exists.mp hrefused
    have hraises : saveRefusal env vars'.ctx.origin.executionId w₂ = some e := hrefusal
    refine henters.quiet.trans ?_
    rw [henters.loopTurn_eq, hpaused, if_pos rfl, bind_apply,
      sendEvent_paused env (o := vars'.ctx.origin) henters.executingAction, hraises]
    exact ⟨[], by simp [finalState, World.logged], by simp⟩
  | action henters hpaused haborted hfails =>
    refine henters.quiet_afterAction hpaused haborted fun result w' hperform => hfails ?_
    exact (performAction_returns_iff env (Context.origin _) _ _ henters.executingAction _ _).mp
      ⟨_, w', hperform⟩
  | triggerStatus henters hpaused haborted hwaits hreturns =>
    refine henters.quiet_afterAction hpaused haborted fun result w' hperform => ?_
    rw [awaits_of_actionResult hperform] at hwaits
    cases hwaits

/-- A shutdown that returns reports an outcome. -/
theorem reports_shutdown {ctx : Context} {w w' : World σ} (h : shutdown env ctx w = .ok () w') :
    Reports ctx.executionId w w' := by
  rw [shutdown_eq] at h
  cases hdumps : ((w.accumulators ctx.executionId).asJson ctx.executionId).dumps with
  | error e =>
    simp only [hdumps] at h
    cases h
  | ok text =>
    simp only [hdumps] at h
    cases h
    refine ⟨[], _, rfl, by simp, rfl, rfl, fun _ => ?_⟩
    simp [Accumulator.clear]

/-- A packet with an outcome reports it. -/
theorem reports_packet {executionId : UUID} (w : World σ) {packet : Packet}
    (hid : packet.executionId = executionId) (houtcome : packet.event.isOutcome = true)
    (hshutdown : packet.event ≠ .workflowShutdown) :
    Reports executionId w (w.withPacket packet) :=
  ⟨[], packet, rfl, by simp, hid, houtcome, fun h => absurd h hshutdown⟩

/-- **Any other last turn reports its outcome.** -/
theorem reports_last {vars : LoopVars} {w : World σ}
    (hlast : ∀ c u, loopTurn env control resume vars w ≠ .ok (.again c) u)
    (hsilent : ¬ TurnSilent env control resume vars w) :
    Reports vars.ctx.executionId w (finalState (loopTurn env control resume vars w)) := by
  have hcases := loopTurn_cases env control resume vars w
  generalize loopTurn env control resume vars w = r at hcases hlast
  cases hcases with
  | branchingRaised hnext =>
    exact absurd (.branch ((next_raises_iff env vars.ctx _ w).mp ⟨_, _, hnext⟩)) hsilent
  | @shutDown actions ctx w₁ w' hnext hshutdown =>
    have hid : ctx.executionId = vars.ctx.executionId := (next_executionId env hnext).1
    have hreports := reports_shutdown hshutdown
    rw [hid] at hreports
    exact (Quiet.of_frame (frame_next_run hnext)).reports hreports
  | @shutdownRaised actions ctx w₁ w' e hnext hshutdown =>
    refine absurd ?_ hsilent
    rw [shutdown_eq] at hshutdown
    cases hdumps : ((w₁.accumulators ctx.executionId).asJson ctx.executionId).dumps with
    | error e' => exact .shutdown hnext hdumps
    | ok text =>
      simp only [hdumps] at hshutdown
      cases hshutdown
  | @paused action vars' w₁ w₂ w' henters hpaused hsend =>
    refine henters.quiet.reports ?_
    rw [← henters.executionId]
    rw [sendEvent_paused env (o := vars'.ctx.origin) henters.executingAction] at hsend
    cases hrefusal : saveRefusal env vars'.ctx.origin.executionId w₂ with
    | some e =>
      rw [hrefusal] at hsend
      cases hsend
    | none =>
      rw [hrefusal] at hsend
      cases hsend
      exact reports_packet _ rfl rfl (by simp [workflowPacket])
  | @pauseRaised action vars' w₁ w₂ w' e henters hpaused hsend =>
    refine absurd (.pause henters hpaused ?_) hsilent
    rw [sendEvent_paused env (o := vars'.ctx.origin) henters.executingAction] at hsend
    cases hrefusal : saveRefusal env vars'.ctx.origin.executionId w₂ with
    | some e =>
      rw [show saveRefusal env vars'.ctx.executionId w₂ = some e from hrefusal]
      rfl
    | none =>
      rw [hrefusal] at hsend
      cases hsend
  | @aborted action vars' w₁ w₂ w' henters hpaused haborted hsend =>
    refine henters.quiet.reports ?_
    rw [← henters.executionId]
    rw [sendEvent_aborted] at hsend
    cases hsend
    exact reports_packet _ rfl rfl (by simp [workflowPacket])
  | abortRaised henters hpaused haborted hsend =>
    rw [sendEvent_aborted] at hsend
    cases hsend
  | actionRaised henters hpaused haborted hperform =>
    refine absurd (.action henters hpaused haborted fun hperforms => ?_) hsilent
    obtain ⟨_, _, hreturned⟩ := (performAction_returns_iff env (Context.origin _) _ _
      henters.executingAction _ _).mpr hperforms
    rw [hperform] at hreturned
    cases hreturned
  | @awaited action vars' w₁ w₂ w' result henters hpaused haborted hperform =>
    refine henters.quiet.reports ?_
    rw [← henters.executionId]
    rcases performAction_awaits env (awaits_of_actionResult hperform) vars.startArguments w₂ with
      ⟨e, w₃, hraised, -⟩ | ⟨sender, w₃, hframe, hawait⟩
    · rw [hraised] at hperform
      cases hperform
    · rw [hawait, awaitData_eq env (o := vars'.ctx.origin) henters.executingAction] at hperform
      refine (Quiet.of_frame hframe).reports ?_
      cases hrefusal : saveRefusal env vars'.ctx.origin.executionId w₃ with
      | some e =>
        rw [hrefusal] at hperform
        cases hperform
      | none =>
        rw [hrefusal] at hperform
        cases hpacket : awaitPacket vars'.ctx.origin sender with
        | error e =>
          simp only [hpacket] at hperform
          cases hperform
        | ok packet =>
          simp only [hpacket] at hperform
          cases hperform
          obtain ⟨hevent, hid⟩ := awaitPacket_event hpacket
          exact ⟨[], packet, rfl, by simp, hid, by rw [hevent]; rfl, by rw [hevent]; simp⟩
  | @triggerStatus action vars' w₁ w₂ w' henters hpaused haborted hperform =>
    have hwaits : (action.trigger.isSome && !resume) = false := by
      by_contra hwaits
      exact awaits_not_status (o := vars'.ctx.origin) henters.executingAction
        (Bool.eq_true_of_not_eq_false hwaits) _ _ _ _ hperform
    refine absurd (.triggerStatus henters hpaused haborted hwaits ?_) hsilent
    exact (performAction_status_iff env vars'.ctx.origin action vars.startArguments
      henters.executingAction hwaits (by decide) w₂).mp ⟨w', hperform⟩
  | executed => exact absurd rfl (hlast _ _)

end

/-! ## A call of `execute` -/

/-- A run of the loop ends, within its turns, in a silent turn. -/
def LoopSilent (env : Env σ) (control : ℕ → Control) (resume : Bool) (turns : ℕ) (vars : LoopVars)
    (w : World σ) : Prop :=
  ∃ vars' w', EndsAt (loopTurn env control resume) turns vars w vars' w' ∧
    TurnSilent env control resume vars' w'

/-- The run of a call has no UUID to start from, or is silent. -/
def CallSilent (call : Call σ) : Prop :=
  match (call.request.start.or call.ctx.workflow.start).or call.ctx.workflow.start with
  | none => True
  | some start =>
    LoopSilent call.env call.control call.request.resume call.turns
      { ctx := call.ctx, actions := .fresh start, startArguments := call.request.startArguments
        boundary := 0 }
      (finalState (announceStart call.env call.ctx call.request.environmentVariables call.world))

/-- A request that is not for an aborted execution ends without an outcome: the session of the
thread has failed, the request cannot be started, or its run is silent. -/
def RequestSilent (env : Env σ) (control : ℕ → Control) (turns : ℕ) (thread : String)
    (request : Request) (sessions : ThreadSessions σ) : Prop :=
  sessions.world.status request.executionId ≠ some .aborted ∧
    (thread ∈ sessions.failedSessions ∨ ¬ Startable request sessions.world ∨
      ∃ ctx w₁, prepare env request sessions.world = .ok (some ctx) w₁ ∧
        CallSilent ⟨env, control, turns, request, ctx, finalState (register thread ctx w₁)⟩)

/-- **A silent run of the loop sends no outcome, and any other that ends reports one.** -/
theorem runLoop_outcome {env : Env σ} {control : ℕ → Control} {resume : Bool} {turns : ℕ}
    {vars : LoopVars} {w : World σ} (hended : Ended (runLoop env control resume turns vars w)) :
    (LoopSilent env control resume turns vars w ∧
        Quiet vars.ctx.executionId w (finalState (runLoop env control resume turns vars w))) ∨
      (¬ LoopSilent env control resume turns vars w ∧
        Reports vars.ctx.executionId w (finalState (runLoop env control resume turns vars w))) := by
  obtain ⟨vars', w', hends⟩ := exists_endsAt hended
  obtain ⟨_, -, hreach⟩ := hends.reaches
  obtain ⟨hframe, hid, -⟩ := frame_reaches hreach
  rw [runLoop, hends.finalState_loop]
  by_cases hsilent : TurnSilent env control resume vars' w'
  · have hturn := hsilent.quiet
    rw [hid] at hturn
    exact .inl ⟨⟨vars', w', hends, hsilent⟩, (Quiet.of_frame hframe).trans hturn⟩
  · have hturn := reports_last hends.last hsilent
    rw [hid] at hturn
    refine .inr ⟨?_, (Quiet.of_frame hframe).reports hturn⟩
    rintro ⟨vars'', w'', hends', hsilent'⟩
    obtain ⟨rfl, rfl⟩ := hends.unique hends'
    exact hsilent hsilent'

/-- Announcing the start is quiet. -/
theorem quiet_announceStart (env : Env σ) (ctx : Context)
    (environmentVariables : List EnvironmentVariable) (w : World σ) :
    Quiet ctx.executionId w (finalState (announceStart env ctx environmentVariables w)) := by
  refine ⟨[workflowPacket ctx.origin .workflowExecutionStart "null"], ?_, by
    simp [workflowPacket, Context.origin, WalkoffEvent.isOutcome]⟩
  unfold announceStart fileEnvironmentVariables
  split <;> rfl

/-- The same for a call. -/
theorem call_outcome (call : Call σ) (hended : Ended call.result) :
    (CallSilent call ∧ Quiet call.ctx.executionId call.world (finalState call.result)) ∨
      (¬ CallSilent call ∧ Reports call.ctx.executionId call.world (finalState call.result)) := by
  have hquiet :=
    quiet_announceStart call.env call.ctx call.request.environmentVariables call.world
  obtain ⟨w₁, hannounce⟩ :=
    announceStart_ok call.env call.ctx call.request.environmentVariables call.world
  unfold Call.result runRequest strategyExecute at hended ⊢
  unfold CallSilent
  rw [hannounce] at hquiet
  rw [bind_apply, hannounce] at hended ⊢
  dsimp only at hended ⊢
  cases hstart : (call.request.start.or call.ctx.workflow.start).or call.ctx.workflow.start with
  | none => exact .inl ⟨trivial, hquiet⟩
  | some start =>
    rw [hstart] at hended
    rcases runLoop_outcome hended with ⟨hsilent, hloop⟩ | ⟨hsilent, hloop⟩
    · exact .inl ⟨hsilent, hquiet.trans hloop⟩
    · exact .inr ⟨hsilent, hquiet.reports hloop⟩

/-- A call of `execute` that ends, on a session that works, has one outcome exactly if it can be
started and its run is not silent. -/
theorem execute_outcome {env : Env σ} {control : ℕ → Control} {turns : ℕ} {thread : String}
    {request : Request} {w : World σ} (hended : Ended (execute env control turns thread request w)) :
    OneOutcome request.executionId w (finalState (execute env control turns thread request w)) ↔
      ¬ (¬ Startable request w ∨ ∃ ctx w₁, prepare env request w = .ok (some ctx) w₁ ∧
        CallSilent ⟨env, control, turns, request, ctx, finalState (register thread ctx w₁)⟩) := by
  by_cases hstartable : Startable request w
  · obtain ⟨workflow, user, w₁, -, hctx⟩ := prepare_of_startable env hstartable
    have hid : (newContext workflow request.executionId user).executionId =
      request.executionId := rfl
    generalize newContext workflow request.executionId user = ctx at hctx hid
    have hprepare := (frame_prepare (P := Never) (E := Never) env request).of_ok hctx
    have hregister : Quiet request.executionId w (finalState (register thread ctx w₁)) := by
      obtain ⟨new, hsent, hnever⟩ := hprepare.sent
      exact ⟨new, hsent, fun p hp => (hnever p hp).elim⟩
    have hcall := call_outcome ⟨env, control, turns, request, ctx,
      finalState (register thread ctx w₁)⟩ ((ended_execute_of_context hctx).mp hended)
    have hfinal := execute_finalState_of_context control turns thread hctx
    unfold Call.result at hcall
    simp only [hid] at hcall
    generalize finalState (execute env control turns thread request w) = w' at hfinal ⊢
    rcases hcall with ⟨hsilent, hquiet⟩ | ⟨hsilent, hreports⟩
    · have hw' : Quiet request.executionId w w' := by
        rw [hfinal]
        exact hregister.trans hquiet
      exact ⟨fun hone => absurd hone hw'.not_oneOutcome,
        fun hnot => absurd (.inr ⟨ctx, w₁, hctx, hsilent⟩) hnot⟩
    · have hw' : Reports request.executionId w w' := by
        rw [hfinal]
        exact (hregister.reports hreports).congr rfl rfl
      refine ⟨fun _ => ?_, fun _ => hw'.oneOutcome⟩
      rintro (hnot | ⟨ctx', w₁', hctx', hsilent'⟩)
      · exact hnot hstartable
      · rw [hctx] at hctx'
        cases hctx'
        exact hsilent hsilent'
  · have hquiet : Quiet request.executionId w
        (finalState (execute env control turns thread request w)) := by
      rw [execute_of_not_startable env control turns thread hstartable]
      exact .of_frame (P := Never) (Std.Refl.refl w)
    exact ⟨fun hone => absurd hone hquiet.not_oneOutcome,
      fun hnot => absurd (.inl hstartable) hnot⟩

/-- On a session that works the thread calls `execute`. -/
theorem executeOnThread_of_session (env : Env σ) (control : ℕ → Control) (turns : ℕ)
    {thread : String} (request : Request) {sessions : ThreadSessions σ}
    (h : thread ∉ sessions.failedSessions) :
    (Ended (executeOnThread env control turns thread request sessions) ↔
        Ended (execute env control turns thread request sessions.world)) ∧
      (finalState (executeOnThread env control turns thread request sessions)).world =
        finalState (execute env control turns thread request sessions.world) := by
  unfold executeOnThread
  rw [if_neg h]
  cases execute env control turns thread request sessions.world with
  | ok progress w => cases progress <;> exact ⟨Iff.rfl, rfl⟩
  | error e w => exact ⟨Iff.rfl, rfl⟩

/-- **A request that ends has one outcome exactly if it is not silent**: an aborted execution
needs none. -/
theorem outcome_iff (env : Env σ) (control : ℕ → Control) (turns : ℕ) (thread : String)
    (request : Request) (sessions : ThreadSessions σ)
    (hended : Ended (executeOnThread env control turns thread request sessions)) :
    (sessions.world.status request.executionId = some .aborted ∨
        OneOutcome request.executionId sessions.world
          (finalState (executeOnThread env control turns thread request sessions)).world) ↔
      ¬ RequestSilent env control turns thread request sessions := by
  unfold RequestSilent
  by_cases haborted : sessions.world.status request.executionId = some .aborted
  · exact ⟨fun _ h => h.1 haborted, fun _ => .inl haborted⟩
  rw [or_iff_right haborted, and_iff_right haborted, not_or]
  by_cases hsession : thread ∈ sessions.failedSessions
  · have hquiet : Quiet request.executionId sessions.world
        (finalState (executeOnThread env control turns thread request sessions)).world := by
      unfold executeOnThread
      rw [if_pos hsession]
      exact .of_frame (P := Never) (Std.Refl.refl _)
    exact ⟨fun hone => absurd hone hquiet.not_oneOutcome, fun hnot => absurd hsession hnot.1⟩
  · obtain ⟨hiff, hworld⟩ := executeOnThread_of_session env control turns request hsession
    rw [hworld, and_iff_right hsession]
    exact execute_outcome (hiff.mp hended)

/-- The sessions of a worker that has not executed anything. -/
def freshSessions (workflow : Workflow) : ThreadSessions Unit :=
  { world := pendingWorld workflow, failedSessions := [] }

/-- A request that runs two actions, one after the other, has its outcome. -/
theorem outcome_iff_twoActions :
    Ended (executeOnThread succeeding undisturbed 3 "Thread-1" sampleRequest
        (freshSessions (twoActions none none))) ∧
      ((freshSessions (twoActions none none)).world.status 7 = some .aborted ∨
          OneOutcome 7 (freshSessions (twoActions none none)).world
            (finalState (executeOnThread succeeding undisturbed 3 "Thread-1" sampleRequest
              (freshSessions (twoActions none none)))).world ↔
        ¬ RequestSilent succeeding undisturbed 3 "Thread-1" sampleRequest
          (freshSessions (twoActions none none))) := by
  have hended : Ended (executeOnThread succeeding undisturbed 3 "Thread-1" sampleRequest
      (freshSessions (twoActions none none))) := by
    decide +kernel
  exact ⟨hended, outcome_iff succeeding undisturbed 3 "Thread-1" sampleRequest
    (freshSessions (twoActions none none)) hended⟩

/-- The sample app whose function returns an object that is not JSON. -/
def returningObject : Env Unit :=
  sampleEnv fun _ => { result := .object ⟨"<Response [200]>", .typeError, true⟩, status := none }

/-- An action whose result is not JSON succeeds, and the run of its workflow ends without an
outcome; so does the request for a workflow that has become invalid. -/
theorem object_result_silences_shutdown :
    (Ended (executeOnThread returningObject undisturbed 2 "Thread-1" sampleRequest
          (freshSessions (sampleWorkflow [sampleAction 1 none] []))) ∧
        ¬ ((freshSessions (sampleWorkflow [sampleAction 1 none] [])).world.status 7 =
            some .aborted ∨
          OneOutcome 7 (freshSessions (sampleWorkflow [sampleAction 1 none] [])).world
            (finalState (executeOnThread returningObject undisturbed 2 "Thread-1" sampleRequest
              (freshSessions (sampleWorkflow [sampleAction 1 none] [])))).world)) ∧
      ¬ ((freshSessions { sampleWorkflow [] [] with isValid := false }).world.status 7 =
          some .aborted ∨
        OneOutcome 7 (freshSessions { sampleWorkflow [] [] with isValid := false }).world
          (finalState (executeOnThread succeeding undisturbed 1 "Thread-1" sampleRequest
            (freshSessions { sampleWorkflow [] [] with isValid := false }))).world) := by
  refine ⟨⟨trivial, ?_⟩, ?_⟩
  · rintro (h | h)
    · cases h
    · obtain ⟨before, packet, after, hsince, -, houtcome, -⟩ := h.outcome
      have hquiet : (before ++ packet :: after).all (fun p => !p.event.isOutcome) = true := by
        rw [← hsince]
        rfl
      simp [houtcome] at hquiet
  · rintro (h | h)
    · cases h
    · exact Quiet.not_oneOutcome ⟨[], rfl, by simp⟩ h

end Walkoff.Analysis
