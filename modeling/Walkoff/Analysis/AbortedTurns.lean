import Walkoff.Analysis.SavedStates
import Walkoff.Program.SteppedRuns

/-!
# Turns after an abort

A turn of the loop looks for the next action, looks at the flags of its context, and performs the
action. Only where no action is left does it report a shutdown; and where the context has been told
to abort and not to pause, it performs nothing and is the last one.
-/

set_option autoImplicit false

namespace Walkoff.Analysis

open Walkoff.Model Walkoff.Program
open Walkoff.Library (Within bind_apply bind_eq_ok finalState)

variable {σ : Type} {executionId workflowId : UUID}

/-! ## The further action -/

/-- The log entries of an action that is executed. -/
def ExecutesAction : Obs → Prop
  | .appFunction _ _ _ | .executed _ _ | .awaiting _ => True
  | _ => False

/-- The loop of a run gets to a further action. -/
def HasAction (env : Env σ) (vars : LoopVars) (w : World σ) : Prop :=
  ∃ action actions ctx w₁, vars.actions.next env vars.ctx w = .ok (some action, actions, ctx) w₁

section

variable {env : Env σ} {resume : Bool} {vars vars' : LoopVars} {w w₁ w₂ : World σ} {action : Action}

/-- A run that gets to an action has a further one. -/
theorem Enters.hasAction {control : ℕ → Control}
    (h : Enters env control resume vars w action vars' w₁ w₂) : HasAction env vars w := by
  obtain ⟨actions, ctx, hnext, -⟩ := h.yields
  exact ⟨action, actions, ctx, w₁, hnext⟩

/-- The flags at an action are those of the context. -/
theorem Enters.flags (h : Enters env flagsOnly resume vars w action vars' w₁ w₂) :
    vars'.ctx.isPaused = vars.ctx.isPaused ∧ vars'.ctx.isAborted = vars.ctx.isAborted := by
  obtain ⟨actions, ctx, hnext, rfl⟩ := h.yields
  obtain ⟨counters, hctx⟩ := next_context env hnext
  have hctx : ctx = { vars.ctx with counters } := hctx
  subst hctx
  exact ⟨Bool.or_false _, Bool.or_false _⟩

end

/-! ## Searching for the next action -/

/-- No action is executed in between. -/
abbrev Idle (w w' : World σ) : Prop :=
  w'.uuid4 = w.uuid4

instance : Std.Refl (Idle : World σ → World σ → Prop) where
  refl _ := rfl

instance : IsTrans (World σ) Idle where
  trans _ _ _ huv hvw := hvw.trans huv

/-- The apps draw no ids. -/
theorem idle_behave {α : Type} (f : σ → Except Exn α × σ) : Within Idle (behave f) := by
  intro w
  unfold behave
  split <;> rfl

/-- Sending a packet draws no id. -/
theorem idle_sendPacket (o : Origin) (sender : Sender) (event : WalkoffEvent) (data : Option PyVal)
    (startArguments : List Argument) :
    Within Idle (sendPacket o sender event data startArguments : M σ Unit) :=
  Within.bind (Within.lift _) fun _ _ => rfl

/-- Handling an event that does not save the workflow draws no id. -/
theorem idle_handleEvent (env : Env σ) (o : Origin) (sender : Sender) {event : WalkoffEvent}
    (hsaves : event.savesWorkflow = false) :
    Within Idle (handleEvent env o sender event none [] : M σ Unit) := by
  rw [handleEvent_eq_sendPacket hsaves]
  exact idle_sendPacket o sender event none []

/-- The same of filing an item. -/
theorem idle_setAccumulatorItem (executionId key : UUID) (value : PyVal) :
    Within Idle (setAccumulatorItem executionId key value : M σ Unit) :=
  Within.bind (fun _ => rfl) fun _ => Within.bind (Within.lift _) fun _ _ => rfl

/-- The same of the condition of a branch. -/
theorem idle_branchCondition (env : Env σ) (o : Origin) (branch : Branch) (dataIn : PyVal) :
    Within Idle (branchCondition env o branch dataIn) := by
  unfold branchCondition
  cases branch.condition with
  | none => exact Within.pure _
  | some condition =>
    refine within_executeExpression (fun _ _ _ => idle_behave _) (fun _ => rfl) (fun id result => ?_)
      dataIn condition
    unfold reportExpression
    cases result with
    | true => exact idle_handleEvent env o _ rfl
    | false => exact idle_handleEvent env o _ rfl

/-- The same of a branch. -/
theorem idle_executeBranch (env : Env σ) (o : Origin) (branch : Branch) (status : Option String)
    (currentAction : Action) (counters : UUID → ℕ) :
    Within Idle (executeBranch env o branch status currentAction counters) := by
  unfold executeBranch
  refine Within.bind (Within.bind (fun _ => rfl) fun _ => idle_setAccumulatorItem _ _ _) fun _ => ?_
  split
  · refine Within.bind (fun _ => rfl) fun accumulator => ?_
    split
    · exact Within.throw _
    · refine Within.bind (idle_branchCondition env o branch _) fun taken => ?_
      refine Within.bind ?_ fun _ => Within.pure _
      unfold reportBranch
      cases taken with
      | true =>
        rw [if_pos rfl]
        exact Within.bind (idle_handleEvent env o _ rfl) fun _ _ => rfl
      | false =>
        rw [if_neg Bool.false_ne_true]
        exact idle_handleEvent env o _ rfl
  · exact Within.pure _

/-- The same of the branches of an action. -/
theorem idle_tryBranches (env : Env σ) (o : Origin) (status : Option String) (currentAction : Action)
    (branches : List Branch) (counters : UUID → ℕ) :
    Within Idle (tryBranches env o status currentAction counters branches) := by
  induction branches generalizing counters with
  | nil => exact Within.pure _
  | cons branch branches ih =>
    rw [tryBranches]
    refine Within.bind (idle_executeBranch env o branch status currentAction counters) fun result => ?_
    obtain ⟨destination, counters⟩ := result
    cases destination with
    | some destinationId => exact Within.pure _
    | none => exact ih counters

/-- **Looking for the next action** executes none. -/
theorem idle_next (env : Env σ) (ctx : Context) (actions : ActionIter) :
    Within Idle (actions.next env ctx) := by
  cases actions with
  | fresh start => exact Within.pure _
  | finished => exact Within.pure _
  | suspended =>
    refine Within.bind ?_ fun _ => Within.pure _
    unfold getBranch
    split
    · split
      · exact Within.throw _
      · exact Within.bind (idle_tryBranches env ctx.origin _ _ _ _) fun _ => Within.pure _
    · exact Within.pure _

/-! ## Packets of a shutdown -/

/-- What is sent satisfies `E`. -/
def SendsOnly (E : Packet → Prop) (w w' : World σ) : Prop :=
  ∃ new, w'.sent = w.sent ++ new ∧ ∀ p ∈ new, E p

/-- Two steps that send only such packets are one. -/
theorem SendsOnly.trans {E : Packet → Prop} {u v w : World σ} (huv : SendsOnly E u v)
    (hvw : SendsOnly E v w) : SendsOnly E u w := by
  obtain ⟨first, hfirst, hp⟩ := huv
  obtain ⟨second, hsecond, hq⟩ := hvw
  refine ⟨first ++ second, by rw [hsecond, hfirst, List.append_assoc], fun p hmem => ?_⟩
  exact (List.mem_append.mp hmem).elim (hp p) (hq p)

/-- A packet that is not the one of a shutdown. -/
def NotShutdown (packet : Packet) : Prop :=
  packet.event ≠ .workflowShutdown

/-- The packets of actions and branches are none of a shutdown. -/
theorem notShutdown_of_inner {packet : Packet} (h : Inner executionId packet) :
    NotShutdown packet := by
  intro hevent
  have hstatus := h.2
  rw [hevent] at hstatus
  cases hstatus

/-- The ordinary part of a run sends no shutdown. -/
theorem SendsOnly.of_frame {P : Obs → Prop} {w w' : World σ}
    (h : Frame P (Inner executionId) w w') : SendsOnly NotShutdown w w' := by
  obtain ⟨new, hsent, hnew⟩ := h.sent
  exact ⟨new, hsent, fun p hp => notShutdown_of_inner (hnew p hp)⟩

/-- Sending a packet. -/
theorem SendsOnly.packet {E : Packet → Prop} {w w' : World σ} {packet : Packet} (h : E packet)
    (hsent : w'.sent = w.sent ++ [packet]) : SendsOnly E w w' :=
  ⟨[packet], hsent, fun p hp => by rwa [List.mem_singleton.mp hp]⟩

/-- Sending nothing. -/
theorem SendsOnly.nothing {E : Packet → Prop} {w w' : World σ} (hsent : w'.sent = w.sent) :
    SendsOnly E w w' :=
  ⟨[], by rw [hsent, List.append_nil], by simp⟩

/-- An action sends no shutdown. -/
theorem sendsOnly_performAction (env : Env σ) {resume : Bool} {o : Origin} {action : Action}
    (haction : o.executingAction = some action) (arguments : List Argument) (w : World σ) :
    SendsOnly NotShutdown w (finalState (performAction env o action arguments resume w)) := by
  cases hwaits : (action.trigger.isSome && !resume) with
  | false => exact .of_frame (frame_performAction_run env o hwaits arguments w)
  | true =>
    rcases performAction_awaits env hwaits arguments w with ⟨e, w₁, hraised, hframe⟩ |
      ⟨sender, w₁, hframe, hawait⟩
    · rw [hraised]
      exact .of_frame hframe
    · rw [hawait, awaitData_eq env haction]
      refine (SendsOnly.of_frame hframe).trans ?_
      cases saveRefusal env o.executionId w₁ with
      | some e => exact .nothing rfl
      | none =>
        cases hpacket : awaitPacket o sender with
        | error e => exact .nothing rfl
        | ok packet =>
          have hevent := (awaitPacket_event hpacket).1
          exact .packet (by rw [NotShutdown, hevent]; decide) rfl

section

variable {env : Env σ} {control : ℕ → Control} {resume : Bool} {vars vars' : LoopVars}
  {w w₁ w₂ : World σ} {action : Action}

/-- What `Action.execute` makes of a turn is what it leaves. -/
theorem finalState_afterAction (vars : LoopVars) (r : EStateM.Result Exn (World σ) ActionReturn) :
    finalState (afterAction vars r) = finalState r := by
  cases r with
  | error e w => rfl
  | ok result w =>
    cases result with
    | actionResult result => rfl
    | status s =>
      simp only [afterAction]
      split <;> rfl

/-- **A turn that gets to an action** sends no shutdown. -/
theorem Enters.sendsOnly (h : Enters env control resume vars w action vars' w₁ w₂) :
    SendsOnly NotShutdown w (finalState (loopTurn env control resume vars w)) := by
  refine (SendsOnly.of_frame h.frame).trans ?_
  cases hpaused : vars'.ctx.isPaused with
  | true =>
    rw [h.loopTurn_eq, hpaused, if_pos rfl, Library.finalState_bind_pure,
      sendEvent_paused env (o := vars'.ctx.origin) h.executingAction]
    cases saveRefusal env vars'.ctx.origin.executionId w₂ with
    | some e => exact .nothing rfl
    | none => exact .packet (by simp [NotShutdown, workflowPacket]) rfl
  | false =>
    cases haborted : vars'.ctx.isAborted with
    | true =>
      rw [h.loopTurn_eq, hpaused, haborted, if_neg Bool.false_ne_true, if_pos rfl,
        Library.finalState_bind_pure, sendEvent_aborted]
      exact .packet (by simp [NotShutdown, workflowPacket]) rfl
    | false =>
      rw [h.loopTurn_eq_afterAction hpaused haborted, finalState_afterAction]
      exact sendsOnly_performAction env h.executingAction _ _

/-- A turn whose run has a further action, or whose search for one raises, sends no shutdown. -/
theorem sendsOnly_loopTurn (control : ℕ → Control) (resume : Bool)
    (hended : hasEnded env vars w = false) :
    SendsOnly NotShutdown w (finalState (loopTurn env control resume vars w)) := by
  cases hnext : vars.actions.next env vars.ctx w with
  | error e w' =>
    rw [loopTurn_of_branchingRaised hnext]
    exact .of_frame ((frame_next env vars.ctx vars.actions).of_error hnext)
  | ok r w' =>
    obtain ⟨action, actions, ctx⟩ := r
    cases action with
    | none => simp [hasEnded, hnext] at hended
    | some action =>
      have henters : Enters env control resume vars w action
          (LoopVars.enter control { vars with actions, ctx } action) w' _ :=
        ⟨⟨actions, ctx, hnext, rfl⟩, rfl⟩
      exact henters.sendsOnly

end

/-! ## What a turn leaves -/

/-- The rows of the execution are left, but for one that is saved, and a tail of packets is sent. -/
structure LeavesTail (executionId workflowId : UUID) (w w' : World σ) : Prop where
  workflows : w'.workflows = w.workflows
  workflowStatus : w'.workflowStatus = w.workflowStatus
  requestQueue : w'.requestQueue = w.requestQueue
  savedWorkflow : ∃ saved, w'.savedWorkflow = w.savedWorkflow ++ saved ∧
    ∀ row ∈ saved, row.workflowId = workflowId
  sent : ∃ packets, w'.sent = w.sent ++ packets ∧ Tail executionId packets

/-- The end of a run leaves a tail. -/
theorem RunEnds.leavesTail {cause : Prop} {w w' : World σ}
    (h : RunEnds executionId workflowId cause w w') : LeavesTail executionId workflowId w w' := by
  have hended : ∀ {w₁ : World σ} {saved : List SavedWorkflow} {entries : List Obs}
      {packets : List Packet}, Ordinary executionId w w₁ → EndsWith w₁ w' saved entries packets →
      (∀ row ∈ saved, row.workflowId = workflowId) → packets.length ≤ 1 →
      (∀ p ∈ packets, p.executionId = executionId ∧
        (endsExecution p.event = true ∨ p.event.savesWorkflow = true)) →
      LeavesTail executionId workflowId w w' := by
    intro w₁ saved entries packets h hend hsaved hone hpackets
    obtain ⟨inner, hsent, hinner⟩ := h.sent
    refine ⟨hend.workflows.trans h.workflows, hend.workflowStatus.trans h.workflowStatus,
      hend.requestQueue.trans h.requestQueue, ⟨saved, ?_, hsaved⟩, inner ++ packets, ?_,
      inner, packets, rfl, hinner, hone, hpackets⟩
    · rw [hend.savedWorkflow, h.savedWorkflow]
    · rw [hend.sent, hsent, List.append_assoc]
  cases h with
  | silent h =>
    exact hended h ⟨rfl, rfl, rfl, (List.append_nil _).symm, (List.append_nil _).symm,
      (List.append_nil _).symm⟩ (by simp) (Nat.zero_le 1) (by simp)
  | @ended w₁ packet h hid hevent hend =>
    refine hended h hend (by simp) le_rfl fun p hp => ?_
    rw [List.mem_singleton.mp hp]
    exact ⟨hid, .inl hevent⟩
  | halted saved entries packets h _ hsaved _ hone hpackets hend =>
    refine hended h hend (fun row hrow => ?_) hone fun p hp =>
      ⟨(hpackets p hp).1, .inr (hpackets p hp).2⟩
    rw [List.mem_singleton.mp hrow]
    exact hsaved.2
  | refused h _ hend => exact hended h hend (by simp) (Nat.zero_le 1) (by simp)

/-! ## A turn after an abort -/

section

variable {env : Env σ} {resume : Bool} {vars : LoopVars} {w : World σ}

/-- What happens after an abort: no action is executed, and neither a pause nor an await is
reported. -/
structure Unhalted (w w' : World σ) : Prop where
  idle : Idle w w'
  noCall : Logs (fun entry => ¬ ExecutesAction entry) w w'
  sent : SendsOnly (fun p => p.event.savesWorkflow = false) w w'

/-- Two such stretches are one. -/
theorem Unhalted.trans {u v w : World σ} (huv : Unhalted u v) (hvw : Unhalted v w) :
    Unhalted u w :=
  ⟨hvw.idle.trans huv.idle, huv.noCall.trans hvw.noCall, huv.sent.trans hvw.sent⟩

/-- A step that logs nothing, sends nothing and draws no id. -/
theorem Unhalted.of_eq {w w' : World σ} (hid : w'.uuid4 = w.uuid4) (hlog : w'.log = w.log)
    (hsent : w'.sent = w.sent) : Unhalted w w' :=
  ⟨hid, ⟨[], by rw [hlog, List.append_nil], by simp⟩, .nothing hsent⟩

/-- The packets of actions and branches save nothing. -/
theorem savesWorkflow_of_inner {packet : Packet} (h : Inner executionId packet) :
    packet.event.savesWorkflow = false := by
  have hstatus := h.2
  cases hevent : packet.event <;> rw [hevent] at hstatus <;> first | rfl | cases hstatus

/-- The search for the next action. -/
theorem unhalted_search {P : Obs → Prop} {w w' : World σ} (hidle : Idle w w')
    (hP : ∀ entry, P entry → ¬ ExecutesAction entry)
    (h : Frame P (Inner executionId) w w') : Unhalted w w' := by
  obtain ⟨new, hsent, hnew⟩ := h.sent
  exact ⟨hidle, Logs.mono h.log hP, new, hsent, fun p hp => savesWorkflow_of_inner (hnew p hp)⟩

/-- The entries of a search execute no action. -/
theorem TriesBranches.not_executesAction {entry : Obs} (h : TriesBranches entry) :
    ¬ ExecutesAction entry := by
  obtain ⟨branch, rfl | rfl⟩ := h <;> exact id

/-- Shutting down reports nothing else. -/
theorem unhalted_shutdown (env : Env σ) (ctx : Context) (w : World σ) :
    Unhalted w (finalState (shutdown env ctx w)) := by
  rw [shutdown_eq]
  cases ((w.accumulators ctx.executionId).asJson ctx.executionId).dumps with
  | error e => exact .of_eq rfl rfl rfl
  | ok text =>
    exact ⟨rfl, ⟨[], (List.append_nil _).symm, by simp⟩, .packet (by simp [workflowPacket]; rfl) rfl⟩

/-- **A turn of a run that has been told to abort** and not to pause executes no action, and is the
last one. -/
theorem unhalted_loopTurn
    (htold : HasAction env vars w → vars.ctx.isAborted = true ∧ vars.ctx.isPaused = false) :
    Unhalted w (finalState (loopTurn env flagsOnly resume vars w)) ∧
      ∀ vars' w', loopTurn env flagsOnly resume vars w ≠ .ok (.again vars') w' := by
  have hsearch := (frame_next env vars.ctx vars.actions)
  have hidle := idle_next env vars.ctx vars.actions
  cases hnext : vars.actions.next env vars.ctx w with
  | error e w' =>
    rw [loopTurn_of_branchingRaised hnext]
    exact ⟨unhalted_search (hidle.of_error hnext) (fun _ => TriesBranches.not_executesAction)
      (hsearch.of_error hnext), fun _ _ h => by cases h⟩
  | ok r w₁ =>
    have hbefore : Unhalted w w₁ := unhalted_search (hidle.of_ok hnext)
      (fun _ => TriesBranches.not_executesAction) (hsearch.of_ok hnext)
    obtain ⟨action, actions, ctx⟩ := r
    cases action with
    | none =>
      rw [loopTurn_of_none hnext]
      refine ⟨?_, fun vars' w' h => ?_⟩
      · rw [Library.finalState_bind_pure]
        exact hbefore.trans (unhalted_shutdown env ctx w₁)
      · obtain ⟨_, _, -, h⟩ := bind_eq_ok.mp h
        cases h
    | some action =>
      have henters : Enters env flagsOnly resume vars w action
          (LoopVars.enter flagsOnly { vars with actions, ctx } action) w₁ _ :=
        ⟨⟨actions, ctx, hnext, rfl⟩, rfl⟩
      obtain ⟨haborted, hpaused⟩ := htold henters.hasAction
      rw [← henters.flags.2] at haborted
      rw [← henters.flags.1] at hpaused
      rw [henters.loopTurn_eq, hpaused, haborted, if_neg Bool.false_ne_true, if_pos rfl, bind_apply,
        sendEvent_aborted]
      refine ⟨hbefore.trans ⟨rfl, ⟨[_], rfl, ?_⟩, .packet ?_ rfl⟩, fun _ _ h => by cases h⟩
      · intro entry hentry
        rw [List.mem_singleton.mp hentry]
        exact id
      · rfl

end

end Walkoff.Analysis
