import Walkoff.Program.WorkflowExecutor

/-!
# What the parts of a run leave alone

Running an action and trying a branch change the app code's state, the accumulator and the
app instances, log what happens and send events. They never touch the tables of the
database, the request queue or the registry of the executor, and the events they send do
not change the status of the workflow. `Frame` states this for each of them.
-/

set_option autoImplicit false

namespace Walkoff.Analysis

open Walkoff.Model Walkoff.Program
open Walkoff.Library (Ends Within OrderedDict lift)

variable {σ : Type} {α : Type}

/-- The shared tables stay as they are, new log entries satisfy `P` and new packets `E`. -/
structure Frame (P : Obs → Prop) (E : Packet → Prop) (w w' : World σ) : Prop where
  workflows : w'.workflows = w.workflows
  workflowStatus : w'.workflowStatus = w.workflowStatus
  savedWorkflow : w'.savedWorkflow = w.savedWorkflow
  executingWorkflows : w'.executingWorkflows = w.executingWorkflows
  requestQueue : w'.requestQueue = w.requestQueue
  published : w'.published = w.published
  log : ∃ new, w'.log = w.log ++ new ∧ ∀ o ∈ new, P o
  sent : ∃ new, w'.sent = w.sent ++ new ∧ ∀ p ∈ new, E p

namespace Frame

variable {P P' : Obs → Prop} {E E' : Packet → Prop}

instance : Std.Refl (Frame P E : World σ → World σ → Prop) where
  refl w := ⟨rfl, rfl, rfl, rfl, rfl, rfl, ⟨[], by simp⟩, ⟨[], by simp⟩⟩

/-- Two steps within a frame are one. -/
theorem trans {u v w : World σ} (huv : Frame P E u v) (hvw : Frame P E v w) : Frame P E u w := by
  obtain ⟨o₁, hu, ho₁⟩ := huv.log
  obtain ⟨o₂, hv, ho₂⟩ := hvw.log
  obtain ⟨p₁, hup, hp₁⟩ := huv.sent
  obtain ⟨p₂, hvp, hp₂⟩ := hvw.sent
  refine ⟨hvw.workflows.trans huv.workflows, hvw.workflowStatus.trans huv.workflowStatus,
    hvw.savedWorkflow.trans huv.savedWorkflow,
    hvw.executingWorkflows.trans huv.executingWorkflows,
    hvw.requestQueue.trans huv.requestQueue, hvw.published.trans huv.published,
    ⟨o₁ ++ o₂, by rw [hv, hu, List.append_assoc], ?_⟩,
    ⟨p₁ ++ p₂, by rw [hvp, hup, List.append_assoc], ?_⟩⟩
  · exact fun o ho => (List.mem_append.mp ho).elim (ho₁ o) (ho₂ o)
  · exact fun p hp => (List.mem_append.mp hp).elim (hp₁ p) (hp₂ p)

instance : IsTrans (World σ) (Frame P E) where
  trans _ _ _ := trans

/-- A frame can be widened. -/
theorem mono {w w' : World σ} (h : Frame P E w w') (hP : ∀ o, P o → P' o) (hE : ∀ p, E p → E' p) :
    Frame P' E' w w' := by
  obtain ⟨o, hlog, ho⟩ := h.log
  obtain ⟨p, hsent, hp⟩ := h.sent
  exact { h with log := ⟨o, hlog, fun x hx => hP x (ho x hx)⟩
                 sent := ⟨p, hsent, fun x hx => hE x (hp x hx)⟩ }

/-- Within a frame the statuses stay. -/
theorem status {w w' : World σ} (h : Frame P E w w') (executionId : UUID) :
    w'.status executionId = w.status executionId := by
  simp only [World.status, h.workflowStatus]

/-- Within a frame the saved states stay. -/
theorem savedState {w w' : World σ} (h : Frame P E w w') (executionId : UUID) :
    w'.savedState executionId = w.savedState executionId := by
  simp only [World.savedState, h.savedWorkflow]

/-- Within a frame the workflows stay. -/
theorem workflow {w w' : World σ} (h : Frame P E w w') (id : UUID) :
    w'.workflow id = w.workflow id := by
  simp only [World.workflow, h.workflows]

end Frame

/-- New log entries satisfy `P`. -/
def Logs (P : Obs → Prop) (w w' : World σ) : Prop :=
  ∃ new, w'.log = w.log ++ new ∧ ∀ entry ∈ new, P entry

instance {P : Obs → Prop} : Std.Refl (Logs P : World σ → World σ → Prop) where
  refl _ := ⟨[], by simp, by simp⟩

/-- Two steps that only log are one. -/
theorem Logs.trans {P : Obs → Prop} {u v w : World σ} (huv : Logs P u v) (hvw : Logs P v w) :
    Logs P u w := by
  obtain ⟨first, hfirst, hp⟩ := huv
  obtain ⟨second, hsecond, hq⟩ := hvw
  refine ⟨first ++ second, by rw [hsecond, hfirst, List.append_assoc], fun entry hentry => ?_⟩
  exact (List.mem_append.mp hentry).elim (hp entry) (hq entry)

/-- What is logged can be described more widely. -/
theorem Logs.mono {P Q : Obs → Prop} {w w' : World σ} (h : Logs P w w')
    (hPQ : ∀ entry, P entry → Q entry) : Logs Q w w' := by
  obtain ⟨new, hlog, hnew⟩ := h
  exact ⟨new, hlog, fun entry hentry => hPQ entry (hnew entry hentry)⟩

/-- One entry is logged. -/
theorem Logs.single {P : Obs → Prop} {entry : Obs} (w : World σ) (h : P entry) :
    Logs P w (w.logged entry) :=
  ⟨[entry], rfl, fun _ hmem => List.mem_singleton.mp hmem ▸ h⟩

/-- Nothing. -/
abbrev Never {β : Type} (_ : β) : Prop := False

/-- A packet of the execution whose receivers leave the status of the workflow alone. -/
def Inner (executionId : UUID) (packet : Packet) : Prop :=
  packet.executionId = executionId ∧ packet.event.changesStatus = false

variable {P : Obs → Prop} {E : Packet → Prop}

/-- A computation stays within a wider frame. -/
theorem frame_mono {P' : Obs → Prop} {E' : Packet → Prop} {m : M σ α}
    (h : Within (Frame P E) m) (hP : ∀ o, P o → P' o) (hE : ∀ p, E p → E' p) :
    Within (Frame P' E') m :=
  fun w => (h w).mono hP hE

/-! ## The primitives -/

/-- Reading the world stays within every frame. -/
theorem frame_get : Within (Frame P E) (get : M σ (World σ)) := Within.get

/-- Logging an entry stays within a frame that allows it. -/
theorem frame_logged {o : Obs} (h : P o) (w : World σ) : Frame P E w (w.logged o) where
  workflows := rfl
  workflowStatus := rfl
  savedWorkflow := rfl
  executingWorkflows := rfl
  requestQueue := rfl
  published := rfl
  log := ⟨[o], rfl, by simpa using h⟩
  sent := ⟨[], by simp [World.logged]⟩

/-- The same as a computation. -/
theorem frame_observe {o : Obs} (h : P o) : Within (Frame P E) (observe o : M σ Unit) :=
  frame_logged h

/-- What the apps do stays within every frame. -/
theorem frame_behave (f : σ → Except Exn α × σ) : Within (Frame P E) (behave f) := by
  intro w
  unfold behave
  split <;> exact ⟨rfl, rfl, rfl, rfl, rfl, rfl, ⟨[], by simp [Library.finalState]⟩,
    ⟨[], by simp [Library.finalState]⟩⟩

/-- The same of taking a fresh id. -/
theorem frame_newUuid4 : Within (Frame P E) (newUuid4 : M σ ℕ) := fun _ =>
  ⟨rfl, rfl, rfl, rfl, rfl, rfl, ⟨[], by simp [newUuid4, Library.finalState]⟩,
    ⟨[], by simp [newUuid4, Library.finalState]⟩⟩

/-- The same of reading an accumulator. -/
theorem frame_getAccumulator (executionId : UUID) :
    Within (Frame P E) (getAccumulator executionId : M σ Accumulator) :=
  Within.bind frame_get fun _ => Within.pure _

/-- The same of replacing an accumulator. -/
theorem frame_putAccumulator (executionId : UUID) (accumulator : Accumulator) :
    Within (Frame P E) (putAccumulator executionId accumulator : M σ Unit) := fun _ =>
  ⟨rfl, rfl, rfl, rfl, rfl, rfl, ⟨[], by simp [putAccumulator, Library.finalState]⟩,
    ⟨[], by simp [putAccumulator, Library.finalState]⟩⟩

/-- The same of filing one item. -/
theorem frame_setAccumulatorItem (executionId key : UUID) (value : PyVal) :
    Within (Frame P E) (setAccumulatorItem executionId key value : M σ Unit) :=
  Within.bind (frame_getAccumulator executionId) fun _ =>
    Within.bind (Within.lift _) fun _ => frame_putAccumulator executionId _

/-- Sending a packet sends that packet or, if it cannot be encoded, nothing. -/
theorem frame_sendPacket {o : Origin} {sender : Sender} {event : WalkoffEvent}
    {data : Option PyVal} {startArguments : List Argument}
    (h : ∀ p : Packet, p.event = event → p.executionId = o.executionId → E p) :
    Within (Frame P E) (sendPacket o sender event data startArguments : M σ Unit) := by
  intro w
  unfold sendPacket
  cases hp : eventToProtobuf sender ⟨o.executionId, o.user⟩ event data startArguments with
  | error e => exact Std.Refl.refl (r := Frame P E) w
  | ok packet =>
    obtain ⟨hevent, hid⟩ := eventToProtobuf_event hp
    exact ⟨rfl, rfl, rfl, rfl, rfl, rfl, ⟨[], by simp [Library.lift, Library.finalState,
      Library.bind_apply, World.withPacket]⟩, ⟨[packet], rfl, by simpa using h packet hevent hid⟩⟩

/-- Handling an event that does not save the workflow sends its packet. -/
theorem frame_handleEvent {env : Env σ} {o : Origin} {sender : Sender} {event : WalkoffEvent}
    {data : Option PyVal} {startArguments : List Argument} (hsaves : event.savesWorkflow = false)
    (h : ∀ p : Packet, p.event = event → p.executionId = o.executionId → E p) :
    Within (Frame P E) (handleEvent env o sender event data startArguments : M σ Unit) := by
  rw [handleEvent_eq_sendPacket hsaves]
  exact frame_sendPacket h

/-- An event that changes no status is sent as an inner packet. -/
theorem frame_handleEvent_inner {env : Env σ} {o : Origin} {sender : Sender}
    {event : WalkoffEvent} {data : Option PyVal} {startArguments : List Argument}
    (hsaves : event.savesWorkflow = false) (hstatus : event.changesStatus = false) :
    Within (Frame P (Inner o.executionId))
      (handleEvent env o sender event data startArguments : M σ Unit) :=
  frame_handleEvent hsaves fun _ hevent hid => ⟨hid, hevent ▸ hstatus⟩

/-! ## App instances and actions -/

section

variable (env : Env σ) (o : Origin)

/-- Setting an instance up sends only inner events. -/
theorem frame_setupAppInstance (action : Action) :
    Within (Frame P (Inner o.executionId)) (setupAppInstance env o action) := by
  unfold setupAppInstance
  cases action.deviceId with
  | none => exact Within.pure _
  | some argument =>
    refine Within.bind (frame_getAccumulator _) fun accumulator => ?_
    refine Within.bind (Within.lift _) fun value => ?_
    split
    · exact Within.throw _
    · refine Within.bind frame_get fun w => ?_
      split
      · refine Within.bind (fun v => ?_) fun _ =>
          Within.bind (frame_handleEvent_inner rfl rfl) fun _ => Within.pure _
        exact ⟨rfl, rfl, rfl, rfl, rfl, rfl, ⟨[], by simp [Library.finalState]⟩,
          ⟨[], by simp [Library.finalState]⟩⟩
      · exact Within.pure _

/-- The log entries of an action that is run: calls of its own app function. -/
def CallsApp (action : Action) (entry : Obs) : Prop :=
  ∃ arguments instanceKey, entry = .appFunction action.id arguments instanceKey

/-- Executing an action only logs its call. -/
theorem frame_executeLocally (action : Action) (arguments : OrderedDict String PyVal)
    (instanceKey : Option InstanceKey) :
    Within (Frame (CallsApp action) E) (executeLocally env o action arguments instanceKey) :=
  Within.bind (frame_observe ⟨_, _, rfl⟩) fun _ => Within.bind (frame_behave _) fun _ =>
    Within.bind (frame_setAccumulatorItem _ _ _) fun _ => Within.pure _

/-- Reporting a result sends only inner events. -/
theorem frame_reportResult (action : Action) (sender : Sender) (result : ActionResult) :
    Within (Frame P (Inner o.executionId)) (reportResult env o action sender result) := by
  unfold reportResult
  refine Within.bind (Within.lift _) fun result => ?_
  refine Within.bind (Within.lift _) fun failure => ?_
  refine Within.bind (Within.lift _) fun data => ?_
  split
  · exact Within.bind (frame_handleEvent_inner rfl rfl) fun _ => Within.pure _
  · exact Within.bind (frame_handleEvent_inner rfl rfl) fun _ => Within.pure _

/-- Resolving the device stays within every frame. -/
theorem frame_resolveDeviceId (action : Action) :
    Within (Frame P E) (resolveDeviceId o action : M σ PyVal) := by
  unfold resolveDeviceId
  cases action.deviceId with
  | none => exact Within.pure _
  | some argument =>
    exact Within.bind (frame_getAccumulator _) fun _ => Within.lift _

/-- Starting an action sends only inner events. -/
theorem frame_startAction (action : Action) (arguments : List Argument) :
    Within (Frame P (Inner o.executionId)) (startAction env o action arguments : M σ Sender) :=
  Within.bind frame_newUuid4 fun _ => Within.bind (frame_resolveDeviceId o action) fun _ =>
    Within.bind (frame_handleEvent_inner rfl rfl) fun _ => Within.pure _

/-- Running an action logs its call and sends inner events. -/
theorem frame_runAction (action : Action) (sender : Sender) (arguments : List Argument)
    (instanceKey : Option InstanceKey) :
    Within (Frame (CallsApp action) (Inner o.executionId))
      (runAction env o action sender arguments instanceKey) := by
  unfold runAction
  refine Within.bind (Within.lift _) fun api => ?_
  refine Within.bind (frame_getAccumulator _) fun accumulator => ?_
  split
  · refine Within.bind (frame_setAccumulatorItem _ _ _) fun _ => ?_
    refine Within.bind (Within.lift _) fun _ => ?_
    exact Within.bind (frame_handleEvent_inner rfl rfl) fun _ => Within.pure _
  · exact Within.throw _
  · refine Within.bind (Within.lift _) fun _ => ?_
    exact Within.bind (frame_executeLocally env o action _ _) fun _ =>
      frame_reportResult env o action sender _

/-- **An action that does not wait for data** runs its app function, at most: when it
returns, it has a status, which is logged last. -/
theorem performAction_runs {action : Action} {resume : Bool}
    (h : (action.trigger.isSome && !resume) = false) (arguments : List Argument) (w : World σ) :
    Ends
      (fun r w' => ∃ status w₁, r = .status status ∧
        Frame (CallsApp action) (Inner o.executionId) w w₁ ∧
        w' = w₁.logged (.executed action.id status))
      (fun _ w' => Frame (CallsApp action) (Inner o.executionId) w w')
      (performAction env o action arguments resume w) := by
  unfold performAction executeAction
  simp only [h, Bool.false_eq_true, if_false]
  refine ((frame_setupAppInstance env o action).ends w).bind ?_ fun _ _ h => h
  intro deviceId w₁ h₁
  refine ((frame_startAction env o action arguments).ends w₁).bind ?_ fun _ _ h => h₁.trans h
  intro sender w₂ h₂
  refine ((frame_runAction env o action sender arguments deviceId).ends w₂).bind ?_
    fun _ _ h => h₁.trans (h₂.trans h)
  intro status w₃ h₃
  exact ⟨status, w₃, rfl, h₁.trans (h₂.trans h₃), rfl⟩

end

/-! ## Conditional expressions -/

section

set_option linter.unusedSectionVars false

variable {R : World σ → World σ → Prop} [Std.Refl R] [IsTrans (World σ) R] {env : Env σ}
  {accumulator : M σ Accumulator} {report : UUID → Bool → M σ Unit}
  (hbehave : ∀ condition dataIn accumulator,
    Within R (behave (env.condition condition dataIn accumulator)))
  (haccumulator : Within R accumulator) (hreport : ∀ id result, Within R (report id result))

include hbehave haccumulator

/-- Executing a condition keeps what the apps keep. -/
theorem within_executeCondition (condition : Condition) (dataIn : PyVal) :
    Within R (executeCondition env accumulator condition dataIn) :=
  Within.bind haccumulator fun _ => hbehave _ _ _

/-- The same of the loop of `and` over conditions. -/
theorem within_allConditions (dataIn : PyVal) (cs : List Condition) :
    Within R (allConditions env accumulator dataIn cs) := by
  induction cs with
  | nil => exact Within.pure _
  | cons c cs ih =>
    refine Within.bind (within_executeCondition hbehave haccumulator c dataIn) fun result => ?_
    cases result with
    | true => exact ih
    | false => exact Within.pure _

/-- The same of the loop of `or` over conditions. -/
theorem within_anyCondition (dataIn : PyVal) (cs : List Condition) :
    Within R (anyCondition env accumulator dataIn cs) := by
  induction cs with
  | nil => exact Within.pure _
  | cons c cs ih =>
    refine Within.bind (within_executeCondition hbehave haccumulator c dataIn) fun result => ?_
    cases result with
    | true => exact Within.pure _
    | false => exact ih

/-- The same of the loop of `xor` over conditions. -/
theorem within_xorConditions (dataIn : PyVal) (isOneFound : Bool) (cs : List Condition) :
    Within R (xorConditions env accumulator dataIn isOneFound cs) := by
  induction cs generalizing isOneFound with
  | nil => exact Within.pure _
  | cons c cs ih =>
    refine Within.bind (within_executeCondition hbehave haccumulator c dataIn) fun result => ?_
    cases result with
    | true =>
      cases isOneFound with
      | true => exact Within.pure _
      | false => exact ih true
    | false => exact ih isOneFound

include hreport

mutual

/-- **A conditional expression changes what its conditions and its reports change.** -/
theorem within_executeExpression (dataIn : PyVal) :
    ∀ e, Within R (executeExpression env accumulator report dataIn e)
  | .mk id operator isNegated childExpressions conditions => by
    rw [executeExpression.eq_def]
    refine Within.bind ?_ fun result => ?_
    · cases operator with
      | and =>
        refine Within.bind (within_allConditions hbehave haccumulator _ _) fun result => ?_
        cases result with
        | true => exact within_allExpressions dataIn childExpressions
        | false => exact Within.pure _
      | or =>
        dsimp only
        split
        · exact Within.pure _
        · refine Within.bind (within_anyCondition hbehave haccumulator _ _) fun result => ?_
          cases result with
          | true => exact Within.pure _
          | false => exact within_anyExpression dataIn childExpressions
      | xor =>
        dsimp only
        split
        · exact Within.pure _
        · refine Within.bind (within_xorConditions hbehave haccumulator _ _ _) fun result => ?_
          cases result with
          | none => exact Within.pure _
          | some isOneFound => exact within_xorExpressions dataIn isOneFound childExpressions
    · exact Within.bind (hreport _ _) fun _ => Within.pure _

/-- The same of the loop of `and` over child expressions. -/
theorem within_allExpressions (dataIn : PyVal) :
    ∀ es, Within R (allExpressions env accumulator report dataIn es)
  | [] => by
    rw [allExpressions]
    exact Within.pure _
  | e :: es => by
    rw [allExpressions]
    refine Within.bind (within_executeExpression dataIn e) fun result => ?_
    cases result with
    | true => exact within_allExpressions dataIn es
    | false => exact Within.pure _

/-- The same of the loop of `or` over child expressions. -/
theorem within_anyExpression (dataIn : PyVal) :
    ∀ es, Within R (anyExpression env accumulator report dataIn es)
  | [] => by
    rw [anyExpression]
    exact Within.pure _
  | e :: es => by
    rw [anyExpression]
    refine Within.bind (within_executeExpression dataIn e) fun result => ?_
    cases result with
    | true => exact Within.pure _
    | false => exact within_anyExpression dataIn es

/-- The same of the loop of `xor` over child expressions. -/
theorem within_xorExpressions (dataIn : PyVal) :
    ∀ isOneFound es, Within R (xorExpressions env accumulator report dataIn isOneFound es)
  | isOneFound, [] => by
    rw [xorExpressions]
    exact Within.pure _
  | isOneFound, e :: es => by
    rw [xorExpressions]
    refine Within.bind (within_executeExpression dataIn e) fun result => ?_
    cases result with
    | true =>
      cases isOneFound with
      | true => exact Within.pure _
      | false => exact within_xorExpressions dataIn true es
    | false => exact within_xorExpressions dataIn isOneFound es

end

end

/-! ## Branches -/

section

variable (env : Env σ) (o : Origin)

/-- Reporting an expression sends only inner events. -/
theorem frame_reportExpression (id : UUID) (result : Bool) :
    Within (Frame P (Inner o.executionId)) (reportExpression env o id result : M σ Unit) := by
  unfold reportExpression
  cases result with
  | true => exact frame_handleEvent_inner rfl rfl
  | false => exact frame_handleEvent_inner rfl rfl

/-- The same of the condition of a branch. -/
theorem frame_branchCondition (branch : Branch) (dataIn : PyVal) :
    Within (Frame P (Inner o.executionId)) (branchCondition env o branch dataIn) := by
  unfold branchCondition
  cases branch.condition with
  | none => exact Within.pure _
  | some condition =>
    exact within_executeExpression (fun _ _ _ => frame_behave _) (frame_getAccumulator _)
      (fun id result => frame_reportExpression env o id result) dataIn condition

/-- Counting a branch only logs that it was executed. -/
theorem frame_countBranch (branch : Branch) (counter : ℕ) (h : P (.branchExecuted branch.id)) :
    Within (Frame P E) (countBranch o branch counter : M σ Unit) :=
  Within.bind (frame_observe h) fun _ => frame_setAccumulatorItem _ _ _

/-- Reporting a branch logs whether it was taken and sends only inner events. -/
theorem frame_reportBranch (branch : Branch) (taken : Bool) (h : P (.branchTaken branch.id)) :
    Within (Frame P (Inner o.executionId)) (reportBranch env o branch taken : M σ Unit) := by
  unfold reportBranch
  cases taken with
  | true =>
    rw [if_pos rfl]
    refine Within.bind ?_ fun _ => frame_observe h
    exact frame_handleEvent_inner rfl rfl
  | false =>
    rw [if_neg Bool.false_ne_true]
    exact frame_handleEvent_inner rfl rfl

/-- The log entries of a branch that is tried. -/
def TriesBranch (branch : Branch) (entry : Obs) : Prop :=
  entry = .branchExecuted branch.id ∨ entry = .branchTaken branch.id

/-- Executing a branch logs its trial and sends inner events. -/
theorem frame_executeBranch (branch : Branch) (status : Option String) (currentAction : Action)
    (counters : UUID → ℕ) :
    Within (Frame (TriesBranch branch) (Inner o.executionId))
      (executeBranch env o branch status currentAction counters) := by
  unfold executeBranch
  refine Within.bind (frame_countBranch o branch _ (.inl rfl)) fun _ => ?_
  split
  · refine Within.bind (frame_getAccumulator _) fun accumulator => ?_
    split
    · exact Within.throw _
    · refine Within.bind (frame_branchCondition env o branch _) fun taken => ?_
      exact Within.bind (frame_reportBranch env o branch taken (.inr rfl)) fun _ => Within.pure _
  · exact Within.pure _

/-- The log entries of a search for the next action. -/
def TriesBranches (entry : Obs) : Prop :=
  ∃ branch, TriesBranch branch entry

/-- The same of trying branches in their order. -/
theorem frame_tryBranches (status : Option String) (currentAction : Action)
    (branches : List Branch) (counters : UUID → ℕ) :
    Within (Frame TriesBranches (Inner o.executionId))
      (tryBranches env o status currentAction counters branches) := by
  induction branches generalizing counters with
  | nil => exact Within.pure _
  | cons branch branches ih =>
    rw [tryBranches]
    refine Within.bind (frame_mono (frame_executeBranch env o branch status currentAction counters)
      (fun _ h => ⟨branch, h⟩) fun _ h => h) fun result => ?_
    obtain ⟨destination, counters⟩ := result
    cases destination with
    | some destinationId => exact Within.pure _
    | none => exact ih counters

end

/-- The same of looking for the branch to follow. -/
theorem frame_getBranch (env : Env σ) (ctx : Context) :
    Within (Frame TriesBranches (Inner ctx.executionId)) (getBranch env ctx) := by
  unfold getBranch
  split
  · split
    · exact Within.throw _
    · exact Within.bind (frame_tryBranches env ctx.origin _ _ _ _) fun _ => Within.pure _
  · exact Within.pure _

/-- The same of the next action of an iterator. -/
theorem frame_next (env : Env σ) (ctx : Context) (actions : ActionIter) :
    Within (Frame TriesBranches (Inner ctx.executionId)) (actions.next env ctx) := by
  cases actions with
  | fresh start => exact Within.pure _
  | suspended => exact Within.bind (frame_getBranch env ctx) fun _ => Within.pure _
  | finished => exact Within.pure _

/-- Shutting down sends the `WorkflowShutdown` event or raises before it. -/
theorem frame_shutdown (env : Env σ) (ctx : Context) :
    Within (Frame P fun p => p.event = .workflowShutdown ∧ p.executionId = ctx.executionId)
      (shutdown env ctx) := by
  refine Within.bind (fun w => ?_) fun _ => Within.bind (frame_getAccumulator _) fun _ =>
    Within.bind (frame_handleEvent rfl fun p hevent hid => ⟨hevent, hid⟩) fun _ =>
      Within.bind (frame_getAccumulator _) fun _ => frame_putAccumulator _ _
  exact ⟨rfl, rfl, rfl, rfl, rfl, rfl, ⟨[], by simp [Library.finalState]⟩,
    ⟨[], by simp [Library.finalState]⟩⟩

/-! ## Making a context -/

/-- Setting the accumulator up stays within every frame. -/
theorem frame_initAccumulator (env : Env σ) (ctx : Context) (fromResumed : Bool) :
    Within (Frame P E) (initAccumulator env ctx fromResumed) := by
  refine Within.bind ?_ fun _ => frame_putAccumulator _ _
  unfold makeAccumulator
  cases env.accumulatorType with
  | memory => exact Within.pure _
  | external => exact Within.bind (frame_getAccumulator _) fun _ => Within.pure _

/-- A context is made without touching anything but the accumulator and the app instances. -/
theorem frame_prepare (env : Env σ) (request : Request) :
    Within (Frame P E) (prepare env request) := by
  have hinstances : ∀ instances : List InstanceKey,
      Within (Frame P E) (modify fun w => { w with instances } : M σ PUnit) := fun instances w =>
    ⟨rfl, rfl, rfl, rfl, rfl, rfl, ⟨[], by simp [Library.finalState]⟩,
      ⟨[], by simp [Library.finalState]⟩⟩
  refine Within.bind frame_get fun w => ?_
  cases w.status request.executionId with
  | none => exact Within.throw _
  | some status =>
    cases w.workflow request.workflowId with
    | none => cases status <;> first | exact Within.throw _ | exact Within.pure _
    | some workflow =>
      have hvalid : Within (Frame P E) (if !workflow.isValid then pure none
          else if request.resume then
            makeResumedContext env workflow request.executionId request.user
          else do
            pure (some (← makeNewContext env workflow request.executionId request.user)) :
              M σ (Option Context)) := by
        split
        · exact Within.pure _
        · split
          · refine Within.bind frame_get fun v => ?_
            cases v.savedState request.executionId with
            | none => exact Within.pure _
            | some savedState =>
              exact Within.bind (hinstances _) fun _ =>
                Within.bind (frame_initAccumulator env _ _) fun _ => Within.pure _
          · refine Within.bind ?_ fun _ => Within.pure _
            exact Within.bind (hinstances _) fun _ =>
              Within.bind (frame_initAccumulator env _ _) fun _ => Within.pure _
      cases status <;> first | exact hvalid | exact Within.pure _

end Walkoff.Analysis
