import Walkoff.Analysis.ActionCalls
import Walkoff.Analysis.BranchSearch
import Walkoff.Analysis.Requests
import Walkoff.Analysis.Samples
import Walkoff.Library.Transition
import Walkoff.Program.Pool

/-!
# Worker slots

`WorkflowExecutor.execute` pops its entry of the registry in its last statement. An
exception that escapes from the run skips the pop, and so does an action that starts
awaiting data: its `ActionResult` is compared with a text, which raises. The entry then
counts against the capacity of the worker although nothing is in progress.
-/

set_option autoImplicit false

namespace Walkoff.Analysis

open Walkoff.Model Walkoff.Program
open Walkoff.Library (Run Always Guarded EndsAt Ended exists_endsAt OrderedDict bind_apply finalState)

variable {σ : Type}

/-! ## Which runs raise -/

section

variable (env : Env σ) (control : ℕ → Control) (resume : Bool)

/-- A turn gets to something that raises, or to an action that starts awaiting data. -/
inductive TurnEscapes (vars : LoopVars) (w : World σ) : Prop where
  /-- The branches of the current action cannot be searched: no result is filed for it, or a
  condition raises. -/
  | branch (hsearch : NextRaises env vars.ctx w vars.actions)
  /-- At the end of the workflow, the accumulator is not JSON. -/
  | shutdown {w₁ : World σ} {actions : ActionIter} {ctx : Context} {e : Exn}
    (hnext : vars.actions.next env vars.ctx w = .ok (none, actions, ctx) w₁)
    (hdumps : ((w₁.accumulators ctx.executionId).asJson ctx.executionId).dumps = .error e)
  /-- The pause cannot be saved: the app instances do not pickle, or the execution has a saved
  state already. -/
  | pause {vars' : LoopVars} {w₁ w₂ : World σ} {action : Action}
    (henters : Enters env control resume vars w action vars' w₁ w₂)
    (hpaused : vars'.ctx.isPaused = true)
    (hrefused : (saveRefusal env vars'.ctx.executionId w₂).isSome)
  /-- The device, the arguments, the API, the app function or its result do not let the action
  come to its end. -/
  | action {vars' : LoopVars} {w₁ w₂ : World σ} {action : Action}
    (henters : Enters env control resume vars w action vars' w₁ w₂)
    (hpaused : vars'.ctx.isPaused = false) (haborted : vars'.ctx.isAborted = false)
    (hfails : ¬ Performs env vars'.ctx.origin action vars.startArguments resume w₂)
  /-- An action with a trigger is reached in a run that does not answer it. -/
  | awaits {vars' : LoopVars} {w₁ w₂ : World σ} {action : Action}
    (henters : Enters env control resume vars w action vars' w₁ w₂)
    (hpaused : vars'.ctx.isPaused = false) (haborted : vars'.ctx.isAborted = false)
    (htrigger : (action.trigger.isSome && !resume) = true)

/-- A run of the loop ends, within its turns, in a turn that escapes. -/
def LoopEscapes (turns : ℕ) (vars : LoopVars) (w : World σ) : Prop :=
  ∃ vars' w', EndsAt (loopTurn env control resume) turns vars w vars' w' ∧
    TurnEscapes env control resume vars' w'

end

/-- A call of `execute` has no UUID to start from, or its loop escapes. -/
def CallEscapes (call : Call σ) : Prop :=
  match (call.request.start.or call.ctx.workflow.start).or call.ctx.workflow.start with
  | none => True
  | some start =>
    LoopEscapes call.env call.control call.request.resume call.turns
      { ctx := call.ctx, actions := .fresh start, startArguments := call.request.startArguments
        boundary := 0 }
      (finalState (announceStart call.env call.ctx call.request.environmentVariables call.world))

section

variable {env : Env σ} {control : ℕ → Control} {resume : Bool}

/-- A pause raises exactly if the execution cannot be saved. -/
theorem sendEvent_paused_raises_iff (env : Env σ) {o : Origin} {action : Action}
    (haction : o.executingAction = some action) (w : World σ) :
    (∃ e w', sendEvent env o .workflowPaused none w = .error e w') ↔
      (saveRefusal env o.executionId w).isSome := by
  rw [sendEvent_paused env haction]
  cases saveRefusal env o.executionId w with
  | none => exact ⟨fun ⟨_, _, h⟩ => (by cases h), fun h => (by cases h)⟩
  | some e => exact ⟨fun _ => rfl, fun _ => ⟨_, _, rfl⟩⟩

/-- Shutting down raises exactly if the accumulator is not JSON. -/
theorem shutdown_raises_iff (env : Env σ) (ctx : Context) (w : World σ) :
    (∃ e w', shutdown env ctx w = .error e w') ↔
      ∃ e, ((w.accumulators ctx.executionId).asJson ctx.executionId).dumps = .error e := by
  rw [shutdown_eq]
  cases ((w.accumulators ctx.executionId).asJson ctx.executionId).dumps with
  | ok text => exact ⟨fun ⟨_, _, h⟩ => (by cases h), fun ⟨_, h⟩ => (by cases h)⟩
  | error e => exact ⟨fun _ => ⟨e, rfl⟩, fun _ => ⟨e, _, rfl⟩⟩

/-- The calls at an action raise exactly if it does not perform. -/
theorem performAction_raises_iff (env : Env σ) {o : Origin} {action : Action}
    (haction : o.executingAction = some action) (arguments : List Argument) (resume : Bool)
    (w : World σ) :
    (∃ e w', performAction env o action arguments resume w = .error e w') ↔
      ¬ Performs env o action arguments resume w := by
  rw [← performAction_returns_iff env o action arguments haction resume w]
  cases performAction env o action arguments resume w with
  | ok r w' => exact ⟨fun ⟨_, _, h⟩ => (by cases h), fun h => absurd ⟨r, w', rfl⟩ h⟩
  | error e w' => exact ⟨fun _ ⟨_, _, h⟩ => (by cases h), fun _ => ⟨e, w', rfl⟩⟩

/-- A turn that raises has got to one of the five. -/
theorem TurnEscapes.of_raises {vars : LoopVars} {w w' : World σ} {e : Exn}
    (h : loopTurn env control resume vars w = .error e w') :
    TurnEscapes env control resume vars w := by
  have hcases := loopTurn_cases env control resume vars w
  rw [h] at hcases
  cases hcases with
  | branchingRaised hnext => exact .branch ((next_raises_iff env vars.ctx _ w).mp ⟨_, _, hnext⟩)
  | shutdownRaised hnext hshutdown =>
    obtain ⟨e', hdumps⟩ := (shutdown_raises_iff env _ _).mp ⟨_, _, hshutdown⟩
    exact .shutdown hnext hdumps
  | pauseRaised henters hpaused hsend =>
    exact .pause henters hpaused
      ((sendEvent_paused_raises_iff env henters.executingAction _).mp ⟨_, _, hsend⟩)
  | abortRaised henters hpaused haborted hsend =>
    rw [sendEvent_aborted] at hsend
    cases hsend
  | actionRaised henters hpaused haborted hperform =>
    exact .action henters hpaused haborted
      ((performAction_raises_iff env (o := Context.origin _) henters.executingAction _ _ _).mp
        ⟨_, _, hperform⟩)
  | awaited henters hpaused haborted hperform =>
    exact .awaits henters hpaused haborted (awaits_of_actionResult hperform)

/-- Each of the five makes the turn raise. -/
theorem TurnEscapes.raises {vars : LoopVars} {w : World σ}
    (h : TurnEscapes env control resume vars w) :
    ∃ e w', loopTurn env control resume vars w = .error e w' := by
  cases h with
  | branch hsearch =>
    obtain ⟨e, w', hnext⟩ := (next_raises_iff env vars.ctx _ w).mpr hsearch
    exact ⟨_, _, loopTurn_of_branchingRaised hnext⟩
  | shutdown hnext hdumps =>
    obtain ⟨e, w', hshutdown⟩ := (shutdown_raises_iff env _ _).mpr ⟨_, hdumps⟩
    rw [loopTurn_of_none hnext, bind_apply, hshutdown]
    exact ⟨_, _, rfl⟩
  | pause henters hpaused hrefused =>
    obtain ⟨e, w', hsend⟩ :=
      (sendEvent_paused_raises_iff env (o := Context.origin _) henters.executingAction _).mpr
        hrefused
    rw [henters.loopTurn_eq, hpaused, if_pos rfl, bind_apply, hsend]
    exact ⟨_, _, rfl⟩
  | action henters hpaused haborted hfails =>
    obtain ⟨e, w', hperform⟩ := (performAction_raises_iff env (o := Context.origin _)
      henters.executingAction _ _ _).mpr hfails
    rw [henters.loopTurn_eq_afterAction hpaused haborted, hperform]
    exact ⟨_, _, rfl⟩
  | @awaits vars' w₁ w₂ action henters hpaused haborted htrigger =>
    rw [henters.loopTurn_eq_afterAction hpaused haborted]
    cases hperform : performAction env vars'.ctx.origin action vars.startArguments resume w₂ with
    | error e w' => exact ⟨_, _, rfl⟩
    | ok r w' =>
      cases r with
      | actionResult result => exact ⟨_, _, rfl⟩
      | status s =>
        exact absurd hperform (awaits_not_status henters.executingAction htrigger _ _ _ _)

/-- **A run of the loop raises exactly if its last turn escapes.** -/
theorem runLoop_raises_iff (turns : ℕ) (vars : LoopVars) (w : World σ) :
    (∃ e w', runLoop env control resume turns vars w = .error e w') ↔
      LoopEscapes env control resume turns vars w := by
  constructor
  · rintro ⟨e, w', h⟩
    have hended : Ended (Library.loop (loopTurn env control resume) turns vars w) := by
      rw [show Library.loop _ _ _ _ = _ from h]
      trivial
    obtain ⟨vars', w₁, hends⟩ := exists_endsAt hended
    refine ⟨vars', w₁, hends, ?_⟩
    rw [runLoop, hends.loop_eq] at h
    cases hturn : loopTurn env control resume vars' w₁ with
    | error e' w₂ => exact .of_raises hturn
    | ok r w₂ =>
      rw [hturn] at h
      cases r <;> cases h
  · rintro ⟨vars', w₁, hends, hescapes⟩
    obtain ⟨e, w', hturn⟩ := hescapes.raises
    rw [runLoop, hends.loop_eq, hturn]
    exact ⟨e, w', rfl⟩

end

/-- A call raises exactly if it escapes. -/
theorem call_raises_iff (call : Call σ) :
    (∃ e w', call.result = .error e w') ↔ CallEscapes call := by
  obtain ⟨w₁, hannounce⟩ :=
    announceStart_ok call.env call.ctx call.request.environmentVariables call.world
  unfold Call.result CallEscapes runRequest strategyExecute
  rw [bind_apply, hannounce]
  cases (call.request.start.or call.ctx.workflow.start).or call.ctx.workflow.start with
  | none => exact ⟨fun _ => trivial, fun _ => ⟨_, _, rfl⟩⟩
  | some start => exact runLoop_raises_iff _ _ _

/-! ## One call of `execute` -/

/-- The context of a request is made and registered, and its run escapes. -/
def RequestEscapes (env : Env σ) (control : ℕ → Control) (turns : ℕ) (thread : String)
    (request : Request) (w : World σ) : Prop :=
  match prepare env request w with
  | .ok (some ctx) w₁ =>
    CallEscapes ⟨env, control, turns, request, ctx, finalState (register thread ctx w₁)⟩
  | _ => False

section

variable {env : Env σ} {control : ℕ → Control} {turns : ℕ} {thread : String} {request : Request}

/-- The call added an entry to the registry and the entry is there when the call has ended. -/
def LeavesEntry (env : Env σ) (control : ℕ → Control) (turns : ℕ) (thread : String)
    (request : Request) (w : World σ) : Prop :=
  (∃ ctx w₁, prepare env request w = .ok (some ctx) w₁) ∧
    thread ∈ OrderedDict.keys
      (finalState (execute env control turns thread request w)).executingWorkflows

/-- **One call leaves its entry behind exactly if it escapes** after its context was
registered. -/
theorem leavesEntry_iff {w : World σ} (hended : Ended (execute env control turns thread request w)) :
    LeavesEntry env control turns thread request w ↔
      RequestEscapes env control turns thread request w := by
  unfold LeavesEntry RequestEscapes
  split
  case h_1 ctx w₁ hctx =>
    refine (and_iff_right ⟨ctx, w₁, hctx⟩).trans ?_
    rw [execute_of_context hctx] at hended ⊢
    generalize hregister : finalState (register thread ctx w₁) = w₂ at hended ⊢
    have hentry : thread ∈ OrderedDict.keys w₂.executingWorkflows := by
      subst hregister
      exact (OrderedDict.mem_keys_set _ _ _ _).mpr (.inl rfl)
    have hrun := runFrame_runRequest env control turns request ctx w₂
    rw [← call_raises_iff]
    change _ ↔ ∃ e w', runRequest env control turns request ctx w₂ = .error e w'
    cases hresult : runRequest env control turns request ctx w₂ with
    | error e w' =>
      rw [hresult] at hrun
      rw [← hrun.executingWorkflows] at hentry
      exact ⟨fun _ => ⟨e, w', rfl⟩, fun _ => hentry⟩
    | ok progress w' =>
      cases progress with
      | running vars =>
        rw [hresult] at hended
        exact hended.elim
      | returned =>
        refine ⟨fun hmem => ?_, by rintro ⟨_, _, ⟨⟩⟩⟩
        exact absurd hmem (OrderedDict.not_mem_keys_pop thread w'.executingWorkflows)
  case h_2 hctx =>
    exact ⟨fun ⟨⟨ctx, w₁, h⟩, _⟩ => hctx ctx w₁ h, False.elim⟩

end

/-! ## Any number of calls on the pool threads -/

/-- The registry holds the calls in progress and nothing else, so that the worker takes a
request whenever it has a thread for it. -/
structure NoLeak (pool : Pool σ) : Prop where
  threads : OrderedDict.keys pool.executingWorkflows = OrderedDict.keys pool.inProgress
  length : pool.executingWorkflows.length = pool.inProgress.length
  capacity : ∀ maxWorkflows, pool.inProgress.length < maxWorkflows →
    pool.isAtCapacity maxWorkflows = false

/-- Nothing leaks where the registered executions are those in progress. -/
theorem NoLeak.of_threads {pool : Pool σ}
    (h : OrderedDict.keys pool.executingWorkflows = OrderedDict.keys pool.inProgress) :
    NoLeak pool := by
  have hlength : pool.executingWorkflows.length = pool.inProgress.length := by
    simpa [OrderedDict.keys] using congrArg List.length h
  refine ⟨h, hlength, fun maxWorkflows hfree => ?_⟩
  rw [Pool.isAtCapacity, hlength]
  exact decide_eq_false (by omega)

/-- Nothing has leaked at the start. -/
theorem noLeak_start : NoLeak (Pool.start : Pool σ) :=
  .of_threads rfl

/-- A call that ends does not escape. -/
def EndsWell (pool : Pool σ) : PoolStep σ → Prop
  | .begin _ _ => True
  | .finish thread => ∀ call, OrderedDict.get? thread pool.inProgress = some call → ¬ CallEscapes call

/-- An idle thread takes a request. -/
theorem poolStep_begin {pool next : Pool σ} {thread : String} {call : Call σ}
    (h : pool.Step (.begin thread call) next) :
    thread ∉ OrderedDict.keys pool.inProgress ∧ next =
      { executingWorkflows := OrderedDict.set thread call.ctx.executionId pool.executingWorkflows
        inProgress := OrderedDict.set thread call pool.inProgress } := by
  simp only [Pool.Step, Pool.step] at h
  by_cases hidle : thread ∈ OrderedDict.keys pool.inProgress
  · rw [if_pos hidle] at h
    cases h
  · rw [if_neg hidle] at h
    exact ⟨hidle, (Option.some.inj h).symm⟩

/-- A call in progress ends: its entry goes exactly if it does not escape. -/
theorem poolStep_finish {pool next : Pool σ} {thread : String}
    (h : pool.Step (.finish thread) next) :
    ∃ call, OrderedDict.get? thread pool.inProgress = some call ∧
      next.inProgress = OrderedDict.pop thread pool.inProgress ∧
      (¬ CallEscapes call ∧
          next.executingWorkflows = OrderedDict.pop thread pool.executingWorkflows ∨
        CallEscapes call ∧ next.executingWorkflows = pool.executingWorkflows) := by
  simp only [Pool.Step, Pool.step] at h
  cases hcall : OrderedDict.get? thread pool.inProgress with
  | none =>
    rw [hcall] at h
    cases h
  | some call =>
    rw [hcall] at h
    dsimp only at h
    refine ⟨call, rfl, ?_⟩
    rw [← call_raises_iff]
    cases hresult : call.result with
    | error e w' =>
      rw [hresult] at h
      cases h
      exact ⟨rfl, .inr ⟨⟨e, w', rfl⟩, rfl⟩⟩
    | ok progress w' =>
      rw [hresult] at h
      cases progress with
      | running vars => cases h
      | returned =>
        cases h
        refine ⟨rfl, .inl ⟨?_, rfl⟩⟩
        rintro ⟨e, w'', ⟨⟩⟩

/-- **A step of the pool leaks nothing exactly if it ends well.** -/
theorem noLeak_step {pool next : Pool σ} {step : PoolStep σ} (h : NoLeak pool)
    (hstep : pool.Step step next) : NoLeak next ↔ EndsWell pool step := by
  cases step with
  | begin thread call =>
    obtain ⟨hidle, rfl⟩ := poolStep_begin hstep
    refine ⟨fun _ => trivial, fun _ => .of_threads ?_⟩
    have hfree : thread ∉ OrderedDict.keys pool.executingWorkflows := by
      rwa [h.threads]
    rw [OrderedDict.keys_set_of_not_mem hidle, OrderedDict.keys_set_of_not_mem hfree, h.threads]
  | finish thread =>
    obtain ⟨call, hcall, hprogress, ⟨hwell, hentries⟩ | ⟨hescapes, hentries⟩⟩ :=
      poolStep_finish hstep
    · constructor
      · intro _ call' hcall'
        rw [hcall] at hcall'
        cases hcall'
        exact hwell
      · intro _
        refine .of_threads ?_
        rw [hprogress, hentries, OrderedDict.keys_pop, OrderedDict.keys_pop, h.threads]
    · constructor
      · intro hnext
        have hentry : thread ∈ OrderedDict.keys next.inProgress := by
          rw [← hnext.threads, hentries, h.threads, OrderedDict.mem_keys_iff, hcall]
          rfl
        rw [hprogress] at hentry
        exact absurd hentry (OrderedDict.not_mem_keys_pop thread pool.inProgress)
      · exact fun hends => absurd hescapes (hends call hcall)

/-- **Slots are released exactly when no call escapes**: a call of `execute` that has ended
leaves its entry behind iff it escapes, and in any run of the pool threads the registry is
exact in every state iff every call that ends does not escape. -/
theorem slots_released_iff (env : Env σ) (control : ℕ → Control) (turns : ℕ) (thread : String)
    (request : Request) (w : World σ) (hended : Ended (execute env control turns thread request w))
    (steps : List (PoolStep σ)) (pool : Pool σ) :
    (¬ LeavesEntry env control turns thread request w ↔
        ¬ RequestEscapes env control turns thread request w) ∧
      (Always Pool.Step NoLeak Pool.start steps pool ↔
        Run (Guarded Pool.Step EndsWell) Pool.start steps pool) :=
  ⟨not_congr (leavesEntry_iff hended),
    Run.always_iff (J := fun _ => True) (fun _ _ _ _ _ _ => trivial)
      (fun _ _ _ _ h hstep => noLeak_step h hstep) trivial noLeak_start⟩

/-- The call of a workflow with two actions that both return. -/
def returningCall : Call Unit where
  env := succeeding
  control := undisturbed
  turns := 3
  request := sampleRequest
  ctx := newContext (twoActions none none) 7 none
  world := pendingWorld (twoActions none none)

/-- Whether the call came to its end without raising. -/
def hasReturned : EStateM.Result Exn (World σ) Progress → Bool
  | .ok .returned _ => true
  | _ => false

/-- The test of a result says whether it has returned. -/
theorem hasReturned_iff {r : EStateM.Result Exn (World σ) Progress} :
    hasReturned r = true ↔ ∃ w, r = .ok .returned w := by
  cases r with
  | error e w => simp [hasReturned]
  | ok progress w => cases progress <;> simp [hasReturned]

/-- The call of the example returns. -/
theorem returningCall_returns : ∃ w, returningCall.result = .ok .returned w :=
  hasReturned_iff.mp (by decide +kernel)

/-- A call that returns takes its entry out. -/
theorem poolStep_finish_of_returned {pool : Pool σ} {thread : String} {call : Call σ}
    (hcall : OrderedDict.get? thread pool.inProgress = some call)
    (hreturned : ∃ w, call.result = .ok .returned w) :
    pool.Step (.finish thread)
      { executingWorkflows := OrderedDict.pop thread pool.executingWorkflows
        inProgress := OrderedDict.pop thread pool.inProgress } := by
  obtain ⟨w, hresult⟩ := hreturned
  simp only [Pool.Step, Pool.step, hcall, hresult]

/-- A request that runs two actions and returns, and two such calls side by side on the threads of
a pool. -/
theorem slots_released_twoActions :
    (Ended (execute succeeding undisturbed 3 "Thread-1" sampleRequest
          (pendingWorld (twoActions none none))) ∧
        Run Pool.Step Pool.start
          [.begin "Thread-1" returningCall, .begin "Thread-2" returningCall,
            .finish "Thread-1", .finish "Thread-2"] (Pool.start : Pool Unit)) ∧
      (¬ LeavesEntry succeeding undisturbed 3 "Thread-1" sampleRequest
          (pendingWorld (twoActions none none)) ↔
        ¬ RequestEscapes succeeding undisturbed 3 "Thread-1" sampleRequest
          (pendingWorld (twoActions none none))) ∧
      (Always Pool.Step NoLeak Pool.start
          [.begin "Thread-1" returningCall, .begin "Thread-2" returningCall,
            .finish "Thread-1", .finish "Thread-2"] (Pool.start : Pool Unit) ↔
        Run (Guarded Pool.Step EndsWell) Pool.start
          [.begin "Thread-1" returningCall, .begin "Thread-2" returningCall,
            .finish "Thread-1", .finish "Thread-2"] (Pool.start : Pool Unit)) := by
  have hended : Ended (execute succeeding undisturbed 3 "Thread-1" sampleRequest
      (pendingWorld (twoActions none none))) := by
    decide +kernel
  refine ⟨⟨hended, ?_⟩, slots_released_iff succeeding undisturbed 3 "Thread-1" sampleRequest
    (pendingWorld (twoActions none none)) hended _ Pool.start⟩
  exact .cons rfl (.cons rfl
    (.cons (poolStep_finish_of_returned rfl returningCall_returns)
      (.cons (poolStep_finish_of_returned rfl returningCall_returns) (.refl _))))

/-- The call of a workflow whose only action has a trigger. -/
def awaitingCall : Call Unit where
  env := succeeding
  control := undisturbed
  turns := 1
  request := sampleRequest
  ctx := newContext (sampleWorkflow [sampleAction 1 (some sampleTrigger)] []) 7 none
  world := pendingWorld (sampleWorkflow [sampleAction 1 (some sampleTrigger)] [])

/-- An action that starts awaiting data raises, and its slot is lost: a worker for one
workflow is at capacity with nothing in progress. -/
theorem await_leaks_slot :
    LeavesEntry succeeding undisturbed 1 "Thread-1" sampleRequest
        (pendingWorld (sampleWorkflow [sampleAction 1 (some sampleTrigger)] [])) ∧
      ∃ pool : Pool Unit,
        Run Pool.Step Pool.start [.begin "Thread-1" awaitingCall, .finish "Thread-1"] pool ∧
          pool.inProgress = [] ∧ pool.isAtCapacity 1 = true := by
  refine ⟨⟨⟨_, _, rfl⟩, ?_⟩, _, .cons rfl (.cons rfl (.refl _)), rfl, rfl⟩
  decide

end Walkoff.Analysis
