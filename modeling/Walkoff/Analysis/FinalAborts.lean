import Walkoff.Analysis.SteppedInvariant

/-!
# Aborts

`abort_workflow` returns `True` when it has set the status to aborted, or when it has published a
message to the workers. In the first case a run that has been taken off the queue goes on, and its
packets overwrite the status; in the second case the message may come too late, or a pause may come
before it. Where neither happens, an abort is final.
-/

set_option autoImplicit false

namespace Walkoff.Analysis

open Walkoff.Model Walkoff.Program
open Walkoff.Library (Guarded Run bind_apply get_apply finalState follow)

variable {σ : Type} {executionId workflowId : UUID}

/-! ## The property -/

/-- **An abort is final**: after it has returned `True` no action is executed (`Action.execute`
begins with a new execution id), the status becomes neither paused nor awaiting data, and completed
only if no further action was left; once it is aborted it stays so. -/
structure AbortFinal (executionId : UUID) (s s' : Stepped σ) : Prop where
  noAction : s'.world.uuid4 = s.world.uuid4
  noCall : ∃ entries, s'.world.log = s.world.log ++ entries ∧
    ∀ entry ∈ entries, ¬ ExecutesAction entry
  halted : s'.world.status executionId ≠ some .paused ∧
    s'.world.status executionId ≠ some .awaitingData
  completed : s'.world.status executionId = some .completed → s'.exhausted = true
  aborted : s.world.status executionId = some .aborted → s'.world.status executionId = some .aborted

/-! ## Runs of steps -/

/-- **Every step** that lets aborts be final keeps the invariant, and what an abort has settled. -/
theorem inSteps_step {env : Env σ} {workerOf : String → ℕ} {s s' : Stepped σ} {op : SteppedOp}
    (h : InSteps executionId workflowId s) (hok : LetsAbort env executionId s op)
    (hstep : SteppedStep env workerOf executionId s op s') :
    InSteps executionId workflowId s' ∧ (s.asked = true → KeepsAborted executionId s s') := by
  cases op with
  | take thread => exact inSteps_take h hstep
  | start thread =>
    obtain ⟨hinv, hnot⟩ := inSteps_start h hstep
    refine ⟨hinv, fun hasked => ?_⟩
    rw [hnot] at hasked
    cases hasked
  | turn thread => exact inSteps_turn h hok hstep
  | hear worker => exact inSteps_hear h hstep
  | receive => exact inSteps_receive h hstep
  | pause =>
    obtain rfl := Option.some.inj hstep
    exact inSteps_pause h
  | resume user => exact inSteps_control (by simp) (by simp) h hstep
  | answer dataIn arguments user => exact inSteps_control (by simp) (by simp) h hstep
  | abort =>
    obtain rfl := Option.some.inj hstep
    exact inSteps_abort h hok

/-- Nothing at all keeps what an abort has settled. -/
theorem KeepsAborted.refl {s : Stepped σ} (hasked : s.asked = true) :
    KeepsAborted executionId s s :=
  .of_eq hasked rfl rfl id

/-- So do two steps. -/
theorem KeepsAborted.trans {s s' s'' : Stepped σ} (h : KeepsAborted executionId s s')
    (h' : KeepsAborted executionId s' s'') : KeepsAborted executionId s s'' :=
  ⟨h'.asked, h'.idle.trans h.idle, h.noCall.trans h'.noCall,
    fun haborted => h'.aborted (h.aborted haborted)⟩

/-- **A run keeps the invariant**, and what an abort before it has settled. -/
theorem inSteps_run {env : Env σ} {workerOf : String → ℕ} {s s' : Stepped σ}
    {ops : List SteppedOp} (h : InSteps executionId workflowId s)
    (hrun : Run (Guarded (SteppedStep env workerOf executionId) (LetsAbort env executionId))
      s ops s') :
    InSteps executionId workflowId s' ∧ (s.asked = true → KeepsAborted executionId s s') := by
  induction hrun with
  | refl s => exact ⟨h, .refl⟩
  | cons hstep _ ih =>
    obtain ⟨hinv, hkept⟩ := inSteps_step h hstep.1 hstep.2
    obtain ⟨hinv', hkept'⟩ := ih hinv
    refine ⟨hinv', fun hasked => ?_⟩
    have hbefore := hkept hasked
    exact hbefore.trans (hkept' hbefore.asked)

/-- An execution that has been started is one of a stored workflow, and pending. -/
theorem started_lifecycleStart (behaviour : σ) (workflows : List Workflow)
    (workflowId executionId : UUID) (start : Option UUID) (startArguments : List Argument)
    (environmentVariables : List EnvironmentVariable) (user : Option String) :
    let w := lifecycleStart behaviour workflows workflowId executionId start startArguments
      environmentVariables user
    WorkflowStored executionId w ∧ ∀ status, w.status executionId = some status →
      status = .pending := by
  intro w
  cases hworkflow : (World.start behaviour workflows).workflow workflowId with
  | none =>
    have hsame : w = World.start behaviour workflows := by
      show finalState (executeWorkflow _ _ _ _ _ _ _ _) = _
      unfold executeWorkflow
      rw [bind_apply, get_apply]
      dsimp only
      rw [hworkflow]
      rfl
    rw [hsame]
    exact ⟨by rintro row ⟨⟩, by rintro status ⟨⟩⟩
  | some workflow =>
    rcases executeWorkflow_cases workflowId executionId start startArguments false
      environmentVariables user (World.start behaviour workflows) with hsame | hc
    · have hsame : w = World.start behaviour workflows := hsame
      rw [hsame]
      exact ⟨by rintro row ⟨⟩, by rintro status ⟨⟩⟩
    · have hc : Continued workflowId executionId start false (World.start behaviour workflows) w := hc
      refine ⟨fun row hrow => ?_, fun status hstatus => ?_⟩
      · rw [hc.workflowStatus, get?_workflowPending, Option.some.injEq] at hrow
        rw [World.workflow, hc.workflows, ← hrow]
        exact Option.isSome_iff_exists.mpr ⟨workflow, hworkflow⟩
      · rw [hc.status] at hstatus
        exact (Option.some.inj hstatus).symm

/-- **An execution is at rest when it starts.** -/
theorem inSteps_steppedStart (behaviour : σ) (workflows : List Workflow)
    (workflowId executionId : UUID) (start : Option UUID) (startArguments : List Argument)
    (environmentVariables : List EnvironmentVariable) (user : Option String) :
    InSteps executionId workflowId (steppedStart behaviour workflows workflowId executionId start
      startArguments environmentVariables user) := by
  have hinterleaves := interleaves_start behaviour workflows workflowId executionId start
    startArguments environmentVariables user
  have hsent := (saves_start behaviour workflows workflowId executionId start startArguments
    environmentVariables user).2
  obtain ⟨hstored, hpending⟩ := started_lifecycleStart behaviour workflows workflowId executionId
    start startArguments environmentVariables user
  have hnone : (steppedStart behaviour workflows workflowId executionId start startArguments
      environmentVariables user).unreceived = [] := by
    unfold Stepped.unreceived steppedStart
    rw [hsent]
    rfl
  refine ⟨hinterleaves.orderly, hstored, Nat.zero_le _, by rintro run ⟨⟩, Nat.zero_le 1, ?_,
    fun hcompleted => ?_, .rest rfl hnone (fun hrunning => ?_) (by rintro ⟨⟩)⟩
  · rw [hnone]
    rintro p ⟨⟩
  · cases hpending _ hcompleted
  · cases hpending _ hrunning

/-- **An abort is final** in every run whose steps let aborts be final: from the state in which
`abort_workflow` has returned `True` for an execution that was not over, in every state that the
run gets to. -/
theorem aborts_final {env : Env σ} {workerOf : String → ℕ} {behaviour : σ}
    {workflows : List Workflow} {workflowId executionId : UUID} {start : Option UUID}
    {startArguments : List Argument} {environmentVariables : List EnvironmentVariable}
    {user : Option String} {ops ops' : List SteppedOp} {s s' : Stepped σ}
    (hrun : Run (Guarded (SteppedStep env workerOf executionId) (LetsAbort env executionId))
      (steppedStart behaviour workflows workflowId executionId start startArguments
        environmentVariables user) ops s)
    (hasked : s.asked = true)
    (hrest : Run (Guarded (SteppedStep env workerOf executionId) (LetsAbort env executionId))
      s ops' s') :
    AbortFinal executionId s s' := by
  have hinv := (inSteps_run (inSteps_steppedStart behaviour workflows workflowId executionId start
    startArguments environmentVariables user) hrun).1
  obtain ⟨hinv', hkept⟩ := inSteps_run hinv hrest
  have hkept := hkept hasked
  exact ⟨hkept.idle, hkept.noCall, hinv'.not_halted hkept.asked, hinv'.completed, hkept.aborted⟩

/-! ## Two runs -/

/-- The threads of one worker. -/
def oneWorker (_ : String) : ℕ :=
  0

/-- A thread in its loop has been told to abort and not to pause. -/
def toldToAbort (run : SteppedRun) : Bool :=
  match run.phase with
  | .looping vars => vars.ctx.isAborted && !vars.ctx.isPaused
  | .prepared _ => true

/-- Whether a step lets aborts be final, whatever action the runs get to. -/
def letsAbort (executionId : UUID) (s : Stepped σ) : SteppedOp → Bool
  | .abort =>
    (decide (s.world.status executionId ≠ some .pending) ||
        s.running.isEmpty && s.unreceived.isEmpty) &&
      (decide (s.world.status executionId ≠ some .running) ||
        s.unreceived.all fun p => !p.event.savesWorkflow)
  | .turn _ => !s.asked || s.running.all toldToAbort
  | _ => true

/-- A step of which this is found lets aborts be final. -/
theorem letsAbort_sound {env : Env σ} {s : Stepped σ} {op : SteppedOp}
    (h : letsAbort executionId s op = true) : LetsAbort env executionId s op := by
  cases op with
  | abort =>
    obtain ⟨hpending, hrunning⟩ := Bool.and_eq_true_iff.mp h
    refine ⟨fun hstatus => ?_, fun hstatus p hp => ?_⟩
    · simpa [hstatus] using hpending
    · have hall : s.unreceived.all (fun p => !p.event.savesWorkflow) = true := by
        simpa [hstatus] using hrunning
      simpa using List.all_eq_true.mp hall p hp
  | turn _ =>
    intro hasked run vars hfind hphase _
    have hall : s.running.all toldToAbort = true := by
      simpa [letsAbort, hasked] using h
    have hrun := List.all_eq_true.mp hall run (List.mem_of_find?_eq_some hfind)
    rw [toldToAbort, hphase] at hrun
    simpa using hrun
  | _ => trivial

/-- A step that is found to let aborts be final. -/
def abortingStep (env : Env σ) (workerOf : String → ℕ) (executionId : UUID) (s : Stepped σ)
    (op : SteppedOp) : Option (Stepped σ) :=
  if letsAbort executionId s op then steppedStep env workerOf executionId s op else none

/-- Such a step is a guarded one. -/
theorem guarded_of_aborting {env : Env σ} {workerOf : String → ℕ} {s s' : Stepped σ}
    {op : SteppedOp} (h : abortingStep env workerOf executionId s op = some s') :
    Guarded (SteppedStep env workerOf executionId) (LetsAbort env executionId) s op s' := by
  unfold abortingStep at h
  split at h
  · rename_i hlets
    exact ⟨letsAbort_sound hlets, h⟩
  · cases h

/-- The execution of two actions is aborted after the first; its worker hears this, and ends the run
when it gets to the second. -/
theorem aborts_final_running :
    ∃ s s', Run (Guarded (SteppedStep succeeding oneWorker 7) (LetsAbort succeeding 7))
        (steppedStart () [twoActions none none] 100 7 none [] [] none)
        [.take "Thread-1", .start "Thread-1", .receive, .turn "Thread-1", .abort] s ∧
      s.asked = true ∧
      Run (Guarded (SteppedStep succeeding oneWorker 7) (LetsAbort succeeding 7)) s
        [.hear 0, .turn "Thread-1", .receive, .receive, .receive, .receive] s' ∧
      s'.world.status 7 = some .aborted ∧ AbortFinal 7 s s' := by
  have hrun : (follow (abortingStep succeeding oneWorker 7)
      (steppedStart () [twoActions none none] 100 7 none [] [] none)
      [.take "Thread-1", .start "Thread-1", .receive, .turn "Thread-1", .abort]).any (fun s =>
        s.asked && (follow (abortingStep succeeding oneWorker 7) s
          [.hear 0, .turn "Thread-1", .receive, .receive, .receive, .receive]).any fun s' =>
            decide (s'.world.status 7 = some .aborted)) = true := by
    decide +kernel
  obtain ⟨s, hs, hrest⟩ := (Option.any_eq_true _ _).mp hrun
  obtain ⟨hasked, hrest⟩ := Bool.and_eq_true_iff.mp hrest
  obtain ⟨s', hs', haborted⟩ := (Option.any_eq_true _ _).mp hrest
  have hguarded := (Run.of_follow hs).mono fun _ _ _ h => guarded_of_aborting h
  have hguarded' := (Run.of_follow hs').mono fun _ _ _ h => guarded_of_aborting h
  exact ⟨s, s', hguarded, hasked, hguarded', of_decide_eq_true haborted,
    aborts_final hguarded hasked hguarded'⟩

/-- An execution is aborted when a worker has taken its request: its actions are executed. And an
execution is paused and then aborted before its worker gets to the next action: it is paused. -/
theorem aborted_runs_go_on :
    (∃ s s', Run (SteppedStep succeeding oneWorker 7)
        (steppedStart () [twoActions none none] 100 7 none [] [] none)
        [.take "Thread-1", .abort] s ∧ s.asked = true ∧
      Run (SteppedStep succeeding oneWorker 7) s [.start "Thread-1", .turn "Thread-1"] s' ∧
      ¬ AbortFinal 7 s s') ∧
      ∃ s s', Run (SteppedStep succeeding oneWorker 7)
        (steppedStart () [twoActions none none] 100 7 none [] [] none)
        [.take "Thread-1", .start "Thread-1", .receive, .pause, .abort] s ∧ s.asked = true ∧
      Run (SteppedStep succeeding oneWorker 7) s
        [.hear 0, .hear 0, .turn "Thread-1", .receive] s' ∧
      ¬ AbortFinal 7 s s' := by
  constructor
  · have hrun : (follow (steppedStep succeeding oneWorker 7)
        (steppedStart () [twoActions none none] 100 7 none [] [] none)
        [.take "Thread-1", .abort]).any (fun s => s.asked &&
          (follow (steppedStep succeeding oneWorker 7) s
            [.start "Thread-1", .turn "Thread-1"]).any fun s' =>
              decide (s'.world.uuid4 ≠ s.world.uuid4)) = true := by
      decide +kernel
    obtain ⟨s, hs, hrest⟩ := (Option.any_eq_true _ _).mp hrun
    obtain ⟨hasked, hrest⟩ := Bool.and_eq_true_iff.mp hrest
    obtain ⟨s', hs', hexecuted⟩ := (Option.any_eq_true _ _).mp hrest
    exact ⟨s, s', .of_follow hs, hasked, .of_follow hs',
      fun hfinal => of_decide_eq_true hexecuted hfinal.noAction⟩
  · have hrun : (follow (steppedStep succeeding oneWorker 7)
        (steppedStart () [twoActions none none] 100 7 none [] [] none)
        [.take "Thread-1", .start "Thread-1", .receive, .pause, .abort]).any (fun s => s.asked &&
          (follow (steppedStep succeeding oneWorker 7) s
            [.hear 0, .hear 0, .turn "Thread-1", .receive]).any fun s' =>
              decide (s'.world.status 7 = some .paused)) = true := by
      decide +kernel
    obtain ⟨s, hs, hrest⟩ := (Option.any_eq_true _ _).mp hrun
    obtain ⟨hasked, hrest⟩ := Bool.and_eq_true_iff.mp hrest
    obtain ⟨s', hs', hpaused⟩ := (Option.any_eq_true _ _).mp hrest
    exact ⟨s, s', .of_follow hs, hasked, .of_follow hs',
      fun hfinal => hfinal.halted.1 (of_decide_eq_true hpaused)⟩

end Walkoff.Analysis
