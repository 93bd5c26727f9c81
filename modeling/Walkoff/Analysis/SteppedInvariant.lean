import Walkoff.Analysis.AbortedTurns

/-!
# Steps after an abort

Where the steps of worker and controller let aborts be final, they keep an invariant: the packets
on their way are those of one run, and after an abort no pause and no await is among them. What an
abort has settled is left alone by each step.
-/

set_option autoImplicit false

namespace Walkoff.Analysis

open Walkoff.Model Walkoff.Program
open Walkoff.Library (OrderedDict bind_apply get_apply finalState)

variable {σ : Type} {executionId workflowId : UUID}

/-! ## The condition -/

/-- A step that lets aborts be final. A pending execution is aborted only before a worker has taken
its request, and a running one only while no pause and no await is on its way to the controller;
and when, after an abort, a run gets to a further action, its context has been told to abort and
not to pause. -/
def LetsAbort (env : Env σ) (executionId : UUID) (s : Stepped σ) : SteppedOp → Prop
  | .abort =>
    (s.world.status executionId = some .pending → s.running = [] ∧ s.unreceived = []) ∧
      (s.world.status executionId = some .running →
        ∀ p ∈ s.unreceived, p.event.savesWorkflow = false)
  | .turn thread => s.asked = true → ∀ run vars,
      s.running.find? (·.thread = thread) = some run → run.phase = .looping vars →
        HasAction env vars s.world → vars.ctx.isAborted = true ∧ vars.ctx.isPaused = false
  | _ => True

/-! ## The invariant -/

/-- The threads that execute a request have begun their loops. -/
def Looping (s : Stepped σ) : Prop :=
  ∀ run ∈ s.running, ∃ vars, run.phase = .looping vars

/-- The packets of a run after its start; while the run goes on, those of actions and branches. -/
structure Sending (executionId : UUID) (s : Stepped σ) (packets : List Packet) : Prop where
  tail : Tail executionId packets
  inner : s.running ≠ [] → ∀ p ∈ packets, Inner executionId p

/-- How far the execution is. -/
inductive Progressing (executionId : UUID) (s : Stepped σ) : Prop where
  /-- No run has begun of which the controller has not heard the end. -/
  | rest (hrunning : s.running = []) (hnone : s.unreceived = [])
    (hstatus : s.world.status executionId ≠ some .running)
    (hasked : s.asked = true → s.world.status executionId = some .aborted ∨
      s.world.status executionId = some .completed)
  /-- A thread has made a context. -/
  | prepared (hqueue : s.world.requestQueue = []) (hnone : s.unreceived = [])
    (hstatus : s.world.status executionId = some .pending)
    (hprepared : ∀ run ∈ s.running, ∃ ctx, run.phase = .prepared ctx) (hasked : s.asked = false)
  /-- A run has begun, and the controller does not know of its start. -/
  | unheard (start : Packet) (rest : List Packet) (hqueue : s.world.requestQueue = [])
    (hstatus : s.world.status executionId = some .pending)
    (hpackets : s.unreceived = start :: rest) (hid : start.executionId = executionId)
    (hevent : start.event = .workflowExecutionStart) (hsending : Sending executionId s rest)
    (hlooping : Looping s) (hasked : s.asked = false)
  /-- A run has begun, and the controller does not know of its end. -/
  | heard (hqueue : s.world.requestQueue = [])
    (hstatus : s.world.status executionId = some .running)
    (hsending : Sending executionId s s.unreceived) (hlooping : Looping s)
    (hasked : s.asked = true → ∀ p ∈ s.unreceived, p.event.savesWorkflow = false)

/-- The workflow of the execution is stored. -/
def WorkflowStored (executionId : UUID) (w : World σ) : Prop :=
  ∀ row, OrderedDict.get? executionId w.workflowStatus = some row →
    (w.workflow row.workflowId).isSome = true

/-- What this looks at. -/
theorem WorkflowStored.congr {w w' : World σ} (h : WorkflowStored executionId w)
    (hworkflows : w'.workflows = w.workflows) (hstatus : w'.workflowStatus = w.workflowStatus) :
    WorkflowStored executionId w' := by
  intro row hrow
  rw [hstatus] at hrow
  rw [World.workflow, hworkflows]
  exact h row hrow

/-- The invariant of the steps. -/
structure InSteps (executionId workflowId : UUID) (s : Stepped σ) : Prop where
  orderly : Orderly executionId workflowId s.world
  stored : WorkflowStored executionId s.world
  received : s.received ≤ s.world.sent.length
  runs : ∀ run ∈ s.running,
    run.phase.ctx.executionId = executionId ∧ run.phase.ctx.workflow.id = workflowId
  alone : s.running.length ≤ 1
  exhausted : ∀ p ∈ s.unreceived, p.event = .workflowShutdown → s.exhausted = true
  completed : s.world.status executionId = some .completed → s.exhausted = true
  progress : Progressing executionId s

/-- **What the invariant says after an abort.** -/
theorem InSteps.not_halted {s : Stepped σ} (h : InSteps executionId workflowId s)
    (hasked : s.asked = true) : s.world.status executionId ≠ some .paused ∧
      s.world.status executionId ≠ some .awaitingData := by
  cases h.progress with
  | rest _ _ _ hover =>
    rcases hover hasked with hstatus | hstatus <;> rw [hstatus] <;> decide
  | prepared _ _ _ _ hnot =>
    rw [hnot] at hasked
    cases hasked
  | unheard _ _ _ _ _ _ _ _ _ hnot =>
    rw [hnot] at hasked
    cases hasked
  | heard _ hstatus =>
    rw [hstatus]
    decide

/-- An execution that is neither pending nor running is at rest. -/
theorem InSteps.rest_of_status {s : Stepped σ} (h : InSteps executionId workflowId s)
    (hpending : s.world.status executionId ≠ some .pending)
    (hrunning : s.world.status executionId ≠ some .running) :
    s.running = [] ∧ s.unreceived = [] := by
  cases h.progress with
  | rest hnone hreceived => exact ⟨hnone, hreceived⟩
  | prepared _ _ hstatus => exact absurd hstatus hpending
  | unheard _ _ _ hstatus => exact absurd hstatus hpending
  | heard _ hstatus => exact absurd hstatus hrunning

/-- What a step after an abort keeps. -/
structure KeepsAborted (executionId : UUID) (s s' : Stepped σ) : Prop where
  asked : s'.asked = true
  idle : Idle s.world s'.world
  noCall : Logs (fun entry => ¬ ExecutesAction entry) s.world s'.world
  aborted : s.world.status executionId = some .aborted →
    s'.world.status executionId = some .aborted

/-- A step that leaves the world but for what no abort depends on. -/
theorem KeepsAborted.of_eq {s s' : Stepped σ} (hasked : s'.asked = true)
    (hid : s'.world.uuid4 = s.world.uuid4) (hlog : s'.world.log = s.world.log)
    (haborted : s.world.status executionId = some .aborted →
      s'.world.status executionId = some .aborted) : KeepsAborted executionId s s' :=
  ⟨hasked, hid, ⟨[], by rw [hlog, List.append_nil], by simp⟩, haborted⟩

/-! ## A worker takes a request -/

/-- A worker that takes a request drops it, or makes a context. -/
theorem taken_cases {env : Env σ} {thread : String} {s s' : Stepped σ}
    (h : s.take env thread = some s') :
    ∃ request requests, s.world.requestQueue = request :: requests ∧
      (s' = { s with world := { s.world with requestQueue := requests } } ∨
        ∃ ctx w, Startable request s.world ∧ ctx.executionId = request.executionId ∧
          ctx.workflow.id = request.workflowId ∧
          s' = { s with world := w, running := ⟨thread, request, .prepared ctx⟩ :: s.running } ∧
          EndsWith { s.world with requestQueue := requests } w [] [] []) := by
  unfold Stepped.take at h
  split at h
  · cases h
  cases hqueue : s.world.requestQueue with
  | nil =>
    rw [hqueue] at h
    cases h
  | cons request requests =>
    rw [hqueue] at h
    dsimp only at h
    refine ⟨request, requests, rfl, ?_⟩
    by_cases hstartable : Startable request { s.world with requestQueue := requests }
    · obtain ⟨workflow, user, w, hworkflow, hctx⟩ := prepare_of_startable env hstartable
      rw [hctx] at h
      obtain rfl := Option.some.inj h
      refine .inr ⟨newContext workflow request.executionId user, w, hstartable, rfl, ?_, rfl,
        endsWith_prepare hctx⟩
      have hid : workflow.id = request.workflowId := by simpa using List.find?_some hworkflow
      exact hid
    · rcases prepare_of_not_startable_eq env hstartable with hnone | ⟨e, hraised⟩
      · rw [hnone] at h
        exact .inl (Option.some.inj h).symm
      · rw [hraised] at h
        exact .inl (Option.some.inj h).symm

/-- An execution with a request in the queue is at rest, and the request is its own. -/
theorem InSteps.of_queued {s : Stepped σ} (h : InSteps executionId workflowId s)
    {request : Request} {requests : List Request}
    (hqueue : s.world.requestQueue = request :: requests) :
    s.running = [] ∧ s.unreceived = [] ∧ Fits executionId workflowId s.world request ∧
      requests = [] := by
  have hfits : Fits executionId workflowId s.world request ∧ requests = [] := by
    rcases h.orderly.queue with hnil | ⟨request', hone, hfits⟩
    · rw [hqueue] at hnil
      cases hnil
    · rw [hqueue] at hone
      cases hone
      exact ⟨hfits, rfl⟩
  have hnever : s.world.requestQueue ≠ [] := by
    rw [hqueue]
    exact List.cons_ne_nil _ _
  cases h.progress with
  | rest hrunning hnone => exact ⟨hrunning, hnone, hfits⟩
  | prepared hnil => exact absurd hnil hnever
  | unheard _ _ hnil => exact absurd hnil hnever
  | heard hnil => exact absurd hnil hnever

/-- What of an execution is pending or aborted stays at rest when its request is dropped. -/
theorem Progressing.rest_of_queued {s : Stepped σ} (h : InSteps executionId workflowId s)
    {request : Request} {requests : List Request}
    (hqueue : s.world.requestQueue = request :: requests) :
    s.world.status executionId ≠ some .running ∧
      (s.asked = true → s.world.status executionId = some .aborted ∨
        s.world.status executionId = some .completed) := by
  cases h.progress with
  | rest _ _ hstatus hasked => exact ⟨hstatus, hasked⟩
  | prepared hnil =>
    rw [hqueue] at hnil
    cases hnil
  | unheard _ _ hnil =>
    rw [hqueue] at hnil
    cases hnil
  | heard hnil =>
    rw [hqueue] at hnil
    cases hnil

/-- Packets sent at the end are on their way after those that are. -/
theorem stepped_unreceived_append {s s' : Stepped σ} {packets : List Packet}
    (hle : s.received ≤ s.world.sent.length) (hreceived : s'.received = s.received)
    (hsent : s'.world.sent = s.world.sent ++ packets) :
    s'.unreceived = s.unreceived ++ packets := by
  rw [Stepped.unreceived, Stepped.unreceived, hsent, hreceived, List.drop_append_of_le_length hle]

/-- **A worker takes a request.** -/
theorem inSteps_take {env : Env σ} {thread : String} {s s' : Stepped σ}
    (h : InSteps executionId workflowId s) (hstep : s.take env thread = some s') :
    InSteps executionId workflowId s' ∧ (s.asked = true → KeepsAborted executionId s s') := by
  obtain ⟨request, requests, hqueue, hends⟩ := taken_cases hstep
  obtain ⟨hrunning, hnone, hfits, rfl⟩ := h.of_queued hqueue
  obtain ⟨hnot, hover⟩ := Progressing.rest_of_queued h hqueue
  rcases hends with rfl | ⟨ctx, w, hstartable, hctx, hworkflow, rfl, hprepare⟩
  · refine ⟨⟨⟨.inl rfl, h.orderly.row, h.orderly.saved⟩, h.stored, h.received, h.runs, h.alone,
      h.exhausted, h.completed, .rest hrunning hnone hnot hover⟩, fun hasked => ?_⟩
    exact .of_eq hasked rfl rfl id
  · have hstatus : w.status executionId = s.world.status executionId := by
      rw [World.status, World.status, hprepare.workflowStatus]
    have hpending : s.world.status executionId = some .pending := by
      rcases hfits.status with hpending | haborted
      · exact hpending
      · obtain ⟨status, -, hfound, hne, -⟩ := hstartable
        rw [hfits.execution, haborted] at hfound
        exact absurd (Option.some.inj hfound).symm hne
    have hasked : s.asked = false := by
      cases hasked : s.asked with
      | false => rfl
      | true =>
        have hover := hover hasked
        rw [hpending] at hover
        rcases hover with hover | hover <;> cases hover
    have hsent : w.sent = s.world.sent := by
      rw [hprepare.sent, List.append_nil]
    have hunreceived : s.unreceived =
        ({ s with world := w, running := ⟨thread, request, .prepared ctx⟩ :: s.running } :
          Stepped σ).unreceived := by
      rw [Stepped.unreceived, Stepped.unreceived, hsent]
    refine ⟨⟨⟨.inl hprepare.requestQueue, ?_, ?_⟩, ?_, ?_, ?_, ?_, ?_, ?_, ?_⟩, fun hasked' => ?_⟩
    · rw [hprepare.workflowStatus]
      exact h.orderly.row
    · rw [World.savedState, hprepare.savedWorkflow, List.append_nil]
      exact h.orderly.saved
    · exact h.stored.congr hprepare.workflows hprepare.workflowStatus
    · rw [hsent]
      exact h.received
    · rw [hrunning]
      intro run hrun
      rw [List.mem_singleton.mp hrun]
      exact ⟨hctx.trans hfits.execution, hworkflow.trans hfits.workflow⟩
    · rw [hrunning]
      exact le_rfl
    · rw [← hunreceived]
      exact h.exhausted
    · rw [hstatus]
      exact h.completed
    · refine .prepared hprepare.requestQueue (hunreceived.symm.trans hnone)
        (hstatus.trans hpending) (fun run hrun => ?_) hasked
      dsimp only at hrun
      rw [hrunning, List.mem_singleton] at hrun
      rw [hrun]
      exact ⟨ctx, rfl⟩
    · rw [hasked] at hasked'
      cases hasked'

/-! ## A thread goes on -/

/-- The thread that goes on is the only one. -/
theorem InSteps.only {s : Stepped σ} (h : InSteps executionId workflowId s) {thread : String}
    {run : SteppedRun} (hfind : s.running.find? (·.thread = thread) = some run) :
    s.running = [run] ∧ run.thread = thread := by
  have hmem := List.mem_of_find?_eq_some hfind
  refine ⟨?_, by simpa using List.find?_some hfind⟩
  obtain ⟨run', hrun'⟩ := List.length_eq_one_iff.mp
    (le_antisymm h.alone (List.length_pos_of_mem hmem))
  rw [hrun', List.mem_singleton] at hmem
  rw [hrun', hmem]

/-- The only thread is done. -/
theorem without_only {s : Stepped σ} {run : SteppedRun} (h : s.running = [run]) :
    s.without run.thread = [] := by
  simp [Stepped.without, h]

/-- The only thread goes on. -/
theorem goingOn_only {s : Stepped σ} {run : SteppedRun} (h : s.running = [run])
    (phase : RunPhase) : s.goingOn run.thread phase = [{ run with phase }] := by
  simp [Stepped.goingOn, h]

/-- A run that has sent nothing. -/
theorem Sending.nothing (executionId : UUID) (s : Stepped σ) : Sending executionId s [] :=
  ⟨⟨[], [], rfl, by simp, Nat.zero_le 1, by simp⟩, by simp⟩

/-- An execution of which a thread has made a context. -/
theorem InSteps.of_prepared {s : Stepped σ} (h : InSteps executionId workflowId s)
    {run : SteppedRun} {ctx : Context} (hmem : run ∈ s.running) (hphase : run.phase = .prepared ctx) :
    s.world.requestQueue = [] ∧ s.unreceived = [] ∧
      s.world.status executionId = some .pending ∧ s.asked = false := by
  have hnot : ¬ Looping s := fun hlooping => by
    obtain ⟨vars, hvars⟩ := hlooping run hmem
    rw [hphase] at hvars
    cases hvars
  cases h.progress with
  | rest hrunning =>
    rw [hrunning] at hmem
    cases hmem
  | prepared hqueue hnone hstatus _ hasked => exact ⟨hqueue, hnone, hstatus, hasked⟩
  | unheard _ _ _ _ _ _ _ _ hlooping => exact absurd hlooping hnot
  | heard _ _ _ hlooping => exact absurd hlooping hnot

/-- There is no thread any more, or the only one is in its loop. -/
def LoopsOn (executionId workflowId : UUID) (running : List SteppedRun) : Prop :=
  running = [] ∨ ∃ run vars, running = [run] ∧ run.phase = .looping vars ∧
    vars.ctx.executionId = executionId ∧ vars.ctx.workflow.id = workflowId

/-- What the invariant asks of such threads. -/
theorem LoopsOn.inSteps {s : Stepped σ} (h : LoopsOn executionId workflowId s.running) :
    Looping s ∧ (∀ run ∈ s.running, run.phase.ctx.executionId = executionId ∧
      run.phase.ctx.workflow.id = workflowId) ∧ s.running.length ≤ 1 := by
  unfold Looping
  rcases h with hnone | ⟨run, vars, hone, hphase, hid, hworkflow⟩
  · rw [hnone]
    simp
  · rw [hone]
    refine ⟨fun run' hrun' => ?_, fun run' hrun' => ?_, le_rfl⟩
    · rw [List.mem_singleton.mp hrun']
      exact ⟨vars, hphase⟩
    · rw [List.mem_singleton.mp hrun', hphase]
      exact ⟨hid, hworkflow⟩

/-- **A thread announces the start of its run.** -/
theorem inSteps_start {env : Env σ} {thread : String} {s s' : Stepped σ}
    (h : InSteps executionId workflowId s) (hstep : s.start env thread = some s') :
    InSteps executionId workflowId s' ∧ s.asked = false := by
  have hstarts : ∃ request ctx, ⟨thread, request, .prepared ctx⟩ ∈ s.running ∧
      s'.world = finalState (beginRun env thread request ctx s.world) ∧
      s'.received = s.received ∧ s'.asked = s.asked ∧
      LoopsOn executionId workflowId s'.running := by
    unfold Stepped.start at hstep
    split at hstep
    case h_2 => cases hstep
    case h_1 name request ctx hfind =>
      obtain ⟨honly, hthread⟩ := h.only hfind
      have hthread : name = thread := hthread
      subst hthread
      have hmem := List.mem_of_find?_eq_some hfind
      refine ⟨request, ctx, hmem, ?_⟩
      dsimp only at hstep
      split at hstep
      · obtain rfl := Option.some.inj hstep
        exact ⟨rfl, rfl, rfl, .inl (without_only honly)⟩
      · obtain rfl := Option.some.inj hstep
        obtain ⟨hid, hworkflow⟩ := h.runs _ hmem
        exact ⟨rfl, rfl, rfl, .inr ⟨_, _, goingOn_only honly _, rfl, hid, hworkflow⟩⟩
  obtain ⟨request, ctx, hmem, hworld, hreceived, hasked, hloops⟩ := hstarts
  obtain ⟨hqueue, hnone, hpending, hnot⟩ := h.of_prepared hmem rfl
  have hid : ctx.executionId = executionId := (h.runs _ hmem).1
  have hbegin := endsWith_beginRun env thread request ctx s.world
  rw [← hworld] at hbegin
  have hunreceived := stepped_unreceived_append h.received hreceived hbegin.sent
  rw [hnone, List.nil_append] at hunreceived
  have hstatus : s'.world.status executionId = s.world.status executionId := by
    rw [World.status, World.status, hbegin.workflowStatus]
  obtain ⟨hlooping, hruns, halone⟩ := hloops.inSteps
  refine ⟨⟨⟨.inl (hbegin.requestQueue.trans hqueue), ?_, ?_⟩,
    h.stored.congr hbegin.workflows hbegin.workflowStatus, ?_, hruns, halone, ?_, ?_, ?_⟩, hnot⟩
  · rw [hbegin.workflowStatus]
    exact h.orderly.row
  · rw [World.savedState, hbegin.savedWorkflow, List.append_nil]
    exact h.orderly.saved
  · rw [hreceived, hbegin.sent, List.length_append]
    exact le_add_right h.received
  · rw [hunreceived]
    intro p hp hshutdown
    rw [List.mem_singleton.mp hp] at hshutdown
    cases hshutdown
  · rw [hstatus, hpending]
    simp
  · exact .unheard _ [] (hbegin.requestQueue.trans hqueue) (hstatus.trans hpending) hunreceived hid
      rfl (.nothing executionId s') hlooping (hasked.trans hnot)

/-- A run that ends leaves the execution orderly. -/
theorem Orderly.leavesTail {w w' : World σ} (h : Orderly executionId workflowId w)
    (hqueue : w.requestQueue = []) (hleaves : LeavesTail executionId workflowId w w') :
    Orderly executionId workflowId w' := by
  refine ⟨.inl (hleaves.requestQueue.trans hqueue), ?_, fun row hrow => ?_⟩
  · rw [hleaves.workflowStatus]
    exact h.row
  · obtain ⟨saved, happended, hsaved⟩ := hleaves.savedWorkflow
    rw [World.savedState, happended, List.find?_append] at hrow
    cases hold : w.savedWorkflow.find? (·.workflowExecutionId = executionId) with
    | some old =>
      rw [hold, Option.some_or] at hrow
      exact h.saved row (hold.trans hrow)
    | none =>
      rw [hold, Option.none_or] at hrow
      exact hsaved row (List.mem_of_find?_eq_some hrow)

/-- Packets of actions and branches before a tail. -/
theorem Tail.prepend {packets packets' : List Packet} (hinner : ∀ p ∈ packets, Inner executionId p)
    (h : Tail executionId packets') : Tail executionId (packets ++ packets') := by
  obtain ⟨inner, last, rfl, hinner', hone, hlast⟩ := h
  refine ⟨packets ++ inner, last, (List.append_assoc ..).symm, fun p hp => ?_, hone, hlast⟩
  exact (List.mem_append.mp hp).elim (hinner p) (hinner' p)

/-- What a turn of a thread does. -/
theorem turned_cases {env : Env σ} {thread : String} {s s' : Stepped σ}
    (h : InSteps executionId workflowId s) (hstep : s.turn env thread = some s') :
    ∃ request vars executingWorkflows,
      s.running.find? (·.thread = thread) = some ⟨thread, request, .looping vars⟩ ∧
      s'.world = { finalState (loopTurn env flagsOnly request.resume vars s.world) with
        executingWorkflows } ∧
      s'.received = s.received ∧ s'.asked = s.asked ∧
      s'.exhausted = (s.exhausted || hasEnded env vars s.world) ∧
      ((∃ vars' w, loopTurn env flagsOnly request.resume vars s.world = .ok (.again vars') w ∧
          s'.running = [⟨thread, request, .looping vars'⟩]) ∨ s'.running = []) := by
  unfold Stepped.turn at hstep
  split at hstep
  case h_2 => cases hstep
  case h_1 name request vars hfind =>
    obtain ⟨honly, hthread⟩ := h.only hfind
    have hthread : name = thread := hthread
    subst hthread
    dsimp only at hstep
    split at hstep
    · rename_i vars' w hturn
      obtain rfl := Option.some.inj hstep
      exact ⟨request, vars, w.executingWorkflows, hfind, by rw [hturn]; rfl, rfl, rfl, rfl,
        .inl ⟨vars', w, hturn, goingOn_only honly _⟩⟩
    · rename_i w hturn
      obtain rfl := Option.some.inj hstep
      exact ⟨request, vars, _, hfind, by rw [hturn]; rfl, rfl, rfl, rfl,
        .inr (without_only honly)⟩
    · rename_i e w hturn
      obtain rfl := Option.some.inj hstep
      exact ⟨request, vars, w.executingWorkflows, hfind, by rw [hturn]; rfl, rfl, rfl, rfl,
        .inr (without_only honly)⟩

/-- The packets of a turn, and the threads after it. -/
structure TakesTurn (executionId workflowId : UUID) (s s' : Stepped σ) (packets : List Packet) :
    Prop where
  leaves : LeavesTail executionId workflowId s.world s'.world
  sent : s'.world.sent = s.world.sent ++ packets
  tail : Tail executionId packets
  inner : s'.running ≠ [] → ∀ p ∈ packets, Inner executionId p
  exhausted : (s.exhausted = true → s'.exhausted = true) ∧
    ∀ p ∈ packets, p.event = .workflowShutdown → s'.exhausted = true
  loops : LoopsOn executionId workflowId s'.running
  received : s'.received = s.received
  asked : s'.asked = s.asked

/-- **A turn** leaves the rows and sends a tail of packets; where the run goes on, these are of
actions and branches, and where there is a shutdown among them, no further action is left. -/
theorem turned_of_step {env : Env σ} {thread : String} {s s' : Stepped σ}
    (h : InSteps executionId workflowId s) (hstep : s.turn env thread = some s') :
    ∃ packets, TakesTurn executionId workflowId s s' packets := by
  obtain ⟨request, vars, executingWorkflows, hfind, hworld, hreceived, hasked, hexhausted, hends⟩ :=
    turned_cases h hstep
  have hmem := List.mem_of_find?_eq_some hfind
  obtain ⟨hid, hworkflow⟩ : vars.ctx.executionId = executionId ∧ vars.ctx.workflow.id = workflowId :=
    h.runs _ hmem
  have hleaves := (runEnds_loopTurn env flagsOnly request.resume vars s.world).leavesTail
  rw [hid, hworkflow] at hleaves
  have hleaves' : LeavesTail executionId workflowId s.world s'.world := by
    rw [hworld]
    exact ⟨hleaves.workflows, hleaves.workflowStatus, hleaves.requestQueue, hleaves.savedWorkflow,
      hleaves.sent⟩
  obtain ⟨packets, hsent, htail⟩ := hleaves'.sent
  refine ⟨packets, hleaves', hsent, htail, fun hne => ?_, ⟨fun hbefore => ?_, fun p hp hshutdown => ?_⟩,
    ?_, hreceived, hasked⟩
  · obtain ⟨vars', w, hturn, -⟩ := hends.resolve_right hne
    obtain ⟨new, hnew, hinner⟩ := (frame_again hturn).1.sent
    rw [hworld, hturn] at hsent
    have hpackets : packets = new := List.append_cancel_left (hsent.symm.trans hnew)
    rw [hpackets, ← hid]
    exact hinner
  · rw [hexhausted, hbefore, Bool.true_or]
  · rw [hexhausted]
    cases hended : hasEnded env vars s.world with
    | true => exact Bool.or_true _
    | false =>
      obtain ⟨new, hnew, hnot⟩ := sendsOnly_loopTurn flagsOnly request.resume hended
      rw [hworld] at hsent
      have hpackets : packets = new := List.append_cancel_left (hsent.symm.trans hnew)
      rw [hpackets] at hp
      exact absurd hshutdown (hnot p hp)
  · rcases hends with ⟨vars', w, hturn, hrunning⟩ | hnone
    · obtain ⟨-, hid', hworkflow'⟩ := frame_again hturn
      exact .inr ⟨_, vars', hrunning, rfl, hid'.trans hid, by rw [hworkflow', hworkflow]⟩
    · exact .inl hnone

/-- A run in its loop goes on or ends. -/
theorem TakesTurn.sending {s s' : Stepped σ} {before packets : List Packet}
    (h : TakesTurn executionId workflowId s s' packets) (hne : s.running ≠ [])
    (hsending : Sending executionId s before) : Sending executionId s' (before ++ packets) := by
  have hbefore := hsending.inner hne
  refine ⟨Tail.prepend hbefore h.tail, fun hne' p hp => ?_⟩
  exact (List.mem_append.mp hp).elim (hbefore p) (h.inner hne' p)

/-- **A thread takes a turn.** -/
theorem inSteps_turn {env : Env σ} {thread : String} {s s' : Stepped σ}
    (h : InSteps executionId workflowId s) (hok : LetsAbort env executionId s (.turn thread))
    (hstep : s.turn env thread = some s') :
    InSteps executionId workflowId s' ∧ (s.asked = true → KeepsAborted executionId s s') := by
  obtain ⟨request, vars, executingWorkflows, hfind, hworld, -, -, -, -⟩ := turned_cases h hstep
  obtain ⟨packets, hturned⟩ := turned_of_step h hstep
  have hmem := List.mem_of_find?_eq_some hfind
  have hne : s.running ≠ [] := List.ne_nil_of_mem hmem
  have hunreceived := stepped_unreceived_append h.received hturned.received hturned.sent
  have hstatus : s'.world.status executionId = s.world.status executionId := by
    rw [World.status, World.status, hturned.leaves.workflowStatus]
  obtain ⟨hlooping, hruns, halone⟩ := hturned.loops.inSteps
  have htold (hasked : s.asked = true) :
      Unhalted s.world (finalState (loopTurn env flagsOnly request.resume vars s.world)) :=
    (unhalted_loopTurn (hok hasked _ vars hfind rfl)).1
  have hqueue : s.world.requestQueue = [] := by
    cases h.progress with
    | rest hrunning => exact absurd hrunning hne
    | prepared hqueue => exact hqueue
    | unheard _ _ hqueue => exact hqueue
    | heard hqueue => exact hqueue
  have hqueue' : s'.world.requestQueue = [] := hturned.leaves.requestQueue.trans hqueue
  refine ⟨⟨h.orderly.leavesTail hqueue hturned.leaves,
    h.stored.congr hturned.leaves.workflows hturned.leaves.workflowStatus, ?_, hruns, halone, ?_, ?_,
    ?_⟩, fun hasked => ?_⟩
  · rw [hturned.received, hturned.sent, List.length_append]
    exact le_add_right h.received
  · rw [hunreceived]
    intro p hp hshutdown
    rcases List.mem_append.mp hp with hold | hnew
    · exact hturned.exhausted.1 (h.exhausted p hold hshutdown)
    · exact hturned.exhausted.2 p hnew hshutdown
  · rw [hstatus]
    exact fun hcompleted => hturned.exhausted.1 (h.completed hcompleted)
  · cases h.progress with
    | rest hrunning => exact absurd hrunning hne
    | prepared _ _ _ hprepared =>
      obtain ⟨ctx, hctx⟩ := hprepared _ hmem
      cases hctx
    | unheard start rest _ hpending hpackets hid hevent hsending _ hnot =>
      rw [hpackets, List.cons_append] at hunreceived
      exact .unheard start (rest ++ packets) hqueue' (hstatus.trans hpending) hunreceived hid hevent
        (hturned.sending hne hsending) hlooping (hturned.asked.trans hnot)
    | heard _ hrunning hsending _ hhalts =>
      refine .heard hqueue' (hstatus.trans hrunning) ?_ hlooping fun hasked => ?_
      · rw [hunreceived]
        exact hturned.sending hne hsending
      · rw [hturned.asked] at hasked
        obtain ⟨new, hnew, hnot⟩ := (htold hasked).sent
        have hsent := hturned.sent
        rw [hworld] at hsent
        have hpackets : packets = new := List.append_cancel_left (hsent.symm.trans hnew)
        rw [hunreceived, hpackets]
        exact fun p hp => (List.mem_append.mp hp).elim (hhalts hasked p) (hnot p)
  · have hidle := htold hasked
    refine ⟨hturned.asked.trans hasked, ?_, ?_, fun haborted => hstatus.trans haborted⟩
    · rw [hworld]
      exact hidle.idle
    · rw [hworld]
      exact hidle.noCall

/-! ## A worker hears a message -/

/-- A message sets a flag of the context of a thread. -/
structure Told (run run' : SteppedRun) : Prop where
  executionId : run'.phase.ctx.executionId = run.phase.ctx.executionId
  workflow : run'.phase.ctx.workflow = run.phase.ctx.workflow
  prepared : ∀ ctx, run.phase = .prepared ctx → run'.phase = .prepared ctx
  looping : ∀ vars, run.phase = .looping vars → ∃ vars', run'.phase = .looping vars'

/-- What a message does to a thread. -/
theorem told_tell (message : ControlMessage) (run : SteppedRun) : Told run (run.tell message) := by
  obtain ⟨thread, request, phase⟩ := run
  cases phase with
  | prepared ctx => exact ⟨rfl, rfl, fun _ h => h, by rintro _ ⟨⟩⟩
  | looping vars =>
    refine ⟨?_, ?_, by rintro _ ⟨⟩, fun _ _ => ⟨_, rfl⟩⟩
    · cases message <;> rfl
    · cases message <;> rfl

/-- A worker that hears a message tells it to threads. -/
theorem hear_cases {workerOf : String → ℕ} {worker : ℕ} {s s' : Stepped σ}
    (h : s.hear workerOf worker = some s') :
    ∃ f heard, s' = { s with running := s.running.map f, heard } ∧ ∀ run, Told run (f run) := by
  unfold Stepped.hear at h
  split at h
  · cases h
  · refine ⟨_, _, (Option.some.inj h).symm, fun run => ?_⟩
    split
    · exact told_tell _ run
    · exact ⟨rfl, rfl, fun _ h => h, fun vars h => ⟨vars, h⟩⟩

/-- Threads in their loops stay there when they are told. -/
theorem Looping.told {s : Stepped σ} {f : SteppedRun → SteppedRun} {heard : ℕ → ℕ}
    (h : Looping s) (htold : ∀ run, Told run (f run)) :
    Looping { s with running := s.running.map f, heard } := by
  intro run' hrun'
  obtain ⟨run, hrun, rfl⟩ := List.mem_map.mp hrun'
  obtain ⟨vars, hvars⟩ := h run hrun
  exact (htold run).looping vars hvars

/-- So does what they send. -/
theorem Sending.told {s : Stepped σ} {f : SteppedRun → SteppedRun} {heard : ℕ → ℕ}
    {packets : List Packet} (h : Sending executionId s packets) :
    Sending executionId { s with running := s.running.map f, heard } packets :=
  ⟨h.tail, fun hne => h.inner fun hnil => hne (by simp [hnil])⟩

/-- **A worker hears a message.** -/
theorem inSteps_hear {workerOf : String → ℕ} {worker : ℕ} {s s' : Stepped σ}
    (h : InSteps executionId workflowId s) (hstep : s.hear workerOf worker = some s') :
    InSteps executionId workflowId s' ∧ (s.asked = true → KeepsAborted executionId s s') := by
  obtain ⟨f, heard, rfl, htold⟩ := hear_cases hstep
  refine ⟨⟨h.orderly, h.stored, h.received, fun run' hrun' => ?_, ?_, h.exhausted, h.completed, ?_⟩,
    fun hasked => .of_eq hasked rfl rfl id⟩
  · obtain ⟨run, hrun, rfl⟩ := List.mem_map.mp hrun'
    rw [(htold run).executionId, (htold run).workflow]
    exact h.runs run hrun
  · rw [List.length_map]
    exact h.alone
  · cases h.progress with
    | rest hrunning hnone hstatus hasked =>
      exact .rest (by simp [hrunning]) hnone hstatus hasked
    | prepared hqueue hnone hstatus hprepared hasked =>
      refine .prepared hqueue hnone hstatus (fun run' hrun' => ?_) hasked
      obtain ⟨run, hrun, rfl⟩ := List.mem_map.mp hrun'
      obtain ⟨ctx, hctx⟩ := hprepared run hrun
      exact ⟨ctx, (htold run).prepared ctx hctx⟩
    | unheard start rest hqueue hstatus hpackets hid hevent hsending hlooping hasked =>
      exact .unheard start rest hqueue hstatus hpackets hid hevent hsending.told
        (hlooping.told htold) hasked
    | heard hqueue hstatus hsending hlooping hhalts =>
      exact .heard hqueue hstatus hsending.told (hlooping.told htold) hhalts

/-! ## Messages of the controller -/

/-- Publishing a message, for an execution that runs also that of an abort, touches nothing else. -/
theorem InSteps.told {s : Stepped σ} (h : InSteps executionId workflowId s)
    (published : List ControlMessage) {asked : Bool}
    (hasked : asked = true → s.asked = true ∨ s.world.status executionId = some .running ∧
      ∀ p ∈ s.unreceived, p.event.savesWorkflow = false) :
    InSteps executionId workflowId { s with world := { s.world with published }, asked } := by
  refine ⟨h.orderly.congr rfl rfl rfl, h.stored, h.received, h.runs, h.alone, h.exhausted,
    h.completed, ?_⟩
  have hpending (hstatus : s.world.status executionId = some .pending) (hnot : s.asked = false) :
      asked = false := by
    cases hasks : asked with
    | false => rfl
    | true =>
      rcases hasked hasks with hbefore | ⟨hrunning, -⟩
      · rw [hnot] at hbefore
        cases hbefore
      · rw [hstatus] at hrunning
        cases hrunning
  cases h.progress with
  | rest hrunning hnone hstatus hover =>
    exact .rest hrunning hnone hstatus fun hasks =>
      hover ((hasked hasks).resolve_right fun hruns => hstatus hruns.1)
  | prepared hqueue hnone hstatus hprepared hnot =>
    exact .prepared hqueue hnone hstatus hprepared (hpending hstatus hnot)
  | unheard start rest hqueue hstatus hpackets hid hevent hsending hlooping hnot =>
    exact .unheard start rest hqueue hstatus hpackets hid hevent ⟨hsending.tail, hsending.inner⟩
      hlooping (hpending hstatus hnot)
  | heard hqueue hstatus hsending hlooping hhalts =>
    exact .heard hqueue hstatus ⟨hsending.tail, hsending.inner⟩ hlooping fun hasks =>
      (hasked hasks).elim hhalts fun hruns => hruns.2

/-- `pause_workflow` publishes a message, or does nothing. -/
theorem pauseWorkflow_published (executionId : UUID) (w : World σ) :
    ∃ published, finalState (pauseWorkflow executionId w) = { w with published } := by
  unfold pauseWorkflow
  rw [bind_apply, get_apply]
  dsimp only
  cases w.status executionId with
  | none => exact ⟨_, rfl⟩
  | some status => cases status <;> exact ⟨_, rfl⟩

/-- **The controller is asked to pause.** -/
theorem inSteps_pause {s : Stepped σ} (h : InSteps executionId workflowId s) :
    InSteps executionId workflowId (s.pause executionId) ∧
      (s.asked = true → KeepsAborted executionId s (s.pause executionId)) := by
  obtain ⟨published, hpublished⟩ := pauseWorkflow_published executionId s.world
  unfold Stepped.pause
  rw [hpublished]
  exact ⟨h.told published .inl, fun hasked => .of_eq hasked rfl rfl id⟩

/-! ## The controller receives a packet -/

/-- The state after a packet of the execution. -/
theorem stepped_receive_eq {s s' : Stepped σ} {packet : Packet} {rest : List Packet}
    {row : WorkflowStatus} (hpackets : s.unreceived = packet :: rest)
    (hid : packet.executionId = executionId)
    (hrow : OrderedDict.get? executionId s.world.workflowStatus = some row)
    (hstep : s.receive = some s') :
    s' = { s with world := afterPacket row packet s.world, received := s.received + 1 } ∧
      s'.unreceived = rest ∧ s'.received ≤ s'.world.sent.length ∧
      s'.world.status executionId = some ((statusAfter packet.event).getD row.status) := by
  have hreceived : s' = { s with
      world := finalState (receivePacket packet s.world), received := s.received + 1 } := by
    unfold Stepped.receive at hstep
    rw [hpackets] at hstep
    exact (Option.some.inj hstep).symm
  -- the controller receives the same packet whoever runs
  have hview : Interleaved.receive ⟨s.world, [], s.received⟩ = some ⟨s'.world, [], s'.received⟩ := by
    have hsame : Interleaved.unreceived ⟨s.world, [], s.received⟩ = packet :: rest := hpackets
    unfold Interleaved.receive
    rw [hsame, hreceived]
  obtain ⟨hworld, -, hrest, hle, hstatus⟩ :=
    receive_eq (s := ⟨s.world, [], s.received⟩) hpackets hid hrow hview
  refine ⟨?_, hrest, hle, hstatus⟩
  have hworld : s'.world = afterPacket row packet s.world := hworld
  rw [hreceived] at hworld ⊢
  rw [← hworld]

/-- What a packet leaves of the invariant, whatever it says. -/
theorem InSteps.received_packet {s s' : Stepped σ} {packet : Packet} {rest : List Packet}
    {row : WorkflowStatus} (h : InSteps executionId workflowId s)
    (hqueue : s.world.requestQueue = []) (hpackets : s.unreceived = packet :: rest)
    (hid : packet.executionId = executionId)
    (hrow : OrderedDict.get? executionId s.world.workflowStatus = some row)
    (hstep : s.receive = some s')
    (hcompleted : s'.world.status executionId = some .completed → packet.event = .workflowShutdown)
    (hprogress : Progressing executionId s') :
    InSteps executionId workflowId s' ∧ (s.asked = true → KeepsAborted executionId s s') := by
  obtain ⟨rfl, hunreceived, hle, -⟩ := stepped_receive_eq hpackets hid hrow hstep
  have hmem : ∀ p ∈ rest, p ∈ s.unreceived := fun p hp => by
    rw [hpackets]
    exact List.mem_cons_of_mem _ hp
  refine ⟨⟨orderly_afterPacket h.orderly hqueue hid hrow, fun row' hrow' => ?_, hle, h.runs, h.alone,
    fun p hp => ?_, fun hover => ?_, hprogress⟩, fun hasked => .of_eq hasked rfl rfl fun haborted => ?_⟩
  · subst hid
    have hrow' : OrderedDict.get? packet.executionId (afterPacket row packet s.world).workflowStatus =
      some row' := hrow'
    rw [get?_afterPacket hrow, Option.some.injEq] at hrow'
    rw [← hrow']
    exact h.stored row hrow
  · rw [hunreceived] at hp
    exact h.exhausted p (hmem p hp)
  · exact h.exhausted packet (by rw [hpackets]; exact List.mem_cons_self) (hcompleted hover)
  · have hrest := h.rest_of_status (by rw [haborted]; decide) (by rw [haborted]; decide)
    rw [hrest.2] at hpackets
    cases hpackets

/-- What the packet that says how a run ended makes of the status. -/
theorem statusAfter_last {event : WalkoffEvent}
    (h : endsExecution event = true ∨ event.savesWorkflow = true) :
    ∃ status, statusAfter event = some status ∧ status ≠ .running ∧
      (status = .completed → event = .workflowShutdown) ∧
      (event.savesWorkflow = false → status = .aborted ∨ status = .completed) := by
  cases event with
  | workflowShutdown => exact ⟨.completed, rfl, by decide, fun _ => rfl, fun _ => .inr rfl⟩
  | workflowAborted => exact ⟨.aborted, rfl, by decide, by rintro ⟨⟩, fun _ => .inl rfl⟩
  | workflowPaused => exact ⟨.paused, rfl, by decide, by rintro ⟨⟩, by rintro ⟨⟩⟩
  | triggerActionAwaitingData => exact ⟨.awaitingData, rfl, by decide, by rintro ⟨⟩, by rintro ⟨⟩⟩
  | _ => rcases h with h | h <;> cases h

/-- The controller receives the announcement of a run. -/
theorem inSteps_receive_start {s s' : Stepped σ} {start : Packet} {rest : List Packet}
    (h : InSteps executionId workflowId s) (hqueue : s.world.requestQueue = [])
    (hstatus : s.world.status executionId = some .pending) (hpackets : s.unreceived = start :: rest)
    (hid : start.executionId = executionId) (hevent : start.event = .workflowExecutionStart)
    (hsending : Sending executionId s rest) (hlooping : Looping s) (hasked : s.asked = false)
    (hstep : s.receive = some s') :
    InSteps executionId workflowId s' ∧ (s.asked = true → KeepsAborted executionId s s') := by
  obtain ⟨row, hrow, -⟩ := row_of_status hstatus
  obtain ⟨rfl, hunreceived, -, hheard⟩ := stepped_receive_eq hpackets hid hrow hstep
  rw [hevent] at hheard
  refine h.received_packet hqueue hpackets hid hrow hstep ?_ (.heard hqueue hheard ?_ hlooping ?_)
  · rw [hheard]
    rintro ⟨⟩
  · rw [hunreceived]
    exact ⟨hsending.tail, hsending.inner⟩
  · intro hasked'
    have hasked' : s.asked = true := hasked'
    rw [hasked] at hasked'
    cases hasked'

/-- The controller receives a packet of an action or a branch. -/
theorem inSteps_receive_inner {s s' : Stepped σ} {packet : Packet} {rest : List Packet}
    (h : InSteps executionId workflowId s) (hqueue : s.world.requestQueue = [])
    (hstatus : s.world.status executionId = some .running)
    (hpackets : s.unreceived = packet :: rest) (hpacket : Inner executionId packet)
    (htail : Tail executionId rest)
    (hinner : s.running ≠ [] → ∀ p ∈ s.unreceived, Inner executionId p) (hlooping : Looping s)
    (hhalts : s.asked = true → ∀ p ∈ s.unreceived, p.event.savesWorkflow = false)
    (hstep : s.receive = some s') :
    InSteps executionId workflowId s' ∧ (s.asked = true → KeepsAborted executionId s s') := by
  obtain ⟨row, hrow, hrunning⟩ := row_of_status hstatus
  obtain ⟨rfl, hunreceived, -, hheard⟩ := stepped_receive_eq hpackets hpacket.1 hrow hstep
  rw [(after_inner hpacket).1, hrunning] at hheard
  have hmem : ∀ p ∈ rest, p ∈ s.unreceived := fun p hp => by
    rw [hpackets]
    exact List.mem_cons_of_mem _ hp
  refine h.received_packet hqueue hpackets hpacket.1 hrow hstep ?_ (.heard hqueue hheard ?_ hlooping ?_)
  · rw [hheard]
    rintro ⟨⟩
  · rw [hunreceived]
    exact ⟨htail, fun hne p hp => hinner hne p (hmem p hp)⟩
  · rw [hunreceived]
    exact fun hasked p hp => hhalts hasked p (hmem p hp)

/-- The controller receives the packet that says how a run ended. -/
theorem inSteps_receive_last {s s' : Stepped σ} {packet : Packet}
    (h : InSteps executionId workflowId s) (hqueue : s.world.requestQueue = [])
    (hstatus : s.world.status executionId = some .running) (hpackets : s.unreceived = [packet])
    (hid : packet.executionId = executionId)
    (hevent : endsExecution packet.event = true ∨ packet.event.savesWorkflow = true)
    (hinner : s.running ≠ [] → ∀ p ∈ s.unreceived, Inner executionId p)
    (hhalts : s.asked = true → ∀ p ∈ s.unreceived, p.event.savesWorkflow = false)
    (hstep : s.receive = some s') :
    InSteps executionId workflowId s' ∧ (s.asked = true → KeepsAborted executionId s s') := by
  obtain ⟨row, hrow, -⟩ := row_of_status hstatus
  obtain ⟨status, hafter, hnot, hcompleted, hover⟩ := statusAfter_last hevent
  obtain ⟨rfl, hunreceived, -, hended⟩ := stepped_receive_eq hpackets hid hrow hstep
  rw [hafter, Option.getD_some] at hended
  have hmem : packet ∈ s.unreceived := by
    rw [hpackets]
    exact List.mem_singleton_self packet
  -- while the run goes on it does not say how it ended
  have hnil : s.running = [] := by
    by_contra hne
    rw [(after_inner (hinner hne packet hmem)).1] at hafter
    cases hafter
  refine h.received_packet hqueue hpackets hid hrow hstep ?_ (.rest hnil hunreceived ?_ ?_)
  · rw [hended]
    exact fun hover => hcompleted (Option.some.inj hover)
  · rw [hended]
    exact fun hrunning => hnot (Option.some.inj hrunning)
  · rw [hended]
    exact fun hasked => (hover (hhalts hasked packet hmem)).imp (congrArg some) (congrArg some)

/-- **The controller receives a packet.** -/
theorem inSteps_receive {s s' : Stepped σ} (h : InSteps executionId workflowId s)
    (hstep : s.receive = some s') :
    InSteps executionId workflowId s' ∧ (s.asked = true → KeepsAborted executionId s s') := by
  obtain ⟨packet, rest, hpackets⟩ : ∃ packet rest, s.unreceived = packet :: rest := by
    refine List.exists_cons_of_ne_nil fun hnone => ?_
    unfold Stepped.receive at hstep
    rw [hnone] at hstep
    cases hstep
  cases h.progress with
  | rest _ hnone =>
    rw [hnone] at hpackets
    cases hpackets
  | prepared _ hnone =>
    rw [hnone] at hpackets
    cases hpackets
  | unheard start rest hqueue hpending hpackets hid hevent hsending hlooping hasked =>
    exact inSteps_receive_start h hqueue hpending hpackets hid hevent hsending hlooping hasked hstep
  | heard hqueue hrunning hsending hlooping hhalts =>
    have htail := hsending.tail
    rw [hpackets] at htail
    rcases htail.uncons with ⟨hpacket, hrest⟩ | ⟨rfl, hid, hevent⟩
    · exact inSteps_receive_inner h hqueue hrunning hpackets hpacket hrest hsending.inner hlooping
        hhalts hstep
    · exact inSteps_receive_last h hqueue hrunning hpackets hid hevent hsending.inner hhalts hstep

/-! ## The controller is called -/

/-- What `resume_workflow` and `resume_trigger_step` leave of a halted execution. -/
structure Resumed (executionId : UUID) (w w' : World σ) : Prop where
  halted : w.status executionId = some .paused ∨ w.status executionId = some .awaitingData
  workflows : w'.workflows = w.workflows
  row : ∀ row, OrderedDict.get? executionId w.workflowStatus = some row →
    OrderedDict.get? executionId w'.workflowStatus = some row ∨
      OrderedDict.get? executionId w'.workflowStatus = some { row with status := .pending }

/-- Continuing an execution leaves its row pending. -/
theorem Continued.pending {start : Option UUID} {resume : Bool} {id : UUID} {w w' : World σ}
    {row : WorkflowStatus} (h : Continued id executionId start resume w w')
    (hrow : OrderedDict.get? executionId w.workflowStatus = some row) :
    OrderedDict.get? executionId w'.workflowStatus = some { row with status := .pending } := by
  rw [h.workflowStatus, get?_workflowPending, hrow]

/-- `resume_workflow` does nothing to an execution that is not paused. -/
theorem resumed_resumeWorkflow (executionId : UUID) (user : Option String) (w : World σ) :
    finalState (resumeWorkflow executionId user w) = w ∨
      Resumed executionId w (finalState (resumeWorkflow executionId user w)) := by
  rcases resumeWorkflow_cases executionId user w with hsame | ⟨row, start, hrow, hpaused, -, hc⟩
  · exact .inl hsame
  · refine .inr ⟨.inl ?_, hc.workflows, fun _ hrow => .inr (hc.pending hrow)⟩
    rw [status_eq_of_row hrow, hpaused]

/-- `resume_trigger_step` leaves the row of an execution that awaits data, or continues it. -/
theorem resumed_resumeTriggerStep (env : Env σ) (dataIn : PyVal) (arguments : List Argument)
    (user : Option String) {w : World σ} (h : w.status executionId = some .awaitingData) :
    Resumed executionId w
      (finalState (resumeTriggerStep env executionId dataIn arguments user w)) := by
  cases resumeTriggerStep_cases env executionId dataIn arguments user w with
  | unanswered hframe =>
    refine ⟨.inr h, hframe.workflows, fun row hrow => .inl ?_⟩
    rw [hframe.workflowStatus]
    exact hrow
  | @answered saved w₁ _ hframe hcontinued =>
    rcases hcontinued with hsame | hc
    · rw [hsame]
      refine ⟨.inr h, hframe.workflows, fun row hrow => .inl ?_⟩
      rw [← hrow, ← hframe.workflowStatus]
      rfl
    · refine ⟨.inr h, hc.workflows.trans hframe.workflows, fun row hrow => .inr (hc.pending ?_)⟩
      rw [← hrow, ← hframe.workflowStatus]
      rfl

/-- A call that resumes does nothing, or finds the execution halted. -/
theorem resumed_of_step {env : Env σ} {w w' : World σ} {op : LifecycleOp}
    (hop : ∀ thread control turns, op ≠ .work thread control turns) (hne : op ≠ .abort)
    (hstep : LifecycleStep env executionId w op w') : w' = w ∨ Resumed executionId w w' := by
  cases op with
  | work thread control turns => exact absurd rfl (hop thread control turns)
  | resume user =>
    obtain rfl := Option.some.inj hstep
    exact resumed_resumeWorkflow executionId user w
  | answer dataIn arguments user =>
    unfold LifecycleStep lifecycleStep at hstep
    dsimp only at hstep
    split at hstep
    case isFalse => cases hstep
    case isTrue hwaiting =>
      obtain rfl := Option.some.inj hstep
      exact .inr (resumed_resumeTriggerStep env dataIn arguments user hwaiting)
  | abort => exact absurd rfl hne

/-- An execution that is halted is at rest, and no abort of it has succeeded. -/
theorem InSteps.rest_of_halted {s : Stepped σ} (h : InSteps executionId workflowId s)
    (hstatus : s.world.status executionId = some .paused ∨
      s.world.status executionId = some .awaitingData) :
    s.running = [] ∧ s.unreceived = [] ∧ s.asked = false := by
  have hnot : s.asked = false := by
    cases hasked : s.asked with
    | false => rfl
    | true =>
      obtain ⟨hpaused, hawaiting⟩ := h.not_halted hasked
      exact absurd hstatus (not_or.mpr ⟨hpaused, hawaiting⟩)
  have hrest : s.running = [] ∧ s.unreceived = [] := by
    rcases hstatus with hstatus | hstatus
    all_goals exact h.rest_of_status (by rw [hstatus]; decide) (by rw [hstatus]; decide)
  exact ⟨hrest.1, hrest.2, hnot⟩

/-- **The controller is called to resume or to answer.** -/
theorem inSteps_control {env : Env σ} {op : LifecycleOp} {s s' : Stepped σ}
    (hop : ∀ thread control turns, op ≠ .work thread control turns) (hne : op ≠ .abort)
    (h : InSteps executionId workflowId s) (hstep : s.control env executionId op = some s') :
    InSteps executionId workflowId s' ∧ (s.asked = true → KeepsAborted executionId s s') := by
  obtain ⟨w', hcall, rfl⟩ := Option.map_eq_some_iff.mp hstep
  have hlifecycle : LifecycleStep env executionId s.world op w' := hcall
  rcases resumed_of_step hop hne hlifecycle with rfl | hresumed
  · exact ⟨h, fun hasked => .of_eq hasked rfl rfl id⟩
  obtain ⟨hrunning, hnone, hnot⟩ := h.rest_of_halted hresumed.halted
  have hsent := sent_controller hop hlifecycle
  have hunreceived : ({ s with world := w' } : Stepped σ).unreceived = s.unreceived := by
    rw [Stepped.unreceived, Stepped.unreceived, hsent]
  have hstatus : w'.status executionId = s.world.status executionId ∨
      w'.status executionId = some .pending := by
    rcases hresumed.halted with hhalted | hhalted
    all_goals
      obtain ⟨row, hrow, -⟩ := row_of_status hhalted
      rcases hresumed.row row hrow with hrow' | hrow'
      · rw [status_eq_of_row hrow, status_eq_of_row hrow']
        exact .inl rfl
      · exact .inr (status_eq_of_row hrow')
  have hlive : w'.status executionId ≠ some .running ∧ w'.status executionId ≠ some .completed := by
    rcases hstatus with hstatus | hstatus <;> rw [hstatus]
    · rcases hresumed.halted with hhalted | hhalted <;> rw [hhalted] <;> decide
    · decide
  refine ⟨⟨orderly_step env h.orderly hlifecycle, fun row' hrow' => ?_, ?_, h.runs, h.alone, ?_, ?_,
    .rest hrunning (hunreceived.trans hnone) hlive.1 fun hasked => ?_⟩, fun hasked => ?_⟩
  · obtain ⟨row, hrow⟩ : ∃ row, OrderedDict.get? executionId s.world.workflowStatus = some row := by
      rcases hresumed.halted with hhalted | hhalted
      all_goals
        obtain ⟨row, hrow, -⟩ := row_of_status hhalted
        exact ⟨row, hrow⟩
    have hsame : row'.workflowId = row.workflowId := by
      rcases hresumed.row row hrow with hrow'' | hrow''
      all_goals
        rw [hrow', Option.some.injEq] at hrow''
        rw [hrow'']
    rw [World.workflow, hresumed.workflows, hsame]
    exact h.stored row hrow
  · rw [hsent]
    exact h.received
  · rw [hunreceived]
    exact h.exhausted
  · exact fun hcompleted => absurd hcompleted hlive.2
  · have hasked : s.asked = true := hasked
    rw [hnot] at hasked
    cases hasked
  · rw [hnot] at hasked
    cases hasked

/-- **The controller aborts an execution that is halted**, or pending before a worker takes it. -/
theorem inSteps_abort_of_abortable {env : Env σ} {s : Stepped σ} {row : WorkflowStatus}
    (h : InSteps executionId workflowId s) (hok : LetsAbort env executionId s .abort)
    (hrow : OrderedDict.get? executionId s.world.workflowStatus = some row)
    (habortable : Abortable row.status) :
    InSteps executionId workflowId (s.abort executionId) ∧
      (s.asked = true → KeepsAborted executionId s (s.abort executionId)) := by
  have hstatus := status_eq_of_row hrow
  obtain ⟨hrunning, hnone⟩ : s.running = [] ∧ s.unreceived = [] := by
    rcases habortable with hpending | hhalted
    · exact hok.1 (hstatus.trans (congrArg some hpending))
    · obtain ⟨hrunning, hnone, -⟩ := h.rest_of_halted
        (hhalted.imp (fun hpaused => hstatus.trans (congrArg some hpaused))
          fun hawaiting => hstatus.trans (congrArg some hawaiting))
      exact ⟨hrunning, hnone⟩
  have haborted := status_abortWorkflow hrow habortable (h.stored row hrow)
  have habort : LifecycleStep env executionId s.world .abort (s.abort executionId).world := rfl
  have horderly := orderly_step env h.orderly habort
  have haborts : (s.abort executionId).world.status executionId = some .aborted := haborted
  have hunchanged : (s.abort executionId).world.sent = s.world.sent ∧
      (s.abort executionId).world.uuid4 = s.world.uuid4 ∧
      (s.abort executionId).world.log = s.world.log ∧
      WorkflowStored executionId (s.abort executionId).world := by
    unfold Stepped.abort
    dsimp only
    cases abortWorkflow_cases executionId s.world with
    | told published heq =>
      rw [heq]
      exact ⟨rfl, rfl, rfl, h.stored⟩
    | aborted row' hrow' heq =>
      rw [heq]
      refine ⟨rfl, rfl, rfl, fun row'' hrow'' => ?_⟩
      rw [OrderedDict.get?_set_self, Option.some.injEq] at hrow''
      rw [← hrow'']
      exact h.stored row' hrow'
  obtain ⟨hsent, hid, hlog, hstored⟩ := hunchanged
  have hunreceived : (s.abort executionId).unreceived = [] := by
    rw [Stepped.unreceived, hsent]
    exact hnone
  refine ⟨⟨horderly, hstored, ?_, h.runs, h.alone, ?_, ?_, .rest hrunning hunreceived ?_ fun _ =>
    .inl haborts⟩, fun hasked => .of_eq ?_ hid hlog fun _ => haborts⟩
  · rw [hsent]
    exact h.received
  · rw [hunreceived]
    rintro p ⟨⟩
  · rw [haborts]
    rintro ⟨⟩
  · rw [haborts]
    decide
  · show (s.asked || _) = true
    rw [hasked, Bool.true_or]

/-- **The controller is asked to abort.** -/
theorem inSteps_abort {env : Env σ} {s : Stepped σ} (h : InSteps executionId workflowId s)
    (hok : LetsAbort env executionId s .abort) :
    InSteps executionId workflowId (s.abort executionId) ∧
      (s.asked = true → KeepsAborted executionId s (s.abort executionId)) := by
  have htold : (∃ published, finalState (abortWorkflow executionId s.world) =
      { s.world with published }) → (isLive executionId s.world = true →
        s.world.status executionId = some .running) →
      InSteps executionId workflowId (s.abort executionId) ∧
        (s.asked = true → KeepsAborted executionId s (s.abort executionId)) := by
    rintro ⟨published, hpublished⟩ hlive
    unfold Stepped.abort
    rw [hpublished]
    refine ⟨h.told published fun hasked => ?_, fun hasked => .of_eq ?_ rfl rfl id⟩
    · rcases Bool.or_eq_true_iff.mp hasked with hbefore | hnow
      · exact .inl hbefore
      · have hrunning := hlive (Bool.and_eq_true_iff.mp hnow).1
        exact .inr ⟨hrunning, hok.2 hrunning⟩
    · rw [hasked, Bool.true_or]
  cases hrow : OrderedDict.get? executionId s.world.workflowStatus with
  | none =>
    refine htold ⟨s.world.published, ?_⟩ fun hlive => ?_
    · unfold abortWorkflow
      rw [bind_apply, get_apply]
      dsimp only
      rw [hrow]
      rfl
    · rw [isLive, World.status, hrow] at hlive
      cases hlive
  | some row =>
    by_cases habortable : Abortable row.status
    · exact inSteps_abort_of_abortable h hok hrow habortable
    · refine htold (abortWorkflow_of_not_aborts hrow fun haborts => habortable haborts.1)
        fun hlive => ?_
      rw [isLive, status_eq_of_row hrow] at hlive
      rw [status_eq_of_row hrow]
      cases hstatus : row.status with
      | running => rfl
      | pending => exact absurd (.inl hstatus) habortable
      | paused => exact absurd (.inr (.inl hstatus)) habortable
      | awaitingData => exact absurd (.inr (.inr hstatus)) habortable
      | completed =>
        rw [hstatus] at hlive
        cases hlive
      | aborted =>
        rw [hstatus] at hlive
        cases hlive

end Walkoff.Analysis
