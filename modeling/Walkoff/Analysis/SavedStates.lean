import Walkoff.Analysis.LifecycleInvariant
import Walkoff.Analysis.Samples
import Walkoff.Program.Interleavings

/-!
# Saved states

The worker saves the workflow at every pause and every await, and only the end of the
execution deletes the row: a resumed run that is paused again finds the row of the first
pause in its place. As long as that does not happen, an execution that is halted has one
row, for the action it was last halted at.
-/

set_option autoImplicit false

namespace Walkoff.Analysis

open Walkoff.Model Walkoff.Program
open Walkoff.Library (Always Guarded Run Ended OrderedDict bind_apply get_apply finalState
  finalState_bind_pure follow)

variable {σ : Type} {executionId workflowId : UUID}

/-! ## The property -/

/-- The action a pause or an await is to be saved at. -/
def haltOf : Obs → Option UUID
  | .saved action _ => some action
  | _ => none

/-- The action of the latest pause or await. -/
def latestHalt (log : List Obs) : Option UUID :=
  (log.filterMap haltOf).getLast?

/-- An execution that is completed or aborted. -/
def Over (executionId : UUID) (w : World σ) : Prop :=
  w.status executionId = some .completed ∨ w.status executionId = some .aborted

/-- The rows of an execution in the table `saved_workflow`. -/
def savedRows (executionId : UUID) (w : World σ) : List SavedWorkflow :=
  w.savedWorkflow.filter (·.workflowExecutionId = executionId)

/-- **Every pause has been saved**, and the row of the latest one is there until the execution
has ended. -/
structure Saves (executionId : UUID) (w : World σ) : Prop where
  stored : ∀ action, .saved action false ∉ w.log
  latest : ∀ action, latestHalt w.log = some action → ¬ Over executionId w →
    ∃ saved, savedRows executionId w = [saved] ∧ saved.actionId = action
  gone : Over executionId w → savedRows executionId w = []

/-- A step in which every halt can be saved, and in which the execution is not aborted while the
controller has not yet heard of a run that has begun: the abort would delete the row of a halt that
is still to be reported. -/
def Orderable (env : Env σ) (executionId : UUID) (s : Interleaved σ) : InterleavedOp → Prop
  | .finish thread control turns => ∀ run, s.running.find? (·.thread = thread) = some run →
      ¬ RunRefused env control turns run.request run.ctx s.world
  | .abort => s.world.status executionId = some .pending → s.running = [] ∧ s.unreceived = []
  | _ => True

/-! ## Logs and rows -/

/-- An entry of a run saves nothing. -/
theorem haltOf_of_run {entry : Obs} (h : RunEntry entry) : haltOf entry = none := by
  cases entry with
  | saved action stored => exact h.elim
  | _ => rfl

/-- Entries that save nothing leave the latest halt. -/
theorem latestHalt_append (log : List Obs) {entries : List Obs}
    (h : ∀ entry ∈ entries, haltOf entry = none) : latestHalt (log ++ entries) = latestHalt log := by
  rw [latestHalt, List.filterMap_append, List.filterMap_eq_nil_iff.mpr h, List.append_nil, latestHalt]

/-- A saved action is the latest halt until another is saved. -/
theorem latestHalt_append_saved (log : List Obs) {action : UUID} {stored : Bool}
    {entries : List Obs} (h : ∀ entry ∈ entries, haltOf entry = none) :
    latestHalt (log ++ .saved action stored :: entries) = some action := by
  have hhalt : (Obs.saved action stored :: entries).filterMap haltOf = [action] := by
    rw [List.filterMap_cons, List.filterMap_eq_nil_iff.mpr h]
    rfl
  rw [latestHalt, List.filterMap_append, hhalt, List.getLast?_concat]

/-- Without its rows an execution has none. -/
theorem savedRows_filter {w w' : World σ}
    (h : w'.savedWorkflow = w.savedWorkflow.filter (·.workflowExecutionId ≠ executionId)) :
    savedRows executionId w' = [] :=
  savedState_eq_none_iff.mp (savedState_filter h)

/-- A first row of an execution is its only one. -/
theorem savedRows_append {w w' : World σ} {saved : SavedWorkflow}
    (hnone : w.savedState executionId = none) (hid : saved.workflowExecutionId = executionId)
    (h : w'.savedWorkflow = w.savedWorkflow ++ [saved]) : savedRows executionId w' = [saved] := by
  have hrows : savedRows executionId w = [] := savedState_eq_none_iff.mp hnone
  rw [savedRows] at hrows
  rw [savedRows, h, List.filter_append, hrows]
  simp [hid]

/-! ## Steps that refuse nothing -/

/-- Entries that fail to save nothing keep what is saved stored. -/
theorem Saves.stored_append {w w' : World σ} {entries : List Obs} (h : Saves executionId w)
    (hlog : w'.log = w.log ++ entries) (hentries : ∀ action, .saved action false ∉ entries)
    (action : UUID) : .saved action false ∉ w'.log := by
  intro hmem
  rw [hlog] at hmem
  rcases List.mem_append.mp hmem with hold | hnew
  · exact h.stored action hold
  · exact hentries action hnew

/-- Entries that save nothing have no save among them. -/
theorem not_mem_of_haltOf {entries : List Obs} (h : ∀ entry ∈ entries, haltOf entry = none)
    (action : UUID) (stored : Bool) : .saved action stored ∉ entries := by
  intro hmem
  cases h _ hmem

/-- A step that halts nothing, ends nothing and leaves the rows alone. -/
theorem Saves.keep {w w' : World σ} {entries : List Obs} (h : Saves executionId w)
    (hover : Over executionId w' ↔ Over executionId w)
    (hsaved : w'.savedWorkflow = w.savedWorkflow) (hlog : w'.log = w.log ++ entries)
    (hentries : ∀ entry ∈ entries, haltOf entry = none) : Saves executionId w' := by
  have hrows : savedRows executionId w' = savedRows executionId w := by
    rw [savedRows, hsaved, savedRows]
  refine ⟨h.stored_append hlog fun action => not_mem_of_haltOf hentries action false, ?_, ?_⟩
  · rw [hover, hlog, latestHalt_append w.log hentries, hrows]
    exact h.latest
  · rw [hover, hrows]
    exact h.gone

/-- A step that halts once, with a row of its own where there was none. -/
theorem Saves.halt {w w' : World σ} {saved : SavedWorkflow} {before after : List Obs}
    (h : Saves executionId w) (hover : ¬ Over executionId w')
    (hnone : w.savedState executionId = none) (hid : saved.workflowExecutionId = executionId)
    (hadded : w'.savedWorkflow = w.savedWorkflow ++ [saved])
    (hlog : w'.log = w.log ++ (before ++ .saved saved.actionId true :: after))
    (hbefore : ∀ entry ∈ before, haltOf entry = none)
    (hafter : ∀ entry ∈ after, haltOf entry = none) : Saves executionId w' := by
  refine ⟨h.stored_append hlog fun action hstored => ?_, fun action hlatest _ => ?_,
    fun hover' => absurd hover' hover⟩
  · rcases List.mem_append.mp hstored with hold | hnew
    · exact not_mem_of_haltOf hbefore action false hold
    · rcases List.mem_cons.mp hnew with heq | hnew
      · cases heq
      · exact not_mem_of_haltOf hafter action false hnew
  · rw [hlog, ← List.append_assoc, latestHalt_append_saved _ hafter, Option.some.injEq] at hlatest
    exact ⟨saved, savedRows_append hnone hid hadded, hlatest⟩

/-- A step that ends the execution. -/
theorem Saves.finish {w w' : World σ} {entries : List Obs} (h : Saves executionId w)
    (hover : Over executionId w')
    (hsaved : w'.savedWorkflow = w.savedWorkflow.filter (·.workflowExecutionId ≠ executionId))
    (hlog : w'.log = w.log ++ entries) (hentries : ∀ entry ∈ entries, haltOf entry = none) :
    Saves executionId w' :=
  ⟨h.stored_append hlog fun action => not_mem_of_haltOf hentries action false,
    fun _ _ hlive => absurd hover hlive, fun _ => savedRows_filter hsaved⟩

/-- Whether an execution is over depends on its status only. -/
theorem over_iff {w w' : World σ} (h : w'.status executionId = w.status executionId) :
    Over executionId w' ↔ Over executionId w := by
  rw [Over, Over, h]

/-- An execution that is neither completed nor aborted is not over. -/
theorem not_over {w : World σ} {status : WorkflowStatusEnum}
    (hstatus : w.status executionId = some status)
    (h : status ≠ .completed ∧ status ≠ .aborted) : ¬ Over executionId w := by
  rw [Over, hstatus, Option.some.injEq, Option.some.injEq]
  exact not_or.mpr h

/-- Continuing an execution keeps its row. -/
theorem saves_of_continued {start : Option UUID} {resume : Bool} {id : UUID} {w w' : World σ}
    (h : Saves executionId w) (hlive : ¬ Over executionId w)
    (hc : Continued id executionId start resume w w') : Saves executionId w' := by
  have hover : Over executionId w' ↔ Over executionId w :=
    iff_of_false (not_over hc.status (by decide)) hlive
  exact h.keep hover hc.savedWorkflow (hc.log.trans (List.append_nil _).symm) (by simp)

/-- The steps of the controller refuse nothing. -/
theorem saves_controller (env : Env σ) {w w' : World σ} {op : LifecycleOp}
    (hop : ∀ thread control turns, op ≠ .work thread control turns) (h : Saves executionId w)
    (hstep : LifecycleStep env executionId w op w') : Saves executionId w' := by
  cases op with
  | work thread control turns => exact absurd rfl (hop thread control turns)
  | resume user =>
    obtain rfl := Option.some.inj hstep
    rcases resumeWorkflow_cases executionId user w with hsame | ⟨row, start, hrow, hpaused, -, hc⟩
    · rw [hsame]
      exact h
    · have hstatus := status_eq_of_row hrow
      rw [hpaused] at hstatus
      exact saves_of_continued h (not_over hstatus (by decide)) hc
  | answer dataIn arguments user =>
    unfold LifecycleStep lifecycleStep at hstep
    dsimp only at hstep
    split at hstep
    case isFalse => cases hstep
    case isTrue hwaiting =>
      obtain rfl := Option.some.inj hstep
      cases resumeTriggerStep_cases env executionId dataIn arguments user w with
      | unanswered hframe =>
        obtain ⟨entries, hlog, hentries⟩ := hframe.log
        refine h.keep (over_iff (hframe.status _)) hframe.savedWorkflow hlog fun entry hentry => ?_
        obtain ⟨action, rfl⟩ := hentries entry hentry
        rfl
      | @answered saved w₁ hsaved hframe hcontinued =>
        have hlogged : Saves executionId (w₁.logged (.trigger saved.actionId true)) := by
          obtain ⟨entries, hlog, hnever⟩ := hframe.log
          obtain rfl : entries = [] := List.eq_nil_iff_forall_not_mem.mpr hnever
          rw [List.append_nil] at hlog
          have hover : Over executionId (w₁.logged (.trigger saved.actionId true)) ↔
              Over executionId w := over_iff (hframe.status _)
          refine @Saves.keep _ _ _ _ [.trigger saved.actionId true] h hover hframe.savedWorkflow ?_ ?_
          · rw [World.logged, hlog]
          · intro entry hentry
            rw [List.mem_singleton.mp hentry]
            rfl
        rcases hcontinued with hsame | hc
        · rw [hsame]
          exact hlogged
        · have hstatus : (w₁.logged (.trigger saved.actionId true)).status executionId =
              some .awaitingData := (hframe.status _).trans hwaiting
          exact saves_of_continued hlogged (not_over hstatus (by decide)) hc
  | abort =>
    obtain rfl := Option.some.inj hstep
    cases abortWorkflow_cases executionId w with
    | told published heq =>
      rw [heq]
      exact h.keep (over_iff rfl) rfl (List.append_nil _).symm (by simp)
    | aborted row hrow heq =>
      rw [heq]
      refine h.finish (.inr ?_) rfl (List.append_nil _).symm (by simp)
      simp [World.status]

/-! ## The controller catches up -/

/-- The packets of a run after its start: those of its actions and branches, and the one that says
how it ended, if there is one. -/
def Tail (executionId : UUID) (packets : List Packet) : Prop :=
  ∃ inner last, packets = inner ++ last ∧ (∀ p ∈ inner, Inner executionId p) ∧ last.length ≤ 1 ∧
    ∀ p ∈ last, p.executionId = executionId ∧
      (endsExecution p.event = true ∨ p.event.savesWorkflow = true)

/-- The first packet of a tail is one of an action or a branch, or the only one. -/
theorem Tail.uncons {packet : Packet} {packets : List Packet}
    (h : Tail executionId (packet :: packets)) :
    (Inner executionId packet ∧ Tail executionId packets) ∨
      (packets = [] ∧ packet.executionId = executionId ∧
        (endsExecution packet.event = true ∨ packet.event.savesWorkflow = true)) := by
  obtain ⟨inner, last, hpackets, hinner, hone, hlast⟩ := h
  cases inner with
  | cons p inner =>
    obtain ⟨rfl, rfl⟩ := List.cons.inj hpackets
    obtain ⟨hpacket, hinner'⟩ := List.forall_mem_cons.mp hinner
    exact .inl ⟨hpacket, inner, last, rfl, hinner', hone, hlast⟩
  | nil =>
    rw [List.nil_append] at hpackets
    subst hpackets
    obtain rfl : packets = [] := by
      rw [List.length_cons] at hone
      exact List.length_eq_zero_iff.mp (by omega)
    exact .inr ⟨rfl, hlast packet List.mem_cons_self⟩

/-- A run has begun and the controller has not heard of its end: it does not know of its start, or
only of that. -/
inductive Underway (executionId : UUID) (s : Interleaved σ) : Prop where
  | unheard (start : Packet) (rest : List Packet) (hstatus : s.world.status executionId = some .pending)
    (hpackets : s.unreceived = start :: rest) (hid : start.executionId = executionId)
    (hevent : start.event = .workflowExecutionStart) (htail : Tail executionId rest)
    (hrunning : s.running ≠ [] → rest = [])
  | heard (hstatus : s.world.status executionId = some .running)
    (htail : Tail executionId s.unreceived) (hrunning : s.running ≠ [] → s.unreceived = [])

/-- The invariant of the steps: the execution is at rest, or one run of it is underway. -/
structure Interleaves (executionId workflowId : UUID) (s : Interleaved σ) : Prop where
  orderly : Orderly executionId workflowId s.world
  received : s.received ≤ s.world.sent.length
  runs : ∀ run ∈ s.running, run.ctx.executionId = executionId ∧ run.ctx.workflow.id = workflowId
  alone : s.running.length ≤ 1
  phase : s.running = [] ∧ s.unreceived = [] ∨ s.world.requestQueue = [] ∧ Underway executionId s

/-- An execution that is underway is not over. -/
theorem Underway.not_over {s : Interleaved σ} (h : Underway executionId s) :
    ¬ Over executionId s.world := by
  cases h with
  | unheard _ _ hstatus => exact Walkoff.Analysis.not_over hstatus (by decide)
  | heard hstatus => exact Walkoff.Analysis.not_over hstatus (by decide)

/-- An execution that is underway is pending or running. -/
theorem Underway.status {s : Interleaved σ} (h : Underway executionId s) :
    s.world.status executionId = some .pending ∨ s.world.status executionId = some .running := by
  cases h with
  | unheard _ _ hstatus => exact .inl hstatus
  | heard hstatus => exact .inr hstatus

/-! ## A worker takes a request -/

/-- Beginning a run sends the announcement and changes no table. -/
theorem endsWith_beginRun (env : Env σ) (thread : String) (request : Request) (ctx : Context)
    (w : World σ) : EndsWith w (finalState (beginRun env thread request ctx w)) [] []
      [workflowPacket ctx.origin .workflowExecutionStart "null"] := by
  have h := endsWith_announceStart env ctx request.environmentVariables
    (finalState (register thread ctx w))
  exact ⟨h.workflows, h.workflowStatus, h.requestQueue, h.savedWorkflow, h.log, h.sent⟩

/-- Making a context changes no table and sends nothing. -/
theorem endsWith_prepare {env : Env σ} {request : Request} {w w' : World σ} {ctx : Option Context}
    (h : prepare env request w = .ok ctx w') : EndsWith w w' [] [] [] := by
  have hframe := (frame_prepare (P := Never) (E := Never) env request).of_ok h
  obtain ⟨entries, hlog, hentries⟩ := hframe.log
  obtain ⟨packets, hsent, hpackets⟩ := hframe.sent
  obtain rfl : entries = [] := List.eq_nil_iff_forall_not_mem.mpr hentries
  obtain rfl : packets = [] := List.eq_nil_iff_forall_not_mem.mpr hpackets
  exact ⟨hframe.workflows, hframe.workflowStatus, hframe.requestQueue,
    hframe.savedWorkflow.trans (List.append_nil _).symm, hlog, hsent⟩

/-- What a worker that takes a request does: it drops the request, or begins its run. -/
theorem take_cases {env : Env σ} {thread : String} {s s' : Interleaved σ}
    (h : s.take env thread = some s') :
    ∃ request requests, s.world.requestQueue = request :: requests ∧
      (s' = { s with world := { s.world with requestQueue := requests } } ∨
        ∃ ctx start, Startable request s.world ∧ ctx.executionId = request.executionId ∧
          ctx.workflow.id = request.workflowId ∧
          start.executionId = request.executionId ∧ start.event = .workflowExecutionStart ∧
          s'.running = ⟨thread, request, ctx⟩ :: s.running ∧ s'.received = s.received ∧
          EndsWith { s.world with requestQueue := requests } s'.world [] [] [start]) := by
  unfold Interleaved.take at h
  split at h
  · cases h
  cases hqueue : s.world.requestQueue with
  | nil =>
    rw [hqueue] at h
    cases h
  | cons request requests =>
    rw [hqueue] at h
    dsimp only at h
    refine ⟨request, requests, rfl, ?_⟩
    by_cases hstartable : Startable request { s.world with requestQueue := requests }
    · obtain ⟨workflow, user, w₁, hworkflow, hctx⟩ := prepare_of_startable env hstartable
      rw [hctx] at h
      dsimp only at h
      obtain rfl := Option.some.inj h
      have hprepare := endsWith_prepare hctx
      have hbegin := endsWith_beginRun env thread request
        (newContext workflow request.executionId user) w₁
      refine .inr ⟨newContext workflow request.executionId user, workflowPacket
        (newContext workflow request.executionId user).origin .workflowExecutionStart "null",
        hstartable, rfl, ?_, rfl, rfl, rfl, rfl, ?_⟩
      · have hid : workflow.id = request.workflowId := by simpa using List.find?_some hworkflow
        exact hid
      · refine ⟨hbegin.workflows.trans hprepare.workflows,
          hbegin.workflowStatus.trans hprepare.workflowStatus,
          hbegin.requestQueue.trans hprepare.requestQueue, ?_, ?_, ?_⟩
        · rw [hbegin.savedWorkflow, hprepare.savedWorkflow, List.append_nil]
        · rw [hbegin.log, hprepare.log, List.append_nil]
        · rw [hbegin.sent, hprepare.sent, List.append_nil]
    · rcases prepare_of_not_startable_eq env hstartable with hnone | ⟨e, hraised⟩
      · rw [hnone] at h
        exact .inl (Option.some.inj h).symm
      · rw [hraised] at h
        exact .inl (Option.some.inj h).symm

/-- Packets sent at the end are on their way after those that are. -/
theorem unreceived_append {s s' : Interleaved σ} {packets : List Packet}
    (hle : s.received ≤ s.world.sent.length) (hreceived : s'.received = s.received)
    (hsent : s'.world.sent = s.world.sent ++ packets) :
    s'.unreceived = s.unreceived ++ packets := by
  rw [Interleaved.unreceived, Interleaved.unreceived, hsent, hreceived,
    List.drop_append_of_le_length hle]

/-- A worker takes a request. -/
theorem interleaves_take {env : Env σ} {thread : String} {s s' : Interleaved σ}
    (hinv : Interleaves executionId workflowId s) (h : Saves executionId s.world)
    (hstep : s.take env thread = some s') :
    Interleaves executionId workflowId s' ∧ Saves executionId s'.world := by
  obtain ⟨request, requests, hqueue, hends⟩ := take_cases hstep
  obtain ⟨hrunning, hunreceived⟩ : s.running = [] ∧ s.unreceived = [] := by
    rcases hinv.phase with hrest | ⟨hnil, -⟩
    · exact hrest
    · rw [hqueue] at hnil
      cases hnil
  obtain ⟨hfits, rfl⟩ : Fits executionId workflowId s.world request ∧ requests = [] := by
    rcases hinv.orderly.queue with hnil | ⟨request', hone, hfits⟩
    · rw [hqueue] at hnil
      cases hnil
    · rw [hqueue] at hone
      cases hone
      exact ⟨hfits, rfl⟩
  rcases hends with rfl | ⟨ctx, start, hstartable, hctx, hworkflow, hid, hevent, hruns, hreceived, hbegin⟩
  · refine ⟨⟨⟨.inl rfl, hinv.orderly.row, hinv.orderly.saved⟩, hinv.received, hinv.runs, hinv.alone,
      .inl ⟨hrunning, hunreceived⟩⟩, ?_⟩
    exact h.keep Iff.rfl rfl (List.append_nil _).symm (by simp)
  · have hstatus : s'.world.status executionId = s.world.status executionId := by
      rw [World.status, World.status, hbegin.workflowStatus]
    have hsaved : s'.world.savedWorkflow = s.world.savedWorkflow :=
      hbegin.savedWorkflow.trans (List.append_nil _)
    have hpending : s.world.status executionId = some .pending := by
      rcases hfits.status with hpending | haborted
      · exact hpending
      · obtain ⟨status, -, hfound, hne, -⟩ := hstartable
        rw [hfits.execution, haborted] at hfound
        exact absurd (Option.some.inj hfound).symm hne
    have hsent := unreceived_append hinv.received hreceived hbegin.sent
    rw [hunreceived, List.nil_append] at hsent
    refine ⟨⟨⟨.inl hbegin.requestQueue, ?_, ?_⟩, ?_, ?_, ?_, .inr ⟨hbegin.requestQueue, ?_⟩⟩, ?_⟩
    · rw [hbegin.workflowStatus]
      exact hinv.orderly.row
    · rw [World.savedState, hsaved]
      exact hinv.orderly.saved
    · rw [hreceived, hbegin.sent, List.length_append]
      exact le_add_right hinv.received
    · rw [hruns, hrunning]
      intro run hrun
      rw [List.mem_singleton.mp hrun]
      exact ⟨hctx.trans hfits.execution, hworkflow.trans hfits.workflow⟩
    · rw [hruns, hrunning]
      exact le_rfl
    · exact .unheard start [] (hstatus.trans hpending) hsent (hid.trans hfits.execution) hevent
        ⟨[], [], rfl, by simp, Nat.zero_le 1, by simp⟩ fun _ => rfl
    · exact h.keep (over_iff hstatus) hsaved hbegin.log (by simp)

/-! ## A run ends -/

/-- The ends of a run leave a tail of packets, and their row if they halt. -/
theorem finish_cases {cause : Prop} {w w' : World σ} (hcause : ¬ cause)
    (hends : RunEnds executionId workflowId cause w w') :
    w'.workflowStatus = w.workflowStatus ∧ w'.requestQueue = w.requestQueue ∧
      ∃ packets entries, w'.sent = w.sent ++ packets ∧ Tail executionId packets ∧
        w'.log = w.log ++ entries ∧
        ((w'.savedWorkflow = w.savedWorkflow ∧ ∀ entry ∈ entries, haltOf entry = none) ∨
          ∃ saved before after, w.savedState executionId = none ∧
            w'.savedWorkflow = w.savedWorkflow ++ [saved] ∧
            saved.workflowExecutionId = executionId ∧ saved.workflowId = workflowId ∧
            entries = before ++ .saved saved.actionId true :: after ∧
            (∀ entry ∈ before, haltOf entry = none) ∧ ∀ entry ∈ after, haltOf entry = none) := by
  have hrun : ∀ {new : List Obs}, (∀ entry ∈ new, RunEntry entry) →
      ∀ entry ∈ new, haltOf entry = none :=
    fun hnew entry hentry => haltOf_of_run (hnew entry hentry)
  cases hends with
  | silent h =>
    obtain ⟨new, hlog, hnew⟩ := h.log
    obtain ⟨inner, hsent, hinner⟩ := h.sent
    exact ⟨h.workflowStatus, h.requestQueue, inner, new, hsent,
      ⟨inner, [], (List.append_nil _).symm, hinner, Nat.zero_le 1, by simp⟩, hlog,
      .inl ⟨h.savedWorkflow, hrun hnew⟩⟩
  | @ended w₁ packet h hid hevent hend =>
    obtain ⟨new, hlog, hnew⟩ := h.log
    obtain ⟨inner, hsent, hinner⟩ := h.sent
    refine ⟨hend.workflowStatus.trans h.workflowStatus, hend.requestQueue.trans h.requestQueue,
      inner ++ [packet], new, ?_, ⟨inner, [packet], rfl, hinner, le_rfl, ?_⟩, ?_,
      .inl ⟨?_, hrun hnew⟩⟩
    · rw [hend.sent, hsent, List.append_assoc]
    · intro p hp
      rw [List.mem_singleton.mp hp]
      exact ⟨hid, .inl hevent⟩
    · rw [hend.log, hlog, List.append_nil]
    · rw [hend.savedWorkflow, h.savedWorkflow, List.append_nil]
  | @halted w₁ saved entries packets h hnone hsaved hentries hone hpackets hend =>
    obtain ⟨new, hlog, hnew⟩ := h.log
    obtain ⟨inner, hsent, hinner⟩ := h.sent
    refine ⟨hend.workflowStatus.trans h.workflowStatus, hend.requestQueue.trans h.requestQueue,
      inner ++ packets, new ++ .saved saved.actionId true :: entries, ?_,
      ⟨inner, packets, rfl, hinner, hone, fun p hp => ⟨(hpackets p hp).1, .inr (hpackets p hp).2⟩⟩,
      ?_, .inr ⟨saved, new, entries, ?_, ?_, hsaved.1, hsaved.2, rfl, hrun hnew, ?_⟩⟩
    · rw [hend.sent, hsent, List.append_assoc]
    · rw [hend.log, hlog, List.append_assoc]
    · rw [← h.savedState executionId]
      exact hnone
    · rw [hend.savedWorkflow, h.savedWorkflow]
    · intro entry hentry
      rw [hentries entry hentry]
      rfl
  | refused _ hrefused => exact absurd hrefused hcause

/-- The world a run in progress leaves behind. -/
theorem finish_of_run {env : Env σ} {thread : String} {control : ℕ → Control} {turns : ℕ}
    {s s' : Interleaved σ} (h : s.finish env thread control turns = some s') :
    ∃ run w, s.running.find? (·.thread = thread) = some run ∧
      Ended (strategyRest env control turns run.request run.ctx s.world) ∧
      w = finalState (strategyRest env control turns run.request run.ctx s.world) ∧
      s'.running = s.running.filter (·.thread ≠ thread) ∧ s'.received = s.received ∧
      ∃ executingWorkflows, s'.world = { w with executingWorkflows } := by
  unfold Interleaved.finish at h
  cases hfind : s.running.find? (·.thread = thread) with
  | none =>
    rw [hfind] at h
    cases h
  | some run =>
    rw [hfind] at h
    dsimp only at h
    cases hresult : strategyRest env control turns run.request run.ctx s.world with
    | error e w =>
      rw [hresult] at h
      obtain rfl := Option.some.inj h
      refine ⟨run, w, rfl, ?_, ?_, rfl, rfl, w.executingWorkflows, rfl⟩
      · rw [hresult]
        trivial
      · rw [hresult]
        rfl
    | ok progress w =>
      rw [hresult] at h
      cases progress with
      | running vars => cases h
      | returned =>
        obtain rfl := Option.some.inj h
        refine ⟨run, w, rfl, ?_, ?_, rfl, rfl, _, rfl⟩
        · rw [hresult]
          trivial
        · rw [hresult]
          rfl

/-- A run ends whose halt, if it has one, can be saved. -/
theorem interleaves_finish {env : Env σ} {thread : String} {control : ℕ → Control} {turns : ℕ}
    {s s' : Interleaved σ} (hinv : Interleaves executionId workflowId s)
    (h : Saves executionId s.world)
    (hok : Orderable env executionId s (.finish thread control turns))
    (hstep : s.finish env thread control turns = some s') :
    Interleaves executionId workflowId s' ∧ Saves executionId s'.world := by
  obtain ⟨run, w, hfind, hended, rfl, hrunning, hreceived, executingWorkflows, hworld⟩ :=
    finish_of_run hstep
  have hmem := List.mem_of_find?_eq_some hfind
  have hthread : run.thread = thread := by simpa using List.find?_some hfind
  obtain ⟨hctx, hworkflow⟩ := hinv.runs run hmem
  have hnil : s'.running = [] := by
    have hone : s.running = [run] := by
      obtain ⟨run', hrun'⟩ := List.length_eq_one_iff.mp
        (le_antisymm hinv.alone (List.length_pos_of_mem hmem))
      rw [hrun', List.mem_singleton] at hmem
      rw [hrun', hmem]
    rw [hrunning, hone]
    simp [hthread]
  have hends := runEnds_strategyRest hended
  rw [hctx, hworkflow] at hends
  obtain ⟨hrows, hqueue, packets, entries, hsent, htail, hlog, hsaved⟩ :=
    finish_cases (hok run hfind) hends
  generalize finalState (strategyRest env control turns run.request run.ctx s.world) = w at *
  obtain ⟨hempty, hunderway⟩ : s.world.requestQueue = [] ∧ Underway executionId s := by
    rcases hinv.phase with ⟨hnone, -⟩ | hunderway
    · rw [hnone] at hmem
      cases hmem
    · exact hunderway
  have hstatus : s'.world.status executionId = s.world.status executionId := by
    rw [World.status, World.status, hworld, hrows]
  have hnever : s'.running ≠ [] → ∀ {p : Prop}, p := fun hne => absurd hnil hne
  have hunreceived : s'.unreceived = s.unreceived ++ packets :=
    unreceived_append hinv.received hreceived (by rw [hworld]; exact hsent)
  have hprogress : s.running ≠ [] := fun hnone => by
    rw [hnone] at hmem
    cases hmem
  refine ⟨⟨⟨.inl ?_, ?_, ?_⟩, ?_, ?_, ?_, .inr ⟨?_, ?_⟩⟩, ?_⟩
  · rw [hworld]
    exact hqueue.trans hempty
  · rw [hworld, hrows]
    exact hinv.orderly.row
  · rw [hworld]
    rcases hsaved with ⟨hkept, -⟩ | ⟨saved, _, _, hnone, hadded, hid, hsavedId, -⟩
    · rw [World.savedState, hkept]
      exact hinv.orderly.saved
    · intro saved' hfound
      have hfound' : ({ w with executingWorkflows } : World σ).savedState executionId = some saved :=
        savedState_append hnone hid hadded
      rw [hfound', Option.some.injEq] at hfound
      rw [← hfound]
      exact hsavedId
  · rw [hreceived, hworld]
    dsimp only
    rw [hsent, List.length_append]
    exact le_add_right hinv.received
  · rw [hnil]
    simp
  · rw [hnil]
    exact Nat.zero_le 1
  · rw [hworld]
    exact hqueue.trans hempty
  · cases hunderway with
    | unheard start rest hpending hpackets hid hevent _ hrest =>
      rw [hrest hprogress] at hpackets
      rw [hpackets] at hunreceived
      exact .unheard start packets (hstatus.trans hpending) hunreceived hid hevent htail
        fun hne => hnever hne
    | heard hheard _ hrest =>
      rw [hrest hprogress, List.nil_append] at hunreceived
      refine .heard (hstatus.trans hheard) ?_ fun hne => hnever hne
      rw [hunreceived]
      exact htail
  · have hover := over_iff hstatus
    have hlog' : s'.world.log = s.world.log ++ entries := by
      rw [hworld]
      exact hlog
    rcases hsaved with ⟨hkept, hnohalt⟩ | ⟨saved, before, after, hnone, hadded, hid, -, rfl, hbefore, hafter⟩
    · refine h.keep hover ?_ hlog' hnohalt
      rw [hworld]
      exact hkept
    · refine h.halt (fun hover' => hunderway.not_over (hover.mp hover')) hnone hid ?_ hlog' hbefore
        hafter
      rw [hworld]
      exact hadded

/-! ## The controller receives a packet -/

/-- The rows of the execution after a packet of it. -/
theorem orderly_afterPacket {row : WorkflowStatus} {packet : Packet} {w : World σ}
    (horderly : Orderly executionId workflowId w) (hqueue : w.requestQueue = [])
    (hid : packet.executionId = executionId)
    (hrow : OrderedDict.get? executionId w.workflowStatus = some row) :
    Orderly executionId workflowId (afterPacket row packet w) := by
  subst hid
  refine ⟨.inl hqueue, fun row' hrow' => ?_, fun saved hsaved => ?_⟩
  · rw [get?_afterPacket hrow, Option.some.injEq] at hrow'
    rw [← hrow']
    exact horderly.row row hrow
  · cases hends : endsExecution packet.event with
    | true =>
      have hrows : (afterPacket row packet w).savedWorkflow =
          w.savedWorkflow.filter (·.workflowExecutionId ≠ packet.executionId) := by
        simp [afterPacket, hends]
      have hnone := savedState_filter hrows
      rw [hnone] at hsaved
      cases hsaved
    | false =>
      refine horderly.saved saved ?_
      rw [← hsaved]
      simp [World.savedState, afterPacket, hends]

/-- The state after a packet. -/
theorem receive_eq {s s' : Interleaved σ} {packet : Packet} {rest : List Packet}
    {row : WorkflowStatus} (hpackets : s.unreceived = packet :: rest)
    (hid : packet.executionId = executionId)
    (hrow : OrderedDict.get? executionId s.world.workflowStatus = some row)
    (hstep : s.receive = some s') :
    s'.world = afterPacket row packet s.world ∧ s'.running = s.running ∧ s'.unreceived = rest ∧
      s'.received ≤ s'.world.sent.length ∧
      s'.world.status executionId = some ((statusAfter packet.event).getD row.status) := by
  subst hid
  have hreceived : s' = { s with
      world := finalState (receivePacket packet s.world), received := s.received + 1 } := by
    unfold Interleaved.receive at hstep
    rw [hpackets] at hstep
    exact (Option.some.inj hstep).symm
  have hworld : finalState (receivePacket packet s.world) = afterPacket row packet s.world := by
    rw [receivePacket_eq hrow]
    rfl
  rw [hworld] at hreceived
  subst hreceived
  unfold Interleaved.unreceived at hpackets ⊢
  refine ⟨rfl, rfl, ?_, ?_, ?_⟩
  · show s.world.sent.drop (s.received + 1) = rest
    rw [← List.tail_drop, hpackets, List.tail_cons]
  · show s.received + 1 ≤ s.world.sent.length
    have hlength := congrArg List.length hpackets
    rw [List.length_drop, List.length_cons] at hlength
    omega
  · exact status_eq_of_row (get?_afterPacket hrow)

/-- A packet that does not end the execution leaves its rows. -/
theorem Saves.receive {row : WorkflowStatus} {packet : Packet} {w : World σ}
    (h : Saves executionId w) (hends : endsExecution packet.event = false)
    (hover : Over executionId (afterPacket row packet w) ↔ Over executionId w) :
    Saves executionId (afterPacket row packet w) := by
  refine h.keep hover ?_ (List.append_nil _).symm (by simp)
  simp [afterPacket, hends]

/-- The controller receives the announcement of a run. -/
theorem interleaves_receive_start {s s' : Interleaved σ} {start : Packet} {rest : List Packet}
    (hinv : Interleaves executionId workflowId s) (h : Saves executionId s.world)
    (hqueue : s.world.requestQueue = [])
    (hstatus : s.world.status executionId = some .pending) (hpackets : s.unreceived = start :: rest)
    (hid : start.executionId = executionId) (hevent : start.event = .workflowExecutionStart)
    (htail : Tail executionId rest) (hrunning : s.running ≠ [] → rest = [])
    (hstep : s.receive = some s') :
    Interleaves executionId workflowId s' ∧ Saves executionId s'.world := by
  obtain ⟨row, hrow, -⟩ := row_of_status hstatus
  obtain ⟨hworld, hruns, hunreceived, hreceived, hstatus'⟩ := receive_eq hpackets hid hrow hstep
  have hheard : s'.world.status executionId = some .running := by
    rw [hstatus', hevent]
    rfl
  refine ⟨⟨?_, hreceived, ?_, ?_, .inr ⟨?_, .heard hheard ?_ ?_⟩⟩, ?_⟩
  · rw [hworld]
    exact orderly_afterPacket hinv.orderly hqueue hid hrow
  · rw [hruns]
    exact hinv.runs
  · rw [hruns]
    exact hinv.alone
  · rw [hworld]
    exact hqueue
  · rw [hunreceived]
    exact htail
  · rw [hruns, hunreceived]
    exact hrunning
  · rw [hworld] at hheard ⊢
    refine h.receive (by rw [hevent]; rfl) ?_
    exact iff_of_false (not_over hheard (by decide)) (not_over hstatus (by decide))

/-- The packet of an action or a branch changes no status and ends nothing. -/
theorem after_inner {packet : Packet} (h : Inner executionId packet) :
    statusAfter packet.event = none ∧ endsExecution packet.event = false := by
  have hevent := h.2
  cases hname : packet.event <;> rw [hname] at hevent <;> first | exact ⟨rfl, rfl⟩ | cases hevent

/-- The controller receives a packet of an action or a branch. -/
theorem interleaves_receive_inner {s s' : Interleaved σ} {packet : Packet}
    {inner last : List Packet} (hinv : Interleaves executionId workflowId s)
    (h : Saves executionId s.world) (hqueue : s.world.requestQueue = [])
    (hstatus : s.world.status executionId = some .running)
    (hpackets : s.unreceived = packet :: (inner ++ last)) (hpacket : Inner executionId packet)
    (htail : Tail executionId (inner ++ last)) (hnil : s.running = [])
    (hstep : s.receive = some s') :
    Interleaves executionId workflowId s' ∧ Saves executionId s'.world := by
  obtain ⟨row, hrow, hrunning⟩ := row_of_status hstatus
  obtain ⟨hworld, hruns, hunreceived, hreceived, hstatus'⟩ :=
    receive_eq hpackets hpacket.1 hrow hstep
  have hnone := after_inner hpacket
  have hheard : s'.world.status executionId = some .running := by
    rw [hstatus', hnone.1, hrunning]
    rfl
  refine ⟨⟨?_, hreceived, ?_, ?_, .inr ⟨?_, .heard hheard ?_ ?_⟩⟩, ?_⟩
  · rw [hworld]
    exact orderly_afterPacket hinv.orderly hqueue hpacket.1 hrow
  · rw [hruns]
    exact hinv.runs
  · rw [hruns]
    exact hinv.alone
  · rw [hworld]
    exact hqueue
  · rw [hunreceived]
    exact htail
  · rw [hruns, hnil]
    exact fun hne => absurd rfl hne
  · rw [hworld] at hheard ⊢
    exact h.receive hnone.2
      (iff_of_false (not_over hheard (by decide)) (not_over hstatus (by decide)))

/-- The controller receives the packet that says how a run ended. -/
theorem interleaves_receive_last {s s' : Interleaved σ} {packet : Packet}
    (hinv : Interleaves executionId workflowId s) (h : Saves executionId s.world)
    (hqueue : s.world.requestQueue = [])
    (hstatus : s.world.status executionId = some .running)
    (hpackets : s.unreceived = [packet]) (hid : packet.executionId = executionId)
    (hevent : endsExecution packet.event = true ∨ packet.event.savesWorkflow = true)
    (hnil : s.running = []) (hstep : s.receive = some s') :
    Interleaves executionId workflowId s' ∧ Saves executionId s'.world := by
  obtain ⟨row, hrow, -⟩ := row_of_status hstatus
  obtain ⟨hworld, hruns, hunreceived, hreceived, hstatus'⟩ := receive_eq hpackets hid hrow hstep
  refine ⟨⟨?_, hreceived, ?_, ?_, .inl ⟨hruns.trans hnil, hunreceived⟩⟩, ?_⟩
  · rw [hworld]
    exact orderly_afterPacket hinv.orderly hqueue hid hrow
  · rw [hruns]
    exact hinv.runs
  · rw [hruns]
    exact hinv.alone
  · rw [hworld] at hstatus' ⊢
    rcases hevent with hends | hsaves
    · have hover : Over executionId (afterPacket row packet s.world) := by
        rw [Over, hstatus']
        cases hname : packet.event <;> rw [hname] at hends <;>
          first | exact .inl rfl | exact .inr rfl | cases hends
      refine h.finish hover ?_ (List.append_nil _).symm (by simp)
      simp [afterPacket, hends, hid]
    · have hhalts : packet.event = .workflowPaused ∨ packet.event = .triggerActionAwaitingData := by
        cases hname : packet.event <;> rw [hname] at hsaves <;>
          first | exact .inl rfl | exact .inr rfl | cases hsaves
      have hlive : ¬ Over executionId (afterPacket row packet s.world) := by
        rcases hhalts with hevent | hevent
        · rw [hevent] at hstatus'
          exact @not_over _ _ _ .paused hstatus' (by decide)
        · rw [hevent] at hstatus'
          exact @not_over _ _ _ .awaitingData hstatus' (by decide)
      refine h.receive ?_ (iff_of_false hlive (not_over hstatus (by decide)))
      rcases hhalts with hevent | hevent <;> rw [hevent] <;> rfl

/-- **The controller receives a packet.** -/
theorem interleaves_receive {s s' : Interleaved σ} (hinv : Interleaves executionId workflowId s)
    (h : Saves executionId s.world) (hstep : s.receive = some s') :
    Interleaves executionId workflowId s' ∧ Saves executionId s'.world := by
  rcases hinv.phase with ⟨-, hnone⟩ | ⟨hqueue, hunderway⟩
  · unfold Interleaved.receive at hstep
    rw [hnone] at hstep
    cases hstep
  cases hunderway with
  | unheard start rest hstatus hpackets hid hevent htail hrunning =>
    exact interleaves_receive_start hinv h hqueue hstatus hpackets hid hevent htail hrunning hstep
  | heard hstatus htail hrunning =>
    have hnil : s.running = [] := by
      by_contra hne
      unfold Interleaved.receive at hstep
      rw [hrunning hne] at hstep
      cases hstep
    obtain ⟨inner, last, hpackets, hinner, hone, hlast⟩ := htail
    cases inner with
    | cons packet inner =>
      obtain ⟨hpacket, hinner'⟩ := List.forall_mem_cons.mp hinner
      exact interleaves_receive_inner hinv h hqueue hstatus hpackets hpacket
        ⟨inner, last, rfl, hinner', hone, hlast⟩ hnil hstep
    | nil =>
      cases last with
      | nil =>
        unfold Interleaved.receive at hstep
        rw [hpackets] at hstep
        cases hstep
      | cons packet rest =>
        obtain rfl : rest = [] := by
          rw [List.length_cons] at hone
          exact List.length_eq_zero_iff.mp (by omega)
        obtain ⟨hid, hevent⟩ := hlast packet List.mem_cons_self
        exact interleaves_receive_last hinv h hqueue hstatus hpackets hid hevent hnil hstep

/-! ## The controller is called -/

/-- An execution that runs is not aborted by the controller itself. -/
theorem abortWorkflow_of_running {w : World σ}
    (h : w.status executionId = some .running) :
    ∃ published, finalState (abortWorkflow executionId w) = { w with published } := by
  obtain ⟨row, hrow, hrunning⟩ := row_of_status h
  refine ⟨w.published ++ [.abort executionId], ?_⟩
  unfold abortWorkflow
  rw [bind_apply, get_apply]
  dsimp only
  rw [hrow]
  dsimp only
  rw [hrunning]
  rfl

/-- The calls of the controller send nothing to it. -/
theorem sent_controller {env : Env σ} {w w' : World σ} {op : LifecycleOp}
    (hop : ∀ thread control turns, op ≠ .work thread control turns)
    (hstep : LifecycleStep env executionId w op w') : w'.sent = w.sent := by
  cases op with
  | work thread control turns => exact absurd rfl (hop thread control turns)
  | resume user =>
    obtain rfl := Option.some.inj hstep
    rcases resumeWorkflow_cases executionId user w with hsame | ⟨_, _, -, -, -, hc⟩
    · rw [hsame]
    · exact hc.sent
  | answer dataIn arguments user =>
    unfold LifecycleStep lifecycleStep at hstep
    dsimp only at hstep
    split at hstep
    case isFalse => cases hstep
    case isTrue =>
      obtain rfl := Option.some.inj hstep
      cases resumeTriggerStep_cases env executionId dataIn arguments user w with
      | unanswered hframe =>
        obtain ⟨packets, hsent, hnever⟩ := hframe.sent
        obtain rfl : packets = [] := List.eq_nil_iff_forall_not_mem.mpr hnever
        rw [hsent, List.append_nil]
      | @answered saved w₁ _ hframe hcontinued =>
        obtain ⟨packets, hsent, hnever⟩ := hframe.sent
        obtain rfl : packets = [] := List.eq_nil_iff_forall_not_mem.mpr hnever
        rw [List.append_nil] at hsent
        rcases hcontinued with hsame | hc
        · rw [hsame]
          exact hsent
        · exact hc.sent.trans hsent
  | abort =>
    obtain rfl := Option.some.inj hstep
    cases abortWorkflow_cases executionId w with
    | told published heq => rw [heq]
    | aborted row hrow heq => rw [heq]

/-- While a run is underway the controller can do nothing but abort it. -/
theorem controller_underway {env : Env σ} {w w' : World σ} {op : LifecycleOp}
    (hop : ∀ thread control turns, op ≠ .work thread control turns)
    (hstatus : w.status executionId = some .pending ∨ w.status executionId = some .running)
    (habort : op = .abort → w.status executionId ≠ some .pending)
    (hstep : LifecycleStep env executionId w op w') : ∃ published, w' = { w with published } := by
  cases op with
  | work thread control turns => exact absurd rfl (hop thread control turns)
  | resume user =>
    obtain rfl := Option.some.inj hstep
    rcases resumeWorkflow_cases executionId user w with hsame | ⟨row, _, hrow, hpaused, -, -⟩
    · exact ⟨w.published, hsame⟩
    · rw [status_eq_of_row hrow, hpaused] at hstatus
      rcases hstatus with hstatus | hstatus <;> cases hstatus
  | answer dataIn arguments user =>
    unfold LifecycleStep lifecycleStep at hstep
    dsimp only at hstep
    split at hstep
    case isFalse => cases hstep
    case isTrue hwaiting =>
      rw [hwaiting] at hstatus
      rcases hstatus with hstatus | hstatus <;> cases hstatus
  | abort =>
    obtain rfl := Option.some.inj hstep
    exact abortWorkflow_of_running (hstatus.resolve_left (habort rfl))

/-- **The controller is called.** -/
theorem interleaves_control {env : Env σ} {op : LifecycleOp} {s s' : Interleaved σ}
    (hop : ∀ thread control turns, op ≠ .work thread control turns)
    (hinv : Interleaves executionId workflowId s) (h : Saves executionId s.world)
    (hok : op = .abort → s.world.status executionId = some .pending →
      s.running = [] ∧ s.unreceived = [])
    (hstep : s.control env executionId op = some s') :
    Interleaves executionId workflowId s' ∧ Saves executionId s'.world := by
  obtain ⟨w', hcall, rfl⟩ := Option.map_eq_some_iff.mp hstep
  have hlifecycle : LifecycleStep env executionId s.world op w' := hcall
  have hsent := sent_controller hop hlifecycle
  have hunreceived : ({ s with world := w' } : Interleaved σ).unreceived = s.unreceived := by
    unfold Interleaved.unreceived
    rw [hsent]
  refine ⟨⟨orderly_step env hinv.orderly hlifecycle, ?_, hinv.runs, hinv.alone, ?_⟩,
    saves_controller env hop h hlifecycle⟩
  · rw [hsent]
    exact hinv.received
  · rw [hunreceived]
    rcases hinv.phase with hrest | ⟨hqueue, hunderway⟩
    · exact .inl hrest
    by_cases hpending : op = .abort ∧ s.world.status executionId = some .pending
    · exact .inl (hok hpending.1 hpending.2)
    · obtain ⟨published, rfl⟩ := controller_underway hop hunderway.status
        (fun habort hstatus => hpending ⟨habort, hstatus⟩) hlifecycle
      refine .inr ⟨hqueue, ?_⟩
      cases hunderway with
      | unheard start rest hstatus hpackets hid hevent htail hrunning =>
        exact .unheard start rest hstatus hpackets hid hevent htail hrunning
      | heard hstatus htail hrunning => exact .heard hstatus htail hrunning

/-! ## Runs that are refused -/

/-- A halt that cannot be saved is refused its row. -/
theorem refused_of_turnRefused {env : Env σ} {control : ℕ → Control} {resume : Bool}
    {vars : LoopVars} {w : World σ} (h : TurnRefused env control resume vars w) :
    ∃ action, .saved action false ∈ (finalState (loopTurn env control resume vars w)).log := by
  cases h with
  | @pause action vars' w₁ w₂ henters hpaused hrefused =>
    obtain ⟨e, he⟩ := Option.isSome_iff_exists.mp hrefused
    have hrefusal : saveRefusal env vars'.ctx.origin.executionId w₂ = some e := he
    refine ⟨action.id, ?_⟩
    rw [henters.loopTurn_eq, hpaused, if_pos rfl, finalState_bind_pure,
      sendEvent_paused env (o := vars'.ctx.origin) henters.executingAction, hrefusal]
    exact List.mem_append_right _ (List.mem_singleton_self _)
  | @await action vars' w₁ w₂ henters hpaused haborted hrefused =>
    obtain ⟨hwaits, key, device, hkey, hstarted, hsome⟩ := hrefused
    obtain ⟨sender, w₃, -, hperform, heq⟩ := performAction_awaits_of env vars'.ctx.origin action
      vars.startArguments hwaits hkey hstarted
    obtain ⟨e, hrefusal⟩ := Option.isSome_iff_exists.mp hsome
    rw [← heq] at hrefusal
    refine ⟨action.id, ?_⟩
    rw [henters.loopTurn_eq_afterAction hpaused haborted, hperform,
      awaitData_eq env (o := vars'.ctx.origin) henters.executingAction, hrefusal]
    exact List.mem_append_right _ (List.mem_singleton_self _)

/-- **A run that ends in a halt that cannot be saved** is refused its row. -/
theorem refused_of_runRefused {env : Env σ} {control : ℕ → Control} {turns : ℕ} {request : Request}
    {ctx : Context} {w : World σ} (h : RunRefused env control turns request ctx w) :
    ∃ action, .saved action false ∈
      (finalState (strategyRest env control turns request ctx w)).log := by
  obtain ⟨start, hstart, vars', w', hends, hrefused⟩ := h
  have hlog := refused_of_turnRefused hrefused
  rw [← hends.finalState_loop] at hlog
  unfold strategyRest
  rw [hstart]
  exact hlog

/-- A run that has ended and left the rows in order was not refused. -/
theorem orderable_finish {env : Env σ} {thread : String} {control : ℕ → Control} {turns : ℕ}
    {s s' : Interleaved σ} (hstored : ∀ action, .saved action false ∉ s'.world.log)
    (hstep : s.finish env thread control turns = some s') :
    Orderable env executionId s (.finish thread control turns) := by
  intro run hfind hrefused
  obtain ⟨run', _, hfind', -, rfl, -, -, _, hworld⟩ := finish_of_run hstep
  rw [hfind] at hfind'
  cases hfind'
  obtain ⟨action, hlog⟩ := refused_of_runRefused hrefused
  refine hstored action ?_
  rw [hworld]
  exact hlog

/-! ## Runs of steps -/

/-- **Every orderable step** keeps the invariant and the rows in order. -/
theorem interleaves_step {env : Env σ} {s s' : Interleaved σ} {op : InterleavedOp}
    (hinv : Interleaves executionId workflowId s) (h : Saves executionId s.world)
    (hok : Orderable env executionId s op) (hstep : InterleavedStep env executionId s op s') :
    Interleaves executionId workflowId s' ∧ Saves executionId s'.world := by
  cases op with
  | take thread => exact interleaves_take hinv h hstep
  | finish thread control turns => exact interleaves_finish hinv h hok hstep
  | receive => exact interleaves_receive hinv h hstep
  | resume user => exact interleaves_control (by simp) hinv h (by simp) hstep
  | answer dataIn arguments user => exact interleaves_control (by simp) hinv h (by simp) hstep
  | abort => exact interleaves_control (by simp) hinv h (fun _ => hok) hstep

/-- An execution that has been started, or whose workflow is not there. -/
theorem saves_start (behaviour : σ) (workflows : List Workflow) (workflowId executionId : UUID)
    (start : Option UUID) (startArguments : List Argument)
    (environmentVariables : List EnvironmentVariable) (user : Option String) :
    Saves executionId (lifecycleStart behaviour workflows workflowId executionId start
        startArguments environmentVariables user) ∧
      (lifecycleStart behaviour workflows workflowId executionId start startArguments
        environmentVariables user).sent = [] := by
  have hlive : ¬ Over executionId (World.start behaviour workflows) := by
    rintro (⟨⟨⟩⟩ | ⟨⟨⟩⟩)
  have hempty : Saves executionId (World.start behaviour workflows) :=
    ⟨by simp [World.start], by rintro action ⟨⟩, fun hover => absurd hover hlive⟩
  rcases executeWorkflow_cases workflowId executionId start startArguments false
    environmentVariables user (World.start behaviour workflows) with hsame | hc
  · rw [lifecycleStart, hsame]
    exact ⟨hempty, rfl⟩
  · exact ⟨saves_of_continued hempty hlive hc, hc.sent⟩

/-- **An execution is at rest when it starts.** -/
theorem interleaves_start (behaviour : σ) (workflows : List Workflow)
    (workflowId executionId : UUID) (start : Option UUID) (startArguments : List Argument)
    (environmentVariables : List EnvironmentVariable) (user : Option String) :
    Interleaves executionId workflowId (interleavedStart behaviour workflows workflowId executionId
      start startArguments environmentVariables user) := by
  have hsent := (saves_start behaviour workflows workflowId executionId start startArguments
    environmentVariables user).2
  refine ⟨orderly_start behaviour workflows workflowId executionId start startArguments
    environmentVariables user, Nat.zero_le _, ?_, Nat.zero_le 1, .inl ⟨rfl, ?_⟩⟩
  · rintro run ⟨⟩
  · unfold Interleaved.unreceived interleavedStart
    rw [hsent]
    rfl

/-- **Every pause is saved** in every state of a run whose halts can all be saved and whose aborts
find the controller in step with the worker. -/
theorem saves_throughout {env : Env σ} {behaviour : σ} {workflows : List Workflow}
    {workflowId executionId : UUID} {start : Option UUID} {startArguments : List Argument}
    {environmentVariables : List EnvironmentVariable} {user : Option String}
    {ops : List InterleavedOp} {s : Interleaved σ}
    (hrun : Run (Guarded (InterleavedStep env executionId) (Orderable env executionId))
      (interleavedStart behaviour workflows workflowId executionId start startArguments
        environmentVariables user) ops s) :
    Always (InterleavedStep env executionId) (fun s => Saves executionId s.world)
      (interleavedStart behaviour workflows workflowId executionId start startArguments
        environmentVariables user) ops s :=
  hrun.always_of_guarded (J := Interleaves executionId workflowId)
    (fun _ _ _ hinv h hok hstep => interleaves_step hinv h hok hstep)
    (interleaves_start behaviour workflows workflowId executionId start startArguments
      environmentVariables user)
    (saves_start behaviour workflows workflowId executionId start startArguments
      environmentVariables user).1

/-- A step other than an abort, after which no halt has been refused. -/
def storedStep (env : Env σ) (executionId : UUID) (s : Interleaved σ) (op : InterleavedOp) :
    Option (Interleaved σ) :=
  match op with
  | .abort => none
  | _ => (interleavedStep env executionId s op).filter fun s' =>
      s'.world.log.all fun entry => match entry with
        | .saved _ stored => stored
        | _ => true

/-- A step that is taken and refuses no halt is in order. -/
theorem orderable_of_stored {env : Env σ} {s s' : Interleaved σ} {op : InterleavedOp}
    (h : storedStep env executionId s op = some s') :
    Guarded (InterleavedStep env executionId) (Orderable env executionId) s op s' := by
  unfold storedStep at h
  cases op with
  | abort => cases h
  | finish thread control turns =>
    obtain ⟨hstep, hall⟩ := Option.filter_eq_some_iff.mp h
    refine ⟨orderable_finish (fun action hmem => ?_) hstep, hstep⟩
    cases List.all_eq_true.mp hall _ hmem
  | take thread => exact ⟨trivial, (Option.filter_eq_some_iff.mp h).1⟩
  | receive => exact ⟨trivial, (Option.filter_eq_some_iff.mp h).1⟩
  | resume user => exact ⟨trivial, (Option.filter_eq_some_iff.mp h).1⟩
  | answer dataIn arguments user => exact ⟨trivial, (Option.filter_eq_some_iff.mp h).1⟩

/-- The execution of two actions is paused at the first, resumed, and comes to its end; its pause
is saved. -/
theorem saves_throughout_resumed :
    ∃ s, Run (Guarded (InterleavedStep succeeding 7) (Orderable succeeding 7))
        (interleavedStart () [twoActions none none] 100 7 none [] [] none)
        [.take "Thread-1", .finish "Thread-1" (pausedAt 0) 3, .receive, .receive, .resume none,
          .take "Thread-1", .finish "Thread-1" undisturbed 3] s ∧
      .saved 1 true ∈ s.world.log ∧
      Always (InterleavedStep succeeding 7) (fun s => Saves 7 s.world)
        (interleavedStart () [twoActions none none] 100 7 none [] [] none)
        [.take "Thread-1", .finish "Thread-1" (pausedAt 0) 3, .receive, .receive, .resume none,
          .take "Thread-1", .finish "Thread-1" undisturbed 3] s := by
  have hrun : (follow (storedStep succeeding 7)
      (interleavedStart () [twoActions none none] 100 7 none [] [] none)
      [.take "Thread-1", .finish "Thread-1" (pausedAt 0) 3, .receive, .receive, .resume none,
        .take "Thread-1", .finish "Thread-1" undisturbed 3]).any
        (fun s => .saved 1 true ∈ s.world.log) = true := by
    decide +kernel
  obtain ⟨s, hs, hsaved⟩ := (Option.any_eq_true _ _).mp hrun
  have hguarded := (Run.of_follow hs).mono fun _ _ _ h => orderable_of_stored h
  exact ⟨s, hguarded, of_decide_eq_true hsaved, saves_throughout hguarded⟩

/-- An execution is paused at its first action, resumed, and paused at its second: the second
pause is refused its row. And an execution starts awaiting data and is aborted before the
controller has heard that it has started: it goes on awaiting, without a row. -/
theorem second_pause_refused :
    (∃ s, Run (InterleavedStep succeeding 7)
        (interleavedStart () [twoActions none none] 100 7 none [] [] none)
        [.take "Thread-1", .finish "Thread-1" (pausedAt 0) 3, .receive, .receive, .resume none,
          .take "Thread-1", .finish "Thread-1" (pausedAt 1) 3] s ∧ ¬ Saves 7 s.world) ∧
      ∃ s, Run (InterleavedStep succeeding 7)
        (interleavedStart () [sampleWorkflow [sampleAction 1 (some sampleTrigger)] []] 100 7 none []
          [] none)
        [.take "Thread-1", .finish "Thread-1" undisturbed 1, .abort, .receive, .receive,
          .receive] s ∧ ¬ Saves 7 s.world := by
  constructor
  · have hrun : (follow (interleavedStep succeeding 7)
        (interleavedStart () [twoActions none none] 100 7 none [] [] none)
        [.take "Thread-1", .finish "Thread-1" (pausedAt 0) 3, .receive, .receive, .resume none,
          .take "Thread-1", .finish "Thread-1" (pausedAt 1) 3]).any
          (fun s => .saved 2 false ∈ s.world.log) = true := by
      decide +kernel
    obtain ⟨s, hs, hrefused⟩ := (Option.any_eq_true _ _).mp hrun
    exact ⟨s, .of_follow hs, fun hsaves => hsaves.stored 2 (of_decide_eq_true hrefused)⟩
  · have hrun : (follow (interleavedStep succeeding 7)
        (interleavedStart () [sampleWorkflow [sampleAction 1 (some sampleTrigger)] []] 100 7 none
          [] [] none)
        [.take "Thread-1", .finish "Thread-1" undisturbed 1, .abort, .receive, .receive,
          .receive]).any
          (fun s => latestHalt s.world.log = some 1 ∧
            s.world.status 7 = some .awaitingData ∧ savedRows 7 s.world = []) = true := by
      decide +kernel
    obtain ⟨s, hs, hlost⟩ := (Option.any_eq_true _ _).mp hrun
    obtain ⟨hlatest, hstatus, hrows⟩ := of_decide_eq_true hlost
    refine ⟨s, .of_follow hs, fun hsaves => ?_⟩
    obtain ⟨saved, hsaved, -⟩ := hsaves.latest 1 hlatest (not_over hstatus (by decide))
    rw [hrows] at hsaved
    cases hsaved

end Walkoff.Analysis
