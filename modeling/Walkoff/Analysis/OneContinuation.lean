import Mathlib.Data.List.Count
import Walkoff.Analysis.ContinuationSteps
import Walkoff.Analysis.OutcomeEvents
import Walkoff.Library.Transition

/-!
# One continuation for each pause

`resume_workflow` and `resume_trigger_step` look at the status long before the handler of the
pending event sets it, and the handler does not look at it at all. So two users who find an
execution at the same pause both continue it, unless the second one finds that the first one
has made it pending. When no two requests about one pause get as far as the handler, each
pause or await leads to one continuation at most, and conversely.
-/

set_option autoImplicit false

namespace Walkoff.Analysis

open Walkoff.Model Walkoff.Program
open Walkoff.Library (Ended Guarded OrderedDict Run finalState follow)

variable {σ : Type} {env : Env σ} {executionId : UUID}

/-! ## The property and the condition -/

/-- Each pause or await leads to at most one continuation before the next one. -/
structure OneContinuation (s : ContinuationState σ) : Prop where
  /-- A continuation is pushed before the execution halts again. -/
  current : ∀ p ∈ s.pushed, p.1 = p.2
  /-- At most one is pushed between two halts. -/
  once : (s.pushed.map Prod.snd).Nodup
  /-- At most one is run between two halts. -/
  ranOnce : s.resumed.Nodup

/-- A request that makes the execution pending is the first one to do so of those that are about
the same halt. -/
def FirstToCommit (s : ContinuationState σ) : ContinuationOp → Prop
  | .advance index => ∀ call, s.calls[index]? = some call → call.stage.commits = true →
    call.halt ∉ s.commits
  | _ => True

/-- Every request that has made the execution pending has pushed its continuation. -/
def Settled (s : ContinuationState σ) : Prop :=
  s.pushed.length = s.commits.length

/-! ## The invariant of the guarded runs -/

/-- The halts that the controller has yet to hear of. -/
def unheard (executionId : UUID) (s : ContinuationState σ) : ℕ :=
  haltCount executionId (s.world.sent.drop s.received)

/-- The requests that are about to push. -/
def pushing (s : ContinuationState σ) : ℕ :=
  s.calls.countP fun call => call.stage.pushes

/-- Who may continue the execution next: a queued request, a halt not heard of, or a request
that is about to push. -/
def tokens (executionId : UUID) (s : ContinuationState σ) : ℕ :=
  s.world.requestQueue.length + unheard executionId s + pushing s

/-- One at a time has a hand in the execution, and none when nobody has continued it since it
halted. -/
structure Exclusive (executionId : UUID) (s : ContinuationState σ) : Prop where
  received : s.received ≤ s.world.sent.length
  oneToken : tokens executionId s ≤ 1
  idle : 0 < s.heard executionId → s.heard executionId ∉ s.commits → tokens executionId s = 0
  rows : ∀ row, (executionId, row) ∈ s.world.workflowStatus → Halted row.status →
    0 < s.heard executionId
  claims : ∀ call ∈ s.calls, ClaimsHalt executionId call.stage →
    0 < call.halt ∧ call.halt ≤ s.heard executionId
  earlier : ∀ k, 0 < k → k < s.heard executionId → k ∈ s.commits
  commits : ∀ k ∈ s.commits, k ≤ s.heard executionId
  pushers : ∀ call ∈ s.calls, call.stage.pushes = true → call.halt = s.heard executionId ∧
    call.halt ∈ s.commits ∧ call.halt ∉ s.pushed.map Prod.snd ∧ call.halt ∉ s.resumed
  queued : ∀ request ∈ s.world.requestQueue, request.resume = true →
    s.heard executionId ∈ s.commits ∧ s.heard executionId ∉ s.resumed
  pushed : ∀ p ∈ s.pushed, p.1 = p.2 ∧ p.2 ∈ s.commits
  resumed : ∀ k ∈ s.resumed, k ∈ s.commits
  once : (s.pushed.map Prod.snd).Nodup
  ranOnce : s.resumed.Nodup

/-- Where one at a time has a hand in the execution, a halt leads to one continuation at most. -/
theorem Exclusive.oneContinuation {s : ContinuationState σ} (h : Exclusive executionId s) :
    OneContinuation s :=
  ⟨fun p hp => (h.pushed p hp).1, h.once, h.ranOnce⟩

/-- A halt has been heard of or not. -/
theorem halts_eq (s : ContinuationState σ) :
    s.halts executionId = s.heard executionId + unheard executionId s := by
  unfold ContinuationState.halts ContinuationState.heard unheard haltCount
  rw [← List.countP_append, List.take_append_drop]

/-- Nobody may continue exactly if nothing is queued, unheard of or about to be pushed. -/
theorem tokens_eq_zero_iff {s : ContinuationState σ} : tokens executionId s = 0 ↔
    s.world.requestQueue = [] ∧ unheard executionId s = 0 ∧ pushing s = 0 := by
  unfold tokens
  rw [Nat.add_eq_zero_iff, Nat.add_eq_zero_iff, List.length_eq_zero_iff, and_assoc]

/-! ## Steps that do not continue the execution -/

/-- The queue, what is heard, the ghosts and the halted rows are the same, and no request gets to
its push. -/
structure Passive (executionId : UUID) (s s' : ContinuationState σ) : Prop where
  received : s.received ≤ s.world.sent.length → s'.received ≤ s'.world.sent.length
  requestQueue : s'.world.requestQueue = s.world.requestQueue
  heard : s'.heard executionId = s.heard executionId
  unheard : unheard executionId s' = Analysis.unheard executionId s
  commits : s'.commits = s.commits
  pushed : s'.pushed = s.pushed
  resumed : s'.resumed = s.resumed
  rows : ∀ row, (executionId, row) ∈ s'.world.workflowStatus → Halted row.status →
    (executionId, row) ∈ s.world.workflowStatus
  pushing_le : pushing s' ≤ pushing s
  pushes : ∀ call ∈ s'.calls, call.stage.pushes = true → call ∈ s.calls
  claims : ∀ call ∈ s'.calls, ClaimsHalt executionId call.stage →
    call ∈ s.calls ∨ 0 < call.halt ∧ call.halt ≤ s.heard executionId

/-- A passive step gives nobody a hand. -/
theorem Passive.tokens_le {s s' : ContinuationState σ} (h : Passive executionId s s') :
    tokens executionId s' ≤ tokens executionId s := by
  have hpushing := h.pushing_le
  unfold tokens
  rw [h.requestQueue, h.unheard]
  omega

/-- A passive step keeps the execution exclusive. -/
theorem Exclusive.passive {s s' : ContinuationState σ} (h : Exclusive executionId s)
    (hs : Passive executionId s s') : Exclusive executionId s' where
  received := hs.received h.received
  oneToken := hs.tokens_le.trans h.oneToken
  idle := by
    rw [hs.heard, hs.commits]
    intro hpos hnew
    have hzero := h.idle hpos hnew
    have hle := hs.tokens_le
    omega
  rows := by
    rw [hs.heard]
    intro row hrow hhalted
    exact h.rows row (hs.rows row hrow hhalted) hhalted
  claims := by
    rw [hs.heard]
    intro call hcall hclaims
    rcases hs.claims call hcall hclaims with hold | hnew
    · exact h.claims call hold hclaims
    · exact hnew
  earlier := by
    rw [hs.heard, hs.commits]
    exact h.earlier
  commits := by
    rw [hs.heard, hs.commits]
    exact h.commits
  pushers := by
    rw [hs.heard, hs.commits, hs.pushed, hs.resumed]
    intro call hcall hpushes
    exact h.pushers call (hs.pushes call hcall hpushes) hpushes
  queued := by
    rw [hs.heard, hs.commits, hs.resumed, hs.requestQueue]
    exact h.queued
  pushed := by
    rw [hs.commits, hs.pushed]
    exact h.pushed
  resumed := by
    rw [hs.commits, hs.resumed]
    exact h.resumed
  once := by
    rw [hs.pushed]
    exact h.once
  ranOnce := by
    rw [hs.resumed]
    exact h.ranOnce

/-- A new request. -/
theorem passive_call (s : ContinuationState σ) {stage : Stage} (hpushes : stage.pushes = false)
    (hclaims : ¬ ClaimsHalt executionId stage) :
    Passive executionId s { s with calls := s.calls ++ [{ stage, halt := 0 }] } := by
  refine ⟨id, rfl, rfl, rfl, rfl, rfl, rfl, fun _ h _ => h, ?_, fun call hcall htrue => ?_,
    fun call hcall hclaim => ?_⟩
  · unfold pushing
    rw [List.countP_append, List.countP_singleton, hpushes]
    exact le_rfl
  · rcases List.mem_append.mp hcall with hold | hnew
    · exact hold
    · rw [List.mem_singleton.mp hnew, hpushes] at htrue
      cases htrue
  · rcases List.mem_append.mp hcall with hold | hnew
    · exact .inl hold
    · rw [List.mem_singleton.mp hnew] at hclaim
      exact absurd hclaim hclaims

/-- A request that is not about to push makes no more of those that are. -/
theorem pushing_set_le (s : ContinuationState σ) (index : ℕ) {call : ContinuationCall}
    (hpushes : call.stage.pushes = false) (w : World σ) :
    pushing { s with world := w, calls := s.calls.set index call } ≤ pushing s := by
  unfold pushing
  by_cases hindex : index < s.calls.length
  · dsimp only
    rw [List.countP_set hindex, hpushes, if_neg Bool.false_ne_true]
    omega
  · dsimp only
    rw [List.set_eq_of_length_le (by omega)]

/-- A step of a request that only reads. -/
theorem passive_set {s : ContinuationState σ} {w : World σ} (hsame : SameTables s.world w)
    (index : ℕ) {call : ContinuationCall} (hpushes : call.stage.pushes = false)
    (hclaims : ClaimsHalt executionId call.stage →
      0 < call.halt ∧ call.halt ≤ s.heard executionId) :
    Passive executionId s { s with world := w, calls := s.calls.set index call } := by
  refine ⟨?_, hsame.requestQueue, ?_, ?_, rfl, rfl, rfl, ?_, pushing_set_le s index hpushes w,
    fun other hother htrue => ?_, fun other hother hclaim => ?_⟩
  · rw [hsame.sent]
    exact id
  · unfold ContinuationState.heard
    rw [hsame.sent]
  · unfold unheard
    rw [hsame.sent]
  · rw [hsame.workflowStatus]
    exact fun _ h _ => h
  · rcases List.mem_or_eq_of_mem_set hother with hold | rfl
    · exact hold
    · rw [hpushes] at htrue
      cases htrue
  · rcases List.mem_or_eq_of_mem_set hother with hold | rfl
    · exact .inl hold
    · exact .inr (hclaims hclaim)

/-- Aborting the execution. -/
theorem passive_abort (s : ContinuationState σ) : Passive executionId s
    { s with world := finalState (abortWorkflow executionId s.world) } := by
  cases abortWorkflow_cases executionId s.world with
  | told published heq =>
    rw [heq]
    exact ⟨id, rfl, rfl, rfl, rfl, rfl, rfl, fun _ h _ => h, le_rfl, fun _ h _ => h,
      fun _ h _ => .inl h⟩
  | aborted row hrow heq =>
    rw [heq]
    refine ⟨id, rfl, rfl, rfl, rfl, rfl, rfl, fun row' hrow' hhalted => ?_, le_rfl, fun _ h _ => h,
      fun _ h _ => .inl h⟩
    rcases OrderedDict.mem_set hrow' with hnew | hold
    · cases hnew
      rcases hhalted with hpaused | hwaiting
      · cases hpaused
      · cases hwaiting
    · exact hold

/-! ## Making the execution pending and pushing the continuation -/

/-- **A request that is the first of its halt to commit** is about the last halt, and has the
execution for itself. -/
theorem Exclusive.alone {s : ContinuationState σ} (h : Exclusive executionId s)
    {call : ContinuationCall} (hcall : call ∈ s.calls)
    (hclaims : ClaimsHalt executionId call.stage) (hfirst : call.halt ∉ s.commits) :
    call.halt = s.heard executionId ∧ tokens executionId s = 0 := by
  obtain ⟨hpos, hle⟩ := h.claims call hcall hclaims
  have hhalt : call.halt = s.heard executionId := by
    by_contra hne
    have hlt : call.halt < s.heard executionId := by omega
    exact hfirst (h.earlier call.halt hpos hlt)
  rw [hhalt] at hpos hfirst
  exact ⟨hhalt, h.idle hpos hfirst⟩

/-- A commit for a halt keeps the execution exclusive if it is the first. -/
theorem Exclusive.commit {s : ContinuationState σ} (h : Exclusive executionId s) {index : ℕ}
    {call : ContinuationCall} {continuation : Continuation}
    (hcall : s.calls[index]? = some call) (hstage : call.stage = .foundRow continuation)
    (hfirst : call.halt ∉ s.commits) :
    Exclusive executionId
      { s with
        world := finalState (workflowPending executionId continuation.workflowId s.world)
        calls := s.calls.set index { stage := .committed continuation, halt := call.halt }
        commits := s.commits ++ [call.halt] } := by
  obtain ⟨hindex, hget⟩ := List.getElem?_eq_some_iff.mp hcall
  have hmem : call ∈ s.calls := List.mem_of_getElem? hcall
  obtain ⟨hhalt, hzero⟩ := h.alone hmem (by rw [hstage]; trivial) hfirst
  have hpos := (h.claims call hmem (by rw [hstage]; trivial)).1
  obtain ⟨hqueue, hunheard, hpushing⟩ := tokens_eq_zero_iff.mp hzero
  have hnone : ∀ other ∈ s.calls, ¬ other.stage.pushes = true := List.countP_eq_zero.mp hpushing
  refine
    { received := h.received, oneToken := ?_, idle := ?_, rows := ?_, claims := ?_, earlier := ?_
      commits := ?_, pushers := ?_, queued := ?_, pushed := ?_, resumed := ?_, once := h.once
      ranOnce := h.ranOnce }
  · have hone : pushing { s with
        world := finalState (workflowPending executionId continuation.workflowId s.world)
        calls := s.calls.set index { stage := .committed continuation, halt := call.halt }
        commits := s.commits ++ [call.halt] } ≤ 1 := by
      unfold pushing at hpushing ⊢
      dsimp only
      rw [List.countP_set hindex, hpushing, Nat.zero_sub, Nat.zero_add]
      exact le_rfl
    show s.world.requestQueue.length + unheard executionId s + _ ≤ 1
    rw [hqueue, hunheard, List.length_nil, Nat.zero_add]
    exact hone
  · intro _ hnew
    rw [hhalt] at hnew
    exact absurd (List.mem_append_right _ (List.mem_singleton_self _)) hnew
  · intro row hrow hhalted
    rcases OrderedDict.mem_set hrow with hnew | hold
    · have hstatus : row.status = .pending := by
        cases hget : OrderedDict.get? executionId s.world.workflowStatus with
        | none =>
          rw [hget] at hnew
          cases hnew
          rfl
        | some old =>
          rw [hget] at hnew
          cases hnew
          rfl
      rw [hstatus] at hhalted
      rcases hhalted with hpaused | hwaiting
      · cases hpaused
      · cases hwaiting
    · exact h.rows row hold hhalted
  · intro other hother hclaims
    rcases List.mem_or_eq_of_mem_set hother with hold | rfl
    · exact h.claims other hold hclaims
    · exact ⟨hpos, Nat.le_of_eq hhalt⟩
  · intro k hk hlt
    exact List.mem_append_left _ (h.earlier k hk hlt)
  · intro k hk
    rcases List.mem_append.mp hk with hold | hnew
    · exact h.commits k hold
    · rw [List.mem_singleton.mp hnew]
      exact Nat.le_of_eq hhalt
  · intro other hother htrue
    rcases List.mem_or_eq_of_mem_set hother with hold | rfl
    · exact absurd htrue (hnone other hold)
    · refine ⟨hhalt, List.mem_append_right _ (List.mem_singleton_self _), fun hmem => ?_,
        fun hmem => hfirst (h.resumed _ hmem)⟩
      obtain ⟨p, hp, heq⟩ := List.mem_map.mp hmem
      have hcommitted := (h.pushed p hp).2
      rw [heq] at hcommitted
      exact hfirst hcommitted
  · intro request hrequest
    have hempty : request ∈ ([] : List Request) := hqueue ▸ hrequest
    cases hempty
  · intro p hp
    exact ⟨(h.pushed p hp).1, List.mem_append_left _ (h.pushed p hp).2⟩
  · intro k hk
    exact List.mem_append_left _ (h.resumed k hk)

/-- A push keeps the execution exclusive. -/
theorem Exclusive.push {s : ContinuationState σ} (h : Exclusive executionId s) {index : ℕ}
    {call : ContinuationCall} (hcall : s.calls[index]? = some call)
    (hpushes : call.stage.pushes = true) (request : Request) :
    Exclusive executionId
      { s with
        world := { s.world with requestQueue := s.world.requestQueue ++ [request] }
        calls := s.calls.set index { stage := .returned, halt := call.halt }
        pushed := s.pushed ++ [(call.halt, s.halts executionId)] } := by
  obtain ⟨hindex, hget⟩ := List.getElem?_eq_some_iff.mp hcall
  have hmem : call ∈ s.calls := List.mem_of_getElem? hcall
  obtain ⟨hhalt, hcommitted, hunpushed, hnotrun⟩ := h.pushers call hmem hpushes
  have hone : 0 < pushing s := List.countP_pos_iff.mpr ⟨call, hmem, hpushes⟩
  have htokens := h.oneToken
  unfold tokens at htokens
  have hqueue : s.world.requestQueue = [] := List.length_eq_zero_iff.mp (by omega)
  have hunheard : unheard executionId s = 0 := by omega
  have hhalts : s.halts executionId = call.halt := by
    rw [halts_eq, hunheard, Nat.add_zero, hhalt]
  have hrest : (s.calls.set index { stage := .returned, halt := call.halt }).countP
      (fun call => call.stage.pushes) = 0 := by
    have hpushing : s.calls.countP (fun call => call.stage.pushes) = 1 := by
      unfold pushing at hone htokens
      omega
    rw [List.countP_set hindex, hpushing, hget, hpushes]
    rfl
  refine
    { received := h.received, oneToken := ?_, idle := ?_, rows := h.rows, claims := ?_
      earlier := h.earlier, commits := h.commits, pushers := ?_, queued := ?_, pushed := ?_
      resumed := h.resumed, once := ?_, ranOnce := h.ranOnce }
  · show (s.world.requestQueue ++ [request]).length + unheard executionId s + _ ≤ 1
    unfold pushing
    rw [hqueue, hunheard, hrest]
    exact le_rfl
  · intro _ hnew
    rw [hhalt] at hcommitted
    exact absurd hcommitted hnew
  · intro other hother hclaims
    rcases List.mem_or_eq_of_mem_set hother with hold | rfl
    · exact h.claims other hold hclaims
    · exact hclaims.elim
  · intro other hother htrue
    exact absurd htrue (List.countP_eq_zero.mp hrest other hother)
  · intro _ _ _
    rw [hhalt] at hcommitted hnotrun
    exact ⟨hcommitted, hnotrun⟩
  · intro p hp
    rcases List.mem_append.mp hp with hold | hnew
    · exact h.pushed p hold
    · rw [List.mem_singleton.mp hnew, hhalts]
      exact ⟨rfl, hcommitted⟩
  · rw [List.map_append, List.map_singleton, hhalts]
    exact List.Nodup.append h.once (List.nodup_singleton _) (by simpa using hunpushed)

/-! ## A worker takes a request -/

/-- A worker changes neither the queue nor the status rows, and tells of one halt at most. -/
structure Worked (executionId : UUID) (w w' : World σ) : Prop where
  requestQueue : w'.requestQueue = w.requestQueue
  workflowStatus : w'.workflowStatus = w.workflowStatus
  sent : ∃ new, w'.sent = w.sent ++ new ∧ haltCount executionId new ≤ 1

/-- Halts are counted packet by packet. -/
theorem haltCount_append (packets packets' : List Packet) :
    haltCount executionId (packets ++ packets') =
      haltCount executionId packets + haltCount executionId packets' :=
  List.countP_append

/-- An event that saves the workflow is an outcome. -/
theorem isOutcome_of_saves {event : WalkoffEvent} (h : event.savesWorkflow = true) :
    event.isOutcome = true := by
  cases event <;> first | rfl | cases h

/-- Packets that are no outcomes tell of no halt. -/
theorem haltCount_quiet {packets : List Packet} (h : ∀ p ∈ packets, p.event.isOutcome = false) :
    haltCount executionId packets = 0 := by
  refine List.countP_eq_zero.mpr fun packet hpacket htrue => ?_
  have houtcome := isOutcome_of_saves (Bool.and_eq_true_iff.mp htrue).2
  rw [h packet hpacket] at houtcome
  cases houtcome

/-- **A call of `execute` tells of one halt at most.** -/
theorem worked_execute (env : Env σ) (executionId : UUID) (control : ℕ → Control) (turns : ℕ)
    (thread : String) (request : Request) (w : World σ)
    (hended : Ended (execute env control turns thread request w)) :
    Worked executionId w (finalState (execute env control turns thread request w)) := by
  by_cases hstartable : Startable request w
  · obtain ⟨workflow, user, w₁, -, hctx⟩ := prepare_of_startable env hstartable
    have hprepare := sameTables_of_frame
      ((frame_prepare (P := Never) (E := Never) env request).of_ok hctx)
    have hrun := (ended_execute_of_context hctx).mp hended
    have hframe := runFrame_runRequest env control turns request
      (newContext workflow request.executionId user)
      (finalState (register thread (newContext workflow request.executionId user) w₁))
    have hcall := call_outcome ⟨env, control, turns, request,
      newContext workflow request.executionId user,
      finalState (register thread (newContext workflow request.executionId user) w₁)⟩ hrun
    have hrequestQueue := hframe.requestQueue.trans hprepare.requestQueue
    have hrows := hframe.workflowStatus.trans hprepare.workflowStatus
    rw [execute_finalState_of_context control turns thread hctx]
    rcases hcall with ⟨-, new, hsent, hnew⟩ | ⟨-, before, packet, hsent, hreports⟩
    · refine ⟨hrequestQueue, hrows, new, ?_, ?_⟩
      · exact hsent.trans (congrArg (· ++ new) hprepare.sent)
      · rw [haltCount_quiet fun p hp => (hnew p hp).2]
        exact Nat.zero_le 1
    · refine ⟨hrequestQueue, hrows, before ++ [packet], ?_, ?_⟩
      · exact hsent.trans (congrArg (· ++ (before ++ [packet])) hprepare.sent)
      · rw [haltCount_append, haltCount_quiet fun p hp => (hreports.1 p hp).2, Nat.zero_add]
        exact List.countP_le_length
  · rw [execute_of_not_startable env control turns thread hstartable]
    exact ⟨rfl, rfl, [], (List.append_nil _).symm, Nat.zero_le 1⟩

/-- New packets change nothing of what was heard. -/
theorem heard_append {s : ContinuationState σ} (hreceived : s.received ≤ s.world.sent.length)
    (new : List Packet) :
    haltCount executionId ((s.world.sent ++ new).take s.received) = s.heard executionId := by
  rw [List.take_append_of_le_length hreceived]
  rfl

/-- The halts of new packets are not heard of yet. -/
theorem unheard_append {s : ContinuationState σ} (hreceived : s.received ≤ s.world.sent.length)
    (new : List Packet) :
    haltCount executionId ((s.world.sent ++ new).drop s.received) =
      unheard executionId s + haltCount executionId new := by
  rw [List.drop_append_of_le_length hreceived, haltCount_append]
  rfl

/-- **A worker takes the only token.** -/
theorem Exclusive.work {s : ContinuationState σ} (h : Exclusive executionId s) {request : Request}
    {requests : List Request} (hqueue : s.world.requestQueue = request :: requests) {w : World σ}
    (hworked : Worked executionId { s.world with requestQueue := requests } w) :
    Exclusive executionId
      { s with
        world := w
        resumed := if request.resume then s.resumed ++ [s.halts executionId] else s.resumed } := by
  obtain ⟨new, hsent, hnew⟩ := hworked.sent
  have htokens := h.oneToken
  unfold tokens at htokens
  rw [hqueue, List.length_cons] at htokens
  have hrequests : requests = [] := List.length_eq_zero_iff.mp (by omega)
  have hpushing : pushing s = 0 := by omega
  have hhalts : s.halts executionId = s.heard executionId := by
    rw [halts_eq]
    omega
  have hheard : haltCount executionId (w.sent.take s.received) = s.heard executionId := by
    rw [hsent]
    exact heard_append h.received new
  have hunheard : haltCount executionId (w.sent.drop s.received) = haltCount executionId new := by
    rw [hsent]
    refine (unheard_append h.received new).trans ?_
    omega
  have hcontinued : 0 < s.heard executionId → s.heard executionId ∈ s.commits := by
    intro hpos
    by_contra hfirst
    have hzero := (tokens_eq_zero_iff.mp (h.idle hpos hfirst)).1
    rw [hqueue] at hzero
    cases hzero
  have hqueued := h.queued request (by rw [hqueue]; exact List.mem_cons_self)
  refine
    { received := ?_, oneToken := ?_, idle := ?_, rows := ?_, claims := ?_, earlier := ?_
      commits := ?_, pushers := ?_, queued := ?_, pushed := h.pushed, resumed := ?_
      once := h.once, ranOnce := ?_ }
  · show s.received ≤ w.sent.length
    rw [hsent, List.length_append]
    exact Nat.le_add_right_of_le h.received
  · show w.requestQueue.length + haltCount executionId (w.sent.drop s.received) + pushing s ≤ 1
    rw [hworked.requestQueue, hunheard, hpushing, hrequests]
    simpa using hnew
  · show 0 < haltCount executionId (w.sent.take s.received) →
      haltCount executionId (w.sent.take s.received) ∉ s.commits → _
    rw [hheard]
    exact fun hpos hfirst => absurd (hcontinued hpos) hfirst
  · show ∀ row, (executionId, row) ∈ w.workflowStatus → Halted row.status →
      0 < haltCount executionId (w.sent.take s.received)
    rw [hheard, hworked.workflowStatus]
    exact h.rows
  · show ∀ call ∈ s.calls, ClaimsHalt executionId call.stage →
      0 < call.halt ∧ call.halt ≤ haltCount executionId (w.sent.take s.received)
    rw [hheard]
    exact h.claims
  · show ∀ k, 0 < k → k < haltCount executionId (w.sent.take s.received) → k ∈ s.commits
    rw [hheard]
    exact h.earlier
  · show ∀ k ∈ s.commits, k ≤ haltCount executionId (w.sent.take s.received)
    rw [hheard]
    exact h.commits
  · intro call hcall htrue
    exact absurd htrue (List.countP_eq_zero.mp hpushing call hcall)
  · intro other hother
    have hnil : w.requestQueue = [] := by rw [hworked.requestQueue, hrequests]
    rw [hnil] at hother
    cases hother
  · intro k hk
    cases hresume : request.resume with
    | false =>
      rw [hresume] at hk
      exact h.resumed k hk
    | true =>
      rw [hresume] at hk
      rcases List.mem_append.mp hk with hold | hlast
      · exact h.resumed k hold
      · rw [List.mem_singleton.mp hlast, hhalts]
        exact (hqueued hresume).1
  · show (if request.resume then s.resumed ++ [s.halts executionId] else s.resumed).Nodup
    cases hresume : request.resume with
    | false => exact h.ranOnce
    | true =>
      rw [if_pos rfl, hhalts]
      refine List.Nodup.append h.ranOnce (List.nodup_singleton _) ?_
      simpa using (hqueued hresume).2

/-! ## The controller receives a packet -/

/-- An event that halts the execution saves the workflow. -/
theorem saves_of_halted {event : WalkoffEvent} {status : WorkflowStatusEnum}
    (h : statusAfter event = some status) (hhalted : Halted status) :
    event.savesWorkflow = true := by
  rcases hhalted with rfl | rfl
  · cases event <;> first | rfl | cases h
  · cases event <;> first | rfl | cases h

/-- A row is halted by the packet of a halt. -/
theorem halted_of_receivePacket {packet : Packet} {w : World σ} {row : WorkflowStatus}
    (hrow : (executionId, row) ∈ (finalState (receivePacket packet w)).workflowStatus)
    (hhalted : Halted row.status) :
    (executionId, row) ∈ w.workflowStatus ∨
      packet.executionId = executionId ∧ packet.event.savesWorkflow = true := by
  cases hget : OrderedDict.get? packet.executionId w.workflowStatus with
  | none =>
    rw [finalState_receivePacket_of_none hget] at hrow
    exact .inl hrow
  | some old =>
    rw [receivePacket_eq hget] at hrow
    cases hstatus : statusAfter packet.event with
    | none =>
      simp only [finalState, afterPacket, hstatus] at hrow
      exact .inl hrow
    | some status =>
      simp only [finalState, afterPacket, hstatus] at hrow
      rcases OrderedDict.mem_set hrow with hnew | hold
      · cases hnew
        exact .inr ⟨rfl, saves_of_halted hstatus hhalted⟩
      · exact .inl hold

/-- The packets and the queue are the same. -/
def SameChannels (w w' : World σ) : Prop :=
  w'.requestQueue = w.requestQueue ∧ w'.sent = w.sent

instance : Std.Refl (SameChannels : World σ → World σ → Prop) where
  refl _ := ⟨rfl, rfl⟩

instance : IsTrans (World σ) SameChannels where
  trans _ _ _ huv hvw := ⟨hvw.1.trans huv.1, hvw.2.trans huv.2⟩

/-- The controller hears of a halt: nobody has continued the execution since. -/
theorem Exclusive.halt {s : ContinuationState σ} (h : Exclusive executionId s) {w : World σ}
    {packet : Packet} (hone : haltCount executionId [packet] = 1)
    (hqueue : w.requestQueue = s.world.requestQueue) (hlength : s.received + 1 ≤ w.sent.length)
    (htake : haltCount executionId (w.sent.take (s.received + 1)) =
      s.heard executionId + haltCount executionId [packet])
    (hdrop : unheard executionId s = haltCount executionId [packet] +
      haltCount executionId (w.sent.drop (s.received + 1))) :
    Exclusive executionId { s with world := w, received := s.received + 1 } := by
  have htokens := h.oneToken
  unfold tokens at htokens
  rw [hone] at htake hdrop
  have hnil : s.world.requestQueue = [] := List.length_eq_zero_iff.mp (by omega)
  have hpushing : pushing s = 0 := by omega
  have hlast : haltCount executionId (w.sent.drop (s.received + 1)) = 0 := by omega
  have hcontinued : 0 < s.heard executionId → s.heard executionId ∈ s.commits := by
    intro hpos
    by_contra hfirst
    have hzero := (tokens_eq_zero_iff.mp (h.idle hpos hfirst)).2.1
    omega
  have hheard : ContinuationState.heard executionId
      { s with world := w, received := s.received + 1 } = s.heard executionId + 1 := htake
  have hnone : tokens executionId { s with world := w, received := s.received + 1 } = 0 :=
    tokens_eq_zero_iff.mpr ⟨hqueue.trans hnil, hlast, hpushing⟩
  exact
    { received := hlength
      oneToken := by omega
      idle := fun _ _ => hnone
      rows := fun _ _ _ => by omega
      claims := by
        rw [hheard]
        intro call hcall hclaims
        have hbounds := h.claims call hcall hclaims
        omega
      earlier := by
        rw [hheard]
        intro k hpos hk
        rcases Nat.lt_succ_iff_lt_or_eq.mp hk with hlt | rfl
        · exact h.earlier k hpos hlt
        · exact hcontinued hpos
      commits := by
        rw [hheard]
        intro k hk
        exact Nat.le_succ_of_le (h.commits k hk)
      pushers := fun call hcall htrue => absurd htrue (List.countP_eq_zero.mp hpushing call hcall)
      queued := by
        intro request hrequest
        rw [show w.requestQueue = [] from hqueue.trans hnil] at hrequest
        cases hrequest
      pushed := h.pushed
      resumed := h.resumed
      once := h.once
      ranOnce := h.ranOnce }

/-- **Hearing of a halt** hands the execution back to the users. -/
theorem Exclusive.receive {s : ContinuationState σ} (h : Exclusive executionId s) {packet : Packet}
    (hpacket : s.world.sent[s.received]? = some packet) :
    Exclusive executionId
      { s with
        world := finalState (receivePacket packet s.world)
        received := s.received + 1 } := by
  obtain ⟨hlt, hget⟩ := List.getElem?_eq_some_iff.mp hpacket
  obtain ⟨hqueue, hsent⟩ : SameChannels s.world (finalState (receivePacket packet s.world)) :=
    within_receivePacket (R := SameChannels) (fun _ _ _ => ⟨rfl, rfl⟩) packet s.world
  have hrows : ∀ row, (executionId, row) ∈ (finalState (receivePacket packet s.world)).workflowStatus →
      Halted row.status → (executionId, row) ∈ s.world.workflowStatus ∨
        packet.executionId = executionId ∧ packet.event.savesWorkflow = true :=
    fun row => halted_of_receivePacket
  generalize finalState (receivePacket packet s.world) = w at hqueue hsent hrows ⊢
  have htake : haltCount executionId (w.sent.take (s.received + 1)) =
      s.heard executionId + haltCount executionId [packet] := by
    rw [hsent, List.take_succ_eq_append_getElem hlt, haltCount_append, hget]
    rfl
  have hdrop : unheard executionId s = haltCount executionId [packet] +
      haltCount executionId (w.sent.drop (s.received + 1)) := by
    unfold unheard
    rw [hsent, List.drop_eq_getElem_cons hlt, hget, ← List.singleton_append, haltCount_append]
  by_cases hhalt : packet.executionId = executionId ∧ packet.event.savesWorkflow = true
  · have hone : haltCount executionId [packet] = 1 := by
      simp [haltCount, hhalt.1, hhalt.2]
    exact h.halt hone hqueue (by rw [hsent]; exact hlt) htake hdrop
  · have hzero : haltCount executionId [packet] = 0 := by
      refine List.countP_eq_zero.mpr fun other hother htrue => hhalt ?_
      rw [List.mem_singleton.mp hother] at htrue
      exact ⟨of_decide_eq_true (Bool.and_eq_true_iff.mp htrue).1, (Bool.and_eq_true_iff.mp htrue).2⟩
    rw [hzero] at htake hdrop
    refine h.passive ⟨fun _ => ?_, hqueue, htake, ?_, rfl, rfl, rfl, fun row hrow hhalted => ?_,
      le_rfl, fun _ hcall _ => hcall, fun _ hcall _ => .inl hcall⟩
    · show s.received + 1 ≤ w.sent.length
      rw [hsent]
      exact hlt
    · rw [hdrop, Nat.zero_add]
      rfl
    · exact (hrows row hrow hhalted).resolve_right hhalt

/-! ## Every run -/

/-- **A step of a request** that commits only if it is the first of its halt to do so. -/
theorem Exclusive.advanced (env : Env σ) {s : ContinuationState σ} (h : Exclusive executionId s)
    {index : ℕ} {call : ContinuationCall} (hcall : s.calls[index]? = some call)
    (hfirst : call.stage.commits = true → call.halt ∉ s.commits) :
    Exclusive executionId (s.advanced env executionId index call) := by
  have hmem : call ∈ s.calls := List.mem_of_getElem? hcall
  have hcases := stage_cases env executionId call.stage s.world
  obtain ⟨stage, halt⟩ := call
  unfold ContinuationState.advanced
  dsimp only at hcases hfirst ⊢
  generalize stage.step env executionId s.world = result at hcases ⊢
  cases hcases with
  | reads hcommits hpushes hsame hnext hfound hclaimed =>
    dsimp only
    rw [hcommits, hpushes]
    refine h.passive (passive_set hsame index hnext fun hclaims => ?_)
    dsimp only at hclaims ⊢
    cases hreads : stage.readsStatus with
    | true =>
      obtain ⟨row, hrow, hhalted⟩ := hfound hreads hclaims
      exact ⟨h.rows row hrow hhalted, le_rfl⟩
    | false => exact h.claims ⟨stage, halt⟩ hmem (hclaimed hreads hclaims)
  | raises hcommits hsame => exact h.passive (passive_set hsame index rfl False.elim)
  | commits hstage =>
    subst hstage
    exact h.commit hcall rfl (hfirst rfl)
  | pushes request hstage =>
    subst hstage
    exact h.push hcall rfl request

/-- What a step does. -/
inductive StepCases (env : Env σ) (executionId : UUID) (s : ContinuationState σ) :
    ContinuationOp → ContinuationState σ → Prop where
  | call {op : ContinuationOp} (stage : Stage) (hpushes : stage.pushes = false)
    (hclaims : ¬ ClaimsHalt executionId stage) (hop : ∀ index, op ≠ .advance index) :
    StepCases env executionId s op { s with calls := s.calls ++ [{ stage, halt := 0 }] }
  | advance {index : ℕ} {call : ContinuationCall} (hcall : s.calls[index]? = some call) :
    StepCases env executionId s (.advance index) (s.advanced env executionId index call)
  | work {thread : String} {control : ℕ → Control} {turns : ℕ} {request : Request}
    {requests : List Request} {w : World σ} (hqueue : s.world.requestQueue = request :: requests)
    (hworked : Worked executionId { s.world with requestQueue := requests } w) :
    StepCases env executionId s (.work thread control turns)
      { s with
        world := w
        resumed := if request.resume then s.resumed ++ [s.halts executionId] else s.resumed }
  | receive {packet : Packet} (hpacket : s.world.sent[s.received]? = some packet) :
    StepCases env executionId s .receive
      { s with
        world := finalState (receivePacket packet s.world)
        received := s.received + 1 }
  | abort : StepCases env executionId s .abort
      { s with world := finalState (abortWorkflow executionId s.world) }

/-- A step makes a call, advances one, works a request off, receives a packet or aborts. -/
theorem step_cases {s s' : ContinuationState σ} {op : ContinuationOp}
    (hstep : ContinuationStep env executionId s op s') : StepCases env executionId s op s' := by
  unfold ContinuationStep continuationStep at hstep
  cases op with
  | resume user =>
    cases hstep
    exact .call (.resume user) rfl id (fun _ h => by cases h)
  | send request messages =>
    cases hstep
    exact .call (.send request messages) rfl id (fun _ h => by cases h)
  | advance index =>
    obtain ⟨call, hcall, rfl⟩ := Option.map_eq_some_iff.mp hstep
    exact .advance hcall
  | work thread control turns =>
    dsimp only at hstep
    cases hqueue : s.world.requestQueue with
    | nil =>
      rw [hqueue] at hstep
      cases hstep
    | cons request requests =>
      rw [hqueue] at hstep
      dsimp only at hstep
      have hworked := worked_execute env executionId control turns thread request
        { s.world with requestQueue := requests }
      cases hresult : execute env control turns thread request
          { s.world with requestQueue := requests } with
      | error e w =>
        rw [hresult] at hstep hworked
        cases hstep
        exact .work hqueue (hworked trivial)
      | ok progress w =>
        rw [hresult] at hstep hworked
        cases progress with
        | running vars => cases hstep
        | returned =>
          cases hstep
          exact .work hqueue (hworked trivial)
  | receive =>
    dsimp only at hstep
    cases hpacket : s.world.sent[s.received]? with
    | none =>
      rw [hpacket] at hstep
      cases hstep
    | some packet =>
      rw [hpacket] at hstep
      cases hstep
      exact .receive hpacket
  | abort =>
    cases hstep
    exact .abort

/-- **A guarded step keeps the execution to one at a time.** -/
theorem exclusive_step {s s' : ContinuationState σ} {op : ContinuationOp}
    (h : Exclusive executionId s) (hfirst : FirstToCommit s op)
    (hstep : ContinuationStep env executionId s op s') : Exclusive executionId s' := by
  cases step_cases hstep with
  | call stage hpushes hclaims hop => exact h.passive (passive_call s hpushes hclaims)
  | advance hcall => exact h.advanced env hcall (hfirst _ hcall)
  | work hqueue hworked => exact h.work hqueue hworked
  | receive hpacket => exact h.receive hpacket
  | abort => exact h.passive (passive_abort s)

/-- **A guarded run keeps the execution to one at a time.** -/
theorem exclusive_run {s s' : ContinuationState σ} {ops : List ContinuationOp}
    (hrun : Run (Guarded (ContinuationStep env executionId) FirstToCommit) s ops s')
    (h : Exclusive executionId s) : Exclusive executionId s' :=
  Run.invariant (I := Exclusive executionId) (fun _ _ _ h hstep => exclusive_step h hstep.1 hstep.2)
    hrun h

/-- An execution that nobody has continued and that has not halted. -/
theorem exclusive_of_unhalted {w : World σ} (hsent : w.sent = [])
    (hqueue : w.requestQueue.length ≤ 1)
    (hfirst : ∀ request ∈ w.requestQueue, request.resume = false)
    (hrows : ∀ row, (executionId, row) ∈ w.workflowStatus → ¬ Halted row.status) :
    Exclusive executionId (continuationStart w) := by
  have hunheard : unheard executionId (continuationStart w) = 0 := by
    show haltCount executionId (w.sent.drop 0) = 0
    rw [hsent]
    rfl
  have htokens : tokens executionId (continuationStart w) ≤ 1 := by
    unfold tokens
    rw [hunheard]
    exact hqueue
  exact
    { received := Nat.zero_le _
      oneToken := htokens
      idle := fun hpos _ => absurd hpos (Nat.lt_irrefl 0)
      rows := fun row hrow hhalted => absurd hhalted (hrows row hrow)
      claims := fun _ hcall _ => absurd hcall List.not_mem_nil
      earlier := fun k _ hk => absurd hk (Nat.not_lt_zero k)
      commits := fun _ hk => absurd hk List.not_mem_nil
      pushers := fun _ hcall _ => absurd hcall List.not_mem_nil
      queued := by
        intro request hrequest hresume
        rw [hfirst request hrequest] at hresume
        cases hresume
      pushed := fun _ hp => absurd hp List.not_mem_nil
      resumed := fun _ hk => absurd hk List.not_mem_nil
      once := List.nodup_nil
      ranOnce := List.nodup_nil }

/-- **The controller starts an execution** that nobody has continued. -/
theorem exclusive_start (behaviour : σ) (workflows : List Workflow) (workflowId executionId : UUID)
    (start : Option UUID) (startArguments : List Argument)
    (environmentVariables : List EnvironmentVariable) (user : Option String) :
    Exclusive executionId (continuationStart (lifecycleStart behaviour workflows workflowId
      executionId start startArguments environmentVariables user)) := by
  rcases executeWorkflow_cases workflowId executionId start startArguments false
    environmentVariables user (World.start behaviour workflows) with hsame | hc
  · rw [lifecycleStart, hsame]
    exact exclusive_of_unhalted rfl (Nat.zero_le 1) (fun _ h => absurd h List.not_mem_nil)
      fun _ h => absurd h List.not_mem_nil
  · rw [lifecycleStart]
    refine exclusive_of_unhalted hc.sent ?_ ?_ fun row hrow hhalted => ?_
    · rcases hc.requestQueue with hsame | ⟨request, -, hpushed⟩
      · rw [hsame]
        exact Nat.zero_le 1
      · rw [hpushed]
        exact le_rfl
    · rcases hc.requestQueue with hsame | ⟨request, hqueued, hpushed⟩
      · rw [hsame]
        exact fun _ h => absurd h List.not_mem_nil
      · rw [hpushed]
        intro other hother
        rw [List.mem_singleton.mp hother]
        exact hqueued.resume
    · rw [hc.workflowStatus] at hrow
      cases List.mem_singleton.mp hrow
      rcases hhalted with hpaused | hwaiting
      · cases hpaused
      · cases hwaiting

/-! ## The condition is necessary -/

/-- The request is about to push a continuation for a halt. -/
def pushesFor (k : ℕ) (call : ContinuationCall) : Bool :=
  call.stage.pushes && call.halt == k

/-- Only a request that has made the execution pending pushes a continuation. -/
def Accounted (s : ContinuationState σ) : Prop :=
  ∀ k, (s.pushed.map Prod.fst).count k + s.calls.countP (pushesFor k) ≤ s.commits.count k

/-- A request that does not push pushes for no halt. -/
theorem pushesFor_eq_false {k : ℕ} (call : ContinuationCall) (h : call.stage.pushes = false) :
    pushesFor k call = false := by
  rw [pushesFor, h, Bool.false_and]

/-- A single number occurs once or not at all. -/
theorem count_singleton_toNat (k n : ℕ) : [n].count k = (n == k).toNat := by
  rw [List.count_singleton]
  cases n == k <;> rfl

/-- Replacing a request replaces its part in the count. -/
theorem countP_set_add {calls : List ContinuationCall} {index : ℕ} {call : ContinuationCall}
    (hcall : calls[index]? = some call) (next : ContinuationCall) (k : ℕ) :
    (calls.set index next).countP (pushesFor k) + (pushesFor k call).toNat =
      calls.countP (pushesFor k) + (pushesFor k next).toNat := by
  obtain ⟨hindex, hget⟩ := List.getElem?_eq_some_iff.mp hcall
  rw [List.countP_set hindex, hget]
  cases hpushes : pushesFor k call with
  | false =>
    cases pushesFor k next <;> simp
  | true =>
    have hpos : 0 < calls.countP (pushesFor k) :=
      List.countP_pos_iff.mpr ⟨call, List.mem_of_getElem? hcall, hpushes⟩
    cases pushesFor k next <;> simp <;> omega

/-- Advancing a request keeps the pushes accounted for. -/
theorem Accounted.advanced (env : Env σ) {s : ContinuationState σ} (h : Accounted s) {index : ℕ}
    {call : ContinuationCall} (hcall : s.calls[index]? = some call) :
    Accounted (s.advanced env executionId index call) := by
  have hcases := stage_cases env executionId call.stage s.world
  have hset := countP_set_add hcall
  obtain ⟨stage, halt⟩ := call
  unfold ContinuationState.advanced
  dsimp only at hcases ⊢
  generalize stage.step env executionId s.world = result at hcases ⊢
  intro k
  have hk := h k
  cases hcases with
  | @reads next w' hcommits hpushes hsame hnext hfound hclaimed =>
    have hnew := hset ⟨next, if stage.readsStatus then s.heard executionId else halt⟩ k
    rw [pushesFor_eq_false _ hpushes, pushesFor_eq_false _ hnext] at hnew
    dsimp only
    rw [hcommits, hpushes, if_neg Bool.false_ne_true, if_neg Bool.false_ne_true]
    omega
  | raises hcommits hsame =>
    have hnew := hset ⟨.returned, if stage.readsStatus then s.heard executionId else halt⟩ k
    rw [pushesFor_eq_false ⟨.returned, _⟩ rfl, Bool.toNat_false] at hnew
    dsimp only
    omega
  | @commits continuation hstage =>
    subst hstage
    have hnew := hset ⟨.committed continuation, halt⟩ k
    rw [pushesFor_eq_false ⟨.foundRow continuation, halt⟩ rfl, Bool.toNat_false,
      show pushesFor k ⟨.committed continuation, halt⟩ = (halt == k) from rfl] at hnew
    show (s.pushed.map Prod.fst).count k +
      (s.calls.set index ⟨.committed continuation, halt⟩).countP (pushesFor k) ≤
        (s.commits ++ [halt]).count k
    rw [List.count_append, count_singleton_toNat]
    omega
  | @pushes continuation request hstage =>
    subst hstage
    have hnew := hset ⟨.returned, halt⟩ k
    rw [pushesFor_eq_false ⟨.returned, halt⟩ rfl, Bool.toNat_false,
      show pushesFor k ⟨.committed continuation, halt⟩ = (halt == k) from rfl] at hnew
    show ((s.pushed ++ [(halt, s.halts executionId)]).map Prod.fst).count k +
      (s.calls.set index ⟨.returned, halt⟩).countP (pushesFor k) ≤ s.commits.count k
    rw [List.map_append, List.map_singleton, List.count_append, count_singleton_toNat]
    dsimp only
    omega

/-- A step keeps the pushes accounted for. -/
theorem accounted_step {s s' : ContinuationState σ} {op : ContinuationOp} (h : Accounted s)
    (hstep : ContinuationStep env executionId s op s') : Accounted s' := by
  cases step_cases hstep with
  | call stage hpushes hclaims hop =>
    intro k
    have hk := h k
    show (s.pushed.map Prod.fst).count k + (s.calls ++ [_]).countP (pushesFor k) ≤ s.commits.count k
    rw [List.countP_append, List.countP_singleton, pushesFor_eq_false _ hpushes]
    exact hk
  | advance hcall => exact h.advanced env hcall
  | work hqueue hworked => exact h
  | receive hpacket => exact h
  | abort => exact h

/-- The requests that have made the execution pending, after a step of one of them. -/
theorem commits_advanced (env : Env σ) (s : ContinuationState σ) (index : ℕ)
    (call : ContinuationCall) :
    (s.advanced env executionId index call).commits =
      if call.stage.commits then s.commits ++ [call.halt] else s.commits := by
  have hcases := stage_cases env executionId call.stage s.world
  obtain ⟨stage, halt⟩ := call
  unfold ContinuationState.advanced
  dsimp only at hcases ⊢
  generalize stage.step env executionId s.world = result at hcases ⊢
  cases hcases with
  | reads hcommits hpushes hsame hnext hfound hclaimed =>
    dsimp only
    rw [hcommits, if_neg Bool.false_ne_true, if_neg Bool.false_ne_true]
  | raises hcommits hsame =>
    dsimp only
    rw [hcommits, if_neg Bool.false_ne_true]
  | commits hstage =>
    subst hstage
    rfl
  | pushes request hstage =>
    subst hstage
    rfl

/-- A step appends to the commits, and what it appends is new if it is the first of its halt. -/
theorem commits_step {s s' : ContinuationState σ} {op : ContinuationOp}
    (hstep : ContinuationStep env executionId s op s') :
    s.commits <+: s'.commits ∧ (s'.commits.Nodup → FirstToCommit s op) := by
  cases step_cases hstep with
  | call stage hpushes hclaims hop =>
    refine ⟨List.prefix_rfl, fun _ => ?_⟩
    cases op with
    | advance index => exact absurd rfl (hop index)
    | _ => trivial
  | @advance index call hcall =>
    rw [commits_advanced]
    cases hcommits : call.stage.commits with
    | false =>
      refine ⟨List.prefix_rfl, fun _ other hother htrue => ?_⟩
      rw [hcall, Option.some.injEq] at hother
      rw [← hother, hcommits] at htrue
      cases htrue
    | true =>
      rw [if_pos rfl]
      refine ⟨List.prefix_append _ _, fun hnodup other hother _ hmem => ?_⟩
      rw [hcall, Option.some.injEq] at hother
      rw [← hother] at hmem
      exact List.disjoint_of_nodup_append hnodup hmem (List.mem_singleton_self _)
  | work hqueue hworked => exact ⟨List.prefix_rfl, fun _ => trivial⟩
  | receive hpacket => exact ⟨List.prefix_rfl, fun _ => trivial⟩
  | abort => exact ⟨List.prefix_rfl, fun _ => trivial⟩

/-- **A run in which no two requests about one halt commit** is guarded. -/
theorem guarded_of_nodup {s s' : ContinuationState σ} {ops : List ContinuationOp}
    (hrun : Run (ContinuationStep env executionId) s ops s') (hnodup : s'.commits.Nodup) :
    s.commits <+: s'.commits ∧
      Run (Guarded (ContinuationStep env executionId) FirstToCommit) s ops s' := by
  induction hrun with
  | refl s => exact ⟨List.prefix_rfl, .refl s⟩
  | cons hstep _ ih =>
    obtain ⟨hrest, hguarded⟩ := ih hnodup
    obtain ⟨hgrows, hfirst⟩ := commits_step hstep
    have hbefore := hrest.sublist.nodup hnodup
    exact ⟨hgrows.trans hrest, .cons ⟨hfirst hbefore, hstep⟩ hguarded⟩

/-- When every request has pushed what it announced, one continuation for each halt means one
request for each halt. -/
theorem OneContinuation.commits_nodup {s : ContinuationState σ} (h : OneContinuation s)
    (haccounted : Accounted s) (hsettled : Settled s) : s.commits.Nodup := by
  have hsubperm : (s.pushed.map Prod.fst).Subperm s.commits := by
    refine List.subperm_ext_iff.mpr fun k _ => ?_
    have hk := haccounted k
    omega
  have hperm : (s.pushed.map Prod.fst).Perm s.commits := by
    refine hsubperm.perm_of_length_le ?_
    rw [List.length_map]
    exact Nat.le_of_eq hsettled.symm
  have hsame : s.pushed.map Prod.fst = s.pushed.map Prod.snd :=
    List.map_congr_left h.current
  refine hperm.nodup_iff.mp ?_
  rw [hsame]
  exact h.once

/-! ## The runs of the code -/

/-- **Each pause or await leads to at most one continuation** in every run in which no two requests
about one halt make the execution pending; and a run in which two of them do so breaks this, as
soon as all have pushed what they announced. -/
theorem oneContinuation_iff (env : Env σ) (behaviour : σ) (workflows : List Workflow)
    (workflowId executionId : UUID) (start : Option UUID) (startArguments : List Argument)
    (environmentVariables : List EnvironmentVariable) (user : Option String)
    (ops : List ContinuationOp) (s : ContinuationState σ)
    (hrun : Run (ContinuationStep env executionId) (continuationStart (lifecycleStart behaviour
      workflows workflowId executionId start startArguments environmentVariables user)) ops s) :
    (Run (Guarded (ContinuationStep env executionId) FirstToCommit) (continuationStart
        (lifecycleStart behaviour workflows workflowId executionId start startArguments
          environmentVariables user)) ops s → OneContinuation s) ∧
      (Settled s → OneContinuation s → Run (Guarded (ContinuationStep env executionId)
        FirstToCommit) (continuationStart (lifecycleStart behaviour workflows workflowId executionId
          start startArguments environmentVariables user)) ops s) := by
  constructor
  · intro hguarded
    exact (exclusive_run hguarded (exclusive_start behaviour workflows workflowId executionId start
      startArguments environmentVariables user)).oneContinuation
  · intro hsettled hone
    have haccounted : Accounted s := by
      refine Run.invariant (I := Accounted) (fun _ _ _ h hstep => accounted_step h hstep) hrun ?_
      intro k
      exact Nat.zero_le _
    exact (guarded_of_nodup hrun (hone.commits_nodup haccounted hsettled)).2

/-- An execution is paused at its first action and both users find it so. -/
def pausedForTwo : List ContinuationOp :=
  [.work "Thread-1" (pausedAt 0) 3, .receive, .receive, .resume (some "admin"), .resume none]

/-- The first user continues the execution before the second one looks: the second is refused. -/
theorem oneContinuation_iff_refused :
    ∃ s, Run (ContinuationStep succeeding 7)
        (continuationStart (lifecycleStart () [twoActions none none] 100 7 none [] [] none))
        (pausedForTwo ++ List.replicate 7 (.advance 0) ++ [.advance 1] ++
          [.work "Thread-1" undisturbed 3]) s ∧
      s.resumed = [1] ∧ OneContinuation s := by
  have hrun : (follow (continuationStep succeeding 7)
      (continuationStart (lifecycleStart () [twoActions none none] 100 7 none [] [] none))
      (pausedForTwo ++ List.replicate 7 (.advance 0) ++ [.advance 1] ++
        [.work "Thread-1" undisturbed 3])).any
        (fun s => s.commits = [1] ∧ s.resumed = [1]) = true := by
    decide +kernel
  obtain ⟨s, hs, hfields⟩ := (Option.any_eq_true _ _).mp hrun
  obtain ⟨hcommits, hresumed⟩ := of_decide_eq_true hfields
  have hnodup : s.commits.Nodup := by
    rw [hcommits]
    exact List.nodup_singleton 1
  refine ⟨s, .of_follow hs, hresumed, ?_⟩
  exact (oneContinuation_iff succeeding () [twoActions none none] 100 7 none [] [] none _ s
    (.of_follow hs)).1 (guarded_of_nodup (.of_follow hs) hnodup).2

/-- Both users look before either of them has made the execution pending: both continue it, and
its actions are run twice. -/
theorem two_users_continue :
    ∃ s, Run (ContinuationStep succeeding 7)
        (continuationStart (lifecycleStart () [twoActions none none] 100 7 none [] [] none))
        (pausedForTwo ++ [.advance 0, .advance 1] ++ List.replicate 6 (.advance 0) ++
          List.replicate 6 (.advance 1) ++
          [.work "Thread-1" undisturbed 3, .work "Thread-2" undisturbed 3]) s ∧
      ¬ OneContinuation s ∧ ¬ (s.pushed.map Prod.snd).Nodup ∧ ¬ s.resumed.Nodup ∧
      s.world.log.count (.executed 1 "Success") = 2 := by
  have hrun : (follow (continuationStep succeeding 7)
      (continuationStart (lifecycleStart () [twoActions none none] 100 7 none [] [] none))
      (pausedForTwo ++ [.advance 0, .advance 1] ++ List.replicate 6 (.advance 0) ++
        List.replicate 6 (.advance 1) ++
        [.work "Thread-1" undisturbed 3, .work "Thread-2" undisturbed 3])).any
        (fun s => ¬ (s.pushed.map Prod.snd).Nodup ∧ ¬ s.resumed.Nodup ∧
          s.world.log.count (.executed 1 "Success") = 2) = true := by
    decide +kernel
  obtain ⟨s, hs, hfields⟩ := (Option.any_eq_true _ _).mp hrun
  have htwice := of_decide_eq_true hfields
  exact ⟨s, .of_follow hs, fun hone => htwice.1 hone.once, htwice⟩

end Walkoff.Analysis
