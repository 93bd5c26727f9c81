import Walkoff.Program.TriggersEndpoint

/-!
# Who may answer a trigger

`get_authorized_execution_ids` asks the first message of an execution whether it requires
a response and, if so, whether the user is authorised. The messages after the first are
not looked at: when the first one requires no response, anybody may resume the execution.
-/

set_option autoImplicit false

namespace Walkoff.Analysis

open Walkoff.Model Walkoff.Program
open Walkoff.Library (Within finalState bind_eq_ok)

variable {σ : Type}

/-- Some message of the execution requires a response. -/
def RequiresResponse (messages : List Message) (executionId : UUID) : Prop :=
  ∃ message ∈ messagesOf messages executionId, message.requiresResponse

/-- The user is authorised for a message of the execution that requires a response. -/
def AuthorizedToRespond (messages : List Message) (request : TriggerRequest)
    (executionId : UUID) : Prop :=
  ∃ message ∈ messagesOf messages executionId, message.requiresResponse ∧
    message.isAuthorized request.userId request.roleIds

/-- The user may resume the execution: none of its messages requires a response, or the
user is authorised for one that does. -/
def Permitted (messages : List Message) (request : TriggerRequest) (executionId : UUID) : Prop :=
  RequiresResponse messages executionId → AuthorizedToRespond messages request executionId

/-- The executions a request is about: named by it and awaiting data. -/
def Requested (request : TriggerRequest) (w : World σ) (executionId : UUID) : Prop :=
  executionId ∈ getWaitingWorkflows w ∧ executionId.str ∈ request.executionIds

/-- A request resumes permitted executions only, and an execution without a message that
requires a response can be resumed by anybody. The executor and its triggers are arbitrary. -/
structure TriggersGated (messages : List Message) (request : TriggerRequest) (w : World σ) :
    Prop where
  /-- The executions that were resumed were permitted ones. -/
  resumed : ∀ (resume : TriggerRequest → UUID → M σ Bool) (completed : List UUID) (w' : World σ),
    sendDataToTrigger resume messages request w = .ok completed w' →
      ∀ executionId ∈ completed, Permitted messages request executionId
  /-- Also when it raises, a request has done nothing but resume permitted executions. -/
  effects : ∀ (resume : TriggerRequest → UUID → M σ Bool) (R : World σ → World σ → Prop)
    [Std.Refl R] [IsTrans (World σ) R],
    (∀ executionId, Permitted messages request executionId → Within R (resume request executionId)) →
      R w (finalState (sendDataToTrigger resume messages request w))
  /-- A trigger that is satisfied resumes its execution when no response is required. -/
  anyone : ∀ (resume : TriggerRequest → UUID → M σ Bool) (completed : List UUID) (w' : World σ)
    (executionId : UUID), Requested request w executionId →
      ¬ RequiresResponse messages executionId →
      (∀ v, ∃ v', resume request executionId v = .ok true v') →
      sendDataToTrigger resume messages request w = .ok completed w' → executionId ∈ completed

/-! ## What the code decides on -/

/-- The first message of an execution, if it requires a response, authorises the user. -/
def FirstPasses (messages : List Message) (request : TriggerRequest) (executionId : UUID) : Prop :=
  ∀ message, (messagesOf messages executionId).head? = some message →
    message.requiresResponse → message.isAuthorized request.userId request.roleIds

/-- One turn of the loop puts the execution into one of the two sets if it passes, and
into none otherwise. -/
theorem mem_authorizeTurn (messages : List Message) (request : TriggerRequest)
    (sets : List UUID × List UUID) (e executionId : UUID) :
    let after := authorizeTurn messages request.userId request.roleIds sets e
    (executionId ∈ after.1 ∨ executionId ∈ after.2) ↔
      (executionId ∈ sets.1 ∨ executionId ∈ sets.2) ∨
        (executionId = e ∧ FirstPasses messages request e) := by
  unfold authorizeTurn FirstPasses
  cases hhead : (messagesOf messages e).head? with
  | none => grind
  | some m =>
    cases hrequires : m.requiresResponse with
    | false => grind
    | true =>
      cases hauthorized : m.isAuthorized request.userId request.roleIds with
      | false => simp [hrequires, hauthorized]
      | true => grind

/-- The loop sorts the executions that pass into the two sets and drops the others. -/
theorem mem_foldl_authorizeTurn (messages : List Message) (request : TriggerRequest)
    (executionIds : List UUID) (sets : List UUID × List UUID) (executionId : UUID) :
    let after := executionIds.foldl
      (authorizeTurn messages request.userId request.roleIds) sets
    (executionId ∈ after.1 ∨ executionId ∈ after.2) ↔
      (executionId ∈ sets.1 ∨ executionId ∈ sets.2) ∨
        (executionId ∈ executionIds ∧ FirstPasses messages request executionId) := by
  induction executionIds generalizing sets with
  | nil => simp
  | cons e executionIds ih =>
    have hturn := mem_authorizeTurn messages request sets e executionId
    have hrest := ih (authorizeTurn messages request.userId request.roleIds sets e)
    simp only [List.foldl_cons, List.mem_cons] at hturn hrest ⊢
    rw [hrest, hturn]
    grind

/-- The executions handed to the executor are the requested ones whose first message
passes the user. -/
theorem mem_allowedExecutionIds (messages : List Message) (request : TriggerRequest)
    (w : World σ) (executionId : UUID) :
    executionId ∈ allowedExecutionIds messages request (getWaitingWorkflows w) ↔
      Requested request w executionId ∧ FirstPasses messages request executionId := by
  have hloop := mem_foldl_authorizeTurn messages request
    ((getWaitingWorkflows w).filter (·.str ∈ request.executionIds)) ([], []) executionId
  simp only [List.not_mem_nil, or_self, false_or, List.mem_filter, decide_eq_true_eq] at hloop
  unfold allowedExecutionIds Requested
  simp only [List.mem_append]
  rw [or_comm]
  exact hloop

/-! ## The loop over the executions -/

/-- Only executions of the list are resumed. -/
theorem resumeEach_subset {resume : UUID → M σ Bool} {executionIds completed : List UUID}
    {w w' : World σ} (h : resumeEach resume executionIds w = .ok completed w') :
    ∀ executionId ∈ completed, executionId ∈ executionIds := by
  induction executionIds generalizing completed w w' with
  | nil =>
    cases h
    simp
  | cons e executionIds ih =>
    obtain ⟨resumed, v, -, h⟩ := bind_eq_ok.mp h
    obtain ⟨rest, v', hrest, h⟩ := bind_eq_ok.mp h
    cases h
    intro executionId hmem
    cases resumed with
    | true =>
      rcases List.mem_cons.mp hmem with rfl | hmem
      · exact List.mem_cons_self
      · exact List.mem_cons_of_mem _ (ih hrest executionId hmem)
    | false => exact List.mem_cons_of_mem _ (ih hrest executionId hmem)

/-- An execution of the list whose trigger is satisfied is resumed. -/
theorem mem_resumeEach {resume : UUID → M σ Bool} {executionIds completed : List UUID}
    {w w' : World σ} (h : resumeEach resume executionIds w = .ok completed w')
    {executionId : UUID} (hmem : executionId ∈ executionIds)
    (htrue : ∀ v, ∃ v', resume executionId v = .ok true v') : executionId ∈ completed := by
  induction executionIds generalizing completed w w' with
  | nil => simp at hmem
  | cons e executionIds ih =>
    obtain ⟨resumed, v, hresumed, h⟩ := bind_eq_ok.mp h
    obtain ⟨rest, v', hrest, h⟩ := bind_eq_ok.mp h
    cases h
    rcases List.mem_cons.mp hmem with rfl | hmem
    · obtain ⟨v'', hv⟩ := htrue w
      rw [hv] at hresumed
      cases hresumed
      exact List.mem_cons_self
    · cases resumed with
      | true => exact List.mem_cons_of_mem _ (ih hrest hmem)
      | false => exact ih hrest hmem

/-- What the loop changes is what resuming the executions of the list changes. -/
theorem within_resumeEach {R : World σ → World σ → Prop} [Std.Refl R] [IsTrans (World σ) R]
    {resume : UUID → M σ Bool} {executionIds : List UUID}
    (h : ∀ executionId ∈ executionIds, Within R (resume executionId)) :
    Within R (resumeEach resume executionIds) := by
  induction executionIds with
  | nil => exact Within.pure _
  | cons e executionIds ih =>
    refine Within.bind (h e List.mem_cons_self) fun resumed => ?_
    refine Within.bind (ih fun x hx => h x (List.mem_cons_of_mem _ hx)) fun completed => ?_
    exact Within.pure _

/-! ## The endpoint -/

/-- The messages of a requested execution do not mislead the code: the first one requires a
response, or none does, or the user is authorised for one that does. -/
def FirstMessageDecides (messages : List Message) (request : TriggerRequest)
    (executionId : UUID) : Prop :=
  (∃ message, (messagesOf messages executionId).head? = some message ∧ message.requiresResponse) ∨
    Permitted messages request executionId

/-- An execution none of whose messages requires a response passes. -/
theorem firstPasses_of_not_requiresResponse {messages : List Message} {request : TriggerRequest}
    {executionId : UUID} (h : ¬ RequiresResponse messages executionId) :
    FirstPasses messages request executionId :=
  fun message hhead hrequires => absurd ⟨message, List.mem_of_mem_head? hhead, hrequires⟩ h

/-- Where the first message decides, the executions that pass are permitted ones. -/
theorem permitted_of_firstPasses {messages : List Message} {request : TriggerRequest}
    {executionId : UUID} (hdecides : FirstMessageDecides messages request executionId)
    (h : FirstPasses messages request executionId) :
    Permitted messages request executionId := by
  rcases hdecides with ⟨message, hhead, hrequires⟩ | hpermitted
  · exact fun _ => ⟨message, List.mem_of_mem_head? hhead, hrequires, h message hhead hrequires⟩
  · exact hpermitted

/-- An execution that passes although it is not permitted is resumed by a satisfied trigger. -/
theorem not_triggersGated {messages : List Message} {request : TriggerRequest} {w : World σ}
    {executionId : UUID} (hrequested : Requested request w executionId)
    (h : FirstPasses messages request executionId)
    (hpermitted : ¬ Permitted messages request executionId) :
    ¬ TriggersGated messages request w := by
  intro hgated
  have hrun : ∀ executionIds : List UUID,
      resumeEach (fun _ => pure true) executionIds w = .ok executionIds w := by
    intro executionIds
    induction executionIds with
    | nil => rfl
    | cons e executionIds ih =>
      exact bind_eq_ok.mpr ⟨true, w, rfl, bind_eq_ok.mpr ⟨_, w, ih, rfl⟩⟩
  exact hpermitted (hgated.resumed (fun _ _ => pure true) _ w (hrun _) executionId
    ((mem_allowedExecutionIds messages request w executionId).mpr ⟨hrequested, h⟩))

/-- Where the first messages decide, a request is gated. -/
theorem triggersGated_of_firstMessageDecides {messages : List Message} {request : TriggerRequest}
    {w : World σ} (h : ∀ executionId, Requested request w executionId →
      FirstMessageDecides messages request executionId) :
    TriggersGated messages request w := by
  have hallowed : ∀ executionId ∈ allowedExecutionIds messages request (getWaitingWorkflows w),
      Permitted messages request executionId := by
    intro executionId hmem
    obtain ⟨hrequested, hpasses⟩ := (mem_allowedExecutionIds messages request w executionId).mp hmem
    exact permitted_of_firstPasses (h executionId hrequested) hpasses
  refine ⟨?_, ?_, ?_⟩
  · intro resume completed w' hrun executionId hmem
    exact hallowed executionId (resumeEach_subset hrun executionId hmem)
  · intro resume R _ _ hR
    exact within_resumeEach (fun executionId hmem => hR executionId (hallowed executionId hmem)) w
  · intro resume completed w' executionId hrequested hnone htrue hrun
    refine mem_resumeEach hrun ?_ htrue
    exact (mem_allowedExecutionIds messages request w executionId).mpr
      ⟨hrequested, firstPasses_of_not_requiresResponse hnone⟩

/-- **A request is gated exactly if the first message of every requested execution
decides**: it requires a response, or no message does, or the user is authorised for one
that does. -/
theorem triggersGated_iff (messages : List Message) (request : TriggerRequest) (w : World σ) :
    TriggersGated messages request w ↔
      ∀ executionId, Requested request w executionId →
        FirstMessageDecides messages request executionId := by
  refine ⟨fun hgated executionId hrequested => ?_, triggersGated_of_firstMessageDecides⟩
  by_contra hmisled
  have hnot : ¬ ∃ message, (messagesOf messages executionId).head? = some message ∧
      message.requiresResponse := fun h => hmisled (.inl h)
  have hpasses : FirstPasses messages request executionId :=
    fun message hhead hrequires => absurd ⟨message, hhead, hrequires⟩ hnot
  exact not_triggersGated hrequested hpasses (fun h => hmisled (.inr h)) hgated

/-- An execution awaits data; its first message is a note, its second asks user 7 to
respond, and user 8 sends data to the trigger. -/
theorem note_before_question_opens_trigger :
    ¬ TriggersGated
      [⟨1, false, [], []⟩, ⟨1, true, [7], []⟩]
      { executionIds := [UUID.str 1], dataIn := .none, arguments := [], userId := some 8
        roleIds := .many [], username := none }
      { World.start () [] with workflowStatus := [(1, ⟨1, 2, .awaitingData⟩)] } := by
  refine @not_triggersGated _ _ _ _ 1 ?_ ?_ ?_
  · exact ⟨by simp [getWaitingWorkflows], by simp⟩
  · intro message hhead hrequires
    simp only [messagesOf, List.filter, decide_true, List.head?_cons, Option.some.injEq] at hhead
    subst hhead
    cases hrequires
  · intro hpermitted
    obtain ⟨message, hmem, hrequires, hauthorized⟩ :=
      hpermitted ⟨⟨1, true, [7], []⟩, by simp [messagesOf], rfl⟩
    simp only [messagesOf, List.filter, decide_true, List.mem_cons, List.not_mem_nil,
      or_false] at hmem
    rcases hmem with rfl | rfl
    · cases hrequires
    · exact absurd hauthorized (by decide)

end Walkoff.Analysis
