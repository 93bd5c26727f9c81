import Walkoff.Analysis.Samples
import Walkoff.Program.MessageLog

/-!
# Which answers are recorded

A request that resumes an execution records the answer in the first message of the execution,
and only if the user is one of its users. A user who is authorised by a role alone leaves no
trace, nor does anybody in the messages after the first.
-/

set_option autoImplicit false

namespace Walkoff.Analysis

open Walkoff.Model Walkoff.Program
open Walkoff.Library (OrderedDict bind_apply bind_of_ok bind_of_error bind_eq_ok bind_eq_error
  get_apply finalState)

variable {σ : Type}

/-! ## Recorded answers -/

/-- A message has been responded to: as before or, if it had not been, by this user. -/
def RespondedBy (userId : Option ℤ) (before after : StoredMessage) : Prop :=
  match before.isResponded with
  | some entry => after.isResponded = some entry
  | none => ∃ entry, after.isResponded = some entry ∧ some entry.userId = userId

/-- The user responds to the `i`-th message: after the request it has been responded to. -/
def AnswerRecorded (userId : Option ℤ) (i : ℕ) (message : StoredMessage) (s : TriggerState σ) :
    Prop :=
  ∃ after, s.messages[i]? = some after ∧ RespondedBy userId message after

/-- The first message of its execution. -/
def FirstOfExecution (messages : List StoredMessage) (i : ℕ) (message : StoredMessage) : Prop :=
  message.workflowExecutionId ∉ (messages.take i).map (·.workflowExecutionId)

/-- A user the message is still addressed to, and who still exists. -/
def IsRecipient (users : OrderedDict ℤ User) (userId : Option ℤ) (message : StoredMessage) : Prop :=
  ∃ id ∈ message.users, userId = some id ∧ (OrderedDict.get? id users).isSome

/-! ## Responding -/

section

variable (users : OrderedDict ℤ User) (userId : Option ℤ)

/-- What a response does to a message that requires one: nothing if it has one or the user is no
recipient, and else it is the new response. -/
theorem respondTo_cases {message : StoredMessage} (hrequires : message.requiresResponse = true) :
    (respondTo users userId message = message ∧
      (message.isResponded.isSome ∨ ¬IsRecipient users userId message)) ∨
    (message.isResponded = none ∧ IsRecipient users userId message ∧
      ∃ entry, (respondTo users userId message).isResponded = some entry ∧
        some entry.userId = userId ∧
        respondTo users userId message = { message with history := message.history ++ [entry] }) := by
  unfold respondTo IsRecipient
  rw [if_pos hrequires]
  cases userId with
  | none =>
    refine .inl ⟨rfl, .inr ?_⟩
    rintro ⟨id, _, h, _⟩
    cases h
  | some id =>
    dsimp only
    cases huser : OrderedDict.get? id users with
    | none =>
      refine .inl ⟨rfl, .inr ?_⟩
      rintro ⟨id', _, h, hsome⟩
      cases h
      rw [huser] at hsome
      cases hsome
    | some user =>
      dsimp only
      unfold StoredMessage.recordUserAction
      by_cases hmem : id ∈ message.users
      · rw [if_pos hmem]
        cases hresponded : message.isResponded with
        | some entry => exact .inl ⟨by simp, .inl rfl⟩
        | none =>
          have hnew : ¬((MessageAction.respond = .unread ∧ !message.userHasRead id) ∨
              (MessageAction.respond = .respond ∧
                (!message.requiresResponse ∨ (none : Option MessageHistory).isSome))) := by
            simp [hrequires]
          rw [if_neg hnew]
          refine .inr ⟨rfl, ⟨id, hmem, rfl, by rw [huser]; rfl⟩, ⟨.respond, id, user.username⟩,
            ?_, rfl, rfl⟩
          simp [hrequires, StoredMessage.isResponded]
      · rw [if_neg hmem]
        refine .inl ⟨rfl, .inr ?_⟩
        rintro ⟨id', hmem', h, _⟩
        cases h
        exact hmem hmem'

/-- A response leaves the execution that a message is about. -/
theorem respondTo_workflowExecutionId (message : StoredMessage) :
    (respondTo users userId message).workflowExecutionId = message.workflowExecutionId := by
  cases hrequires : message.requiresResponse with
  | false => simp [respondTo, hrequires]
  | true =>
    rcases respondTo_cases users userId hrequires with ⟨h, _⟩ | ⟨_, _, entry, _, _, h⟩
    · rw [h]
    · rw [h]

/-- A second response changes nothing. -/
theorem respondTo_respondTo (message : StoredMessage) :
    respondTo users userId (respondTo users userId message) = respondTo users userId message := by
  cases hrequires : message.requiresResponse with
  | false =>
    have hsame : respondTo users userId message = message := by simp [respondTo, hrequires]
    rw [hsame, hsame]
  | true =>
    rcases respondTo_cases users userId hrequires with ⟨h, _⟩ | ⟨_, _, entry, hresponded, _, h⟩
    · rw [h, h]
    · have hrequires' : (respondTo users userId message).requiresResponse = true := by
        rw [h]
        exact hrequires
      rcases respondTo_cases users userId hrequires' with ⟨h', _⟩ | ⟨hnone, _⟩
      · exact h'
      · rw [hresponded] at hnone
        cases hnone

/-- **One response**: the message has been responded to afterwards exactly if it had been before
or the user is a recipient. -/
theorem respondedBy_respondTo_iff {message : StoredMessage}
    (hrequires : message.requiresResponse = true) :
    RespondedBy userId message (respondTo users userId message) ↔
      message.isResponded.isSome ∨ IsRecipient users userId message := by
  unfold RespondedBy
  rcases respondTo_cases users userId hrequires with
    ⟨h, hcase⟩ | ⟨hnone, hrecipient, entry, hresponded, huser, _⟩
  · rw [h]
    cases hresponded : message.isResponded with
    | some entry => simp
    | none =>
      rw [hresponded] at hcase
      have hnot : ¬IsRecipient users userId message := hcase.resolve_left (by simp)
      simp [hnot]
  · rw [hnone]
    exact ⟨fun _ => .inr hrecipient, fun _ => ⟨entry, hresponded, huser⟩⟩

end

/-! ## The table of messages -/

/-- The messages after some executions have been answered: their first messages, those of
executions seen before apart. -/
def answered (change : StoredMessage → StoredMessage) (completed seen : List UUID) :
    List StoredMessage → List StoredMessage
  | [] => []
  | message :: messages =>
    (if message.workflowExecutionId ∈ completed ∧ message.workflowExecutionId ∉ seen then
      change message else message) ::
        answered change completed (message.workflowExecutionId :: seen) messages

/-- The first message is changed if it is about a completed execution that has not been seen. -/
theorem answered_cons (change : StoredMessage → StoredMessage) (completed seen : List UUID)
    (message : StoredMessage) (messages : List StoredMessage) :
    answered change completed seen (message :: messages) =
      (if message.workflowExecutionId ∈ completed ∧ message.workflowExecutionId ∉ seen then
        change message else message) ::
          answered change completed (message.workflowExecutionId :: seen) messages :=
  rfl

/-- Without completed executions no message is changed. -/
theorem answered_nil (change : StoredMessage → StoredMessage) (seen : List UUID)
    (messages : List StoredMessage) : answered change [] seen messages = messages := by
  induction messages generalizing seen with
  | nil => rfl
  | cons message messages ih =>
    rw [answered_cons, ih, if_neg fun h => List.not_mem_nil h.1]

/-- An execution that has been seen changes nothing when it is completed as well. -/
theorem answered_append_of_mem {change : StoredMessage → StoredMessage} {executionId : UUID}
    (completed : List UUID) {seen : List UUID} (h : executionId ∈ seen)
    (messages : List StoredMessage) :
    answered change (completed ++ [executionId]) seen messages =
      answered change completed seen messages := by
  induction messages generalizing seen with
  | nil => rfl
  | cons message messages ih =>
    rw [answered_cons, answered_cons, ih (List.mem_cons_of_mem _ h)]
    congr 1
    refine if_congr (and_congr_left fun hseen => ?_) rfl rfl
    rw [List.mem_append, List.mem_singleton, or_iff_left]
    rintro rfl
    exact hseen h

/-- Answering one more execution changes its first message. -/
theorem onFirstMessage_answered {change : StoredMessage → StoredMessage}
    (hid : ∀ message, (change message).workflowExecutionId = message.workflowExecutionId)
    (htwice : ∀ message, change (change message) = change message) {executionId : UUID}
    (completed : List UUID) {seen : List UUID} (h : executionId ∉ seen)
    (messages : List StoredMessage) :
    onFirstMessage executionId change (answered change completed seen messages) =
      answered change (completed ++ [executionId]) seen messages := by
  induction messages generalizing seen with
  | nil => rfl
  | cons message messages ih =>
    rw [answered_cons, answered_cons]
    unfold onFirstMessage
    by_cases heq : message.workflowExecutionId = executionId
    · subst heq
      have hsame : (if message.workflowExecutionId ∈ completed ∧
          message.workflowExecutionId ∉ seen then change message
          else message).workflowExecutionId = message.workflowExecutionId := by
        split
        · exact hid message
        · rfl
      rw [if_pos hsame, answered_append_of_mem completed List.mem_cons_self]
      congr 1
      have hanswered : (if message.workflowExecutionId ∈
          completed ++ [message.workflowExecutionId] ∧ message.workflowExecutionId ∉ seen then
            change message else message) = change message :=
        if_pos ⟨List.mem_append_right _ (List.mem_singleton_self _), h⟩
      rw [hanswered]
      split
      · exact htwice message
      · rfl
    · have hne : (if message.workflowExecutionId ∈ completed ∧
          message.workflowExecutionId ∉ seen then change message
          else message).workflowExecutionId ≠ executionId := by
        split
        · rw [hid]
          exact heq
        · exact heq
      rw [if_neg hne, ih (by simp [h, Ne.symm heq])]
      congr 1
      simp [heq]

/-- The message at a place is changed if it is the first one about its execution, and that one is
completed. -/
theorem getElem?_answered (change : StoredMessage → StoredMessage) (completed seen : List UUID)
    (messages : List StoredMessage) (i : ℕ) :
    (answered change completed seen messages)[i]? = messages[i]?.map fun message =>
      if message.workflowExecutionId ∈ completed ∧ message.workflowExecutionId ∉
        seen ++ (messages.take i).map (·.workflowExecutionId) then change message else message := by
  induction messages generalizing seen i with
  | nil => rfl
  | cons message messages ih =>
    cases i with
    | zero => simp [answered_cons]
    | succ i =>
      rw [answered_cons, List.getElem?_cons_succ, List.getElem?_cons_succ, ih]
      simp only [List.take_succ_cons, List.map_cons, List.mem_append, List.mem_cons]
      congr 1
      funext m
      refine if_congr (and_congr_right fun _ => not_congr ?_) rfl rfl
      tauto

/-! ## The request -/

/-- One turn of the loop. -/
theorem answerEach_cons (resume : UUID → M σ Bool) (users : OrderedDict ℤ User)
    (userId : Option ℤ) (executionId : UUID) (executionIds : List UUID) (s : TriggerState σ) :
    answerEach resume users userId (executionId :: executionIds) s =
      match resume executionId s.world with
      | .error e world => .error e { s with world }
      | .ok resumed world => answerEach resume users userId executionIds (if resumed then
          { s with
            world
            completedExecutionIds := s.completedExecutionIds ++ [executionId]
            messages := logActionTakenOnMessage users userId executionId s.messages }
        else { s with world }) := by
  rw [answerEach, bind_apply, inWorld]
  cases resume executionId s.world with
  | error e w => rfl
  | ok resumed w =>
    cases resumed with
    | false => rfl
    | true => rfl

/-- The loop without the messages. -/
theorem answerEach_resumeEach (resume : UUID → M σ Bool) (users : OrderedDict ℤ User)
    (userId : Option ℤ) (executionIds : List UUID) (s : TriggerState σ) :
    (∀ s', answerEach resume users userId executionIds s = .ok () s' → ∃ completed,
      resumeEach resume executionIds s.world = .ok completed s'.world ∧
        s'.completedExecutionIds = s.completedExecutionIds ++ completed) ∧
    (∀ e s', answerEach resume users userId executionIds s = .error e s' →
      resumeEach resume executionIds s.world = .error e s'.world) := by
  induction executionIds generalizing s with
  | nil =>
    refine ⟨fun s' h => ?_, fun e s' h => (by cases h)⟩
    cases h
    exact ⟨[], rfl, (List.append_nil _).symm⟩
  | cons executionId executionIds ih =>
    rw [answerEach_cons, resumeEach, bind_apply]
    cases resume executionId s.world with
    | error e w =>
      refine ⟨fun s' h => (by cases h), fun e' s' h => ?_⟩
      cases h
      rfl
    | ok resumed w =>
      cases resumed with
      | false =>
        obtain ⟨hok, herror⟩ := ih { s with world := w }
        constructor
        · intro s' h
          obtain ⟨completed, hrest, hcompleted⟩ := hok s' h
          exact ⟨completed, bind_of_ok hrest, hcompleted⟩
        · exact fun e s' h => bind_of_error (herror e s' h)
      | true =>
        obtain ⟨hok, herror⟩ := ih { s with
          world := w
          completedExecutionIds := s.completedExecutionIds ++ [executionId]
          messages := logActionTakenOnMessage users userId executionId s.messages }
        constructor
        · intro s' h
          obtain ⟨completed, hrest, hcompleted⟩ := hok s' h
          refine ⟨executionId :: completed, bind_of_ok hrest, ?_⟩
          rw [hcompleted, List.append_assoc]
          rfl
        · exact fun e s' h => bind_of_error (herror e s' h)

/-- **The request without the messages** is the one that `TriggersGated` is about. -/
theorem answerTriggers_sendDataToTrigger (resume : TriggerRequest → UUID → M σ Bool)
    (users : OrderedDict ℤ User) (request : TriggerRequest) {s : TriggerState σ}
    (hstart : s.completedExecutionIds = []) :
    (∀ completed s', answerTriggers resume users request s = .ok completed s' →
      sendDataToTrigger resume (s.messages.map (·.toMessage)) request s.world =
        .ok completed s'.world) ∧
    (∀ e s', answerTriggers resume users request s = .error e s' →
      sendDataToTrigger resume (s.messages.map (·.toMessage)) request s.world =
        .error e s'.world) := by
  obtain ⟨hok, herror⟩ := answerEach_resumeEach (resume request) users request.userId
    (allowedExecutionIds (s.messages.map (·.toMessage)) request (getWaitingWorkflows s.world)) s
  constructor
  · intro completed s' h
    obtain ⟨_, t, hget, h⟩ := bind_eq_ok.mp h
    cases hget
    obtain ⟨_, t, heach, h⟩ := bind_eq_ok.mp h
    cases h
    obtain ⟨completed, hresumed, hcompleted⟩ := hok _ heach
    rw [hcompleted, hstart, List.nil_append]
    exact hresumed
  · intro e s' h
    rcases bind_eq_error.mp h with h | ⟨_, t, hget, h⟩
    · cases h
    · cases hget
      rcases bind_eq_error.mp h with h | ⟨_, t, _, h⟩
      · exact herror e s' h
      · cases h

/-- The messages after a request are those before with the completed executions answered. -/
theorem messages_answerEach (resume : UUID → M σ Bool) (users : OrderedDict ℤ User)
    (userId : Option ℤ) (messages : List StoredMessage) (executionIds : List UUID)
    (s : TriggerState σ)
    (h : s.messages = answered (respondTo users userId) s.completedExecutionIds [] messages) :
    let s' := finalState (answerEach resume users userId executionIds s)
    s'.messages = answered (respondTo users userId) s'.completedExecutionIds [] messages := by
  induction executionIds generalizing s with
  | nil => exact h
  | cons executionId executionIds ih =>
    rw [answerEach_cons]
    cases resume executionId s.world with
    | error e w => exact h
    | ok resumed w =>
      refine ih _ ?_
      cases resumed with
      | false => exact h
      | true =>
        show logActionTakenOnMessage users userId executionId s.messages = _
        unfold logActionTakenOnMessage
        rw [h]
        exact onFirstMessage_answered (respondTo_workflowExecutionId users userId)
          (respondTo_respondTo users userId) _ List.not_mem_nil messages

/-- What a request does to a message: nothing, unless it is the first one of a completed
execution. -/
theorem getElem?_answerTriggers (resume : TriggerRequest → UUID → M σ Bool)
    (users : OrderedDict ℤ User) (request : TriggerRequest) {s : TriggerState σ}
    (hstart : s.completedExecutionIds = []) (i : ℕ) :
    let s' := finalState (answerTriggers resume users request s)
    s'.messages[i]? = s.messages[i]?.map fun message =>
      if message.workflowExecutionId ∈ s'.completedExecutionIds ∧ message.workflowExecutionId ∉
        (s.messages.take i).map (·.workflowExecutionId) then
          respondTo users request.userId message else message := by
  have hmessages := messages_answerEach (resume request) users request.userId s.messages
    (allowedExecutionIds (s.messages.map (·.toMessage)) request (getWaitingWorkflows s.world)) s
    (by rw [hstart, answered_nil])
  have hfinal : finalState (answerTriggers resume users request s) =
      finalState (answerEach (resume request) users request.userId (allowedExecutionIds
        (s.messages.map (·.toMessage)) request (getWaitingWorkflows s.world)) s) := by
    unfold answerTriggers
    rw [bind_apply, get_apply]
    dsimp only
    rw [bind_apply]
    cases answerEach (resume request) users request.userId (allowedExecutionIds
      (s.messages.map (·.toMessage)) request (getWaitingWorkflows s.world)) s with
    | ok a t => rfl
    | error e t => rfl
  dsimp only at hmessages ⊢
  rw [hfinal, hmessages, getElem?_answered]
  simp

/-- **When an answer is recorded**: for a message of a resumed execution that requires a response,
exactly if it had one before, or is the first message of the execution and the user a
recipient. That the message authorises the user is not enough. -/
theorem answerRecorded_iff (env : Env σ) (users : OrderedDict ℤ User) (request : TriggerRequest)
    (s : TriggerState σ) (hstart : s.completedExecutionIds = []) {i : ℕ} {message : StoredMessage}
    (hmessage : s.messages[i]? = some message) (hrequires : message.requiresResponse = true)
    (hresumed : message.workflowExecutionId ∈
      (finalState (answerTriggers (executorResume env) users request s)).completedExecutionIds) :
    AnswerRecorded request.userId i message
        (finalState (answerTriggers (executorResume env) users request s)) ↔
      message.isResponded.isSome ∨
        (FirstOfExecution s.messages i message ∧ IsRecipient users request.userId message) := by
  have hafter := getElem?_answerTriggers (executorResume env) users request hstart i
  unfold AnswerRecorded FirstOfExecution
  dsimp only at hafter
  rw [hafter, hmessage, Option.map_some]
  by_cases hfirst : message.workflowExecutionId ∉
      (s.messages.take i).map (·.workflowExecutionId)
  · rw [if_pos ⟨hresumed, hfirst⟩]
    simp only [Option.some.injEq, exists_eq_left']
    rw [respondedBy_respondTo_iff users request.userId hrequires]
    exact or_congr_right (and_iff_right hfirst).symm
  · rw [if_neg fun h => hfirst h.2]
    simp only [Option.some.injEq, exists_eq_left']
    unfold RespondedBy
    cases message.isResponded with
    | some entry => simp
    | none =>
      constructor
      · rintro ⟨_, h, _⟩
        cases h
      · rintro (h | ⟨h, _⟩)
        · cases h
        · exact absurd h hfirst

/-! ## The sample execution -/

/-- A request of the user 8, who has the role 3, to answer the execution 7. -/
def sampleAnswer : TriggerRequest :=
  { executionIds := [UUID.str 7], dataIn := .none, arguments := [], userId := some 8
    roleIds := .many [3], username := some "user" }

/-- The execution 7 awaits data at the trigger of action 1, and has sent some messages. -/
def awaitingAnswer (messages : List StoredMessage) : TriggerState Unit where
  world := { World.start () [sampleWorkflow [sampleAction 1 (some sampleTrigger)] []] with
    workflowStatus := [(7, ⟨7, 100, .awaitingData⟩)], savedWorkflow := [⟨7, 100, 1, []⟩] }
  messages
  completedExecutionIds := []

/-- The table of users has the user 8. -/
def sampleUsers : OrderedDict ℤ User :=
  [(8, { username := "user", password := "", active := true, roles := [3] })]

/-- A message of the execution 7 that asks its users and everybody with the role 3. -/
def sampleQuestion (users : List ℤ) : StoredMessage :=
  { workflowExecutionId := 7, requiresResponse := true, users, roles := [3], history := [] }

/-- The executor takes the answer of the sample. -/
theorem sampleAnswer_taken (messages : List StoredMessage) :
    ∃ w, executorResume succeeding sampleAnswer 7 (awaitingAnswer messages).world = .ok true w :=
  ⟨_, rfl⟩

/-- The user has the role 3, so the first question lets the request resume the execution. -/
theorem allowedExecutionIds_sampleQuestion (users : List ℤ) (messages : List StoredMessage) :
    allowedExecutionIds ((sampleQuestion users :: messages).map (·.toMessage)) sampleAnswer [7] =
      [7] := by
  simp [allowedExecutionIds, sampleAnswer, getAuthorizedExecutionIds, authorizeTurn, messagesOf,
    Message.isAuthorized, RoleIds.toList, sampleQuestion]

/-- The answer of the sample completes the execution that asks. -/
theorem sampleAnswer_resumes (users : List ℤ) (messages : List StoredMessage) :
    (finalState (answerTriggers (executorResume succeeding) sampleUsers sampleAnswer
      (awaitingAnswer (sampleQuestion users :: messages)))).completedExecutionIds = [7] := by
  obtain ⟨w, hw⟩ := sampleAnswer_taken (sampleQuestion users :: messages)
  unfold answerTriggers
  rw [bind_apply, get_apply]
  dsimp only
  have hallowed := allowedExecutionIds_sampleQuestion users messages
  have hwaiting : getWaitingWorkflows
    (awaitingAnswer (sampleQuestion users :: messages)).world = [7] := rfl
  have hmessages : (awaitingAnswer (sampleQuestion users :: messages)).messages =
    sampleQuestion users :: messages := rfl
  rw [hwaiting, hmessages, hallowed, bind_apply, answerEach_cons, hw]
  rfl

/-- A recipient's answer to the first question is recorded. -/
theorem recipient_recorded :
    AnswerRecorded (some 8) 0 (sampleQuestion [8])
      (finalState (answerTriggers (executorResume succeeding) sampleUsers sampleAnswer
        (awaitingAnswer [sampleQuestion [8]]))) := by
  refine (answerRecorded_iff succeeding sampleUsers sampleAnswer (awaitingAnswer [sampleQuestion [8]])
    rfl rfl rfl ?_).mpr (.inr ⟨List.not_mem_nil, 8, ?_, rfl, rfl⟩)
  · rw [sampleAnswer_resumes]
    exact List.mem_singleton_self _
  · exact List.mem_singleton_self _

/-- **An answer by role** resumes the execution and is not recorded. -/
theorem answer_by_role_not_recorded :
    (finalState (answerTriggers (executorResume succeeding) sampleUsers sampleAnswer
      (awaitingAnswer [sampleQuestion []]))).completedExecutionIds = [7] ∧
    (sampleQuestion []).isAuthorized sampleAnswer.userId sampleAnswer.roleIds = true ∧
    ¬AnswerRecorded sampleAnswer.userId 0 (sampleQuestion [])
      (finalState (answerTriggers (executorResume succeeding) sampleUsers sampleAnswer
        (awaitingAnswer [sampleQuestion []]))) := by
  refine ⟨sampleAnswer_resumes [] [], by decide, ?_⟩
  have hafter := getElem?_answerTriggers (executorResume succeeding) sampleUsers sampleAnswer
    (rfl : (awaitingAnswer [sampleQuestion []]).completedExecutionIds = []) 0
  rintro ⟨after, hmessage, hresponded⟩
  dsimp only at hafter
  rw [hmessage] at hafter
  have hsame : after = sampleQuestion [] := by
    have hfirst : (awaitingAnswer [sampleQuestion []]).messages[0]? = some (sampleQuestion []) :=
      rfl
    rw [hfirst, Option.map_some, Option.some.injEq] at hafter
    rw [hafter]
    split
    · rfl
    · rfl
  subst hsame
  obtain ⟨entry, hentry, _⟩ := hresponded
  cases hentry

end Walkoff.Analysis
