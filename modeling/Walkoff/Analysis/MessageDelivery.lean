import Walkoff.Analysis.EventRoundTrip
import Walkoff.Program.MessageStore

/-!
# What becomes of a message

A message that an app sends is written as JSON, sent to the server, stripped of its flags and saved
for the users it is addressed to. What a user is given of it reads as the message that was sent.
-/

set_option autoImplicit false

namespace Walkoff.Analysis

open Walkoff.Model hiding eventToProtobuf
open Walkoff.Model.JsonText
open Walkoff.Program Walkoff.Program.Messaging
open Walkoff.Program.ResultsCodec hiding Message
open Walkoff.Library (OrderedDict Except.bind_eq_ok)

/-! ## Components -/

/-- A component as it is stored: without the flag. -/
def storedComponent (component : MessageComponent) : Dict :=
  [("type", .str component.messageType), ("data", .dict component.getComponentJson)]

/-- The body of a message as it is stored. -/
def storedBody (message : Messaging.Message) : PyVal :=
  .list (message.body.map fun component => .dict (storedComponent component))

/-- What is read of a component: a title that is empty is none, and the flag of a component of the
base class is its default. -/
def receivedComponent : MessageComponent → MessageComponent
  | .base _ => .base false
  | .text value => .text value
  | .url address title => .url address (if title.truthy then title else .none)
  | .acceptDecline => .acceptDecline

/-- What is read of a message: no subject is an empty one. -/
def receivedMessage (message : Messaging.Message) : Messaging.Message :=
  { subject := some (message.subject.getD ""), body := message.body.map receivedComponent }

/-- The tag of a text. -/
@[simp] theorem tag_text : convertClassNameToTag "Text" = "text" := by decide

/-- The tag of a URL. -/
@[simp] theorem tag_url : convertClassNameToTag "Url" = "url" := by decide

/-- The tag of a question to accept or decline. -/
@[simp] theorem tag_acceptDecline :
    convertClassNameToTag "AcceptDecline" = "accept_decline" := by decide

/-- A stored component is read under the class that its tag names. -/
theorem fromJson_storedComponent (component : MessageComponent) :
    MessageComponent.fromJson (.dict (storedComponent component)) =
      .ok (receivedComponent component) := by
  have hread : ∀ json, MessageComponent.fromJson
      (.dict [("type", .str component.messageType), ("data", json)]) =
        (MessageComponent.classOf (.str component.messageType)).bind fun read => read json :=
    fun _ => rfl
  rw [storedComponent, hread]
  cases component with
  | base requiresResponse =>
    simp [MessageComponent.classOf, MessageComponent.messageType, MessageComponent.registry,
      OrderedDict.get?, receivedComponent]
    rfl
  | text value =>
    simp [MessageComponent.classOf, MessageComponent.messageType, MessageComponent.registry,
      OrderedDict.get?, receivedComponent]
    rfl
  | url address title =>
    simp [MessageComponent.classOf, MessageComponent.messageType, MessageComponent.registry,
      OrderedDict.get?, receivedComponent]
    cases htitle : title.truthy <;> simp [MessageComponent.getComponentJson, htitle] <;> rfl
  | acceptDecline =>
    simp [MessageComponent.classOf, MessageComponent.messageType, MessageComponent.registry,
      OrderedDict.get?, receivedComponent]
    rfl

/-- A stored body is read component by component. -/
theorem mapM_fromJson_storedBody (body : List MessageComponent) :
    (body.map fun component => PyVal.dict (storedComponent component)).mapM
      MessageComponent.fromJson = .ok (body.map receivedComponent) := by
  induction body with
  | nil => rfl
  | cons component body ih =>
    rw [List.map_cons, List.map_cons]
    exact Library.Except.mapM_cons_ok (fromJson_storedComponent component) ih

/-! ## Composing -/

/-- A missing subject is the empty one. -/
theorem subjectJson_getD (message : Messaging.Message) :
    message.subjectJson.getD "" = message.subject.getD "" := by
  unfold Messaging.Message.subjectJson
  cases message.subject with
  | none => rfl
  | some subject => by_cases h : subject = "" <;> simp [h, Option.filter]

/-- A message as the app that composes it means it. -/
def Composition.message : Composition → Messaging.Message
  | .createEmpty subject => { subject, body := [] }
  | .appendText e text => { message e with body := (message e).body ++ [.text text] }
  | .appendUrl e url title => { message e with body := (message e).body ++ [.url url title] }
  | .appendAcceptDecline e => { message e with body := (message e).body ++ [.acceptDecline] }
  | .combine e₁ e₂ => { message e₁ with body := (message e₁).body ++ (message e₂).body }
  | .setSubject e subject => { message e with subject }

/-- The flag of a component is that of its class. -/
def KeepsFlag (component : MessageComponent) : Prop :=
  component ≠ .base true

/-- A message as its JSON is read. -/
def reread (message : Messaging.Message) : Messaging.Message :=
  { subject := message.subjectJson, body := message.body.map receivedComponent }

/-- Two messages with the same JSON, part by part. -/
structure Alike (message message' : Messaging.Message) : Prop where
  subject : message.subjectJson = message'.subjectJson
  body : message.body.map MessageComponent.asJson = message'.body.map MessageComponent.asJson

/-- Alike messages have the same body. -/
theorem Alike.bodyJson {message message' : Messaging.Message} (h : Alike message message') :
    message.bodyJson = message'.bodyJson := by
  have hbody := congrArg (fun jsons => PyVal.list (jsons.map PyVal.dict)) h.body
  simpa [Messaging.Message.bodyJson, List.map_map, Function.comp_def] using hbody

/-- Alike messages have the same JSON. -/
theorem Alike.asJson {message message' : Messaging.Message} (h : Alike message message') :
    message.asJson = message'.asJson := by
  rw [Messaging.Message.asJson, Messaging.Message.asJson, h.bodyJson, h.subject]

/-- A component that keeps its flag is shown as before when it is read. -/
theorem asJson_receivedComponent {component : MessageComponent} (h : KeepsFlag component) :
    (receivedComponent component).asJson = component.asJson := by
  cases component with
  | base requiresResponse =>
    cases requiresResponse with
    | true => exact absurd rfl h
    | false => rfl
  | text value => rfl
  | url address title =>
    rw [receivedComponent]
    cases htitle : title.truthy with
    | true => rw [if_pos rfl]
    | false =>
      have hnone : PyVal.none.truthy = false := rfl
      simp [MessageComponent.asJson, MessageComponent.getComponentJson,
        MessageComponent.messageType, MessageComponent.requiresResponse, htitle, hnone]
  | acceptDecline => rfl

/-- The components of a composed message keep their flags. -/
theorem keepsFlag_message (e : Composition) :
    ∀ component ∈ (Composition.message e).body, KeepsFlag component := by
  induction e with
  | createEmpty subject => simp [Composition.message]
  | appendText e text ih =>
    simp only [Composition.message, List.forall_mem_append, List.forall_mem_singleton]
    exact ⟨ih, MessageComponent.noConfusion⟩
  | appendUrl e url title ih =>
    simp only [Composition.message, List.forall_mem_append, List.forall_mem_singleton]
    exact ⟨ih, MessageComponent.noConfusion⟩
  | appendAcceptDecline e ih =>
    simp only [Composition.message, List.forall_mem_append, List.forall_mem_singleton]
    exact ⟨ih, MessageComponent.noConfusion⟩
  | combine e₁ e₂ ih₁ ih₂ =>
    simp only [Composition.message, List.forall_mem_append]
    exact ⟨ih₁, ih₂⟩
  | setSubject e subject ih => exact ih

/-- A message keeps its subject when it is read. -/
theorem subjectJson_reread (message : Messaging.Message) :
    (reread message).subjectJson = message.subjectJson := by
  unfold reread Messaging.Message.subjectJson
  cases message.subject with
  | none => rfl
  | some subject => by_cases h : subject = "" <;> simp [h, Option.filter]

/-- A message whose components keep their flags is read as one alike. -/
theorem alike_reread {message : Messaging.Message}
    (h : ∀ component ∈ message.body, KeepsFlag component) : Alike (reread message) message where
  subject := subjectJson_reread message
  body := by
    rw [reread, List.map_map]
    exact List.map_congr_left fun component hmem => asJson_receivedComponent (h component hmem)

/-- A body is read component by component. -/
theorem mapM_fromJson_asJson (body : List MessageComponent) :
    (body.map fun component => PyVal.dict component.asJson).mapM MessageComponent.fromJson =
      .ok (body.map receivedComponent) := by
  induction body with
  | nil => rfl
  | cons component body ih =>
    have hread : MessageComponent.fromJson (.dict component.asJson) =
        MessageComponent.fromJson (.dict (storedComponent component)) := rfl
    rw [List.map_cons, List.map_cons]
    exact Library.Except.mapM_cons_ok (hread.trans (fromJson_storedComponent component)) ih

/-- The JSON of a message is read as the message. -/
theorem fromJson_asJson (message : Messaging.Message) :
    Messaging.Message.fromJson message.asJson = .ok (reread message) := by
  have hsubject : Messaging.Message.subjectOf message.asJson = .ok message.subjectJson := by
    unfold Messaging.Message.subjectOf Messaging.Message.asJson
    cases message.subjectJson <;> rfl
  rw [Messaging.Message.fromJson, hsubject]
  show ((message.body.map _).mapM MessageComponent.fromJson).bind _ = _
  rw [mapM_fromJson_asJson]
  rfl

/-- What an action makes of a message that it reads is what it makes of the message itself. -/
theorem append_asJson {message : Messaging.Message}
    (h : ∀ component ∈ message.body, KeepsFlag component) (component : MessageComponent) :
    appendMessageComponent component message.asJson =
      .ok (Messaging.Message.asJson { message with body := message.body ++ [component] }) := by
  have halike := alike_reread h
  rw [appendMessageComponent, fromJson_asJson]
  refine congrArg Except.ok (Alike.asJson ⟨halike.subject, ?_⟩)
  rw [List.map_append, List.map_append, halike.body]

/-- Combining the JSON of two messages gives that of the combined message. -/
theorem combine_asJson {message₁ message₂ : Messaging.Message}
    (h₁ : ∀ component ∈ message₁.body, KeepsFlag component)
    (h₂ : ∀ component ∈ message₂.body, KeepsFlag component) :
    combineMessages message₁.asJson message₂.asJson =
      .ok (Messaging.Message.asJson { message₁ with body := message₁.body ++ message₂.body }) := by
  have halike₁ := alike_reread h₁
  have halike₂ := alike_reread h₂
  rw [combineMessages, fromJson_asJson, fromJson_asJson]
  refine congrArg Except.ok (Alike.asJson ⟨halike₁.subject, ?_⟩)
  rw [List.map_append, List.map_append, halike₁.body, halike₂.body]

/-- Setting the subject in the JSON gives that of the message with the subject. -/
theorem setSubject_asJson {message : Messaging.Message}
    (h : ∀ component ∈ message.body, KeepsFlag component) (subject : Option String) :
    setMessageSubject subject message.asJson =
      .ok (Messaging.Message.asJson { message with subject }) := by
  rw [setMessageSubject, fromJson_asJson]
  exact congrArg Except.ok (Alike.asJson ⟨rfl, (alike_reread h).body⟩)

/-- The actions compose the message that they are meant to compose. -/
theorem run_eq (e : Composition) : e.run = .ok (Composition.message e).asJson := by
  induction e with
  | createEmpty subject => rfl
  | appendText e text ih =>
    rw [Composition.run, ih]
    exact append_asJson (keepsFlag_message e) _
  | appendUrl e url title ih =>
    rw [Composition.run, ih]
    exact append_asJson (keepsFlag_message e) _
  | appendAcceptDecline e ih =>
    rw [Composition.run, ih]
    exact append_asJson (keepsFlag_message e) _
  | combine e₁ e₂ ih₁ ih₂ =>
    rw [Composition.run, ih₁, ih₂]
    exact combine_asJson (keepsFlag_message e₁) (keepsFlag_message e₂)
  | setSubject e subject ih =>
    rw [Composition.run, ih]
    exact setSubject_asJson (keepsFlag_message e) subject

/-- Reading a component twice is reading it once. -/
theorem receivedComponent_idem (component : MessageComponent) :
    receivedComponent (receivedComponent component) = receivedComponent component := by
  cases component with
  | url address title => cases htitle : title.truthy <;> simp [receivedComponent, htitle]
  | base requiresResponse => rfl
  | text value => rfl
  | acceptDecline => rfl

/-- **A message is composed as it is meant**: however the actions of a workflow compose a message
and hand it on as JSON, the message that is sent is put on the socket as the message that was meant,
and its recipients read what they would read of that message. -/
theorem composition_sent (e : Composition) (users roles : Option (List ℤ))
    (context : WorkflowContext) (user : Option String) :
    ∃ sent, (e.run.bind fun json => sendFullMessage users roles context user json) = .ok sent ∧
      sent.toProtobuf = SentMessage.toProtobuf
        { message := Composition.message e, users, roles, requiresReauth := false, context, user } ∧
      receivedMessage sent.message = receivedMessage (Composition.message e) := by
  have halike := alike_reread (keepsFlag_message e)
  let sent : SentMessage :=
    { message := reread (Composition.message e)
      users, roles, requiresReauth := false, context, user }
  refine ⟨sent, ?_, ?_, ?_⟩
  · rw [run_eq]
    show (sendFullMessage users roles context user _) = _
    rw [sendFullMessage, fromJson_asJson]
    rfl
  · rw [SentMessage.toProtobuf, SentMessage.toProtobuf, halike.subject, halike.bodyJson]
  · have hsubject : (reread (Composition.message e)).subject.getD "" =
        (Composition.message e).subject.getD "" := subjectJson_getD _
    have hbody : (reread (Composition.message e)).body.map receivedComponent =
        (Composition.message e).body.map receivedComponent := by
      simp [reread, Function.comp_def, receivedComponent_idem]
    show receivedMessage (reread (Composition.message e)) = _
    rw [receivedMessage, hsubject, hbody, receivedMessage]

/-! ## The flags -/

/-- A body requires a response exactly if a component does. -/
theorem anyRequiresResponse_bodyJson (body : List MessageComponent) :
    anyRequiresResponse (body.map fun component => .dict component.asJson) =
      .ok (body.any (·.requiresResponse)) := by
  induction body with
  | nil => rfl
  | cons component body ih =>
    have hfirst : componentRequiresResponse (.dict component.asJson) =
        .ok component.requiresResponse := rfl
    rw [List.map_cons, anyRequiresResponse, hfirst, List.any_cons]
    show (if component.requiresResponse = true then _ else _) = _
    cases component.requiresResponse with
    | true => rfl
    | false => exact ih

/-- The flags are taken out of every component. -/
theorem mapM_popRequiresResponse (body : List MessageComponent) :
    (body.map fun component => PyVal.dict component.asJson).mapM popRequiresResponse =
      .ok (body.map fun component => .dict (storedComponent component)) := by
  induction body with
  | nil => rfl
  | cons component body ih =>
    rw [List.map_cons, List.map_cons]
    exact Library.Except.mapM_cons_ok rfl ih

/-- A body is stored without its flags, which are summed up in one. -/
theorem strip_bodyJson (message : Messaging.Message) :
    stripRequiresResponseFromMessageBody message.bodyJson =
      .ok (message.body.any (·.requiresResponse), storedBody message) := by
  rw [Messaging.Message.bodyJson, stripRequiresResponseFromMessageBody,
    anyRequiresResponse_bodyJson, mapM_popRequiresResponse]
  rfl

/-- Without its flags a body is still JSON. -/
theorem isJson_storedBody {message : Messaging.Message} (h : isJson message.bodyJson = true) :
    isJson (storedBody message) = true := by
  have hall : ∀ body : List MessageComponent,
      isJsonList (body.map fun component => .dict component.asJson) = true →
      isJsonList (body.map fun component => .dict (storedComponent component)) = true := by
    intro body
    induction body with
    | nil => exact fun _ => rfl
    | cons component body ih =>
      simp only [List.map_cons, isJsonList, Bool.and_eq_true]
      rintro ⟨hcomponent, hbody⟩
      refine ⟨?_, ih hbody⟩
      simpa [MessageComponent.asJson, storedComponent, isJson, isJsonItems] using hcomponent
  exact hall _ h

/-! ## Sending -/

/-- The users of a message and the roles it is sent to. -/
structure Addressees where
  users : List ℤ
  roles : List ℤ

/-- Whom a message is sent to. -/
def addressees (sent : SentMessage) : Addressees :=
  { users := sent.users.getD [], roles := sent.roles.getD [] }

/-- The values of an app that can be written as JSON are JSON. -/
def Representable (sent : SentMessage) : Prop :=
  JsonIfDumps sent.message.bodyJson

/-- What a message that has been sent is read as on the other side of the socket. -/
theorem callback_of_sent {sent : SentMessage} (hsent : Representable sent)
    {message : ResultsCodec.Message} (h : sent.toProtobuf = .ok message) :
    isJson sent.message.bodyJson = true ∧
    toEventCallback message = .ok (some (.sendMessage, some (MessageToDict.actionSender {}),
      [("workflow", .dict (MessageToDict.workflowSender (addWorkflowToProto sent.context))),
       ("message", .dict
        [("users", .list ((addressees sent).users.map .int)),
         ("roles", .list ((addressees sent).roles.map .int)),
         ("requires_reauth", .bool sent.requiresReauth), ("body", sent.message.bodyJson),
         ("subject", .str (sent.message.subject.getD ""))])])) := by
  obtain ⟨packet, hpacket, hmessage⟩ := Except.bind_eq_ok.mp h
  obtain ⟨text, htext, husersRoles⟩ := Except.bind_eq_ok.mp hpacket
  obtain ⟨users, husers, hrolesOnly⟩ := Except.bind_eq_ok.mp husersRoles
  obtain ⟨roles, hroles, hproto⟩ := Except.bind_eq_ok.mp hrolesOnly
  obtain ⟨rfl, -⟩ := int32Fields_eq_ok.mp husers
  obtain ⟨rfl, -⟩ := int32Fields_eq_ok.mp hroles
  have hjson : isJson sent.message.bodyJson = true := hsent text htext
  have hload : jsonLoads text = .ok sent.message.bodyJson := by
    rw [jsonLoads, loads_dumps hjson htext]
    rfl
  obtain rfl := Except.ok.inj hproto
  obtain rfl := Except.ok.inj hmessage
  refine ⟨hjson, ?_⟩
  rw [toEventCallback_eq]
  show Except.map _ (((jsonLoads text).bind fun body => _).bind _) = _
  rw [hload, ← subjectJson_getD]
  rfl

/-! ## Saving -/

/-- A user with an account to whom a message is sent, by the id or by the id of a role. -/
def IsAddressee (sent : SentMessage) (accounts : ServerDb) (userId : ℤ) : Prop :=
  ∃ user, accounts.users.get? userId = some user ∧
    (userId ∈ (addressees sent).users ∨
      ∃ roleId ∈ user.roles, roleId ∈ accounts.roles.keys ∧ roleId ∈ (addressees sent).roles)

/-- The row of a message that has been sent. -/
structure SavedAs (sent : SentMessage) (accounts : ServerDb) (row : MessageRow) : Prop where
  subject : row.subject = sent.message.subject.getD ""
  body : jsonLoads row.body = .ok (storedBody sent.message)
  requiresResponse : row.requiresResponse = sent.message.body.any (·.requiresResponse)
  history : row.history = []
  nodup : row.users.Nodup
  users : ∀ userId, userId ∈ row.users ↔ IsAddressee sent accounts userId

/-- A list of integers is read as ids. -/
theorem idsOf_map_int (ids : List ℤ) : idsOf (.list (ids.map .int)) = .ok ids := by
  show (ids.map PyVal.int).mapM _ = _
  induction ids with
  | nil => rfl
  | cons id ids ih => exact Library.Except.mapM_cons_ok rfl ih

section

variable {bindable : List ℤ → Bool} {accounts : ServerDb}

/-- The matching roles are the existing ones among those addressed. -/
theorem mem_matchingRoles {roleIds roles : List ℤ}
    (h : getAllMatchingRolesForMessage bindable roleIds accounts = .ok roles) (roleId : ℤ) :
    roleId ∈ roles ↔ roleId ∈ accounts.roles.keys ∧ roleId ∈ roleIds := by
  unfold getAllMatchingRolesForMessage at h
  split_ifs at h with hempty hbindable
  · obtain rfl := Except.ok.inj h
    obtain rfl := List.isEmpty_iff.mp hempty
    simp
  · obtain rfl := Except.ok.inj h
    simp

/-- The ids of the users who have one of some roles. -/
def usersWith (roles : List ℤ) (accounts : ServerDb) : List ℤ :=
  (accounts.users.filter fun row => row.2.roles.any (· ∈ roles)).map Prod.fst

/-- The users with roles are those that have one of them. -/
theorem mem_usersWith (hkeys : accounts.users.keys.Nodup) {roles : List ℤ} {userId : ℤ} :
    userId ∈ usersWith roles accounts ↔
      ∃ user, accounts.users.get? userId = some user ∧ ∃ roleId ∈ user.roles, roleId ∈ roles := by
  constructor
  · intro hmem
    obtain ⟨⟨id, user⟩, hrow, rfl⟩ := List.mem_map.mp hmem
    obtain ⟨hrow, hany⟩ := List.mem_filter.mp hrow
    exact ⟨user, OrderedDict.get?_of_mem hkeys hrow, by simpa using hany⟩
  · rintro ⟨user, huser, hany⟩
    refine List.mem_map.mpr ⟨(userId, user), ?_, rfl⟩
    exact List.mem_filter.mpr ⟨OrderedDict.mem_of_get? huser, by simpa using hany⟩

/-- The matching users are those addressed themselves or by a role. -/
theorem matchingUsers_eq {userIds roleIds users : List ℤ}
    (h : getAllMatchingUsersForMessage bindable userIds roleIds accounts = .ok users) :
    ∃ roles, getAllMatchingRolesForMessage bindable roleIds accounts = .ok roles ∧
      users = accounts.users.keys.filter (· ∈ (userIds ++ usersWith roles accounts).dedup) := by
  obtain ⟨roles, hroles, h⟩ := Except.bind_eq_ok.mp h
  refine ⟨roles, hroles, ?_⟩
  change (if (userIds ++ usersWith roles accounts).dedup.isEmpty = true then _ else _) = _ at h
  split_ifs at h with hempty hbindable
  · rw [List.isEmpty_iff.mp hempty]
    simpa using (Except.ok.inj h).symm
  · exact (Except.ok.inj h).symm

/-- The users of a message are the users it is sent to and the users of its roles. -/
theorem mem_matchingUsers (hkeys : accounts.users.keys.Nodup) {userIds roleIds users : List ℤ}
    (h : getAllMatchingUsersForMessage bindable userIds roleIds accounts = .ok users)
    (userId : ℤ) :
    userId ∈ users ↔ ∃ user, accounts.users.get? userId = some user ∧
      (userId ∈ userIds ∨
        ∃ roleId ∈ user.roles, roleId ∈ accounts.roles.keys ∧ roleId ∈ roleIds) := by
  obtain ⟨roles, hroles, rfl⟩ := matchingUsers_eq h
  rw [List.mem_filter, decide_eq_true_iff, List.mem_dedup, List.mem_append, mem_usersWith hkeys,
    OrderedDict.mem_keys_iff, Option.isSome_iff_exists]
  simp only [mem_matchingRoles hroles]
  constructor
  · rintro ⟨⟨user, huser⟩, huserId | ⟨user', huser', hroleId⟩⟩
    · exact ⟨user, huser, .inl huserId⟩
    · exact ⟨user', huser', .inr hroleId⟩
  · rintro ⟨user, huser, huserId | hroleId⟩
    · exact ⟨⟨user, huser⟩, .inl huserId⟩
    · exact ⟨⟨user, huser⟩, .inr ⟨user, huser, hroleId⟩⟩

/-- The data of a callback about a message that has been sent. -/
def sentData (sent : SentMessage) : Dict :=
  [("users", .list ((addressees sent).users.map .int)),
   ("roles", .list ((addressees sent).roles.map .int)),
   ("requires_reauth", .bool sent.requiresReauth), ("body", sent.message.bodyJson),
   ("subject", .str (sent.message.subject.getD ""))]

/-- The callback saves what was sent. -/
theorem saveMessageCallback_sent (sent : SentMessage) (now : ℤ) :
    saveMessageCallback bindable
      [("workflow", .dict (MessageToDict.workflowSender (addWorkflowToProto sent.context))),
       ("message", .dict (sentData sent))] now accounts =
      saveMessage bindable (storedBody sent.message) (sentData sent) sent.context.executionId.str
        (sent.message.body.any (·.requiresResponse)) now accounts := by
  have hbody : subscript "body" (.dict (sentData sent)) = .ok sent.message.bodyJson := rfl
  have hid : subscriptText "execution_id"
      (.dict (MessageToDict.workflowSender (addWorkflowToProto sent.context))) =
        .ok sent.context.executionId.str := rfl
  simp only [saveMessageCallback]
  rw [show subscript "workflow" _ = .ok _ from rfl, show subscript "message" _ = .ok _ from rfl]
  simp only [bind, Except.bind, hbody, strip_bodyJson, hid]

/-- A sent message is saved for the users it is addressed to. -/
theorem saveMessage_sent (sent : SentMessage) (body : PyVal) (requiresAction : Bool) (now : ℤ) :
    saveMessage bindable body (sentData sent) sent.context.executionId.str requiresAction now
      accounts =
      (getAllMatchingUsersForMessage bindable (addressees sent).users (addressees sent).roles
        accounts).bind fun users =>
      (getAllMatchingRolesForMessage bindable (addressees sent).roles accounts).bind fun roles =>
      if users.isEmpty then pure none
      else body.dumps.bind fun text => pure (some
        { subject := sent.message.subject.getD "", body := text
          workflowExecutionId := sent.context.executionId, users, roles
          requiresReauth := sent.requiresReauth, requiresResponse := requiresAction
          createdAt := now, history := [] }) := by
  have hsubject : OrderedDict.get? "subject" (sentData sent) =
      some (.str (sent.message.subject.getD "")) := rfl
  unfold saveMessage
  rw [show subscript "users" _ = .ok _ from rfl, show subscript "roles" _ = .ok _ from rfl,
    show subscript "requires_reauth" _ = .ok (.bool sent.requiresReauth) from rfl, hsubject,
    UUID.parse_str]
  simp only [bind, Except.bind, idsOf_map_int, PyVal.truthy]
  rfl

/-- **A message is saved as it was sent**, for its recipients. -/
theorem savedAs_of_receive (hkeys : accounts.users.keys.Nodup) {sent : SentMessage}
    (hsent : Representable sent) {message : ResultsCodec.Message}
    (hmessage : sent.toProtobuf = .ok message) {now : ℤ} {row : MessageRow}
    (h : receiveMessage bindable message now accounts = .ok (some row)) :
    SavedAs sent accounts row := by
  obtain ⟨hjson, hcallback⟩ := callback_of_sent hsent hmessage
  rw [receiveMessage, hcallback] at h
  replace h := ((saveMessageCallback_sent sent now).trans (saveMessage_sent _ _ _ _)).symm.trans h
  obtain ⟨users, husers, h⟩ := Except.bind_eq_ok.mp h
  obtain ⟨roles, -, h⟩ := Except.bind_eq_ok.mp h
  cases hempty : users.isEmpty with
  | true =>
    rw [hempty] at h
    cases h
  | false =>
    rw [hempty] at h
    obtain ⟨text, htext, h⟩ := Except.bind_eq_ok.mp h
    obtain rfl := Option.some.inj (Except.ok.inj h)
    refine ⟨rfl, ?_, rfl, rfl, ?_, mem_matchingUsers hkeys husers⟩
    · rw [jsonLoads, loads_dumps (isJson_storedBody hjson) htext]
      rfl
    · obtain ⟨roles, -, rfl⟩ := matchingUsers_eq husers
      exact hkeys.filter _

end

end Walkoff.Analysis
