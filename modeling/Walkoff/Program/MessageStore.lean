import Walkoff.Program.Messaging
import Walkoff.Program.MessageLog
import Walkoff.Program.SseStreams

/-!
# The messages of the server

`walkoff.messaging.utils` saves the messages that workers send, `walkoff.server.endpoints.messages`
gives them to their users, and `walkoff.server.blueprints.notifications` tells the users about them
on a stream with one channel for each user.
-/

set_option autoImplicit false

namespace Walkoff.Program.Messaging

open Walkoff.Model hiding eventToProtobuf
open Walkoff.Library (OrderedDict)
open Walkoff.Library.OrderedDict (nextId)
open Walkoff.Program.ResultsCodec hiding Message

/-! ## Rows -/

/-- A row of the table `message_history`, with its time. -/
structure HistoryEntry extends MessageHistory where
  timestamp : ℤ
  deriving DecidableEq, Repr

/-- A row of the table `message`, with the ids of its users and roles and with its history. -/
structure MessageRow where
  subject : String
  body : String
  workflowExecutionId : UUID
  users : List ℤ
  roles : List ℤ
  requiresReauth : Bool
  requiresResponse : Bool
  createdAt : ℤ
  history : List HistoryEntry
  deriving DecidableEq, Repr

namespace MessageRow

/-- The row without its texts and times. -/
def stored (self : MessageRow) : StoredMessage :=
  { workflowExecutionId := self.workflowExecutionId, requiresResponse := self.requiresResponse
    users := self.users, roles := self.roles
    history := self.history.map HistoryEntry.toMessageHistory }

/-- `is_responded`. -/
def isResponded (self : MessageRow) : Option HistoryEntry :=
  if self.requiresResponse then self.history.reverse.find? (·.action = .respond) else none

/-- `user_last_read_at`. -/
def userLastReadAt (self : MessageRow) (userId : ℤ) : Option ℤ :=
  ((self.history.filter (·.userId = userId)).reverse.find? (·.action = .read)).map
    (·.timestamp)

/-- `record_user_action`. -/
def recordUserAction (self : MessageRow) (userId : ℤ) (username : String)
    (action : MessageAction) (now : ℤ) : MessageRow :=
  if userId ∈ self.users then
    if (action = .unread ∧ !self.stored.userHasRead userId) ∨
        (action = .respond ∧ (!self.requiresResponse ∨ self.isResponded.isSome)) then self
    else
      let users := if action = .delete then self.users.erase userId else self.users
      { self with
        users, history := self.history ++ [{ action, userId, username, timestamp := now }] }
  else self

end MessageRow

/-- The tables of accounts and messages. -/
structure MessageDb where
  accounts : ServerDb
  messages : OrderedDict ℤ MessageRow

/-! ## Answers and notifications -/

/-- What a request is answered with; `raised` is the answer to an exception. -/
inductive MessageResponse where
  | message (json : Dict)
  | messages (jsons : List Dict)
  | success
  | unauthorizedView
  /-- A message has been saved under an id; a worker is answered nothing. -/
  | saved (messageId : ℤ)
  | problem (status : ℕ) (title detail : String) (place : Option String)
  | raised
  deriving DecidableEq

/-- An answer with what has been published. -/
structure Reply where
  response : MessageResponse
  published : List (String × ChannelMessage)
  deriving DecidableEq

/-- An answer without a notification. -/
def Reply.quiet (response : MessageResponse) : Reply :=
  { response, published := [] }

/-- `sse_stream`. -/
def notifications : SseStream :=
  .filtered "notifications"

/-- What is pushed to the subchannels of users under the name of an event. -/
def push (event : String) (data : Dict) (users : List ℤ) : List (String × ChannelMessage) :=
  -- The data are texts, numbers and flags, which can be written.
  ((notifications.publishResponse (.dict data) (.many (users.map toString)) none
    event).toOption).getD []

section

variable (iso : ℤ → String)

/-- `utc_as_rfc_datetime`. -/
def utcAsRfcDatetime (time : ℤ) : String :=
  iso time ++ "Z"

/-- `Message.as_json` in a summary. -/
def MessageRow.summaryJson (messageId userId : ℤ) (self : MessageRow) : Dict :=
  [("id", .int messageId), ("subject", .str self.subject),
   ("created_at", .str (utcAsRfcDatetime iso self.createdAt)),
   ("awaiting_response", .bool (self.requiresResponse && self.isResponded.isNone)),
   ("is_read", .bool (self.stored.userHasRead userId))] ++
  ((self.userLastReadAt userId).map fun time =>
    ("last_read_at", PyVal.str (utcAsRfcDatetime iso time))).toList

/-- `Message.as_json`. The usernames come in the order of a set. -/
def MessageRow.asJson (messageId userId : ℤ) (self : MessageRow) : Except Exn Dict := do
  let body ← jsonLoads self.body
  pure (self.summaryJson iso messageId userId ++
    [("body", body), ("workflow_execution_id", .str self.workflowExecutionId.str),
     ("requires_reauthorization", .bool self.requiresReauth),
     ("requires_response", .bool self.requiresResponse)] ++
    (match self.isResponded with
      | some entry => [("responded_at", PyVal.str (utcAsRfcDatetime iso entry.timestamp)),
          ("responded_by", PyVal.str entry.username)]
      | none => []) ++
    [("read_by", .list ((((self.history.filter (·.action = .read)).map
      (·.username)).dedup).map .str))])

/-- `message_created_callback`. -/
def messageCreatedCallback (messageId : ℤ) (message : MessageRow) :
    List (String × ChannelMessage) :=
  push "created"
    [("id", .int messageId), ("subject", .str message.subject),
     ("created_at", .str (iso message.createdAt)), ("is_read", .bool false),
     ("awaiting_response", .bool message.requiresResponse)]
    message.users

/-- `format_read_responded_data`. -/
def formatReadRespondedData (messageId : ℤ) (username : String) (now : ℤ) : Dict :=
  [("id", .int messageId), ("username", .str username), ("timestamp", .str (iso now))]

/-- `message_read_callback`. -/
def messageReadCallback (messageId : ℤ) (message : MessageRow) (username : String) (now : ℤ) :
    List (String × ChannelMessage) :=
  push "read" (formatReadRespondedData iso messageId username now) message.users

/-- `message_responded_callback`. -/
def messageRespondedCallback (messageId : ℤ) (message : MessageRow) (username : String)
    (now : ℤ) : List (String × ChannelMessage) :=
  push "responded" (formatReadRespondedData iso messageId username now) message.users

/-! ## Saving -/

/-- `message_component.get('requires_response', False)`. -/
def componentRequiresResponse : PyVal → Except Exn Bool
  | .dict items => pure ((OrderedDict.get? "requires_response" items).getD (.bool false)).truthy
  | _ => throw .attributeError

/-- `any(...)`: it stops at the first component that requires a response. -/
def anyRequiresResponse : List PyVal → Except Exn Bool
  | [] => pure false
  | component :: body => do
    if ← componentRequiresResponse component then pure true else anyRequiresResponse body

/-- `message_component.pop('requires_response', None)`; a list has a `pop` of its own. -/
def popRequiresResponse : PyVal → Except Exn PyVal
  | .dict items => pure (.dict (OrderedDict.pop "requires_response" items))
  | .list _ => throw .typeError
  | _ => throw .attributeError

/-- `strip_requires_response_from_message_body`, with the body it changes. -/
def stripRequiresResponseFromMessageBody : PyVal → Except Exn (Bool × PyVal)
  | .list body => do
    let isActionRequired ← anyRequiresResponse body
    pure (isActionRequired, .list (← body.mapM popRequiresResponse))
  -- The keys and the characters have no `get`.
  | .dict [] => pure (false, .dict [])
  | .str "" => pure (false, .str "")
  | .dict _ | .str _ | .surrogates _ => throw .attributeError
  | _ => throw .typeError

/-- The ids in a list of JSON. -/
def idsOf : PyVal → Except Exn (List ℤ)
  | .list ids => ids.mapM fun
    | .int id => pure id
    | _ => throw .typeError
  | _ => throw .typeError

/-- `Role.query.filter(Role.id.in_(role_ids))`, with `bindable` for the ids that can be the
parameters of one query. -/
def getAllMatchingRolesForMessage (bindable : List ℤ → Bool) (roleIds : List ℤ)
    (accounts : ServerDb) : Except Exn (List ℤ) :=
  if roleIds.isEmpty then pure []
  else if bindable roleIds then
    pure (accounts.roles.keys.filter (· ∈ roleIds))
  else throw (.raised "OperationalError")

/-- `get_all_matching_users_for_message`. -/
def getAllMatchingUsersForMessage (bindable : List ℤ → Bool) (userIds roleIds : List ℤ)
    (accounts : ServerDb) : Except Exn (List ℤ) := do
  let roles ← getAllMatchingRolesForMessage bindable roleIds accounts
  let userIdSet := (accounts.users.filter fun row => row.2.roles.any (· ∈ roles)).map Prod.fst
  let userIdSearch := (userIds ++ userIdSet).dedup
  if userIdSearch.isEmpty then pure []
  else if bindable userIdSearch then
    pure (accounts.users.keys.filter (· ∈ userIdSearch))
  else throw (.raised "OperationalError")

/-- `save_message`: the row, if the message has users. -/
def saveMessage (bindable : List ℤ → Bool) (body : PyVal) (messageData : Dict)
    (workflowExecutionId : String) (requiresAction : Bool) (now : ℤ) (accounts : ServerDb) :
    Except Exn (Option MessageRow) := do
  let userIds ← idsOf (← subscript "users" (.dict messageData))
  let roleIds ← idsOf (← subscript "roles" (.dict messageData))
  let users ← getAllMatchingUsersForMessage bindable userIds roleIds accounts
  let roles ← getAllMatchingRolesForMessage bindable roleIds accounts
  if users.isEmpty then pure none
  else
    let subject ← match messageData.get? "subject" with
      | none => pure ""
      | some (.str subject) => pure subject
      | some _ => throw (.raised "StatementError")
    let requiresReauth ← subscript "requires_reauth" (.dict messageData)
    let some executionId := UUID.parse workflowExecutionId | throw (.raised "StatementError")
    pure (some
      { subject, body := ← body.dumps, workflowExecutionId := executionId, users, roles
        requiresReauth := requiresReauth.truthy, requiresResponse := requiresAction
        createdAt := now, history := [] })

/-- `save_message_callback`: the row it saves. -/
def saveMessageCallback (bindable : List ℤ → Bool) (data : Dict) (now : ℤ)
    (accounts : ServerDb) : Except Exn (Option MessageRow) := do
  let workflowData ← subscript "workflow" (.dict data)
  let messageData ← subscript "message" (.dict data)
  let body ← subscript "body" messageData
  let (requiresAction, body) ← stripRequiresResponseFromMessageBody body
  let executionId ← subscriptText "execution_id" workflowData
  match messageData with
  | .dict items => saveMessage bindable body items executionId requiresAction now accounts
  | _ => throw .typeError

/-- The row that a message on the results socket leads to. -/
def receiveMessage (bindable : List ℤ → Bool) (message : ResultsCodec.Message) (now : ℤ)
    (accounts : ServerDb) : Except Exn (Option MessageRow) := do
  match ← toEventCallback message with
  | some (.sendMessage, _, data) => saveMessageCallback bindable data now accounts
  | _ => pure none

/-- An app sends a message, which is received and saved. -/
def deliver (bindable : List ℤ → Bool) (sent : SentMessage) (now : ℤ) (db : MessageDb) :
    Reply × MessageDb :=
  match sent.toProtobuf.bind fun message => receiveMessage bindable message now db.accounts with
  | .error _ => (.quiet .raised, db)
  | .ok none => (.quiet .success, db)
  | .ok (some row) =>
    let messageId := nextId db.messages
    ({ response := .saved messageId, published := messageCreatedCallback iso messageId row },
     { db with messages := db.messages.set messageId row })

/-! ## The endpoints -/

/-- `sequence[start:stop]`. -/
def slice {α : Type} (start stop : ℤ) (sequence : List α) : List α :=
  let position (i : ℤ) : ℕ :=
    (if i < 0 then max 0 (i + sequence.length) else min i sequence.length).toNat
  (sequence.take (position stop)).drop (position start)

/-- `user.messages`. -/
def messagesOfUser (userId : ℤ) (db : MessageDb) : OrderedDict ℤ MessageRow :=
  db.messages.filter (userId ∈ ·.2.users)

/-- `permissions_accepted_for_resources` of an endpoint for messages, with the role ids among the
claims of the token. -/
def messagesPermitted (permission : String) (userRoles : List ℤ) (db : MessageDb) : Bool :=
  permissionsAcceptedForResources db.accounts.roles [⟨"messages", [permission]⟩] userRoles

/-- `get_all_messages`. -/
def getAllMessages (itemsPerPage : ℤ) (userId : ℤ) (userRoles : List ℤ) (page : ℤ)
    (db : MessageDb) : Reply :=
  if !messagesPermitted "read" userRoles db then .quiet .unauthorizedView
  else match db.accounts.users.get? userId with
  | none => .quiet .raised
  | some _ =>
    let messages := slice ((page - 1) * itemsPerPage) (page * itemsPerPage)
      (messagesOfUser userId db)
    .quiet (.messages (messages.map fun row => row.2.summaryJson iso row.1 userId))

/-- `get_message`. -/
def getMessage (userId : ℤ) (userRoles : List ℤ) (messageId now : ℤ) (db : MessageDb) :
    Reply × MessageDb :=
  if !messagesPermitted "read" userRoles db then (.quiet .unauthorizedView, db)
  else match db.messages.get? messageId with
  | none => (.quiet (.problem 404 "Cannot read message."
      s!"Message {messageId} does not exist." none), db)
  | some message =>
    match db.accounts.users.get? userId, decide (userId ∈ message.users) with
    | some user, true =>
      let message := message.recordUserAction userId user.username .read now
      let published := messageReadCallback iso messageId message user.username now
      let db := { db with messages := db.messages.set messageId message }
      match message.asJson iso messageId userId with
      | .ok json => ({ response := .message json, published }, db)
      | .error _ => ({ response := .raised, published }, db)
    | _, _ => (.quiet (.problem 403 "message" "read"
        (some s!"User is not allowed to access message {messageId}")), db)

/-- `MessageAction.convert_string`. -/
def convertString : String → Option MessageAction
  | "read" => some .read
  | "unread" => some .unread
  | "delete" => some .delete
  | "respond" => some .respond
  | _ => none

/-- `act_on_message_helper`. -/
def actOnMessageHelper (userId : ℤ) (action : MessageAction) (ids : List ℤ) (now : ℤ)
    (db : MessageDb) : Reply × MessageDb :=
  match db.accounts.users.get? userId with
  | none => (.quiet (.problem 404 "Cannot act on messages."
      s!"User {userId} does not exist, so messages cannot be accessed." none), db)
  | some user =>
    let act (message : MessageRow) := message.recordUserAction userId user.username action now
    let chosen := (messagesOfUser userId db).filter (·.1 ∈ ids)
    let published := if action = .read then
        chosen.flatMap fun row =>
          messageReadCallback iso row.1 (act row.2) user.username now
      else []
    ({ response := .success, published },
     { db with messages := db.messages.map fun row =>
        (row.1, if userId ∈ row.2.users ∧ row.1 ∈ ids then act row.2 else row.2) })

/-- The permission of `delete_message_action` and of `other_action_func`. -/
def permissionFor (action : MessageAction) : String :=
  if action = .delete then "delete" else "update"

/-- `act_on_messages`. -/
def actOnMessages (userId : ℤ) (userRoles : List ℤ) (action : String) (ids : List ℤ) (now : ℤ)
    (db : MessageDb) : Reply × MessageDb :=
  let unknown (action : String) := Reply.quiet (.problem 404 "Unknown action on messages."
    ("Unknown action: " ++ action ++ ". Possible actions are ['read', 'unread', 'delete'].") none)
  match convertString action with
  | none => (unknown "None", db)
  | some .respond => (unknown "MessageAction.respond", db)
  | some action =>
    if messagesPermitted (permissionFor action) userRoles db then
      actOnMessageHelper iso userId action ids now db
    else (.quiet .unauthorizedView, db)

/-- `log_action_taken_on_message`, for an execution that a user has resumed. -/
def logActionTakenOnMessage (userId : Option ℤ) (executionId : UUID) (now : ℤ)
    (db : MessageDb) : Reply × MessageDb :=
  match db.messages.find? (·.2.workflowExecutionId = executionId) with
  | none => (.quiet .success, db)
  | some (messageId, message) =>
    match message.requiresResponse, userId.bind fun id =>
        (db.accounts.users.get? id).map (id, ·) with
    | true, some (id, user) =>
      let message := message.recordUserAction id user.username .respond now
      ({ response := .success
         published := messageRespondedCallback iso messageId message user.username now },
       { db with messages := db.messages.set messageId message })
    | _, _ => (.quiet .success, db)

/-- The accounts are changed: a user or a role that is deleted is taken out of the associations
with messages. -/
def changeAccounts (accounts : ServerDb) (db : MessageDb) : MessageDb :=
  { accounts
    messages := db.messages.map fun row =>
      (row.1, { row.2 with
        users := row.2.users.filter (· ∈ accounts.users.keys)
        roles := row.2.roles.filter (· ∈ accounts.roles.keys) }) }

/-- What can happen to the messages. -/
inductive MessageOp where
  | send (sent : SentMessage)
  | getAllMessages (userId : ℤ) (userRoles : List ℤ) (page : ℤ)
  | getMessage (userId : ℤ) (userRoles : List ℤ) (messageId : ℤ)
  | actOnMessages (userId : ℤ) (userRoles : List ℤ) (action : String) (ids : List ℤ)
  | respond (userId : Option ℤ) (executionId : UUID)
  | changeAccounts (accounts : ServerDb)

/-- The answer to an operation at some time, and the tables after it. -/
def serveMessages (bindable : List ℤ → Bool) (itemsPerPage : ℤ) (now : ℤ) (db : MessageDb) :
    MessageOp → Reply × MessageDb
  | .send sent => deliver iso bindable sent now db
  | .getAllMessages userId userRoles page =>
    (Messaging.getAllMessages iso itemsPerPage userId userRoles page db, db)
  | .getMessage userId userRoles messageId =>
    Messaging.getMessage iso userId userRoles messageId now db
  | .actOnMessages userId userRoles action ids =>
    Messaging.actOnMessages iso userId userRoles action ids now db
  | .respond userId executionId => logActionTakenOnMessage iso userId executionId now db
  | .changeAccounts accounts => (.quiet .success, Messaging.changeAccounts accounts db)

end

end Walkoff.Program.Messaging
