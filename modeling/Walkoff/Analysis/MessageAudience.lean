import Walkoff.Analysis.MessageDelivery
import Walkoff.Analysis.ScheduledJobs
import Walkoff.Library.Transition

/-!
# Who sees a message

A message is for the users it was sent to who have not deleted it and whose accounts have not been
deleted. This module says that nobody else is given it or told about it, in any order in which
messages are sent, read and deleted and accounts are changed, and that those it is for read it as it
was sent if their roles let them read messages.
-/

set_option autoImplicit false

namespace Walkoff.Analysis

open Walkoff.Model hiding eventToProtobuf
open Walkoff.Model.JsonText
open Walkoff.Program Walkoff.Program.Messaging
open Walkoff.Program.ResultsCodec hiding Message
open Walkoff.Library (OrderedDict Run Except.bind_eq_ok)
open Walkoff.Library.OrderedDict (nextId)

/-! ## The run -/

/-- An operation with its time and its answer, and the accounts that it finds. -/
structure MessageTurn where
  op : MessageOp
  now : ℤ
  accounts : ServerDb
  reply : Reply

/-- One operation after the other. -/
def MessageStep (iso : ℤ → String) (bindable : List ℤ → Bool) (itemsPerPage : ℤ) (db : MessageDb)
    (turn : MessageTurn) (db' : MessageDb) : Prop :=
  turn.accounts = db.accounts ∧
    serveMessages iso bindable itemsPerPage turn.now db turn.op = (turn.reply, db')

/-- One of the roles of a token has a permission for messages. -/
def MayWithMessages (permission : String) (userRoles : List ℤ) (accounts : ServerDb) : Prop :=
  ∃ roleId ∈ userRoles, ∃ role, (roleId, role) ∈ accounts.roles ∧
    ∃ resource ∈ role.resources, resource.name = "messages" ∧ permission ∈ resource.permissions

/-- An operation takes a message away from a user: the user deletes it, with a role that may, or the
account of the user is deleted. -/
def Removes (accounts : ServerDb) (userId messageId : ℤ) : MessageOp → Prop
  | .actOnMessages id userRoles action ids => id = userId ∧ action = "delete" ∧ messageId ∈ ids ∧
      MayWithMessages "delete" userRoles accounts
  | .changeAccounts accounts => userId ∉ accounts.users.keys
  | _ => False

/-- What apps send can be written or not, and a table has one row for an id. -/
def Proper : MessageOp → Prop
  | .send sent => Representable sent
  | .changeAccounts accounts => accounts.users.keys.Nodup
  | _ => True

/-- A message has been saved under an id for the accounts that there were, and what has happened
since. -/
structure DeliveredAt (step : MessageDb → MessageTurn → MessageDb → Prop) (start : MessageDb)
    (turns : List MessageTurn) (messageId : ℤ) (sent : SentMessage) (accounts : ServerDb)
    (since : List MessageTurn) : Prop where
  intro ::
  split : ∃ before now reply db,
    turns = before ++ ⟨.send sent, now, accounts, reply⟩ :: since ∧
    Run step start before db ∧ db.accounts = accounts ∧ reply.response = .saved messageId

/-- A message was sent to a user, who has not lost it since. -/
def SentTo (step : MessageDb → MessageTurn → MessageDb → Prop) (start : MessageDb)
    (turns : List MessageTurn) (userId messageId : ℤ) (sent : SentMessage) : Prop :=
  ∃ accounts since, DeliveredAt step start turns messageId sent accounts since ∧
    IsAddressee sent accounts userId ∧
      ∀ turn ∈ since, ¬ Removes turn.accounts userId messageId turn.op

/-! ## What a step does -/

/-- The users of the messages have accounts. -/
structure MessagesFiled (db : MessageDb) : Prop where
  userIds : db.accounts.users.keys.Nodup
  messageIds : db.messages.keys.Nodup
  users : ∀ messageId row, db.messages.get? messageId = some row → row.users.Nodup
  registered : ∀ messageId row, db.messages.get? messageId = some row →
    ∀ userId ∈ row.users, userId ∈ db.accounts.users.keys

/-- What an operation leaves of a message. -/
structure MessageFollows (accounts : ServerDb) (op : MessageOp) (messageId : ℤ)
    (row row' : MessageRow) : Prop where
  subject : row'.subject = row.subject
  body : row'.body = row.body
  nodup : row'.users.Nodup
  users : ∀ userId, userId ∈ row'.users ↔
    userId ∈ row.users ∧ ¬ Removes accounts userId messageId op

/-- What is pushed to the channel of a user says something about a message. -/
def TellsAbout (messageId userId : ℤ) (pushed : String × ChannelMessage) : Prop :=
  pushed.1 = notifications.subscribed (toString userId) ∧
    ∃ event text data, pushed.2 = .payload text ∧
      loads text = some (.dict [("data", .dict data), ("event", .str event)]) ∧
      OrderedDict.get? "id" data = some (.int messageId)

/-- What an operation does to the messages and whom it tells. -/
structure MessageSpec (op : MessageOp) (reply : Reply) (db db' : MessageDb) : Prop where
  follows : ∀ messageId row, db.messages.get? messageId = some row →
    ∃ row', db'.messages.get? messageId = some row' ∧
      MessageFollows db.accounts op messageId row row'
  saves : ∀ messageId, reply.response = .saved messageId →
    db.messages.get? messageId = none ∧ ∃ sent row, op = .send sent ∧
      db'.messages.get? messageId = some row ∧ SavedAs sent db.accounts row
  new : ∀ messageId row, db'.messages.get? messageId = some row →
    db.messages.get? messageId = none → reply.response = .saved messageId
  tells : ∀ pushed ∈ reply.published, ∃ messageId row userId,
    db'.messages.get? messageId = some row ∧ userId ∈ row.users ∧
      TellsAbout messageId userId pushed
  announces : ∀ messageId row, reply.response = .saved messageId →
    db'.messages.get? messageId = some row → ∀ userId ∈ row.users,
      ∃ pushed ∈ reply.published, TellsAbout messageId userId pushed
  filed : MessagesFiled db'

section

variable {row : MessageRow} {userId : ℤ} {username : String} {action : MessageAction} {now : ℤ}

/-- Recording an action leaves the subject. -/
@[simp] theorem subject_recordUserAction :
    (row.recordUserAction userId username action now).subject = row.subject := by
  unfold MessageRow.recordUserAction
  split_ifs <;> rfl

/-- Recording an action leaves the body. -/
@[simp] theorem body_recordUserAction :
    (row.recordUserAction userId username action now).body = row.body := by
  unfold MessageRow.recordUserAction
  split_ifs <;> rfl

/-- Only a deletion takes a user away. -/
theorem users_recordUserAction :
    (row.recordUserAction userId username action now).users =
      if action = .delete then row.users.erase userId else row.users := by
  unfold MessageRow.recordUserAction
  by_cases hmem : userId ∈ row.users
  · rw [if_pos hmem]
    by_cases hdelete : action = .delete
    · simp [hdelete]
    · rw [if_neg hdelete]
      split_ifs <;> rfl
  · rw [if_neg hmem, List.erase_of_not_mem hmem, ite_self]

/-- A recorded action leaves the message to everybody but the user who deletes it. -/
theorem follows_recordUserAction {accounts : ServerDb} {op : MessageOp} {messageId : ℤ}
    (hnodup : row.users.Nodup) (hop : ∀ id ∈ row.users,
      Removes accounts id messageId op ↔ id = userId ∧ action = .delete) :
    MessageFollows accounts op messageId row (row.recordUserAction userId username action now) := by
  refine ⟨subject_recordUserAction, body_recordUserAction, ?_, fun id => ?_⟩
  · rw [users_recordUserAction]
    split_ifs
    · exact hnodup.erase userId
    · exact hnodup
  · rw [users_recordUserAction]
    by_cases hid : id ∈ row.users
    · rw [hop id hid]
      by_cases hdelete : action = .delete
      · rw [if_pos hdelete, hnodup.mem_erase_iff]
        simp [hdelete, and_comm]
      · simp [hdelete]
    · have hnot : id ∉ row.users.erase userId := fun h => hid (List.mem_of_mem_erase h)
      split_ifs <;> simp [hid, hnot]

/-- A message that nobody loses. -/
theorem MessageFollows.refl {accounts : ServerDb} {op : MessageOp} {messageId : ℤ}
    (hnodup : row.users.Nodup) (hop : ∀ id ∈ row.users, ¬ Removes accounts id messageId op) :
    MessageFollows accounts op messageId row row :=
  ⟨rfl, rfl, hnodup, fun id => ⟨fun hid => ⟨hid, hop id hid⟩, fun h => h.1⟩⟩

end

/-! ## Notifications -/

/-- What is pushed to users tells each of them about the message, and nobody else. -/
theorem tells_push {event : String} {data : Dict} {messageId : ℤ} (users : List ℤ)
    (hjson : isJson (.dict data) = true)
    (hid : OrderedDict.get? "id" data = some (.int messageId)) :
    (∀ pushed ∈ push event data users, ∃ userId ∈ users, TellsAbout messageId userId pushed) ∧
      ∀ userId ∈ users, ∃ pushed ∈ push event data users, TellsAbout messageId userId pushed := by
  have hresponse : isJson (.dict [("data", .dict data), ("event", .str event)]) = true := by
    simpa [isJson, isJsonItems] using hjson
  obtain ⟨text, htext⟩ := dumps_of_isJson _ hresponse
  have hpush : push event data users =
      (users.map fun userId => notifications.subscribed (toString userId)).map
        (·, ChannelMessage.payload text) := by
    unfold push SseStream.publishResponse SseStream.publish
    rw [Option.getD_none, htext]
    show ((users.map toString).map _).map _ = _
    rw [List.map_map, List.map_map, List.map_map]
    rfl
  have htells : ∀ userId, TellsAbout messageId userId
      (notifications.subscribed (toString userId), .payload text) :=
    fun userId => ⟨rfl, event, text, data, rfl, loads_dumps hresponse htext, hid⟩
  rw [hpush, List.map_map]
  constructor
  · intro pushed h
    obtain ⟨userId, huserId, rfl⟩ := List.mem_map.mp h
    exact ⟨userId, huserId, htells userId⟩
  · intro userId huserId
    exact ⟨_, List.mem_map_of_mem huserId, htells userId⟩

section

variable {iso : ℤ → String} {messageId : ℤ} {row : MessageRow} {username : String} {now : ℤ}
  {pushed : String × ChannelMessage}

/-- A new message is told to its users, to each and to no others. -/
theorem tells_created :
    (∀ pushed ∈ messageCreatedCallback iso messageId row,
      ∃ userId ∈ row.users, TellsAbout messageId userId pushed) ∧
    ∀ userId ∈ row.users,
      ∃ pushed ∈ messageCreatedCallback iso messageId row, TellsAbout messageId userId pushed :=
  tells_push row.users (by simp [isJson, isJsonItems]) rfl

/-- What is pushed when a message was read is JSON. -/
theorem isJson_formatReadRespondedData :
    isJson (.dict (formatReadRespondedData iso messageId username now)) = true := by
  simp [formatReadRespondedData, isJson, isJsonItems]

/-- That a message was read is told to its users only. -/
theorem tells_read (h : pushed ∈ messageReadCallback iso messageId row username now) :
    ∃ userId ∈ row.users, TellsAbout messageId userId pushed :=
  (tells_push row.users isJson_formatReadRespondedData rfl).1 pushed h

/-- That a message was responded to is told to its users only. -/
theorem tells_responded (h : pushed ∈ messageRespondedCallback iso messageId row username now) :
    ∃ userId ∈ row.users, TellsAbout messageId userId pushed :=
  (tells_push row.users isJson_formatReadRespondedData rfl).1 pushed h

end

/-! ## The operations -/

section

variable {iso : ℤ → String} {bindable : List ℤ → Bool} {itemsPerPage now : ℤ} {db db' : MessageDb}
  {op : MessageOp} {reply : Reply}

/-- An operation that changes no message. -/
theorem messageSpec_quiet (hfiled : MessagesFiled db) (hop : ∀ userId messageId,
    ¬ Removes db.accounts userId messageId op ∨ userId ∉ db.accounts.users.keys)
    (hresponse : ∀ messageId, reply.response ≠ .saved messageId)
    (hpublished : reply.published = []) :
    MessageSpec op reply db db where
  follows := fun messageId row hrow =>
    ⟨row, hrow, .refl (hfiled.users _ _ hrow) fun userId huserId =>
      (hop userId messageId).resolve_right
        (not_not_intro (hfiled.registered _ _ hrow userId huserId))⟩
  saves := fun messageId h => absurd h (hresponse messageId)
  new := fun messageId row hrow hnone => by
    rw [hnone] at hrow
    cases hrow
  tells := fun pushed h => by
    rw [hpublished] at h
    cases h
  announces := fun messageId _ h => absurd h (hresponse messageId)
  filed := hfiled

/-- An operation on one message. -/
theorem messageSpec_set (hfiled : MessagesFiled db) {messageId : ℤ} {row row' : MessageRow}
    (hrow : db.messages.get? messageId = some row)
    (hfollows : MessageFollows db.accounts op messageId row row')
    (hop : ∀ userId messageId, ¬ Removes db.accounts userId messageId op)
    (hresponse : ∀ messageId, reply.response ≠ .saved messageId)
    (htells : ∀ pushed ∈ reply.published, ∃ userId ∈ row'.users,
      TellsAbout messageId userId pushed) :
    MessageSpec op reply db { db with messages := db.messages.set messageId row' } where
  follows := by
    intro id other hother
    by_cases hid : id = messageId
    · subst hid
      obtain rfl := Option.some.inj (hrow.symm.trans hother)
      exact ⟨row', OrderedDict.get?_set_self _ _ _, hfollows⟩
    · refine ⟨other, ?_, .refl (hfiled.users _ _ hother) fun userId _ => hop userId id⟩
      rw [← hother]
      exact OrderedDict.get?_set_of_ne hid _ _
  saves := fun id h => absurd h (hresponse id)
  new := by
    intro id other hother hnone
    have hid : id ≠ messageId := by
      rintro rfl
      rw [hrow] at hnone
      cases hnone
    have hsame := OrderedDict.get?_set_of_ne hid row' db.messages
    rw [hnone] at hsame
    exact absurd (hsame.symm.trans hother) (by simp)
  tells := by
    intro pushed hpushed
    obtain ⟨userId, huserId, htold⟩ := htells pushed hpushed
    exact ⟨messageId, row', userId, OrderedDict.get?_set_self _ _ _, huserId, htold⟩
  announces := fun id _ h => absurd h (hresponse id)
  filed := by
    refine ⟨hfiled.userIds, OrderedDict.nodup_keys_set hfiled.messageIds _, ?_, ?_⟩
    · intro id other hother
      rw [OrderedDict.get?_set] at hother
      split_ifs at hother with hid
      · obtain rfl := Option.some.inj hother
        exact hfollows.nodup
      · exact hfiled.users _ _ hother
    · intro id other hother userId huserId
      rw [OrderedDict.get?_set] at hother
      split_ifs at hother with hid
      · obtain rfl := Option.some.inj hother
        exact hfiled.registered _ _ hrow userId ((hfollows.users userId).mp huserId).1
      · exact hfiled.registered _ _ hother userId huserId

/-- An app sends a message. -/
theorem messageSpec_send (hfiled : MessagesFiled db) {sent : SentMessage}
    (hsent : Representable sent) (h : deliver iso bindable sent now db = (reply, db')) :
    MessageSpec (.send sent) reply db db' := by
  unfold deliver at h
  cases hreceived : sent.toProtobuf.bind fun message =>
      receiveMessage bindable message now db.accounts with
  | error e =>
    rw [hreceived] at h
    cases h
    exact messageSpec_quiet hfiled (fun _ _ => .inl id) (fun _ => MessageResponse.noConfusion) rfl
  | ok saved =>
    rw [hreceived] at h
    cases saved with
    | none =>
      cases h
      exact messageSpec_quiet hfiled (fun _ _ => .inl id) (fun _ => MessageResponse.noConfusion)
        rfl
    | some row =>
      obtain ⟨message, hmessage, hreceive⟩ := Except.bind_eq_ok.mp hreceived
      have hsaved := savedAs_of_receive hfiled.userIds hsent hmessage hreceive
      have hnew := OrderedDict.get?_eq_none_iff.mpr (OrderedDict.nextId_not_mem db.messages)
      cases h
      refine ⟨?_, ?_, ?_, ?_, ?_, ?_⟩
      · intro id other hother
        have hid : id ≠ nextId db.messages := by
          rintro rfl
          rw [hnew] at hother
          cases hother
        exact ⟨other, (OrderedDict.get?_set_of_ne hid _ _).trans hother,
          .refl (hfiled.users _ _ hother) fun _ _ h => h⟩
      · intro id hid
        cases hid
        exact ⟨hnew, sent, row, rfl, OrderedDict.get?_set_self _ _ _, hsaved⟩
      · intro id other hother hnone
        rw [OrderedDict.get?_set] at hother
        split_ifs at hother with hid
        · rw [hid]
        · rw [hnone] at hother
          cases hother
      · intro pushed hpushed
        obtain ⟨userId, huserId, htold⟩ := tells_created.1 pushed hpushed
        exact ⟨_, row, userId, OrderedDict.get?_set_self _ _ _, huserId, htold⟩
      · intro id other hid hother userId huserId
        cases hid
        obtain rfl := Option.some.inj ((OrderedDict.get?_set_self _ _ _).symm.trans hother)
        exact tells_created.2 userId huserId
      · refine ⟨hfiled.userIds, OrderedDict.nodup_keys_set hfiled.messageIds _, ?_, ?_⟩
        · intro id other hother
          rw [OrderedDict.get?_set] at hother
          split_ifs at hother with hid
          · obtain rfl := Option.some.inj hother
            exact hsaved.nodup
          · exact hfiled.users _ _ hother
        · intro id other hother userId huserId
          rw [OrderedDict.get?_set] at hother
          split_ifs at hother with hid
          · obtain rfl := Option.some.inj hother
            obtain ⟨user, huser, -⟩ := (hsaved.users userId).mp huserId
            exact (OrderedDict.mem_keys_iff _ _).mpr (Option.isSome_of_eq_some huser)
          · exact hfiled.registered _ _ hother userId huserId

/-- The decorator of an endpoint for messages asks for a role with the permission. -/
theorem messagesPermitted_iff {permission : String} {userRoles : List ℤ} :
    messagesPermitted permission userRoles db = true ↔
      MayWithMessages permission userRoles db.accounts := by
  rw [messagesPermitted, permissionsAccepted_iff]
  simp only [mem_getRolesByResourcePermissions, List.mem_singleton, exists_eq_left]
  rfl

/-- A user reads a message. -/
theorem messageSpec_getMessage (hfiled : MessagesFiled db) {userId messageId : ℤ}
    {userRoles : List ℤ} (h : getMessage iso userId userRoles messageId now db = (reply, db')) :
    MessageSpec (.getMessage userId userRoles messageId) reply db db' := by
  have hquiet : ∀ {response : MessageResponse}, (∀ id, response ≠ .saved id) →
      MessageSpec (.getMessage userId userRoles messageId) (.quiet response) db db :=
    fun hresponse => messageSpec_quiet hfiled (fun _ _ => .inl id) hresponse rfl
  unfold getMessage at h
  split at h
  · cases h
    exact hquiet fun _ => MessageResponse.noConfusion
  cases hrow : db.messages.get? messageId with
  | none =>
    simp only [hrow] at h
    cases h
    exact hquiet fun _ => MessageResponse.noConfusion
  | some row =>
    simp only [hrow] at h
    cases huser : db.accounts.users.get? userId with
    | none =>
      simp only [huser] at h
      cases h
      exact hquiet fun _ => MessageResponse.noConfusion
    | some user =>
      simp only [huser] at h
      by_cases hmem : userId ∈ row.users
      · simp only [hmem, decide_true] at h
        have hfollows : MessageFollows db.accounts (.getMessage userId userRoles messageId) messageId
            row
            (row.recordUserAction userId user.username .read now) :=
          follows_recordUserAction (hfiled.users _ _ hrow) fun id _ =>
            iff_of_false (fun h => h) fun h => MessageAction.noConfusion h.2
        cases hjson : (row.recordUserAction userId user.username .read now).asJson iso messageId
            userId with
        | ok json =>
          simp only [hjson] at h
          cases h
          exact messageSpec_set hfiled hrow hfollows (fun _ _ => id)
            (fun _ => MessageResponse.noConfusion) fun _ => tells_read
        | error e =>
          simp only [hjson] at h
          cases h
          exact messageSpec_set hfiled hrow hfollows (fun _ _ => id)
            (fun _ => MessageResponse.noConfusion) fun _ => tells_read
      · simp only [hmem, decide_false] at h
        cases h
        exact hquiet fun _ => MessageResponse.noConfusion

/-- A user answers a message by resuming its execution. -/
theorem messageSpec_respond (hfiled : MessagesFiled db) {userId : Option ℤ} {executionId : UUID}
    (h : Messaging.logActionTakenOnMessage iso userId executionId now db = (reply, db')) :
    MessageSpec (.respond userId executionId) reply db db' := by
  have hquiet : MessageSpec (.respond userId executionId) (.quiet .success) db db :=
    messageSpec_quiet hfiled (fun _ _ => .inl id) (fun _ => MessageResponse.noConfusion) rfl
  unfold Messaging.logActionTakenOnMessage at h
  split at h
  · cases h
    exact hquiet
  · rename_i messageId row hfind
    have hrow := OrderedDict.get?_of_mem hfiled.messageIds (List.mem_of_find?_eq_some hfind)
    split at h
    · rename_i id user hrequires huser
      cases h
      exact messageSpec_set hfiled hrow
        (follows_recordUserAction (hfiled.users _ _ hrow) fun id _ =>
          iff_of_false (fun h => h) fun h => MessageAction.noConfusion h.2)
        (fun _ _ h => h) (fun _ => MessageResponse.noConfusion) fun _ => tells_responded
    · cases h
      exact hquiet

/-- Only `delete` is read as the action to delete. -/
theorem convertString_eq_delete {action : String} :
    convertString action = some .delete ↔ action = "delete" := by
  constructor
  · intro h
    unfold convertString at h
    split at h <;> first | rfl | cases h
  · rintro rfl
    rfl

/-- A user acts on some of the user's messages, with a role that may. -/
theorem messageSpec_actOnMessageHelper (hfiled : MessagesFiled db) {userId : ℤ}
    {userRoles : List ℤ} {text : String} {action : MessageAction}
    (haction : convertString text = some action) {ids : List ℤ}
    (hpermitted : messagesPermitted (permissionFor action) userRoles db = true)
    (h : actOnMessageHelper iso userId action ids now db = (reply, db')) :
    MessageSpec (.actOnMessages userId userRoles text ids) reply db db' := by
  unfold actOnMessageHelper at h
  cases huser : db.accounts.users.get? userId with
  | none =>
    have hgone : userId ∉ db.accounts.users.keys := OrderedDict.get?_eq_none_iff.mp huser
    simp only [huser] at h
    cases h
    refine messageSpec_quiet hfiled (fun id messageId => ?_) (fun _ => MessageResponse.noConfusion)
      rfl
    by_cases hid : userId = id
    · exact .inr (hid ▸ hgone)
    · exact .inl fun hremoves => hid hremoves.1
  | some user =>
    simp only [huser] at h
    let act (message : MessageRow) := message.recordUserAction userId user.username action now
    let change (messageId : ℤ) (message : MessageRow) :=
      if userId ∈ message.users ∧ messageId ∈ ids then act message else message
    have hget : ∀ messageId, OrderedDict.get? messageId (db.messages.map fun row =>
        (row.1, change row.1 row.2)) = (db.messages.get? messageId).map (change messageId) :=
      fun messageId => OrderedDict.get?_mapRows change messageId db.messages
    have hfollows : ∀ messageId row, db.messages.get? messageId = some row →
        MessageFollows db.accounts (.actOnMessages userId userRoles text ids) messageId row
          (change messageId row) := by
      intro messageId row hrow
      have hnodup := hfiled.users _ _ hrow
      by_cases hchosen : userId ∈ row.users ∧ messageId ∈ ids
      · show MessageFollows _ _ _ _ (if _ then _ else _)
        rw [if_pos hchosen]
        refine follows_recordUserAction hnodup fun id _ => ?_
        show (userId = id ∧ text = "delete" ∧ messageId ∈ ids ∧ _) ↔ _
        rw [← convertString_eq_delete, haction, Option.some.injEq]
        constructor
        · exact fun hremoves => ⟨hremoves.1.symm, hremoves.2.1⟩
        · rintro ⟨hid, rfl⟩
          exact ⟨hid.symm, rfl, hchosen.2, messagesPermitted_iff.mp hpermitted⟩
      · show MessageFollows _ _ _ _ (if _ then _ else _)
        rw [if_neg hchosen]
        refine .refl hnodup ?_
        rintro id hid ⟨rfl, -, hmem, -⟩
        exact hchosen ⟨hid, hmem⟩
    cases h
    refine ⟨?_, fun _ h => MessageResponse.noConfusion h, ?_, ?_,
      fun _ _ h => MessageResponse.noConfusion h, hfiled.userIds, ?_, ?_, ?_⟩
    · intro messageId row hrow
      exact ⟨change messageId row, (hget messageId).trans (by rw [hrow]; rfl),
        hfollows messageId row hrow⟩
    · intro messageId row hrow hnone
      have hrow' := (hget messageId).symm.trans hrow
      rw [hnone] at hrow'
      cases hrow'
    · intro pushed hpushed
      split_ifs at hpushed with hread
      · obtain ⟨⟨messageId, row⟩, hchosen, hmem⟩ := List.mem_flatMap.mp hpushed
        obtain ⟨hmine, hids⟩ := List.mem_filter.mp hchosen
        obtain ⟨hstored, huserId⟩ := List.mem_filter.mp hmine
        have hboth : userId ∈ row.users ∧ messageId ∈ ids :=
          ⟨of_decide_eq_true huserId, of_decide_eq_true hids⟩
        obtain ⟨id, hid, htold⟩ := tells_read hmem
        refine ⟨messageId, act row, id, (hget messageId).trans ?_, hid, htold⟩
        rw [OrderedDict.get?_of_mem hfiled.messageIds hstored]
        exact congrArg some (if_pos hboth)
      · cases hpushed
    · exact (OrderedDict.keys_mapRows change db.messages).symm ▸ hfiled.messageIds
    · intro messageId row hrow
      obtain ⟨old, hold, rfl⟩ := Option.map_eq_some_iff.mp ((hget messageId).symm.trans hrow)
      exact (hfollows _ _ hold).nodup
    · intro messageId row hrow id hid
      obtain ⟨old, hold, rfl⟩ := Option.map_eq_some_iff.mp ((hget messageId).symm.trans hrow)
      exact hfiled.registered _ _ hold id (((hfollows _ _ hold).users id).mp hid).1

/-- A user asks to act on messages; a user without the permission does not. -/
theorem messageSpec_actOnMessages (hfiled : MessagesFiled db) {userId : ℤ} {userRoles : List ℤ}
    {text : String} {ids : List ℤ}
    (h : actOnMessages iso userId userRoles text ids now db = (reply, db')) :
    MessageSpec (.actOnMessages userId userRoles text ids) reply db db' := by
  have hquiet : ∀ {response : MessageResponse},
      (text = "delete" → ¬ MayWithMessages "delete" userRoles db.accounts) →
      (∀ id, response ≠ .saved id) →
      MessageSpec (.actOnMessages userId userRoles text ids) (.quiet response) db db :=
    fun hrefused hresponse => messageSpec_quiet hfiled
      (fun _ _ => .inl fun ⟨_, htext, _, hmay⟩ => hrefused htext hmay) hresponse rfl
  unfold actOnMessages at h
  split at h
  · rename_i haction
    cases h
    refine hquiet (fun htext => ?_) fun _ => MessageResponse.noConfusion
    rw [convertString_eq_delete.mpr htext] at haction
    cases haction
  · rename_i haction
    cases h
    refine hquiet (fun htext => ?_) fun _ => MessageResponse.noConfusion
    rw [convertString_eq_delete.mpr htext] at haction
    cases haction
  · rename_i action hne haction
    split_ifs at h with hpermitted
    · exact messageSpec_actOnMessageHelper hfiled haction hpermitted h
    · cases h
      refine hquiet (fun htext hmay => hpermitted ?_) fun _ => MessageResponse.noConfusion
      rw [convertString_eq_delete.mpr htext, Option.some.injEq] at haction
      rw [← haction]
      exact messagesPermitted_iff.mpr hmay

/-- Accounts and roles are created, changed and deleted. -/
theorem messageSpec_changeAccounts (hfiled : MessagesFiled db) {accounts : ServerDb}
    (haccounts : accounts.users.keys.Nodup) :
    MessageSpec (.changeAccounts accounts) (.quiet .success) db (changeAccounts accounts db) := by
  let change (message : MessageRow) : MessageRow := { message with
    users := message.users.filter (· ∈ accounts.users.keys)
    roles := message.roles.filter (· ∈ accounts.roles.keys) }
  have hget : ∀ messageId, (changeAccounts accounts db).messages.get? messageId =
      (db.messages.get? messageId).map change :=
    fun messageId => OrderedDict.get?_mapRows (fun _ => change) messageId db.messages
  refine ⟨?_, fun _ h => MessageResponse.noConfusion h, ?_, fun _ h => (by cases h),
    fun _ _ h => MessageResponse.noConfusion h, haccounts, ?_, ?_, ?_⟩
  · intro messageId row hrow
    refine ⟨change row, (hget messageId).trans (by rw [hrow]; rfl), rfl, rfl,
      (hfiled.users _ _ hrow).filter _, fun userId => ?_⟩
    show userId ∈ row.users.filter _ ↔ userId ∈ row.users ∧ ¬ userId ∉ accounts.users.keys
    rw [List.mem_filter, decide_eq_true_iff, not_not]
  · intro messageId row hrow hnone
    have hrow' := (hget messageId).symm.trans hrow
    rw [hnone] at hrow'
    cases hrow'
  · exact (OrderedDict.keys_mapRows (fun _ => change) db.messages).symm ▸ hfiled.messageIds
  · intro messageId row hrow
    obtain ⟨old, hold, rfl⟩ := Option.map_eq_some_iff.mp ((hget messageId).symm.trans hrow)
    exact (hfiled.users _ _ hold).filter _
  · intro messageId row hrow userId huserId
    obtain ⟨old, hold, rfl⟩ := Option.map_eq_some_iff.mp ((hget messageId).symm.trans hrow)
    exact of_decide_eq_true (List.mem_filter.mp huserId).2

/-- A user lists messages. -/
theorem messageSpec_getAllMessages (hfiled : MessagesFiled db) (userId : ℤ) (userRoles : List ℤ)
    (page : ℤ) : MessageSpec (.getAllMessages userId userRoles page)
      (getAllMessages iso itemsPerPage userId userRoles page db) db db := by
  unfold getAllMessages
  split
  · exact messageSpec_quiet hfiled (fun _ _ => .inl id) (fun _ => MessageResponse.noConfusion) rfl
  split
  · exact messageSpec_quiet hfiled (fun _ _ => .inl id) (fun _ => MessageResponse.noConfusion) rfl
  · exact messageSpec_quiet hfiled (fun _ _ => .inl id) (fun _ => MessageResponse.noConfusion) rfl

/-- **What a step does to the messages.** -/
theorem messageSpec_of_step (hfiled : MessagesFiled db) {turn : MessageTurn}
    (hproper : Proper turn.op) (h : MessageStep iso bindable itemsPerPage db turn db') :
    MessageSpec turn.op turn.reply db db' := by
  obtain ⟨op, now, accounts, reply⟩ := turn
  obtain ⟨-, hserve⟩ := h
  cases op with
  | send sent => exact messageSpec_send hfiled hproper hserve
  | getAllMessages userId userRoles page =>
    cases hserve
    exact messageSpec_getAllMessages hfiled userId userRoles page
  | getMessage userId userRoles messageId => exact messageSpec_getMessage hfiled hserve
  | actOnMessages userId userRoles action ids => exact messageSpec_actOnMessages hfiled hserve
  | respond userId executionId => exact messageSpec_respond hfiled hserve
  | changeAccounts accounts =>
    cases hserve
    exact messageSpec_changeAccounts hfiled hproper

end

/-! ## Runs -/

section

variable {step : MessageDb → MessageTurn → MessageDb → Prop} {start db db' : MessageDb}
  {turns since : List MessageTurn} {turn : MessageTurn} {messageId userId : ℤ} {sent : SentMessage}
  {accounts : ServerDb}

/-- A delivered message stays delivered after one operation more. -/
theorem DeliveredAt.snoc (h : DeliveredAt step start turns messageId sent accounts since) :
    DeliveredAt step start (turns ++ [turn]) messageId sent accounts (since ++ [turn]) := by
  obtain ⟨before, now, reply, db, rfl, hrun, haccounts, hsaved⟩ := h.split
  exact ⟨before, now, reply, db, by simp, hrun, haccounts, hsaved⟩

/-- The last delivery is the last turn, or an earlier one. -/
theorem DeliveredAt.of_snoc
    (h : DeliveredAt step start (turns ++ [turn]) messageId sent accounts since) :
    (since = [] ∧ turn.op = .send sent ∧ turn.reply.response = .saved messageId ∧
      ∃ db, Run step start turns db ∧ db.accounts = accounts) ∨
    ∃ since', since = since' ++ [turn] ∧
      DeliveredAt step start turns messageId sent accounts since' := by
  obtain ⟨before, now, reply, db, hsplit, hrun, haccounts, hsaved⟩ := h.split
  rcases List.eq_nil_or_concat since with rfl | ⟨since', last, rfl⟩
  · obtain ⟨rfl, hlast⟩ := List.append_inj' hsplit rfl
    obtain rfl := (List.cons.inj hlast).1
    exact .inl ⟨rfl, rfl, hsaved, db, hrun, haccounts⟩
  · rw [← List.concat_eq_append] at hsplit
    simp only [List.concat_eq_append, ← List.cons_append, ← List.append_assoc] at hsplit
    obtain ⟨hturns, hlast⟩ := List.append_inj' hsplit rfl
    obtain rfl := (List.cons.inj hlast).1
    exact .inr ⟨since', by simp, before, now, reply, db, hturns, hrun, haccounts, hsaved⟩

/-- The row of a message that was delivered: for its recipients without those who lost it. -/
structure RowFor (sent : SentMessage) (accounts : ServerDb) (since : List MessageTurn)
    (messageId : ℤ) (row : MessageRow) : Prop where
  subject : row.subject = sent.message.subject.getD ""
  body : jsonLoads row.body = .ok (storedBody sent.message)
  users : ∀ userId, userId ∈ row.users ↔
    IsAddressee sent accounts userId ∧
      ∀ turn ∈ since, ¬ Removes turn.accounts userId messageId turn.op

/-- The rows of the table are those of the messages that have been delivered. -/
structure RowsDelivered (step : MessageDb → MessageTurn → MessageDb → Prop) (start : MessageDb)
    (turns : List MessageTurn) (db : MessageDb) : Prop where
  filed : MessagesFiled db
  delivered : ∀ messageId row, db.messages.get? messageId = some row →
    ∃ sent accounts since, DeliveredAt step start turns messageId sent accounts since
  row : ∀ messageId sent accounts since,
    DeliveredAt step start turns messageId sent accounts since →
    ∃ row, db.messages.get? messageId = some row ∧ RowFor sent accounts since messageId row

/-- One turn more keeps the rows those of the messages that have been delivered. -/
theorem rowsDelivered_snoc (hrow : RowsDelivered step start turns db)
    (haccounts : turn.accounts = db.accounts) (hrun : ∀ db', Run step start turns db' → db' = db)
    (hspec : MessageSpec turn.op turn.reply db db') (hstep : Run step start turns db) :
    RowsDelivered step start (turns ++ [turn]) db' := by
  refine ⟨hspec.filed, ?_, ?_⟩
  · intro messageId row hget
    cases hold : db.messages.get? messageId with
    | none =>
      have hsaved := hspec.new messageId row hget hold
      obtain ⟨-, sent, -, hop, -⟩ := hspec.saves messageId hsaved
      refine ⟨sent, db.accounts, [], turns, turn.now, turn.reply, db, ?_, hstep, rfl, hsaved⟩
      rw [← hop, ← haccounts]
    | some old =>
      obtain ⟨sent, accounts, since, hdelivery⟩ := hrow.delivered messageId old hold
      exact ⟨sent, accounts, since ++ [turn], hdelivery.snoc⟩
  · intro messageId sent accounts since hdelivery
    rcases hdelivery.of_snoc with ⟨rfl, hop, hsaved, db₀, hrun₀, rfl⟩ | ⟨since', rfl, hearlier⟩
    · obtain rfl := hrun db₀ hrun₀
      obtain ⟨-, sent', row, hop', hget, hsavedAs⟩ := hspec.saves messageId hsaved
      obtain rfl : sent = sent' := by
        rw [hop] at hop'
        exact MessageOp.send.inj hop'
      exact ⟨row, hget, hsavedAs.subject, hsavedAs.body, fun userId => by
        simp [hsavedAs.users userId]⟩
    · obtain ⟨row, hget, hfor⟩ := hrow.row messageId sent accounts since' hearlier
      obtain ⟨row', hget', hfollows⟩ := hspec.follows messageId row hget
      refine ⟨row', hget', hfollows.subject.trans hfor.subject, ?_, fun userId => ?_⟩
      · rw [hfollows.body]
        exact hfor.body
      · rw [hfollows.users, hfor.users, and_assoc, ← haccounts]
        simp [or_imp, forall_and]

end

section

variable {iso : ℤ → String} {bindable : List ℤ → Bool} {itemsPerPage : ℤ} {start db : MessageDb}
  {turns : List MessageTurn}

/-- An operation has one outcome. -/
theorem messageStep_functional {s t t' : MessageDb} {turn : MessageTurn}
    (h : MessageStep iso bindable itemsPerPage s turn t)
    (h' : MessageStep iso bindable itemsPerPage s turn t') : t = t' :=
  (Prod.mk.inj (h.2.symm.trans h'.2)).2

/-- The invariant of the runs from an empty table of messages. -/
theorem rowsDelivered_of_run (hstart : start.messages = [])
    (haccounts : start.accounts.users.keys.Nodup) (hproper : ∀ turn ∈ turns, Proper turn.op)
    (hrun : Run (MessageStep iso bindable itemsPerPage) start turns db) :
    RowsDelivered (MessageStep iso bindable itemsPerPage) start turns db := by
  have hempty : ∀ messageId, start.messages.get? messageId = none := by
    intro messageId
    rw [hstart]
    rfl
  revert hproper
  apply hrun.history (I := fun turns db => (∀ turn ∈ turns, Proper turn.op) →
    RowsDelivered (MessageStep iso bindable itemsPerPage) start turns db)
  · intro _
    refine ⟨⟨haccounts, ?_, ?_, ?_⟩, ?_, ?_⟩
    · rw [hstart]
      exact List.nodup_nil
    · intro messageId row hrow
      rw [hempty] at hrow
      cases hrow
    · intro messageId row hrow
      rw [hempty] at hrow
      cases hrow
    · intro messageId row hrow
      rw [hempty] at hrow
      cases hrow
    · intro messageId sent accounts since hdelivery
      obtain ⟨before, now, reply, db, hsplit, -⟩ := hdelivery.split
      simp at hsplit
  · intro turns db turn db' hbefore ih hstep hproper
    have hboth := List.forall_mem_append.mp hproper
    have hrows := ih hboth.1
    have hspec := messageSpec_of_step hrows.filed (hboth.2 turn (by simp)) hstep
    have hfunctional : ∀ s turn t t', MessageStep iso bindable itemsPerPage s turn t →
        MessageStep iso bindable itemsPerPage s turn t' → t = t' :=
      fun _ _ _ _ => messageStep_functional
    exact rowsDelivered_snoc hrows hstep.1 (fun _ hrun' => hrun'.functional hfunctional hbefore) hspec
      hbefore

/-! ## What is read -/

/-- A message whose body is JSON is shown with its subject and body. -/
theorem asJson_eq {messageId userId : ℤ} {row : MessageRow} {body : PyVal}
    (h : jsonLoads row.body = .ok body) : ∃ json, row.asJson iso messageId userId = .ok json ∧
      OrderedDict.get? "subject" json = some (.str row.subject) ∧
      OrderedDict.get? "body" json = some body := by
  refine ⟨_, by rw [MessageRow.asJson, h]; rfl, rfl, ?_⟩
  cases hread : row.userLastReadAt userId <;>
    simp [MessageRow.summaryJson, OrderedDict.get?, hread]

/-- What a user gets of a message that was sent reads as the message. -/
theorem fromJson_rowJson {sent : SentMessage} {messageId userId : ℤ} {row : MessageRow}
    (h : jsonLoads row.body = .ok (storedBody sent.message))
    (hsubject : row.subject = sent.message.subject.getD "") :
    ∃ json, row.asJson iso messageId userId = .ok json ∧
      Messaging.Message.fromJson json = .ok (receivedMessage sent.message) := by
  obtain ⟨json, hjson, hsubjectJson, hbody⟩ := @asJson_eq iso messageId userId row _ h
  refine ⟨json, hjson, ?_⟩
  have hsubjectOf : Messaging.Message.subjectOf json = .ok (some row.subject) := by
    rw [Messaging.Message.subjectOf, hsubjectJson]
    rfl
  rw [Messaging.Message.fromJson, hsubjectOf, hbody, hsubject]
  show ((sent.message.body.map _).mapM MessageComponent.fromJson).bind _ = _
  rw [mapM_fromJson_storedBody]
  rfl

/-- A message is given to its users only, and with a role that may read. -/
theorem getMessage_message {userId messageId now : ℤ} {userRoles : List ℤ} {json : Dict}
    (h : (getMessage iso userId userRoles messageId now db).1.response = .message json) :
    MayWithMessages "read" userRoles db.accounts ∧
      ∃ row, db.messages.get? messageId = some row ∧ userId ∈ row.users := by
  unfold getMessage at h
  split_ifs at h with hrefused
  · cases h
  have hpermitted : messagesPermitted "read" userRoles db = true := by simpa using hrefused
  refine ⟨messagesPermitted_iff.mp hpermitted, ?_⟩
  cases hrow : db.messages.get? messageId with
  | none =>
    simp only [hrow] at h
    cases h
  | some row =>
    refine ⟨row, rfl, ?_⟩
    by_contra hmem
    cases huser : db.accounts.users.get? userId with
    | none =>
      simp only [hrow, huser] at h
      cases h
    | some user =>
      simp only [hrow, huser, hmem, decide_false] at h
      cases h

/-- A message is given to each of its users who has an account and a role that may read. -/
theorem getMessage_of_mem {userId messageId now : ℤ} {userRoles : List ℤ} {row : MessageRow}
    {user : User} (hmay : MayWithMessages "read" userRoles db.accounts)
    (hrow : db.messages.get? messageId = some row)
    (huser : db.accounts.users.get? userId = some user) (hmem : userId ∈ row.users) {json : Dict}
    (hjson : (row.recordUserAction userId user.username .read now).asJson iso messageId userId =
      .ok json) :
    (getMessage iso userId userRoles messageId now db).1.response = .message json := by
  unfold getMessage
  rw [messagesPermitted_iff.mpr hmay]
  simp only [Bool.not_true, Bool.false_eq_true, if_false, hrow, huser, hmem, decide_true, hjson]

/-- The users of the rows are those to whom the messages were sent and who have not lost them. -/
theorem RowsDelivered.sentTo_iff {step : MessageDb → MessageTurn → MessageDb → Prop}
    (h : RowsDelivered step start turns db) (userId messageId : ℤ) :
    (∃ sent, SentTo step start turns userId messageId sent) ↔
      ∃ row, db.messages.get? messageId = some row ∧ userId ∈ row.users := by
  constructor
  · rintro ⟨sent, accounts, since, hdelivery, hkept⟩
    obtain ⟨row, hrow, hfor⟩ := h.row messageId sent accounts since hdelivery
    exact ⟨row, hrow, (hfor.users userId).mpr hkept⟩
  · rintro ⟨row, hrow, hmem⟩
    obtain ⟨sent, accounts, since, hdelivery⟩ := h.delivered messageId row hrow
    obtain ⟨row', hrow', hfor⟩ := h.row messageId sent accounts since hdelivery
    obtain rfl := Option.some.inj (hrow.symm.trans hrow')
    exact ⟨sent, accounts, since, hdelivery, (hfor.users userId).mp hmem⟩

/-- **A message is read by the users it was sent to**: in every order of operations a user whose
roles may read messages is given a message exactly if it was sent to the user, who has not deleted it
and whose account has not been deleted since, and the user then reads what was sent. -/
theorem message_readers (hstart : start.messages = []) (haccounts : start.accounts.users.keys.Nodup)
    (hproper : ∀ turn ∈ turns, Proper turn.op)
    (hrun : Run (MessageStep iso bindable itemsPerPage) start turns db) (userId : ℤ)
    (userRoles : List ℤ) (messageId now : ℤ) :
    ((∃ json, (getMessage iso userId userRoles messageId now db).1.response = .message json) ↔
      MayWithMessages "read" userRoles db.accounts ∧
        ∃ sent, SentTo (MessageStep iso bindable itemsPerPage) start turns userId messageId sent) ∧
    ∀ sent, MayWithMessages "read" userRoles db.accounts →
      SentTo (MessageStep iso bindable itemsPerPage) start turns userId messageId sent →
      ∃ json, (getMessage iso userId userRoles messageId now db).1.response = .message json ∧
        Messaging.Message.fromJson json = .ok (receivedMessage sent.message) := by
  have hrows := rowsDelivered_of_run hstart haccounts hproper hrun
  have hread : ∀ sent, MayWithMessages "read" userRoles db.accounts →
      SentTo (MessageStep iso bindable itemsPerPage) start turns userId messageId sent →
      ∃ json, (getMessage iso userId userRoles messageId now db).1.response = .message json ∧
        Messaging.Message.fromJson json = .ok (receivedMessage sent.message) := by
    rintro sent hmay ⟨accounts, since, hdelivery, hkept⟩
    obtain ⟨row, hrow, hfor⟩ := hrows.row messageId sent accounts since hdelivery
    have hmem := (hfor.users userId).mpr hkept
    have hregistered := hrows.filed.registered messageId row hrow userId hmem
    obtain ⟨user, huser⟩ := Option.isSome_iff_exists.mp
      ((OrderedDict.mem_keys_iff _ _).mp hregistered)
    have hbody : jsonLoads (row.recordUserAction userId user.username .read now).body =
        .ok (storedBody sent.message) := by
      rw [body_recordUserAction]
      exact hfor.body
    obtain ⟨json, hjson, hmessage⟩ := @fromJson_rowJson iso sent messageId userId _ hbody
      (subject_recordUserAction.trans hfor.subject)
    exact ⟨json, getMessage_of_mem hmay hrow huser hmem hjson, hmessage⟩
  refine ⟨⟨?_, ?_⟩, hread⟩
  · rintro ⟨json, hjson⟩
    obtain ⟨hmay, hrow⟩ := getMessage_message hjson
    exact ⟨hmay, (hrows.sentTo_iff userId messageId).mpr hrow⟩
  · rintro ⟨hmay, sent, hsent⟩
    obtain ⟨json, hjson, -⟩ := hread sent hmay hsent
    exact ⟨json, hjson⟩

/-! ## What is listed and pushed -/

/-- A slice has members of its list only. -/
theorem slice_subset {α : Type} {low high : ℤ} {xs : List α} {x : α} (h : x ∈ slice low high xs) :
    x ∈ xs :=
  List.mem_of_mem_take (List.mem_of_mem_drop h)

/-- A member within the bounds is in the slice. -/
theorem getElem_mem_slice {α : Type} {low high : ℤ} {xs : List α} {i : ℕ} (hi : i < xs.length)
    (hlow : 0 ≤ low ∧ low ≤ i) (hhigh : (i : ℤ) < high) : xs[i] ∈ slice low high xs := by
  have hlength : (i : ℤ) < xs.length := Int.ofNat_lt.mpr hi
  have htake : i < (min high xs.length).toNat := by omega
  have hdrop : (min low xs.length).toNat ≤ i := by omega
  have hget : ((xs.take (min high xs.length).toNat).drop (min low xs.length).toNat)[
      i - (min low xs.length).toNat]? = some xs[i] := by
    rw [List.getElem?_drop, Nat.add_sub_cancel' hdrop, List.getElem?_take_of_lt htake,
      List.getElem?_eq_getElem hi]
  unfold slice
  dsimp only
  rw [if_neg (by omega), if_neg (by omega)]
  exact List.mem_of_getElem? hget

/-- The pages cover a list. -/
theorem mem_page {α : Type} {n : ℤ} (hn : 0 < n) {xs : List α} {x : α} (h : x ∈ xs) :
    ∃ page, x ∈ slice ((page - 1) * n) (page * n) xs := by
  obtain ⟨i, hi, rfl⟩ := List.getElem_of_mem h
  have hlow : (i : ℤ) / n * n ≤ i := Int.ediv_mul_le _ hn.ne'
  have hnonneg : 0 ≤ (i : ℤ) / n * n := Int.mul_nonneg (Int.ediv_nonneg (by omega) hn.le) hn.le
  have hhigh : (i : ℤ) < ((i : ℤ) / n + 1) * n := Int.lt_ediv_add_one_mul_self _ hn
  refine ⟨i / n + 1, getElem_mem_slice hi ?_ hhigh⟩
  rw [Int.add_sub_cancel]
  exact ⟨hnonneg, hlow⟩

/-- What is listed about a message. -/
def ListsMessage (messageId : ℤ) (subject : String) (json : Dict) : Prop :=
  OrderedDict.get? "id" json = some (.int messageId) ∧
    OrderedDict.get? "subject" json = some (.str subject)

/-- A user's pages list the messages of the user, for a role that may read. -/
theorem lists_iff (hfiled : MessagesFiled db) (hitems : 0 < itemsPerPage)
    {userId messageId : ℤ} {userRoles : List ℤ} {subject : String} :
    (∃ page jsons, (getAllMessages iso itemsPerPage userId userRoles page db).response =
        .messages jsons ∧ ∃ json ∈ jsons, ListsMessage messageId subject json) ↔
      MayWithMessages "read" userRoles db.accounts ∧
        ∃ row, db.messages.get? messageId = some row ∧ userId ∈ row.users ∧
          row.subject = subject := by
  constructor
  · rintro ⟨page, jsons, hresponse, json, hjson, hid, hsubject⟩
    unfold getAllMessages at hresponse
    split_ifs at hresponse with hrefused
    · cases hresponse
    have hpermitted : messagesPermitted "read" userRoles db = true := by simpa using hrefused
    refine ⟨messagesPermitted_iff.mp hpermitted, ?_⟩
    split at hresponse
    · cases hresponse
    · cases hresponse
      obtain ⟨⟨id, row⟩, hrow, rfl⟩ := List.mem_map.mp hjson
      obtain ⟨hstored, hmem⟩ := List.mem_filter.mp (slice_subset hrow)
      cases hid
      cases hsubject
      exact ⟨row, OrderedDict.get?_of_mem hfiled.messageIds hstored, of_decide_eq_true hmem, rfl⟩
  · rintro ⟨hmay, row, hrow, hmem, rfl⟩
    have hstored : (messageId, row) ∈ messagesOfUser userId db :=
      List.mem_filter.mpr ⟨OrderedDict.mem_of_get? hrow, decide_eq_true hmem⟩
    obtain ⟨page, hpage⟩ := mem_page hitems hstored
    obtain ⟨user, huser⟩ := Option.isSome_iff_exists.mp
      ((OrderedDict.mem_keys_iff _ _).mp (hfiled.registered messageId row hrow userId hmem))
    refine ⟨page, _, ?_, row.summaryJson iso messageId userId,
      List.mem_map_of_mem (f := fun row => row.2.summaryJson iso row.1 userId) hpage, rfl, rfl⟩
    unfold getAllMessages
    rw [messagesPermitted_iff.mpr hmay, huser]
    rfl

/-- The channels of two users are different. -/
theorem subscribed_injective {userId other : ℤ}
    (h : notifications.subscribed (toString userId) = notifications.subscribed (toString other)) :
    userId = other := by
  have htexts := congrArg String.toList h
  simp only [notifications, SseStream.subscribed, createSubchannelName, String.toList_append,
    List.append_cancel_left_eq] at htexts
  exact repr_injective htexts

/-- **A message is known to the users it was sent to**: in every order of operations, what is pushed
to the channel of a user is about a message that was sent to the user and that the user has not
lost; the user is told of every message that is saved for the user; and the pages of the user list,
for roles that may read messages, those that were sent to the user and that the user has not lost. -/
theorem message_audience (hstart : start.messages = [])
    (haccounts : start.accounts.users.keys.Nodup) (hitems : 0 < itemsPerPage)
    (hproper : ∀ turn ∈ turns, Proper turn.op)
    (hrun : Run (MessageStep iso bindable itemsPerPage) start turns db) (userId : ℤ) :
    (∀ turn db', Proper turn.op → MessageStep iso bindable itemsPerPage db turn db' →
      ∀ pushed ∈ turn.reply.published, pushed.1 = notifications.subscribed (toString userId) →
      ∃ messageId sent, TellsAbout messageId userId pushed ∧
        SentTo (MessageStep iso bindable itemsPerPage) start (turns ++ [turn]) userId messageId
          sent) ∧
    (∀ turn db' sent messageId, Proper turn.op →
      MessageStep iso bindable itemsPerPage db turn db' → turn.op = .send sent →
      turn.reply.response = .saved messageId → IsAddressee sent db.accounts userId →
      ∃ pushed ∈ turn.reply.published, TellsAbout messageId userId pushed) ∧
    ∀ userRoles messageId subject,
      (∃ page jsons, (getAllMessages iso itemsPerPage userId userRoles page db).response =
          .messages jsons ∧ ∃ json ∈ jsons, ListsMessage messageId subject json) ↔
      MayWithMessages "read" userRoles db.accounts ∧
        ∃ sent, SentTo (MessageStep iso bindable itemsPerPage) start turns userId messageId sent ∧
          sent.message.subject.getD "" = subject := by
  have hrows := rowsDelivered_of_run hstart haccounts hproper hrun
  refine ⟨?_, ?_, ?_⟩
  · intro turn db' hturn hstep pushed hpushed hchannel
    obtain ⟨messageId, row, other, hrow, hmem, htells⟩ :=
      (messageSpec_of_step hrows.filed hturn hstep).tells pushed hpushed
    obtain rfl := subscribed_injective (hchannel.symm.trans htells.1)
    have hlonger : ∀ later ∈ turns ++ [turn], Proper later.op := by
      simpa [or_imp, forall_and] using ⟨hproper, hturn⟩
    have hrows' := rowsDelivered_of_run hstart haccounts hlonger (hrun.append (.single hstep))
    obtain ⟨sent, hsent⟩ := (hrows'.sentTo_iff userId messageId).mpr ⟨row, hrow, hmem⟩
    exact ⟨messageId, sent, htells, hsent⟩
  · intro turn db' sent messageId hturn hstep hop hsaved hrecipient
    have hspec := messageSpec_of_step hrows.filed hturn hstep
    obtain ⟨-, sent', row, hop', hrow, hsavedAs⟩ := hspec.saves messageId hsaved
    obtain rfl := MessageOp.send.inj (hop.symm.trans hop')
    exact hspec.announces messageId row hsaved hrow userId
      ((hsavedAs.users userId).mpr hrecipient)
  · intro userRoles messageId subject
    rw [lists_iff hrows.filed hitems]
    refine and_congr_right fun _ => ?_
    constructor
    · rintro ⟨row, hrow, hmem, rfl⟩
      obtain ⟨sent, accounts, since, hdelivery, hkept⟩ :=
        (hrows.sentTo_iff userId messageId).mpr ⟨row, hrow, hmem⟩
      obtain ⟨row', hrow', hfor⟩ := hrows.row messageId sent accounts since hdelivery
      obtain rfl := Option.some.inj (hrow.symm.trans hrow')
      exact ⟨sent, ⟨accounts, since, hdelivery, hkept⟩, hfor.subject.symm⟩
    · rintro ⟨sent, ⟨accounts, since, hdelivery, hkept⟩, rfl⟩
      obtain ⟨row, hrow, hfor⟩ := hrows.row messageId sent accounts since hdelivery
      exact ⟨row, hrow, (hfor.users userId).mpr hkept, hfor.subject⟩

end

/-! ## A message to a role -/

/-- The message that is sent to a role. -/
def greeting : SentMessage :=
  { message := { subject := some "Alert", body := [.text (.str "Proceed?"), .acceptDecline] }
    users := none, roles := some [1], requiresReauth := false
    context := { name := "w", id := ⟨0, by decide⟩, executionId := ⟨1, by decide⟩ }, user := none }

/-- A second of a minute at noon, as `isoformat` writes it. -/
def atNoon (second : ℤ) : String :=
  "2018-07-02T12:00:0" ++ toString second

/-- Two users, of whom one has the role, which may do everything with messages. -/
def twoAccounts : MessageDb :=
  { accounts :=
      { users := [(1, { username := "a", password := "", active := true, roles := [1] }),
          (2, { username := "b", password := "", active := true, roles := [] })]
        roles := [(1, { name := "admin", description := ""
                        resources := [⟨"messages", ["read", "update", "delete"]⟩] })] }
    messages := [] }

/-- The message has been sent. -/
def greeted : Reply × MessageDb :=
  serveMessages atNoon (fun _ => true) 20 0 twoAccounts (.send greeting)

/-- A user with a token without roles has asked to delete it. -/
def refusedDeletion : Reply × MessageDb :=
  serveMessages atNoon (fun _ => true) 20 3 greeted.2 (.actOnMessages 1 [] "delete" [1])

/-- What has happened. -/
def greetedTurns : List MessageTurn :=
  [⟨.send greeting, 0, twoAccounts.accounts, greeted.1⟩,
    ⟨.actOnMessages 1 [] "delete" [1], 3, greeted.2.accounts, refusedDeletion.1⟩]

/-- The operations of the example are proper. -/
theorem proper_greeted : ∀ turn ∈ greetedTurns, Proper turn.op := by
  intro turn hturn
  simp only [greetedTurns, List.mem_cons, List.not_mem_nil, or_false] at hturn
  rcases hturn with rfl | rfl
  · intro text _
    decide
  · trivial

/-- Every operation can be served. -/
theorem messageStep_serve (iso : ℤ → String) (bindable : List ℤ → Bool) (itemsPerPage now : ℤ)
    (db : MessageDb) (op : MessageOp) :
    MessageStep iso bindable itemsPerPage db
      ⟨op, now, db.accounts, (serveMessages iso bindable itemsPerPage now db op).1⟩
      (serveMessages iso bindable itemsPerPage now db op).2 :=
  ⟨rfl, rfl⟩

/-- They run. -/
theorem run_greeted : Run (MessageStep atNoon (fun _ => true) 20) twoAccounts greetedTurns
    refusedDeletion.2 := by
  unfold greetedTurns refusedDeletion
  refine .cons (t := greeted.2) ?_ (.single (messageStep_serve _ _ _ _ _ _))
  unfold greeted
  exact messageStep_serve _ _ _ _ _ _

/-- The role of the example may read messages. -/
theorem mayRead_greeted : MayWithMessages "read" [1] refusedDeletion.2.accounts := by
  refine ⟨1, by simp, { name := "admin", description := ""
                        resources := [⟨"messages", ["read", "update", "delete"]⟩] }, ?_,
    ⟨"messages", ["read", "update", "delete"]⟩, by simp, rfl, by simp⟩
  decide +kernel

/-- The greeting is sent to the user of the example. -/
theorem sentTo_greeted : SentTo (MessageStep atNoon (fun _ => true) 20) twoAccounts greetedTurns
    1 1 greeting := by
  refine ⟨twoAccounts.accounts, _, ⟨[], 0, greeted.1, twoAccounts, rfl, .refl _, rfl, ?_⟩, ?_, ?_⟩
  · decide +kernel
  · exact ⟨_, rfl, .inr ⟨1, by decide, by decide, by decide⟩⟩
  · intro turn hturn
    obtain rfl := List.mem_singleton.mp hturn
    rintro ⟨-, -, -, roleId, hrole, -⟩
    cases hrole

/-- The recipient who kept the greeting reads it as it was sent. -/
theorem message_readers_one : ∃ json,
    (getMessage atNoon 1 [1] 1 5 refusedDeletion.2).1.response = .message json ∧
      Messaging.Message.fromJson json = .ok (receivedMessage greeting.message) :=
  (message_readers rfl (by decide) proper_greeted run_greeted 1 [1] 1 5).2 greeting
    mayRead_greeted sentTo_greeted

/-- The greeting is on one of the recipient's pages. -/
theorem message_audience_one : ∃ page jsons,
    (getAllMessages atNoon 20 1 [1] page refusedDeletion.2).response = .messages jsons ∧
      ∃ json ∈ jsons, ListsMessage 1 "Alert" json :=
  ((message_audience rfl (by decide) (by decide) proper_greeted run_greeted 1).2.2 [1] 1
    "Alert").mpr ⟨mayRead_greeted, greeting, sentTo_greeted, rfl⟩

end Walkoff.Analysis
