import Walkoff.Library.Transition
import Walkoff.Program.MessageLog

/-!
# The history of a message

Users read a message, mark it as unread, delete it and respond to it, in any order. Whether an
action is recorded depends on the users the message still has and on a scan of its history. This
module says what every history looks like, and that the scans report it.
-/

set_option autoImplicit false

namespace Walkoff.Analysis

open Walkoff.Library Walkoff.Program

/-- A call of `record_user_action`. -/
structure UserAction where
  userId : ℤ
  action : MessageAction

/-- One call after the other, by users with their usernames. -/
def RecordStep (username : ℤ → String) (message : StoredMessage) (call : UserAction)
    (message' : StoredMessage) : Prop :=
  message.recordUserAction call.userId (username call.userId) call.action = message'

/-- What a user did to the message as reading it and marking it as unread, oldest first. -/
def readings (userId : ℤ) (history : List MessageHistory) : List MessageAction :=
  ((history.filter (·.userId = userId)).map (·.action)).filter fun action =>
    action = .read ∨ action = .unread

/-- The histories of a message with some first recipients. -/
structure LawfulHistory (recipients : List ℤ) (username : ℤ → String) (message : StoredMessage) :
    Prop where
  recipients : ∀ entry ∈ message.history,
    entry.userId ∈ recipients ∧ entry.username = username entry.userId
  respondsIfRequired : ∀ entry ∈ message.history, entry.action = .respond →
    message.requiresResponse = true
  respondsOnce : message.history.countP (·.action = .respond) ≤ 1
  responded : message.isResponded.isSome = true ↔
    ∃ entry ∈ message.history, entry.action = .respond
  deletesLast : message.history.Pairwise fun entry later =>
    entry.action = .delete → later.userId ≠ entry.userId
  unreadsAfterRead : ∀ userId before after,
    readings userId message.history = before ++ .unread :: after →
      ∃ earlier, before = earlier ++ [.read]
  hasRead : ∀ userId, message.userHasRead userId = true ↔
    (readings userId message.history).getLast? = some .read
  readBy : ∀ name, name ∈ message.getReadBy ↔
    ∃ userId, username userId = name ∧
      ∃ entry ∈ message.history, entry.userId = userId ∧ entry.action = .read

/-! ## The scans -/

/-- A user has read a message exactly if the last reading was no marking as unread. -/
theorem userHasRead_iff (message : StoredMessage) (userId : ℤ) :
    message.userHasRead userId = true ↔
      (readings userId message.history).getLast? = some .read := by
  have hscan : (readings userId message.history).getLast? =
      ((message.history.filter (·.userId = userId)).reverse.find?
        fun entry => entry.action = .read ∨ entry.action = .unread).map (·.action) := by
    unfold readings
    rw [List.filter_map, List.getLast?_map, ← List.head?_reverse, ← List.filter_reverse,
      List.head?_filter]
    rfl
  unfold StoredMessage.userHasRead
  rw [hscan]
  cases (message.history.filter (·.userId = userId)).reverse.find?
      fun entry => entry.action = .read ∨ entry.action = .unread with
  | none => simp
  | some entry => simp

/-- A message has a response exactly if it requires one and someone responded. -/
theorem isResponded_iff (message : StoredMessage) :
    message.isResponded.isSome = true ↔ message.requiresResponse = true ∧
      ∃ entry ∈ message.history, entry.action = .respond := by
  unfold StoredMessage.isResponded
  split
  · rename_i hrequires
    simp [hrequires]
  · rename_i hrequires
    simp [hrequires]

/-- Those who read a message are the names of its entries of reading. -/
theorem mem_getReadBy (message : StoredMessage) (name : String) :
    name ∈ message.getReadBy ↔
      ∃ entry ∈ message.history, entry.action = .read ∧ entry.username = name := by
  simp [StoredMessage.getReadBy, and_assoc]

/-! ## One action -/

/-- What is recorded: an action of a user who still has the message, which the guards let
through. -/
theorem recordUserAction_cases (message : StoredMessage) (userId : ℤ) (username : String)
    (action : MessageAction) :
    message.recordUserAction userId username action = message ∨
      userId ∈ message.users ∧
        (action = .unread → message.userHasRead userId = true) ∧
        (action = .respond → message.requiresResponse = true ∧
          message.isResponded.isSome = false) ∧
        message.recordUserAction userId username action =
          { message with
            users := if action = .delete then message.users.erase userId else message.users
            history := message.history ++ [{ action, userId, username }] } := by
  unfold StoredMessage.recordUserAction
  split
  · rename_i huser
    split
    · exact .inl rfl
    · rename_i hguards
      refine .inr ⟨huser, ?_, ?_, rfl⟩
      · intro haction
        by_contra hread
        exact hguards (.inl ⟨haction, by simpa using hread⟩)
      · intro haction
        constructor
        · by_contra hrequires
          exact hguards (.inr ⟨haction, .inl (by simpa using hrequires)⟩)
        · by_contra hresponded
          exact hguards (.inr ⟨haction, .inr ((Bool.not_eq_false _).mp hresponded)⟩)
  · exact .inl rfl

/-! ## What every action keeps -/

/-- The laws that are kept by one action after the other, with what the users that the message
still has are good for. -/
structure KeptLaws (recipients : List ℤ) (username : ℤ → String) (message : StoredMessage) :
    Prop where
  distinct : message.users.Nodup
  left : ∀ userId ∈ message.users, userId ∈ recipients
  gone : ∀ entry ∈ message.history, entry.action = .delete → entry.userId ∉ message.users
  recipients : ∀ entry ∈ message.history,
    entry.userId ∈ recipients ∧ entry.username = username entry.userId
  respondsIfRequired : ∀ entry ∈ message.history, entry.action = .respond →
    message.requiresResponse = true
  respondsOnce : message.history.countP (·.action = .respond) ≤ 1
  deletesLast : message.history.Pairwise fun entry later =>
    entry.action = .delete → later.userId ≠ entry.userId
  unreadsAfterRead : ∀ userId before after,
    readings userId message.history = before ++ .unread :: after →
      ∃ earlier, before = earlier ++ [.read]

/-- An entry more is a reading more if the user read or unread by it. -/
theorem readings_append (userId : ℤ) (history : List MessageHistory) (entry : MessageHistory) :
    readings userId (history ++ [entry]) = readings userId history ++
      (if entry.userId = userId ∧ (entry.action = .read ∨ entry.action = .unread)
        then [entry.action] else []) := by
  unfold readings
  rw [List.filter_append, List.map_append, List.filter_append]
  by_cases huser : entry.userId = userId
  · by_cases haction : entry.action = .read ∨ entry.action = .unread
    · simp [huser, haction]
    · simp [huser, haction]
  · simp [huser]

/-- The last element of a list that is taken apart is the one in the middle, or comes after. -/
theorem append_singleton_cases {α : Type} {as before after : List α} {a b : α}
    (h : as ++ [a] = before ++ b :: after) :
    as = before ∧ a = b ∨ ∃ after', as = before ++ b :: after' := by
  rcases List.eq_nil_or_concat after with rfl | ⟨after', last, rfl⟩
  · obtain ⟨has, ha⟩ := List.append_inj' h rfl
    exact .inl ⟨has, List.head_eq_of_cons_eq ha⟩
  · rw [List.concat_eq_append, ← List.cons_append, ← List.append_assoc] at h
    exact .inr ⟨after', (List.append_inj' h rfl).1⟩

/-- An unread that is recorded comes directly after a read. -/
theorem unreadsAfterRead_append {message : StoredMessage} {entry : MessageHistory}
    (hunread : entry.action = .unread → message.userHasRead entry.userId = true)
    (h : ∀ userId before after, readings userId message.history = before ++ .unread :: after →
      ∃ earlier, before = earlier ++ [.read]) (userId : ℤ) (before after : List MessageAction)
    (hsplit : readings userId (message.history ++ [entry]) = before ++ .unread :: after) :
    ∃ earlier, before = earlier ++ [.read] := by
  rw [readings_append] at hsplit
  split at hsplit
  · rename_i hentry
    rcases append_singleton_cases hsplit with ⟨hbefore, haction⟩ | ⟨after', hold⟩
    · have hlast := (userHasRead_iff message entry.userId).mp (hunread haction)
      rw [hentry.1, hbefore] at hlast
      exact ⟨before.dropLast, (List.dropLast_append_getLast? _ hlast).symm⟩
    · exact h userId before after' hold
  · rw [List.append_nil] at hsplit
    exact h userId before after hsplit

/-- An entry of a user of the message keeps the laws. -/
theorem keptLaws_append {recipients : List ℤ} {username : ℤ → String} {message : StoredMessage}
    {userId : ℤ} {action : MessageAction} (hlaws : KeptLaws recipients username message)
    (huser : userId ∈ message.users)
    (hunread : action = .unread → message.userHasRead userId = true)
    (hrespond : action = .respond →
      message.requiresResponse = true ∧ message.isResponded.isSome = false) :
    KeptLaws recipients username { message with
      users := if action = .delete then message.users.erase userId else message.users
      history := message.history ++ [{ action, userId, username := username userId }] } where
  distinct := by
    dsimp only
    split
    · exact hlaws.distinct.erase userId
    · exact hlaws.distinct
  left := by
    intro other hother
    dsimp only at hother
    split at hother
    · exact hlaws.left other (List.mem_of_mem_erase hother)
    · exact hlaws.left other hother
  gone := by
    intro entry hentry haction
    dsimp only
    rcases List.mem_append.mp hentry with hold | hnew
    · split
      · exact fun hmem => hlaws.gone entry hold haction (List.mem_of_mem_erase hmem)
      · exact hlaws.gone entry hold haction
    · obtain rfl := List.mem_singleton.mp hnew
      rw [if_pos haction]
      exact fun hmem => ((hlaws.distinct.mem_erase_iff).mp hmem).1 rfl
  recipients := by
    intro entry hentry
    rcases List.mem_append.mp hentry with hold | hnew
    · exact hlaws.recipients entry hold
    · obtain rfl := List.mem_singleton.mp hnew
      exact ⟨hlaws.left userId huser, rfl⟩
  respondsIfRequired := by
    intro entry hentry haction
    rcases List.mem_append.mp hentry with hold | hnew
    · exact hlaws.respondsIfRequired entry hold haction
    · obtain rfl := List.mem_singleton.mp hnew
      exact (hrespond haction).1
  respondsOnce := by
    dsimp only
    rw [List.countP_append]
    by_cases haction : action = .respond
    · have hnone : message.history.countP (·.action = .respond) = 0 := by
        rw [List.countP_eq_zero]
        intro entry hentry hresponse
        have hresponded := (isResponded_iff message).mpr
          ⟨(hrespond haction).1, entry, hentry, of_decide_eq_true hresponse⟩
        rw [(hrespond haction).2] at hresponded
        cases hresponded
      have hone : [{ action, userId, username := username userId : MessageHistory }].countP
          (·.action = .respond) ≤ 1 := List.countP_le_length
      omega
    · have hnone : [{ action, userId, username := username userId : MessageHistory }].countP
          (·.action = .respond) = 0 := by
        simp [haction]
      have honce := hlaws.respondsOnce
      omega
  deletesLast := by
    dsimp only
    rw [List.pairwise_append]
    refine ⟨hlaws.deletesLast, List.pairwise_singleton _ _, ?_⟩
    intro entry hentry later hlater haction
    obtain rfl := List.mem_singleton.mp hlater
    intro hsame
    exact hlaws.gone entry hentry haction (hsame ▸ huser)
  unreadsAfterRead := unreadsAfterRead_append hunread hlaws.unreadsAfterRead

/-- Recording an action keeps the laws. -/
theorem keptLaws_step {recipients : List ℤ} {username : ℤ → String} (message : StoredMessage)
    (call : UserAction) (message' : StoredMessage) (hlaws : KeptLaws recipients username message)
    (hstep : RecordStep username message call message') :
    KeptLaws recipients username message' := by
  obtain rfl := hstep
  rcases recordUserAction_cases message call.userId (username call.userId) call.action with
    hsame | ⟨huser, hunread, hrespond, hrecorded⟩
  · rw [hsame]
    exact hlaws
  · rw [hrecorded]
    exact keptLaws_append hlaws huser hunread hrespond

/-- A message that keeps the laws has a lawful history. -/
theorem lawfulHistory_of_kept {recipients : List ℤ} {username : ℤ → String}
    {message : StoredMessage} (hlaws : KeptLaws recipients username message) :
    LawfulHistory recipients username message where
  recipients := hlaws.recipients
  respondsIfRequired := hlaws.respondsIfRequired
  respondsOnce := hlaws.respondsOnce
  responded := by
    rw [isResponded_iff]
    refine ⟨fun h => h.2, fun h => ⟨?_, h⟩⟩
    obtain ⟨entry, hentry, haction⟩ := h
    exact hlaws.respondsIfRequired entry hentry haction
  deletesLast := hlaws.deletesLast
  unreadsAfterRead := hlaws.unreadsAfterRead
  hasRead := userHasRead_iff message
  readBy := by
    intro name
    rw [mem_getReadBy]
    constructor
    · rintro ⟨entry, hentry, haction, rfl⟩
      exact ⟨entry.userId, (hlaws.recipients entry hentry).2.symm, entry, hentry, rfl, haction⟩
    · rintro ⟨_, rfl, entry, hentry, rfl, haction⟩
      exact ⟨entry, hentry, haction, (hlaws.recipients entry hentry).2⟩

/-- **Every history is lawful**: that of a message with distinct recipients, after any actions of
any users. -/
theorem lawfulHistory_of_run {username : ℤ → String} {message message' : StoredMessage}
    {calls : List UserAction} (hdistinct : message.users.Nodup) (hnew : message.history = [])
    (hrun : Run (RecordStep username) message calls message') :
    LawfulHistory message.users username message' := by
  have hlaws : KeptLaws message.users username message := by
    refine ⟨hdistinct, fun _ h => h, ?_, ?_, ?_, ?_, ?_, ?_⟩
    all_goals rw [hnew]
    · exact fun _ h => absurd h List.not_mem_nil
    · exact fun _ h => absurd h List.not_mem_nil
    · exact fun _ h => absurd h List.not_mem_nil
    · exact Nat.zero_le 1
    · exact .nil
    · intro userId before after hsplit
      exact absurd hsplit.symm (List.append_ne_nil_of_right_ne_nil _ (List.cons_ne_nil _ _))
  exact lawfulHistory_of_kept (hrun.invariant keptLaws_step hlaws)

/-- A message to two users that asks for a response. -/
def twoUsersMessage : StoredMessage where
  workflowExecutionId := 5
  requiresResponse := true
  users := [1, 2]
  roles := []
  history := []

/-- The first user reads it, the second one responds to it and deletes it. -/
theorem twoUsers_lawful : ∃ message,
    Run (RecordStep fun userId => toString userId) twoUsersMessage
      [⟨1, .read⟩, ⟨2, .respond⟩, ⟨2, .delete⟩] message ∧ message.history.length = 3 ∧
      LawfulHistory [1, 2] (fun userId => toString userId) message := by
  have hrun : Run (RecordStep fun userId => toString userId) twoUsersMessage
      [⟨1, .read⟩, ⟨2, .respond⟩, ⟨2, .delete⟩] _ :=
    .cons rfl (.cons rfl (.cons rfl (.refl _)))
  exact ⟨_, hrun, rfl, lawfulHistory_of_run (by decide) rfl hrun⟩

end Walkoff.Analysis
