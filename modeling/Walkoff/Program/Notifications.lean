import Walkoff.Program.MessageLog

/-!
# Recent notifications

`get_recent_notifications` goes through the messages of a user in the order in which the table
gives them, collects unread and read ones, and sorts what it has collected.
-/

set_option autoImplicit false

namespace Walkoff.Program

/-- A message with the time of its creation. -/
structure DatedMessage extends StoredMessage where
  createdAt : ℤ
  deriving DecidableEq, Repr

/-- `max_notifications`. -/
def maxNotifications : ℕ := 20

/-- `min_notifications`. -/
def minNotifications : ℕ := 5

/-- The local variables of the loop. -/
structure Collected where
  unreadMessages : List DatedMessage
  readMessages : List DatedMessage
  fillInWithRead : Bool

/-- One turn of the loop. -/
def Collected.turn (userId : ℤ) (self : Collected) (message : DatedMessage) : Collected :=
  if !message.userHasRead userId then
    { self with unreadMessages := self.unreadMessages ++ [message] }
  else if self.fillInWithRead then
    if self.unreadMessages.length > minNotifications then { self with fillInWithRead := false }
    else { self with readMessages := self.readMessages ++ [message] }
  else self

/-- `sort(key=(lambda x: x.created_at), reverse=True)`. -/
def sortByCreation (messages : List DatedMessage) : List DatedMessage :=
  messages.mergeSort fun m n => n.createdAt ≤ m.createdAt

/-- `get_recent_notifications`: the messages it returns the summaries of. -/
def getRecentNotifications (userId : ℤ) (messages : List DatedMessage) : List DatedMessage :=
  let collected := messages.foldl (Collected.turn userId)
    { unreadMessages := [], readMessages := [], fillInWithRead := true }
  let unreadMessages :=
    if collected.fillInWithRead && collected.unreadMessages.length < minNotifications then
      (collected.unreadMessages ++ collected.readMessages).take 5
    else collected.unreadMessages
  (sortByCreation unreadMessages).take maxNotifications

end Walkoff.Program
