import Mathlib.Data.Finset.Dedup
import Walkoff.Program.TriggersEndpoint
import Walkoff.Program.Users

/-!
# Recording answers to messages

A message has a history of what its users did with it. `send_data_to_trigger` records in it
that a user responded: `log_action_taken_on_message` is called for every execution that was
resumed and looks for the first message of the execution.
-/

set_option autoImplicit false

namespace Walkoff.Program

open Walkoff.Model
open Walkoff.Library (OrderedDict)

/-- `MessageAction`. -/
inductive MessageAction where
  | read
  | unread
  | delete
  | respond
  deriving DecidableEq, Repr

/-- A row of the table `message_history`. -/
structure MessageHistory where
  action : MessageAction
  userId : ℤ
  username : String
  deriving DecidableEq, Repr

/-- A row of the table `message` with its history. Its users are those who have not deleted it. -/
structure StoredMessage extends Message where
  history : List MessageHistory
  deriving DecidableEq, Repr

namespace StoredMessage

/-- `user_has_read`: the last time the user read the message or marked it as unread. -/
def userHasRead (self : StoredMessage) (userId : ℤ) : Bool :=
  match (self.history.filter (·.userId = userId)).reverse.find?
      (fun entry => entry.action = .read ∨ entry.action = .unread) with
  | some entry => entry.action = .read
  | none => false

/-- `is_responded`: the last response, if the message requires one and has one. -/
def isResponded (self : StoredMessage) : Option MessageHistory :=
  if self.requiresResponse then self.history.reverse.find? (·.action = .respond) else none

/-- `get_read_by`: the usernames of a set. -/
def getReadBy (self : StoredMessage) : Finset String :=
  ((self.history.filter (·.action = .read)).map (·.username)).toFinset

/-- `record_user_action`. -/
def recordUserAction (self : StoredMessage) (userId : ℤ) (username : String)
    (action : MessageAction) : StoredMessage :=
  if userId ∈ self.users then
    if (action = .unread ∧ !self.userHasRead userId) ∨
        (action = .respond ∧ (!self.requiresResponse ∨ self.isResponded.isSome)) then self
    else
      let users := if action = .delete then self.users.erase userId else self.users
      { self with users, history := self.history ++ [{ action, userId, username }] }
  else self

end StoredMessage

/-- Change the first message of an execution. -/
def onFirstMessage (executionId : UUID) (change : StoredMessage → StoredMessage) :
    List StoredMessage → List StoredMessage
  | [] => []
  | message :: messages =>
    if message.workflowExecutionId = executionId then change message :: messages
    else message :: onFirstMessage executionId change messages

/-- What `log_action_taken_on_message` does to the message it finds. -/
def respondTo (users : OrderedDict ℤ User) (userId : Option ℤ) (message : StoredMessage) :
    StoredMessage :=
  if message.requiresResponse then
    match userId with
    | none => message
    | some id =>
      match OrderedDict.get? id users with
      | some user => message.recordUserAction id user.username .respond
      | none => message
  else message

/-- `log_action_taken_on_message`. -/
def logActionTakenOnMessage (users : OrderedDict ℤ User) (userId : Option ℤ)
    (executionId : UUID) : List StoredMessage → List StoredMessage :=
  onFirstMessage executionId (respondTo users userId)

/-- What `send_data_to_trigger` works on: the executor, the table of messages, and the
`completed_execution_ids` of the request. -/
structure TriggerState (σ : Type) where
  world : World σ
  messages : List StoredMessage
  completedExecutionIds : List UUID

variable {σ α : Type}

/-- A step of the executor. -/
def inWorld (m : M σ α) : EStateM Exn (TriggerState σ) α := fun s =>
  match m s.world with
  | .ok a world => .ok a { s with world }
  | .error e world => .error e { s with world }

/-- The loop of `send_data_to_trigger`: try to resume an execution and record the answer. -/
def answerEach (resume : UUID → M σ Bool) (users : OrderedDict ℤ User) (userId : Option ℤ) :
    List UUID → EStateM Exn (TriggerState σ) Unit
  | [] => pure ()
  | executionId :: executionIds => do
    let resumed ← inWorld (resume executionId)
    if resumed then
      modify fun s => { s with
        completedExecutionIds := s.completedExecutionIds ++ [executionId]
        messages := logActionTakenOnMessage users userId executionId s.messages }
    answerEach resume users userId executionIds

/-- `send_data_to_trigger` with the messages it reads and writes. -/
def answerTriggers (resume : TriggerRequest → UUID → M σ Bool) (users : OrderedDict ℤ User)
    (request : TriggerRequest) : EStateM Exn (TriggerState σ) (List UUID) := do
  let s ← get
  answerEach (resume request) users request.userId
    (allowedExecutionIds (s.messages.map (·.toMessage)) request (getWaitingWorkflows s.world))
  pure (← get).completedExecutionIds

end Walkoff.Program
