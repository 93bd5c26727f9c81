import Walkoff.Library.Effect
import Walkoff.Model.Workflow

/-!
# Events and the packets that carry them

The signals the executor and the controller send, and `event_to_protobuf`, which turns a
signal into the packet put on the results socket. Encoding can fail: workflow and action
data go through `json.dumps`, and the device id of an action has to fit an `int32`.
-/

set_option autoImplicit false

namespace Walkoff.Model

/-- The members of `WalkoffEvent` that the workers and the controller send about executions. -/
inductive WalkoffEvent where
  | workerReady
  | workflowExecutionPending
  | workflowExecutionStart
  | appInstanceCreated
  | workflowShutdown
  | workflowAborted
  | workflowArgumentsValidated
  | workflowArgumentsInvalid
  | workflowPaused
  | workflowResumed
  | actionExecutionSuccess
  | actionExecutionError
  | actionStarted
  | actionArgumentsInvalid
  | triggerActionAwaitingData
  | triggerActionTaken
  | triggerActionNotTaken
  | sendMessage
  | consoleLog
  | branchTaken
  | branchNotTaken
  | conditionalExpressionTrue
  | conditionalExpressionFalse
  | conditionSuccess
  | conditionError
  | transformSuccess
  | transformError
  deriving DecidableEq, Repr

/-- The members of `EventType` those events have. -/
inductive EventType where
  | workflow
  | action
  | branch
  | conditionalExpression
  | condition
  | transform
  | other
  deriving DecidableEq, Repr

namespace WalkoffEvent

/-- `event_type`. -/
def eventType : WalkoffEvent → EventType
  | workerReady => .other
  | workflowExecutionPending | workflowExecutionStart | appInstanceCreated | workflowShutdown
  | workflowAborted | workflowArgumentsValidated | workflowArgumentsInvalid | workflowPaused
  | workflowResumed => .workflow
  | actionExecutionSuccess | actionExecutionError | actionStarted | actionArgumentsInvalid
  | triggerActionAwaitingData | triggerActionTaken | triggerActionNotTaken | sendMessage
  | consoleLog => .action
  | branchTaken | branchNotTaken => .branch
  | conditionalExpressionTrue | conditionalExpressionFalse => .conditionalExpression
  | conditionSuccess | conditionError => .condition
  | transformSuccess | transformError => .transform

/-- `requires_data`. -/
def requiresData : WalkoffEvent → Bool
  | workflowShutdown | actionExecutionError | actionArgumentsInvalid | actionExecutionSuccess
  | sendMessage => true
  | _ => false

/-- The four events that say how a run of the worker ended. -/
def isOutcome : WalkoffEvent → Bool
  | workflowShutdown | workflowPaused | workflowAborted | triggerActionAwaitingData => true
  | _ => false

/-- The events whose receivers set the status of the workflow. -/
def changesStatus : WalkoffEvent → Bool
  | workflowExecutionStart => true
  | event => event.isOutcome

/-- The two events whose handling saves the workflow. -/
def savesWorkflow : WalkoffEvent → Bool
  | triggerActionAwaitingData | workflowPaused => true
  | _ => false

end WalkoffEvent

/-- The `Argument` message: four optional texts. -/
structure ArgumentProto where
  name : Option String
  value : Option String
  reference : Option String
  selection : Option String
  deriving DecidableEq, Repr

/-- The text a field of an argument is sent as: a text unchanged if it can be encoded, anything
else as JSON, or as its `str` when `json.dumps` raises a `ValueError` or a `TypeError`; `None` is
not sent. -/
def protoField (v : PyVal) : Except Exn (Option String) :=
  match v with
  | .none => pure none
  | .str s => pure (some s)
  | .surrogates _ => throw .valueError
  | v => match v.dumps with
    | .ok text => pure (some text)
    | .error .valueError | .error .typeError => pure (some v.toStr)
    | .error e => throw e

/-- `_set_argument_proto`. -/
def setArgumentProto (arg : Argument) : Except Exn ArgumentProto := do
  let value ← protoField arg.value
  let selection ← protoField arg.selection
  pure { name := some arg.name, value, reference := arg.reference.map Key.str, selection }

/-- `_add_arguments_to_proto`. -/
def addArgumentsToProto (arguments : List Argument) : Except Exn (List ArgumentProto) :=
  arguments.mapM setArgumentProto

/-- The execution element a signal comes from. -/
inductive Sender where
  | workflow
  | action (self : Action) (executionId : ℕ) (resolvedDeviceId : PyVal)
  | element (id : UUID)

/-- A packet on the results socket. `additionalData` is JSON text. -/
structure Packet where
  event : WalkoffEvent
  user : Option String
  executionId : UUID
  senderId : Option UUID
  actionExecutionId : Option ℕ
  arguments : List ArgumentProto
  additionalData : Option String
  deriving DecidableEq, Repr

/-- Assigning to an `int32` field: integers and booleans in range only. -/
def int32Field : PyVal → Except Exn ℤ
  | .int i => if -2 ^ 31 ≤ i ∧ i < 2 ^ 31 then pure i else throw .valueError
  | .bool b => pure (if b then 1 else 0)
  | _ => throw .typeError

/-- What `event_to_protobuf` reads of the sending context. -/
structure PacketContext where
  executionId : UUID
  user : Option String

/-- `event_to_protobuf`. `startArguments` and `data` are the two ways in which a signal
carries data; the data of a workflow event is encoded even when there is none. -/
def eventToProtobuf (sender : Sender) (context : PacketContext) (event : WalkoffEvent)
    (data : Option PyVal) (startArguments : List Argument) : Except Exn Packet :=
  let packet : Packet :=
    { event, user := context.user, executionId := context.executionId, senderId := none
      actionExecutionId := none, arguments := [], additionalData := none }
  match event.eventType, sender with
  | .workflow, _ => do
    let additionalData ← (data.getD .none).dumps
    pure { packet with additionalData := some additionalData }
  | .action, .action self executionId resolvedDeviceId => do
    let additionalData ← data.mapM PyVal.dumps
    let _ ← int32Field resolvedDeviceId
    let arguments ← addArgumentsToProto
      (if startArguments.isEmpty then self.arguments else startArguments)
    pure { packet with
      senderId := some self.id, actionExecutionId := some executionId
      arguments, additionalData }
  | _, .element id => pure { packet with senderId := some id }
  | _, _ => pure packet

/-- A packet has its event and its execution. -/
theorem eventToProtobuf_event {sender : Sender} {context : PacketContext} {event : WalkoffEvent}
    {data : Option PyVal} {startArguments : List Argument} {packet : Packet}
    (h : eventToProtobuf sender context event data startArguments = .ok packet) :
    packet.event = event ∧ packet.executionId = context.executionId := by
  unfold eventToProtobuf at h
  dsimp only at h
  split at h
  · obtain ⟨text, -, h⟩ := Library.Except.bind_eq_ok.mp h
    cases h
    exact ⟨rfl, rfl⟩
  · obtain ⟨text, -, h⟩ := Library.Except.bind_eq_ok.mp h
    obtain ⟨device, -, h⟩ := Library.Except.bind_eq_ok.mp h
    obtain ⟨arguments, -, h⟩ := Library.Except.bind_eq_ok.mp h
    cases h
    exact ⟨rfl, rfl⟩
  all_goals
    cases h
    exact ⟨rfl, rfl⟩

end Walkoff.Model
