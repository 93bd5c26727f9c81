import Walkoff.Model.Events
import Walkoff.Model.JsonText

/-!
# The messages on the results socket

`ProtobufWorkflowResultsConverter`: `event_to_protobuf` turns a signal into a `Message`, and
`to_event_callback` turns the message back into the event, its sender and its data. The
protobuf encoding itself is lossless, so a message is the fields that are set in it.
-/

set_option autoImplicit false

namespace Walkoff.Program.ResultsCodec

open Walkoff.Model hiding eventToProtobuf
open Walkoff.Library (OrderedDict)

/-! ## Messages -/

/-- A `dict` with text keys. -/
abbrev Dict : Type := OrderedDict String PyVal

/-- `WorkflowSender`. -/
structure WorkflowSenderProto where
  name : Option String := none
  id : Option String := none
  executionId : Option String := none
  deriving DecidableEq, Repr

/-- `WorkflowPacket`. -/
structure WorkflowPacket where
  sender : Option WorkflowSenderProto := none
  additionalData : Option String := none
  deriving DecidableEq, Repr

/-- `ActionPacket.ActionSender`. -/
structure ActionSenderProto where
  name : Option String := none
  id : Option String := none
  executionId : Option String := none
  appName : Option String := none
  actionName : Option String := none
  arguments : List ArgumentProto := []
  deviceId : Option ℤ := none
  deriving DecidableEq, Repr

/-- `ActionPacket`. -/
structure ActionPacket where
  sender : Option ActionSenderProto := none
  workflow : Option WorkflowSenderProto := none
  additionalData : Option String := none
  deriving DecidableEq, Repr

/-- `GeneralPacket.GeneralSender`. -/
structure GeneralSenderProto where
  id : Option String := none
  appName : Option String := none
  deriving DecidableEq, Repr

/-- `GeneralPacket`. -/
structure GeneralPacket where
  sender : Option GeneralSenderProto := none
  workflow : Option WorkflowSenderProto := none
  deriving DecidableEq, Repr

/-- `UserMessage`. -/
structure UserMessage where
  sender : Option ActionSenderProto := none
  workflow : Option WorkflowSenderProto := none
  subject : Option String := none
  body : Option String := none
  requiresReauth : Option Bool := none
  users : List ℤ := []
  roles : List ℤ := []
  deriving DecidableEq, Repr

/-- `LoggingMessage`. -/
structure LoggingMessage where
  workflow : Option WorkflowSenderProto := none
  name : Option String := none
  appName : Option String := none
  actionName : Option String := none
  level : Option String := none
  message : Option String := none
  deriving DecidableEq, Repr

/-- `WorkerPacket`. -/
structure WorkerPacket where
  id : Option String := none
  deriving DecidableEq, Repr

/-- The member of the `oneof` that is set. -/
inductive PacketProto where
  | workflowPacket (packet : WorkflowPacket)
  | actionPacket (packet : ActionPacket)
  | generalPacket (packet : GeneralPacket)
  | messagePacket (packet : UserMessage)
  | loggingPacket (packet : LoggingMessage)
  | workerPacket (packet : WorkerPacket)
  deriving DecidableEq, Repr

/-- `Message.Type`. -/
inductive MessageType where
  | workflowPacket
  | workflowPacketData
  | actionPacket
  | actionPacketData
  | generalPacket
  | userMessage
  | logMessage
  | workerPacket
  deriving DecidableEq, Repr

/-- `Message`. -/
structure Message where
  type : Option MessageType
  eventName : String
  packet : Option PacketProto
  user : Option String
  deriving DecidableEq, Repr

/-! ## From a signal to a message -/

/-- An action that executes, with the ids of its execution and of its device. -/
structure ExecutingAction where
  action : Action
  executionId : String
  resolvedDeviceId : PyVal

/-- What a signal comes from. A condition and a transform also have the names of an app and of
an app action, a branch and a conditional expression have not. -/
inductive EventSender where
  | workflow
  | action (self : ExecutingAction)
  | element (id : UUID) (names : Option (String × String))
  | message (subject : Option String) (body : PyVal)
  | worker (id : String)

/-- The data of a signal: a value, or the dictionary that holds the start arguments. -/
inductive EventData where
  | value (v : PyVal)
  | startArguments (arguments : List Argument)

/-- The keyword arguments of a signal, next to the event. -/
structure EventArgs where
  data : Option EventData := none
  user : Option String := none
  level : Option PyVal := none
  message : Option String := none
  users : Option (List ℤ) := none
  roles : Option (List ℤ) := none
  requiresReauth : Option Bool := none

/-- What the converter reads of the `WorkflowExecutionContext`. -/
structure WorkflowContext where
  name : String
  id : UUID
  executionId : UUID

/-- `event.name`. -/
def eventName : WalkoffEvent → String
  | .workerReady => "WorkerReady"
  | .workflowExecutionPending => "WorkflowExecutionPending"
  | .workflowExecutionStart => "WorkflowExecutionStart"
  | .appInstanceCreated => "AppInstanceCreated"
  | .workflowShutdown => "WorkflowShutdown"
  | .workflowAborted => "WorkflowAborted"
  | .workflowArgumentsValidated => "WorkflowArgumentsValidated"
  | .workflowArgumentsInvalid => "WorkflowArgumentsInvalid"
  | .workflowPaused => "WorkflowPaused"
  | .workflowResumed => "WorkflowResumed"
  | .actionExecutionSuccess => "ActionExecutionSuccess"
  | .actionExecutionError => "ActionExecutionError"
  | .actionStarted => "ActionStarted"
  | .actionArgumentsInvalid => "ActionArgumentsInvalid"
  | .triggerActionAwaitingData => "TriggerActionAwaitingData"
  | .triggerActionTaken => "TriggerActionTaken"
  | .triggerActionNotTaken => "TriggerActionNotTaken"
  | .sendMessage => "SendMessage"
  | .consoleLog => "ConsoleLog"
  | .branchTaken => "BranchTaken"
  | .branchNotTaken => "BranchNotTaken"
  | .conditionalExpressionTrue => "ConditionalExpressionTrue"
  | .conditionalExpressionFalse => "ConditionalExpressionFalse"
  | .conditionSuccess => "ConditionSuccess"
  | .conditionError => "ConditionError"
  | .transformSuccess => "TransformSuccess"
  | .transformError => "TransformError"

/-- The members of `WalkoffEvent`. -/
def allEvents : List WalkoffEvent :=
  [.workerReady, .workflowExecutionPending, .workflowExecutionStart, .appInstanceCreated,
   .workflowShutdown, .workflowAborted, .workflowArgumentsValidated, .workflowArgumentsInvalid,
   .workflowPaused, .workflowResumed, .actionExecutionSuccess, .actionExecutionError,
   .actionStarted, .actionArgumentsInvalid, .triggerActionAwaitingData, .triggerActionTaken,
   .triggerActionNotTaken, .sendMessage, .consoleLog, .branchTaken, .branchNotTaken,
   .conditionalExpressionTrue, .conditionalExpressionFalse, .conditionSuccess, .conditionError,
   .transformSuccess, .transformError]

/-- `WalkoffEvent.get_event_from_name`. -/
def getEventFromName (name : String) : Option WalkoffEvent :=
  allEvents.find? (eventName · = name)

/-- `_add_workflow_to_proto`. -/
def addWorkflowToProto (context : WorkflowContext) : WorkflowSenderProto :=
  { name := some context.name, id := some context.id.str
    executionId := some context.executionId.str }

/-- `_convert_workflow_to_proto`. -/
def convertWorkflowToProto (context : WorkflowContext) (data : Option EventData) :
    Except Exn WorkflowPacket :=
  match data with
  -- The arguments in the dictionary are no JSON.
  | some (.startArguments _) => throw .typeError
  | some (.value v) => do
    pure { sender := some (addWorkflowToProto context), additionalData := some (← v.dumps) }
  | none => do
    pure { sender := some (addWorkflowToProto context)
           additionalData := some (← PyVal.none.dumps) }

/-- What `data.pop('start_arguments', None)` gives, and the data that stays. -/
def popStartArguments : EventData → Except Exn ((List Argument ⊕ PyVal) × PyVal)
  | .startArguments arguments => pure (.inl arguments, .dict [])
  | .value (.dict items) =>
    pure (.inr ((OrderedDict.get? "start_arguments" items).getD .none),
      .dict (OrderedDict.pop "start_arguments" items))
  | .value (.list _) => throw .typeError
  | .value _ => throw .attributeError

/-- `arguments if arguments else sender.arguments`, and the arguments added to the message:
what a value that is no list of arguments holds has no `name`. -/
def argumentsToAdd (self : Action) : List Argument ⊕ PyVal → Except Exn (List ArgumentProto)
  | .inl arguments =>
    addArgumentsToProto (if arguments.isEmpty then self.arguments else arguments)
  | .inr v =>
    if v.truthy then
      match v with
      | .str _ | .surrogates _ | .list _ | .dict _ => throw .attributeError
      | _ => throw .typeError
    else addArgumentsToProto self.arguments

/-- `_add_sender_to_action_packet_proto`. -/
def addSenderToActionPacketProto (sender : ExecutingAction) : Except Exn ActionSenderProto := do
  let deviceId ← int32Field sender.resolvedDeviceId
  pure { name := some sender.action.name, id := some sender.action.id.str
         executionId := some sender.executionId, appName := some sender.action.appName
         actionName := some sender.action.actionName, deviceId := some deviceId }

/-- The start arguments and the additional data of an action; data that is `None` is no data. -/
def actionData : Option EventData → Except Exn ((List Argument ⊕ PyVal) × Option String)
  | none | some (.value .none) => pure (.inr .none, none)
  | some data => do
    let (arguments, data) ← popStartArguments data
    pure (arguments, some (← data.dumps))

/-- `_convert_action_to_proto`. -/
def convertActionToProto (sender : ExecutingAction) (context : WorkflowContext)
    (data : Option EventData) : Except Exn ActionPacket := do
  let (arguments, additionalData) ← actionData data
  let actionSender ← addSenderToActionPacketProto sender
  let arguments ← argumentsToAdd sender.action arguments
  pure { sender := some { actionSender with arguments }
         workflow := some (addWorkflowToProto context), additionalData }

/-- `_convert_log_message_to_protobuf`. -/
def convertLogMessageToProtobuf (sender : ExecutingAction) (context : WorkflowContext)
    (args : EventArgs) : Except Exn LoggingMessage :=
  match args.level, args.message with
  | some level, some message =>
    pure { workflow := some (addWorkflowToProto context), name := some sender.action.name
           appName := some sender.action.appName, actionName := some sender.action.actionName
           level := some level.toStr, message := some message }
  | _, _ => throw .keyError

/-- `repeated int32` fields. -/
def int32Fields (ids : List ℤ) : Except Exn (List ℤ) :=
  ids.mapM fun i => int32Field (.int i)

/-- `_convert_send_message_to_protobuf`. -/
def convertSendMessageToProtobuf (subject : Option String) (body : PyVal)
    (context : WorkflowContext) (args : EventArgs) : Except Exn UserMessage := do
  let body ← body.dumps
  let users ← int32Fields (args.users.getD [])
  let roles ← int32Fields (args.roles.getD [])
  pure { workflow := some (addWorkflowToProto context), subject := some (subject.getD "")
         body := some body, requiresReauth := args.requiresReauth, users, roles }

/-- `_convert_branch_transform_condition_to_proto`. -/
def convertBranchTransformConditionToProto (id : UUID) (names : Option (String × String))
    (context : WorkflowContext) : GeneralPacket :=
  { sender := some { id := some id.str, appName := names.map Prod.fst }
    workflow := some (addWorkflowToProto context) }

/-- `event_to_protobuf`. -/
def eventToProtobuf (sender : EventSender) (context : WorkflowContext) (event : WalkoffEvent)
    (args : EventArgs) : Except Exn Message :=
  match event.eventType, sender with
  | .workflow, _ => do
    message .workflowPacket (.workflowPacket (← convertWorkflowToProto context args.data))
  | .action, .action self =>
    if event = .consoleLog then do
      message .logMessage (.loggingPacket (← convertLogMessageToProtobuf self context args))
    else if event = .sendMessage then throw .attributeError
    else do
      message .actionPacket (.actionPacket (← convertActionToProto self context args.data))
  | .action, .message subject body =>
    if event = .sendMessage then do
      message .userMessage
        (.messagePacket (← convertSendMessageToProtobuf subject body context args))
    else throw .attributeError
  | .other, .worker id => message .workerPacket (.workerPacket { id := some id })
  | .other, _ => throw .typeError
  | .action, _ => throw .attributeError
  | _, .element id names =>
    message .generalPacket
      (.generalPacket (convertBranchTransformConditionToProto id names context))
  | _, _ => throw .attributeError
where
  message (type : MessageType) (packet : PacketProto) : Except Exn Message :=
    pure { type := some type, eventName := eventName event, packet := some packet
           user := args.user }

/-! ## From a message to a callback -/

/-- A text field in `MessageToDict`. -/
def textEntry (key : String) (field : Option String) : Dict :=
  (field.map fun s => (key, PyVal.str s)).toList

/-- A message field in `MessageToDict`. -/
def dictEntry (key : String) (field : Option Dict) : Dict :=
  (field.map fun items => (key, PyVal.dict items)).toList

/-- A repeated field in `MessageToDict`: left out when it is empty. -/
def listEntry (key : String) (field : List PyVal) : Dict :=
  if field.isEmpty then [] else [(key, .list field)]

namespace MessageToDict

def argument (m : ArgumentProto) : Dict :=
  textEntry "name" m.name ++ textEntry "value" m.value ++ textEntry "reference" m.reference ++
    textEntry "selection" m.selection

def workflowSender (m : WorkflowSenderProto) : Dict :=
  textEntry "name" m.name ++ textEntry "id" m.id ++ textEntry "execution_id" m.executionId

def actionSender (m : ActionSenderProto) : Dict :=
  textEntry "name" m.name ++ textEntry "id" m.id ++ textEntry "execution_id" m.executionId ++
    textEntry "app_name" m.appName ++ textEntry "action_name" m.actionName ++
    listEntry "arguments" (m.arguments.map fun arg => .dict (argument arg)) ++
    (m.deviceId.map fun i => ("device_id", PyVal.int i)).toList

def generalSender (m : GeneralSenderProto) : Dict :=
  textEntry "id" m.id ++ textEntry "app_name" m.appName

/-- The whole message that a packet holds. -/
def packet : PacketProto → Dict
  | .workflowPacket m =>
    dictEntry "sender" (m.sender.map workflowSender) ++
      textEntry "additional_data" m.additionalData
  | .actionPacket m =>
    dictEntry "sender" (m.sender.map actionSender) ++
      dictEntry "workflow" (m.workflow.map workflowSender) ++
      textEntry "additional_data" m.additionalData
  | .generalPacket m =>
    dictEntry "sender" (m.sender.map generalSender) ++
      dictEntry "workflow" (m.workflow.map workflowSender)
  | .messagePacket m =>
    dictEntry "sender" (m.sender.map actionSender) ++
      dictEntry "workflow" (m.workflow.map workflowSender) ++ textEntry "subject" m.subject ++
      textEntry "body" m.body ++
      (m.requiresReauth.map fun b => ("requires_reauth", PyVal.bool b)).toList ++
      listEntry "users" (m.users.map .int) ++ listEntry "roles" (m.roles.map .int)
  | .loggingPacket m =>
    dictEntry "workflow" (m.workflow.map workflowSender) ++ textEntry "name" m.name ++
      textEntry "app_name" m.appName ++ textEntry "action_name" m.actionName ++
      textEntry "level" m.level ++ textEntry "message" m.message
  | .workerPacket m => textEntry "id" m.id

end MessageToDict

/-- The packet that `to_event_callback` reads: an unset type reads as `WORKFLOWPACKET`, and a
packet that is not the one set in the message as an empty one. -/
def packetOf (message : Message) : PacketProto :=
  match message.type.getD .workflowPacket, message.packet with
  | .workflowPacket, some (.workflowPacket m) => .workflowPacket m
  | .workflowPacket, _ => .workflowPacket {}
  | .actionPacket, some (.actionPacket m) => .actionPacket m
  | .actionPacket, _ => .actionPacket {}
  | .userMessage, some (.messagePacket m) => .messagePacket m
  | .userMessage, _ => .messagePacket {}
  | .logMessage, some (.loggingPacket m) => .loggingPacket m
  | .logMessage, _ => .loggingPacket {}
  | _, some (.generalPacket m) => .generalPacket m
  | _, _ => .generalPacket {}

/-- `message.sender`, where the message has the field. -/
def senderOf : PacketProto → Option Dict
  | .workflowPacket m => some (MessageToDict.workflowSender (m.sender.getD {}))
  | .actionPacket m => some (MessageToDict.actionSender (m.sender.getD {}))
  | .generalPacket m => some (MessageToDict.generalSender (m.sender.getD {}))
  | .messagePacket m => some (MessageToDict.actionSender (m.sender.getD {}))
  | .loggingPacket _ | .workerPacket _ => none

/-- `message.workflow`, where the message has the field. -/
def workflowOf : PacketProto → Option Dict
  | .actionPacket { workflow, .. } | .generalPacket { workflow, .. }
  | .messagePacket { workflow, .. } | .loggingPacket { workflow, .. } =>
    some (MessageToDict.workflowSender (workflow.getD {}))
  | .workflowPacket _ | .workerPacket _ => none

/-- `message.additional_data`; an unset one is the empty text. -/
def additionalDataOf : PacketProto → Except Exn String
  | .workflowPacket { additionalData, .. } | .actionPacket { additionalData, .. } =>
    pure (additionalData.getD "")
  | _ => throw .attributeError

/-- `json.loads`, which raises a `ValueError` on what is no JSON. -/
def jsonLoads (text : String) : Except Exn PyVal :=
  match JsonText.loads text with
  | some v => pure v
  | none => throw .valueError

/-- `format_message_event_data`. -/
def formatMessageEventData : PacketProto → Except Exn Dict
  | .messagePacket m => do
    let body ← jsonLoads (m.body.getD "")
    pure [("users", .list (m.users.map .int)), ("roles", .list (m.roles.map .int)),
          ("requires_reauth", .bool (m.requiresReauth.getD false)), ("body", body),
          ("subject", .str (m.subject.getD ""))]
  | _ => throw .attributeError

/-- The entries of `_format_callback_data` for every event. -/
def callbackData (event : WalkoffEvent) (packet : PacketProto) (sender : Option Dict) : Dict :=
  if event = .consoleLog then MessageToDict.packet packet
  else if event.eventType = .workflow then []
  else [("workflow", match workflowOf packet with
    | some workflow => .dict workflow
    | none => (sender.map PyVal.dict).getD .none)]

/-- `_format_callback_data`. -/
def formatCallbackData (event : WalkoffEvent) (packet : PacketProto) (sender : Option Dict) :
    Except Exn Dict :=
  let data := callbackData event packet sender
  if event.requiresData then
    if event = .sendMessage then do
      pure (OrderedDict.set "message" (.dict (← formatMessageEventData packet)) data)
    else do
      let text ← additionalDataOf packet
      pure (OrderedDict.set "data" (← jsonLoads text) data)
  else pure data

/-- `to_event_callback`: `none` is the event, the sender and the data of an unknown name. -/
def toEventCallback (message : Message) :
    Except Exn (Option (WalkoffEvent × Option Dict × Dict)) :=
  let packet := packetOf message
  let sender := (senderOf packet).or (workflowOf packet)
  match getEventFromName message.eventName with
  | some event => do pure (some (event, sender, ← formatCallbackData event packet sender))
  | none => pure none

/-! ## Arguments -/

/-- `argument[field] = json.loads(argument[field])`, for a text that is JSON. -/
def loadField (field : String) (argument : Dict) : Except Exn Dict :=
  match OrderedDict.get? field argument with
  | none => pure argument
  | some (.str text) =>
    pure ((JsonText.loads text).elim argument fun v => OrderedDict.set field v argument)
  | some _ => throw .typeError

/-- `convert_action_argument`. -/
def convertActionArgument (argument : Dict) : Except Exn Dict := do
  loadField "selection" (← loadField "value" argument)

end Walkoff.Program.ResultsCodec
