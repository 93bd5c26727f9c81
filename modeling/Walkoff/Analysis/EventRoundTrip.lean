import Walkoff.Analysis.JsonRoundTrip
import Walkoff.Program.ResultsCodec

/-!
# The round trip of an event

A signal becomes a message on the results socket, and the message a callback. What is lost
on the way: the ids of a worker, of the action behind a log line and the names of a condition
or a transform have no place in what is read back; a device id has to be an `int32`; the data
of an action has to be a dictionary without start arguments; and a text in an argument that
is JSON is read as the JSON.
-/

set_option autoImplicit false

namespace Walkoff.Analysis

open Walkoff.Model hiding eventToProtobuf
open Walkoff.Model.JsonText
open Walkoff.Program.ResultsCodec
open Walkoff.Library (OrderedDict Except.bind_eq_ok Except.mapM_cons_ok)

/-- The value and the selection of an argument are JSON. -/
def JsonArgument (arg : Argument) : Prop :=
  isJson arg.value = true ∧ isJson arg.selection = true

/-- A signal that a worker sends. -/
inductive Signal where
  | workflow (event : WalkoffEvent) (data : Option PyVal)
      (hevent : event.eventType = .workflow) (hdata : ∀ v ∈ data, isJson v = true)
  | action (event : WalkoffEvent) (self : ExecutingAction) (data : Option PyVal)
      (hevent : event.eventType = .action ∧ event ≠ .consoleLog ∧ event ≠ .sendMessage)
      (hself : ∀ arg ∈ self.action.arguments, JsonArgument arg)
      (hdata : ∀ v ∈ data, isJson v = true)
  | startArguments (self : ExecutingAction) (arguments : List Argument)
      (hself : ∀ arg ∈ self.action.arguments, JsonArgument arg)
      (harguments : ∀ arg ∈ arguments, JsonArgument arg)
  | consoleLog (self : ExecutingAction) (level : PyVal) (message : String)
  | sendMessage (subject : Option String) (body : PyVal) (users roles : List ℤ)
      (requiresReauth : Bool) (hbody : isJson body = true)
  | element (event : WalkoffEvent) (id : UUID)
      (hevent : event.eventType = .branch ∨ event.eventType = .conditionalExpression)
  | application (event : WalkoffEvent) (id : UUID) (appName actionName : String)
      (hevent : event.eventType = .condition ∨ event.eventType = .transform)
  | workerReady (id : String)

/-- A device id as a number: `True` is 1. -/
def deviceNumber : PyVal → PyVal
  | .bool b => .int (if b then 1 else 0)
  | v => v

namespace Signal

def event : Signal → WalkoffEvent
  | workflow event _ _ _ | action event _ _ _ _ _ | element event _ _
  | application event _ _ _ _ => event
  | startArguments _ _ _ _ => .actionStarted
  | consoleLog _ _ _ => .consoleLog
  | sendMessage _ _ _ _ _ _ => .sendMessage
  | workerReady _ => .workerReady

def sender : Signal → EventSender
  | workflow _ _ _ _ => .workflow
  | action _ self _ _ _ _ | startArguments self _ _ _ | consoleLog self _ _ => .action self
  | sendMessage subject body _ _ _ _ => .message subject body
  | element _ id _ => .element id none
  | application _ id appName actionName _ => .element id (some (appName, actionName))
  | workerReady id => .worker id

/-- The keyword arguments, with the user that the worker adds. -/
def args (user : Option String) : Signal → EventArgs
  | workflow _ data _ _ | action _ _ data _ _ _ => { user, data := data.map .value }
  | startArguments _ arguments _ _ => { user, data := some (.startArguments arguments) }
  | consoleLog _ level message => { user, level := some level, message := some message }
  | sendMessage _ _ users roles requiresReauth _ =>
    { user, users := some users, roles := some roles, requiresReauth := some requiresReauth }
  | element _ _ _ | application _ _ _ _ _ | workerReady _ => { user }

/-- What names the sender: its ids, its names and its device, where it has them. -/
def identity (context : WorkflowContext) : Signal → Dict
  | workflow _ _ _ _ =>
    [("name", .str context.name), ("id", .str context.id.str),
     ("execution_id", .str context.executionId.str)]
  | action _ self _ _ _ _ | startArguments self _ _ _ | consoleLog self _ _ =>
    [("name", .str self.action.name), ("id", .str self.action.id.str),
     ("execution_id", .str self.executionId), ("app_name", .str self.action.appName),
     ("action_name", .str self.action.actionName),
     ("device_id", deviceNumber self.resolvedDeviceId)]
  | sendMessage _ _ _ _ _ _ => []
  | element _ id _ => [("id", .str id.str)]
  | application _ id appName actionName _ =>
    [("id", .str id.str), ("app_name", .str appName), ("action_name", .str actionName)]
  | workerReady id => [("id", .str id)]

/-- The data of the signal. -/
def data : Signal → PyVal
  | workflow _ data _ _ | action _ _ data _ _ _ => data.getD .none
  | sendMessage subject body users roles requiresReauth _ => .dict
    [("users", .list (users.map .int)), ("roles", .list (roles.map .int)),
     ("requires_reauth", .bool requiresReauth), ("body", body),
     ("subject", .str (subject.getD ""))]
  | _ => .none

/-- The arguments that go with the sender. -/
def arguments : Signal → List Argument
  | action _ self _ _ _ _ => self.action.arguments
  | startArguments self arguments _ _ =>
    if arguments.isEmpty then self.action.arguments else arguments
  | _ => []

/-! ## The round trip -/

/-- A decoded sender names the same sender. -/
def SameSender (context : WorkflowContext) (signal : Signal) (decoded : Dict) : Prop :=
  ∀ key ∈ ["name", "id", "execution_id", "app_name", "action_name", "device_id"],
    decoded.get? key = (signal.identity context).get? key

/-- The decoded data names the workflow, where that is not the sender. -/
def SameWorkflow (context : WorkflowContext) (signal : Signal) (data : Dict) : Prop :=
  signal.sender matches .workflow | .worker _ ∨
    data.get? "workflow" = some (.dict
      [("name", .str context.name), ("id", .str context.id.str),
       ("execution_id", .str context.executionId.str)])

/-- The decoded data holds the data of the signal, where the event requires data. -/
def SameData (signal : Signal) (data : Dict) : Prop :=
  signal.event.requiresData = true →
    data.get? (if signal.event = .sendMessage then "message" else "data") = some signal.data

end Signal

/-- `sender.get('arguments', [])`. -/
def decodedArguments (sender : Dict) : List Dict :=
  match sender.get? "arguments" with
  | some (.list arguments) => arguments.filterMap fun
    | .dict argument => some argument
    | _ => none
  | _ => []

/-- A converted argument has the name, the value, the reference and the selection of the
argument that was sent. -/
structure Restores (arg : Argument) (converted : Dict) : Prop where
  name : converted.get? "name" = some (.str arg.name)
  value : (converted.get? "value").getD .none = arg.value
  reference : (converted.get? "reference").getD .none =
    (arg.reference.map fun key => PyVal.str key.str).getD .none
  selection : (converted.get? "selection").getD .none = arg.selection

namespace Signal

/-- `convert_action_argument` restores every argument of the decoded sender. -/
def SameArguments (signal : Signal) (decoded : Dict) : Prop :=
  ∃ converted, (decodedArguments decoded).mapM convertActionArgument = .ok converted ∧
    List.Forall₂ Restores signal.arguments converted

/-- The signal goes through the socket unharmed. -/
def RoundTrips (context : WorkflowContext) (user : Option String) (signal : Signal) : Prop :=
  ∃ message decoded data,
    eventToProtobuf signal.sender context signal.event (signal.args user) = .ok message ∧
    toEventCallback message = .ok (some (signal.event, some decoded, data)) ∧
    signal.SameSender context decoded ∧ signal.SameWorkflow context data ∧
    signal.SameData data ∧ signal.SameArguments decoded

end Signal

/-- The value of an argument that is sent as it is and read as JSON. -/
def readAsSent : PyVal → Bool
  | .str s => (loads s).isNone
  | _ => true

/-- No text of the argument is JSON. -/
def ArgumentSurvives (arg : Argument) : Prop :=
  readAsSent arg.value = true ∧ readAsSent arg.selection = true

/-- The id fits the field of the message. -/
def fitsInt32 (i : ℤ) : Prop :=
  -2 ^ 31 ≤ i ∧ i < 2 ^ 31

/-- A device id that is such an integer. -/
def DeviceSurvives : PyVal → Prop
  | .int i => fitsInt32 i
  | .bool _ => True
  | _ => False

/-- The data of an action: a dictionary without start arguments, or nothing that is needed. -/
def dataSurvives (event : WalkoffEvent) : Option PyVal → Bool
  | none | some .none => !event.requiresData
  | some (.dict items) => match OrderedDict.get? "start_arguments" items with
    | none => true
    | some v => !v.truthy && !event.requiresData
  | some _ => false

/-- What a signal needs to go through the socket unharmed. -/
def Signal.Survives : Signal → Prop
  | .workflow _ _ _ _ | .element _ _ _ => True
  | .action event self data _ _ _ =>
    DeviceSurvives self.resolvedDeviceId ∧ dataSurvives event data = true ∧
      ∀ arg ∈ self.action.arguments, ArgumentSurvives arg
  | .startArguments self arguments _ _ =>
    DeviceSurvives self.resolvedDeviceId ∧
      ∀ arg ∈ if arguments.isEmpty then self.action.arguments else arguments,
        ArgumentSurvives arg
  | .sendMessage _ _ users roles _ _ => ∀ i ∈ users ++ roles, fitsInt32 i
  | .consoleLog _ _ _ | .application _ _ _ _ _ | .workerReady _ => False

/-! ## Names -/

/-- Every event is found by its name. -/
theorem getEventFromName_eventName (event : WalkoffEvent) :
    getEventFromName (eventName event) = some event := by
  cases event <;> decide

/-- What a message is read as, under the name of an event. -/
theorem toEventCallback_eq (event : WalkoffEvent) (type : Option MessageType)
    (packet : Option PacketProto) (user : Option String) :
    let message : Message := { type, eventName := eventName event, packet, user }
    let sender := (senderOf (packetOf message)).or (workflowOf (packetOf message))
    toEventCallback message = (formatCallbackData event (packetOf message) sender).map
      fun data => some (event, sender, data) := by
  dsimp only
  unfold toEventCallback
  dsimp only
  rw [getEventFromName_eventName]
  rfl

/-- A packet with a workflow hands it to the callback. -/
theorem callbackData_of_workflow {event : WalkoffEvent} (hconsole : event ≠ .consoleLog)
    (htype : event.eventType ≠ .workflow) {packet : PacketProto} {workflow : Dict}
    (h : workflowOf packet = some workflow) (sender : Option Dict) :
    callbackData event packet sender = [("workflow", .dict workflow)] := by
  rw [callbackData, if_neg hconsole, if_neg htype, h]

/-- Without data, the callback gets what the packet says. -/
theorem formatCallbackData_plain {event : WalkoffEvent} (h : event.requiresData = false)
    (packet : PacketProto) (sender : Option Dict) :
    formatCallbackData event packet sender = .ok (callbackData event packet sender) := by
  unfold formatCallbackData
  rw [h]
  rfl

/-- With data, the callback gets the JSON of its text as well. -/
theorem formatCallbackData_data {event : WalkoffEvent} (h : event.requiresData = true)
    (hsend : event ≠ .sendMessage) {packet : PacketProto} {text : String} {v : PyVal}
    (htext : additionalDataOf packet = .ok text) (hload : loads text = some v)
    (sender : Option Dict) :
    formatCallbackData event packet sender =
      .ok (OrderedDict.set "data" v (callbackData event packet sender)) := by
  have hjson : jsonLoads text = .ok v := by
    rw [jsonLoads, hload]
    rfl
  unfold formatCallbackData
  dsimp only
  rw [if_pos h, if_neg hsend, htext]
  show ((jsonLoads text).bind fun v => _) = _
  rw [hjson]
  rfl

/-! ## Arguments -/

/-- What a field of an argument is converted to. -/
def loaded : Option String → PyVal
  | none => .none
  | some text => (loads text).getD (.str text)

/-- A text is loaded as itself exactly if it is read as it was sent. -/
theorem loaded_text (s : String) : loaded (some s) = .str s ↔ readAsSent (.str s) = true := by
  show (loads s).getD (.str s) = .str s ↔ (loads s).isNone = true
  cases h : loads s with
  | none => simp
  | some v =>
    have hne : v ≠ .str s := by
      intro heq
      rw [heq] at h
      exact loads_ne_self s h
    simp [hne]

/-- A value that is neither nothing nor a text is put into its field as JSON. -/
theorem protoField_dumps {v : PyVal} {text : String} (hnone : v ≠ .none)
    (hstr : ∀ s, v ≠ .str s) (hsurrogates : ∀ codePoints, v ≠ .surrogates codePoints)
    (h : v.dumps = .ok text) : protoField v = .ok (some text) := by
  unfold protoField
  split
  · exact absurd rfl hnone
  · exact absurd rfl (hstr _)
  · exact absurd rfl (hsurrogates _)
  · rw [h]
    rfl

/-- A field is sent, and restored if it is no text that is JSON. -/
theorem protoField_json {v : PyVal} (h : isJson v = true) :
    ∃ field, protoField v = .ok field ∧ (loaded field = v ↔ readAsSent v = true) := by
  by_cases hnone : v = .none
  · subst hnone
    exact ⟨none, rfl, by simp [loaded, readAsSent]⟩
  by_cases hstr : ∃ s, v = .str s
  · obtain ⟨s, rfl⟩ := hstr
    exact ⟨some s, rfl, loaded_text s⟩
  · obtain ⟨text, htext⟩ := dumps_of_isJson v h
    have hread : readAsSent v = true := by
      unfold readAsSent
      split
      · exact absurd ⟨_, rfl⟩ hstr
      · rfl
    have hloaded : loaded (some text) = v := by
      show (loads text).getD (.str text) = v
      rw [loads_dumps h htext]
      rfl
    have hsurrogates : ∀ codePoints, v ≠ .surrogates codePoints := by
      rintro codePoints rfl
      cases h
    exact ⟨some text, protoField_dumps hnone (fun s hs => hstr ⟨s, hs⟩) hsurrogates htext,
      iff_of_true hloaded hread⟩

/-- Loading a field changes that field only. -/
theorem loadField_eq {field : String} {argument : Dict} {sent : Option String}
    (h : argument.get? field = sent.map PyVal.str) :
    ∃ argument', loadField field argument = .ok argument' ∧
      (argument'.get? field).getD .none = loaded sent ∧
      ∀ key, key ≠ field → argument'.get? key = argument.get? key := by
  cases sent with
  | none =>
    refine ⟨argument, ?_, ?_, fun _ _ => rfl⟩
    · rw [loadField, h]
      rfl
    · rw [h]
      rfl
  | some text =>
    cases hload : loads text with
    | none =>
      refine ⟨argument, ?_, ?_, fun _ _ => rfl⟩
      · rw [loadField, h]
        show Except.ok ((loads text).elim argument fun v => OrderedDict.set field v argument) = _
        rw [hload]
        rfl
      · rw [h]
        show PyVal.str text = (loads text).getD (.str text)
        rw [hload]
        rfl
    | some v =>
      refine ⟨OrderedDict.set field v argument, ?_, ?_, fun key hne => ?_⟩
      · rw [loadField, h]
        show Except.ok ((loads text).elim argument fun v => OrderedDict.set field v argument) = _
        rw [hload]
        rfl
      · rw [OrderedDict.get?_set_self]
        show v = (loads text).getD (.str text)
        rw [hload]
        rfl
      · exact OrderedDict.get?_set_of_ne hne v argument

/-- The entries of a decoded argument. -/
theorem get?_argument (m : ArgumentProto) :
    (MessageToDict.argument m).get? "name" = m.name.map PyVal.str ∧
    (MessageToDict.argument m).get? "value" = m.value.map PyVal.str ∧
    (MessageToDict.argument m).get? "reference" = m.reference.map PyVal.str ∧
    (MessageToDict.argument m).get? "selection" = m.selection.map PyVal.str := by
  obtain ⟨name, value, reference, selection⟩ := m
  cases name <;> cases value <;> cases reference <;> cases selection <;>
    exact ⟨rfl, rfl, rfl, rfl⟩

/-- What `convert_action_argument` makes of a decoded argument. -/
theorem convertActionArgument_argument (m : ArgumentProto) :
    ∃ converted, convertActionArgument (MessageToDict.argument m) = .ok converted ∧
      converted.get? "name" = m.name.map PyVal.str ∧
      (converted.get? "value").getD .none = loaded m.value ∧
      converted.get? "reference" = m.reference.map PyVal.str ∧
      (converted.get? "selection").getD .none = loaded m.selection := by
  obtain ⟨hname, hvalue, hreference, hselection⟩ := get?_argument m
  obtain ⟨argument, hload, hloaded, hframe⟩ := loadField_eq hvalue
  have hselection' : argument.get? "selection" = m.selection.map PyVal.str := by
    rw [hframe "selection" (by decide), hselection]
  obtain ⟨converted, hload', hloaded', hframeLast⟩ := loadField_eq hselection'
  refine ⟨converted, ?_, ?_, ?_, ?_, hloaded'⟩
  · rw [convertActionArgument, hload]
    exact hload'
  · rw [hframeLast "name" (by decide), hframe "name" (by decide), hname]
  · rw [hframeLast "value" (by decide), hloaded]
  · rw [hframeLast "reference" (by decide), hframe "reference" (by decide), hreference]

/-- An argument is sent, and restored if and only if no text of it is JSON. -/
theorem setArgumentProto_json {arg : Argument} (h : JsonArgument arg) :
    ∃ proto, setArgumentProto arg = .ok proto ∧
      ∃ converted, convertActionArgument (MessageToDict.argument proto) = .ok converted ∧
        (Restores arg converted ↔ ArgumentSurvives arg) := by
  obtain ⟨value, hvalue, hvalueIff⟩ := protoField_json h.1
  obtain ⟨selection, hselection, hselectionIff⟩ := protoField_json h.2
  obtain ⟨converted, hconvert, hname, hvalue', hreference, hselection'⟩ :=
    convertActionArgument_argument
      { name := some arg.name, value, reference := arg.reference.map Key.str, selection }
  refine ⟨_, ?_, converted, hconvert, ?_⟩
  · rw [setArgumentProto, hvalue, hselection]
    rfl
  constructor
  · intro hrestores
    refine ⟨hvalueIff.mp ?_, hselectionIff.mp ?_⟩
    · rw [← hrestores.value, hvalue']
    · rw [← hrestores.selection, hselection']
  · intro hsurvives
    refine ⟨hname, ?_, ?_, ?_⟩
    · rw [hvalue']
      exact hvalueIff.mpr hsurvives.1
    · rw [hreference, Option.map_map]
      rfl
    · rw [hselection']
      exact hselectionIff.mpr hsurvives.2

/-- All arguments of a sender are sent, and restored if and only if no text of them is JSON. -/
theorem addArgumentsToProto_json {args : List Argument} (h : ∀ arg ∈ args, JsonArgument arg) :
    ∃ protos, addArgumentsToProto args = .ok protos ∧
      ∃ converted, (protos.map MessageToDict.argument).mapM convertActionArgument =
          .ok converted ∧
        (List.Forall₂ Restores args converted ↔ ∀ arg ∈ args, ArgumentSurvives arg) := by
  induction args with
  | nil => exact ⟨[], rfl, [], rfl, by simp⟩
  | cons arg args ih =>
    obtain ⟨proto, hproto, converted, hconverted, hiff⟩ :=
      setArgumentProto_json (h arg List.mem_cons_self)
    obtain ⟨protos, hprotos, others, hothers, hall⟩ :=
      ih fun a ha => h a (List.mem_cons_of_mem _ ha)
    refine ⟨proto :: protos, Except.mapM_cons_ok hproto hprotos, converted :: others,
      Except.mapM_cons_ok hconverted hothers, ?_⟩
    rw [List.forall₂_cons, hiff, hall, List.forall_mem_cons]

/-! ## Actions -/

/-- A device id that survives fits its field. -/
theorem int32Field_of_survives {v : PyVal} (h : DeviceSurvives v) :
    ∃ i, int32Field v = .ok i ∧ deviceNumber v = .int i := by
  cases v with
  | int i => exact ⟨i, if_pos h, rfl⟩
  | bool b => exact ⟨_, rfl, rfl⟩
  | _ => exact h.elim

/-- A device id that fits its field survives. -/
theorem survives_of_int32Field {v : PyVal} {i : ℤ} (h : int32Field v = .ok i) :
    DeviceSurvives v := by
  cases v with
  | int j =>
    show fitsInt32 j
    by_contra hfits
    unfold fitsInt32 at hfits
    rw [int32Field, if_neg hfits] at h
    cases h
  | bool b => trivial
  | _ => cases h

/-- The packet of an action. -/
def actionPacketOf (context : WorkflowContext) (self : ExecutingAction) (i : ℤ)
    (protos : List ArgumentProto) (additionalData : Option String) : ActionPacket :=
  { sender := some
      { name := some self.action.name, id := some self.action.id.str
        executionId := some self.executionId, appName := some self.action.appName
        actionName := some self.action.actionName, arguments := protos, deviceId := some i }
    workflow := some (addWorkflowToProto context), additionalData }

/-- An action is written exactly if its data, its device id and its arguments are. -/
theorem convertActionToProto_eq_ok {self : ExecutingAction} {context : WorkflowContext}
    {data : Option EventData} {packet : ActionPacket} :
    convertActionToProto self context data = .ok packet ↔
      ∃ arguments text i protos, actionData data = .ok (arguments, text) ∧
        int32Field self.resolvedDeviceId = .ok i ∧
        argumentsToAdd self.action arguments = .ok protos ∧
        packet = actionPacketOf context self i protos text := by
  unfold convertActionToProto addSenderToActionPacketProto
  constructor
  · intro h
    obtain ⟨⟨arguments, text⟩, hdata, h⟩ := Except.bind_eq_ok.mp h
    obtain ⟨sender, hsender, h⟩ := Except.bind_eq_ok.mp h
    obtain ⟨i, hi, hsender⟩ := Except.bind_eq_ok.mp hsender
    obtain ⟨protos, hprotos, h⟩ := Except.bind_eq_ok.mp h
    cases hsender
    cases h
    exact ⟨arguments, text, i, protos, hdata, hi, hprotos, rfl⟩
  · rintro ⟨arguments, text, i, protos, hdata, hi, hprotos, rfl⟩
    rw [hdata, hi]
    show ((argumentsToAdd self.action arguments).bind fun _ => _) = _
    rw [hprotos]
    rfl

/-- The message of an action's packet. -/
def actionMessage (event : WalkoffEvent) (packet : ActionPacket) (user : Option String) :
    Message :=
  { type := some .actionPacket, eventName := eventName event
    packet := some (.actionPacket packet), user }

section Actions

variable {event : WalkoffEvent} {context : WorkflowContext} {self : ExecutingAction}
  {packet : ActionPacket} {user : Option String}

/-- The event of an action is a message exactly if its packet is written. -/
theorem eventToProtobuf_action (hevent : event.eventType = .action ∧ event ≠ .consoleLog ∧
    event ≠ .sendMessage) (args : EventArgs) {message : Message} :
    eventToProtobuf (.action self) context event args = .ok message ↔
      ∃ packet, convertActionToProto self context args.data = .ok packet ∧
        message = actionMessage event packet args.user := by
  obtain ⟨htype, hconsole, hsend⟩ := hevent
  unfold eventToProtobuf
  rw [htype]
  dsimp only
  rw [if_neg hconsole, if_neg hsend]
  constructor
  · intro h
    obtain ⟨packet, hpacket, h⟩ := Except.bind_eq_ok.mp h
    exact ⟨packet, hpacket, (Except.ok.inj h).symm⟩
  · rintro ⟨packet, hpacket, rfl⟩
    exact Except.bind_eq_ok.mpr ⟨packet, hpacket, rfl⟩

/-- What is read back from the packet of an action that needs no data. -/
theorem toEventCallback_action (hevent : event.eventType = .action ∧ event ≠ .consoleLog ∧
    event ≠ .sendMessage) (hdata : event.requiresData = false) :
    toEventCallback (actionMessage event packet user) =
      .ok (some (event, some (MessageToDict.actionSender (packet.sender.getD {})),
        [("workflow", .dict (MessageToDict.workflowSender (packet.workflow.getD {})))])) := by
  have htype : event.eventType ≠ .workflow := by
    rw [hevent.1]
    decide
  unfold actionMessage
  rw [toEventCallback_eq]
  dsimp only [packetOf, Option.getD_some]
  rw [formatCallbackData_plain hdata, callbackData_of_workflow hevent.2.1 htype rfl]
  rfl

/-- What is read back from the packet of an action that needs data. -/
theorem toEventCallback_action_data (hevent : event.eventType = .action ∧ event ≠ .consoleLog ∧
    event ≠ .sendMessage) (hdata : event.requiresData = true) :
    toEventCallback (actionMessage event packet user) =
      (jsonLoads (packet.additionalData.getD "")).map fun v =>
        some (event, some (MessageToDict.actionSender (packet.sender.getD {})),
          [("workflow", .dict (MessageToDict.workflowSender (packet.workflow.getD {}))),
           ("data", v)]) := by
  have htype : event.eventType ≠ .workflow := by
    rw [hevent.1]
    decide
  unfold actionMessage
  rw [toEventCallback_eq]
  dsimp only [packetOf, Option.getD_some]
  unfold formatCallbackData
  rw [if_pos hdata, if_neg hevent.2.2, callbackData_of_workflow hevent.2.1 htype rfl]
  show ((jsonLoads (packet.additionalData.getD "")).bind fun v => _).map _ = _
  cases jsonLoads (packet.additionalData.getD "") <;> rfl

end Actions

/-- The entries of a decoded action. -/
theorem get?_actionSender (context : WorkflowContext) (self : ExecutingAction) (i : ℤ)
    (protos : List ArgumentProto) (additionalData : Option String) :
    let decoded := MessageToDict.actionSender
      ((actionPacketOf context self i protos additionalData).sender.getD {})
    (∀ key ∈ ["name", "id", "execution_id", "app_name", "action_name", "device_id"],
      decoded.get? key = OrderedDict.get? key
        [("name", .str self.action.name), ("id", .str self.action.id.str),
         ("execution_id", .str self.executionId), ("app_name", .str self.action.appName),
         ("action_name", .str self.action.actionName), ("device_id", .int i)]) ∧
    decodedArguments decoded = protos.map MessageToDict.argument := by
  cases protos with
  | nil =>
    refine ⟨?_, rfl⟩
    simp only [List.forall_mem_cons]
    exact ⟨rfl, rfl, rfl, rfl, rfl, rfl, by simp⟩
  | cons proto protos =>
    refine ⟨?_, ?_⟩
    · simp only [List.forall_mem_cons]
      exact ⟨rfl, rfl, rfl, rfl, rfl, rfl, by simp⟩
    · have hget : OrderedDict.get? "arguments" (MessageToDict.actionSender
          ((actionPacketOf context self i (proto :: protos) additionalData).sender.getD {})) =
          some (.list ((proto :: protos).map fun arg => .dict (MessageToDict.argument arg))) :=
        rfl
      rw [decodedArguments, hget]
      dsimp only
      rw [List.filterMap_map]
      exact congrFun List.filterMap_eq_map (proto :: protos)

/-- **An action's event goes through the socket unharmed** if and only if its data and its
device id can be sent, what is needed of the data is read back, and so are the arguments. -/
theorem roundTrips_action {signal : Signal} {self : ExecutingAction} {context : WorkflowContext}
    {user : Option String} (hsender : signal.sender = .action self)
    (hevent : signal.event.eventType = .action ∧ signal.event ≠ .consoleLog ∧
      signal.event ≠ .sendMessage)
    (hidentity : signal.identity context =
      [("name", .str self.action.name), ("id", .str self.action.id.str),
       ("execution_id", .str self.executionId), ("app_name", .str self.action.appName),
       ("action_name", .str self.action.actionName),
       ("device_id", deviceNumber self.resolvedDeviceId)]) :
    signal.RoundTrips context user ↔
      ∃ arguments text protos, actionData (signal.args user).data = .ok (arguments, text) ∧
        DeviceSurvives self.resolvedDeviceId ∧
        argumentsToAdd self.action arguments = .ok protos ∧
        (signal.event.requiresData = true → loads (text.getD "") = some signal.data) ∧
        ∃ converted, (protos.map MessageToDict.argument).mapM convertActionArgument =
          .ok converted ∧ List.Forall₂ Restores signal.arguments converted := by
  constructor
  · rintro ⟨message, decoded, data, hencode, hdecode, -, -, hdata, hargs⟩
    rw [hsender] at hencode
    obtain ⟨packet, hpacket, rfl⟩ := (eventToProtobuf_action hevent _).mp hencode
    obtain ⟨arguments, text, i, protos, hactionData, hi, hprotos, rfl⟩ :=
      convertActionToProto_eq_ok.mp hpacket
    obtain ⟨-, hdecodedArgs⟩ := get?_actionSender context self i protos text
    by_cases hrequires : signal.event.requiresData = true
    · rw [toEventCallback_action_data hevent hrequires] at hdecode
      cases hload : loads (text.getD "") with
      | none =>
        have hjson : jsonLoads (text.getD "") = .error .valueError := by
          rw [jsonLoads, hload]
          rfl
        rw [show (actionPacketOf context self i protos text).additionalData = text from rfl,
          hjson] at hdecode
        cases hdecode
      | some v =>
        have hjson : jsonLoads (text.getD "") = .ok v := by
          rw [jsonLoads, hload]
          rfl
        rw [show (actionPacketOf context self i protos text).additionalData = text from rfl,
          hjson] at hdecode
        cases hdecode
        have hv := hdata hrequires
        rw [if_neg hevent.2.2] at hv
        refine ⟨arguments, text, protos, hactionData, survives_of_int32Field hi, hprotos,
          fun _ => ?_, ?_⟩
        · exact hload.trans hv
        · rw [← hdecodedArgs]
          exact hargs
    · rw [Bool.not_eq_true] at hrequires
      rw [toEventCallback_action hevent hrequires] at hdecode
      cases hdecode
      refine ⟨arguments, text, protos, hactionData, survives_of_int32Field hi, hprotos,
        fun h => ?_, ?_⟩
      · rw [hrequires] at h
        cases h
      · rw [← hdecodedArgs]
        exact hargs
  · rintro ⟨arguments, text, protos, hactionData, hdevice, hprotos, hdata, hargs⟩
    obtain ⟨i, hi, hnumber⟩ := int32Field_of_survives hdevice
    obtain ⟨hfields, hdecodedArgs⟩ := get?_actionSender context self i protos text
    have hencode : eventToProtobuf signal.sender context signal.event (signal.args user) =
        .ok (actionMessage signal.event (actionPacketOf context self i protos text)
          (signal.args user).user) := by
      rw [hsender]
      exact (eventToProtobuf_action hevent _).mpr ⟨_, convertActionToProto_eq_ok.mpr
        ⟨arguments, text, i, protos, hactionData, hi, hprotos, rfl⟩, rfl⟩
    have hsame : signal.SameSender context (MessageToDict.actionSender
        ((actionPacketOf context self i protos text).sender.getD {})) := by
      intro key hkey
      rw [hidentity, hnumber]
      exact hfields key hkey
    rw [← hdecodedArgs] at hargs
    by_cases hrequires : signal.event.requiresData = true
    · have hjson : jsonLoads ((actionPacketOf context self i protos text).additionalData.getD "") =
          .ok signal.data := by
        show jsonLoads (text.getD "") = _
        rw [jsonLoads, hdata hrequires]
        rfl
      have hdecode := @toEventCallback_action_data signal.event
        (actionPacketOf context self i protos text) (signal.args user).user hevent hrequires
      rw [hjson] at hdecode
      refine ⟨_, _, _, hencode, hdecode, hsame, .inr rfl, ?_, hargs⟩
      intro _
      rw [if_neg hevent.2.2]
      rfl
    · have hno : signal.event.requiresData = false := by simpa using hrequires
      refine ⟨_, _, _, hencode, toEventCallback_action hevent hno, hsame, .inr rfl, ?_, hargs⟩
      intro h
      exact absurd h hrequires

/-- A value as data gives no list of arguments. -/
theorem actionData_value {data : Option PyVal} {arguments : List Argument ⊕ PyVal}
    {text : Option String} (h : actionData (data.map .value) = .ok (arguments, text)) :
    ∃ v, arguments = .inr v := by
  cases data with
  | none =>
    cases h
    exact ⟨_, rfl⟩
  | some v =>
    cases v with
    | none =>
      cases h
      exact ⟨_, rfl⟩
    | dict items =>
      obtain ⟨⟨arguments', rest⟩, hpop, hmore⟩ := Except.bind_eq_ok.mp h
      obtain ⟨text', -, heq⟩ := Except.bind_eq_ok.mp hmore
      cases hpop
      cases heq
      exact ⟨_, rfl⟩
    | _ => cases h

/-- With a value for start arguments, an action is written with its own arguments if the value is
falsy. -/
theorem argumentsToAdd_value {self : Action} {v : PyVal} {protos : List ArgumentProto} :
    argumentsToAdd self (.inr v) = .ok protos ↔
      v.truthy = false ∧ addArgumentsToProto self.arguments = .ok protos := by
  unfold argumentsToAdd
  dsimp only
  cases htruthy : v.truthy with
  | false => simp
  | true =>
    rw [if_pos rfl]
    cases v <;> exact ⟨fun h => (by cases h), fun h => (by cases h.1)⟩

/-- A dictionary of JSON stays one without a key. -/
theorem isJson_pop {key : String} {items : Dict} (h : isJson (.dict items) = true) :
    isJson (.dict (items.pop key)) = true := by
  have hitems : (items.map Prod.fst).Nodup ∧ isJsonItems items = true := by
    simpa [isJson] using h
  have hkeys : ((items.pop key).map Prod.fst).Nodup := by
    have hsub : List.Sublist ((items.pop key).map Prod.fst) (items.map Prod.fst) :=
      List.filter_sublist.map _
    exact hitems.1.sublist hsub
  have hmore : isJsonItems (items.pop key) = true := by
    obtain ⟨-, hall⟩ := hitems
    clear h hkeys
    induction items with
    | nil => rfl
    | cons item items ih =>
      obtain ⟨k, x⟩ := item
      obtain ⟨hx, hrest⟩ : isJson x = true ∧ isJsonItems items = true := by
        simpa [isJsonItems] using hall
      rw [OrderedDict.pop_cons]
      split
      · exact ih hrest
      · rw [isJsonItems, hx, ih hrest]
        rfl
  simpa [isJson] using ⟨hkeys, hmore⟩

/-- The data of an action survives exactly if nothing is lost when it is written and read. -/
theorem dataSurvives_dict (event : WalkoffEvent) {items : Dict}
    (hjson : isJson (.dict items) = true) :
    dataSurvives event (some (.dict items)) = true ↔
      ∃ v text, actionData (some (.value (.dict items))) = .ok (.inr v, text) ∧
        v.truthy = false ∧
        (event.requiresData = true → loads (text.getD "") = some (.dict items)) := by
  have hpop := @isJson_pop "start_arguments" items hjson
  obtain ⟨text, htext⟩ := dumps_of_isJson _ hpop
  have hload := loads_dumps hpop htext
  have hdata : actionData (some (.value (.dict items))) =
      .ok (.inr ((items.get? "start_arguments").getD .none), some text) := by
    show ((PyVal.dict (items.pop "start_arguments")).dumps.bind fun text => _) = _
    rw [htext]
    rfl
  rw [hdata]
  cases hget : items.get? "start_arguments" with
  | none =>
    rw [OrderedDict.pop_of_get?_none hget] at hload
    have hsurvives : dataSurvives event (some (.dict items)) = true := by
      simp [dataSurvives, hget]
    exact iff_of_true hsurvives ⟨.none, some text, rfl, rfl, fun _ => hload⟩
  | some v =>
    have hsurvives : dataSurvives event (some (.dict items)) =
        (!v.truthy && !event.requiresData) := by
      simp [dataSurvives, hget]
    rw [hsurvives]
    constructor
    · intro h
      obtain ⟨hv, hrequires⟩ : v.truthy = false ∧ event.requiresData = false := by simpa using h
      refine ⟨v, some text, rfl, hv, fun h => ?_⟩
      rw [hrequires] at h
      cases h
    · rintro ⟨w, text', heq, hw, hneeded⟩
      cases heq
      have hv : v.truthy = false := hw
      rw [hv]
      by_contra hrequires
      -- The key that was taken out of the data is missing in what is read back.
      have hsame := hneeded (by simpa using hrequires)
      have hitems : items.pop "start_arguments" = items :=
        PyVal.dict.inj (Option.some.inj (hload.symm.trans hsame))
      have hgone := OrderedDict.get?_pop "start_arguments" "start_arguments" items
      rw [hitems, hget, if_pos rfl] at hgone
      cases hgone

/-- The data of an action can be sent without start arguments, and what is needed of it is read
back. -/
theorem dataSurvives_iff (event : WalkoffEvent) {data : Option PyVal}
    (hjson : ∀ v ∈ data, isJson v = true) :
    dataSurvives event data = true ↔
      ∃ v text, actionData (data.map .value) = .ok (.inr v, text) ∧ v.truthy = false ∧
        (event.requiresData = true → loads (text.getD "") = some (data.getD .none)) := by
  -- Without data nothing is read back, so nothing may be needed.
  have hnothing : (!event.requiresData) = true ↔ ∃ v text,
      (Except.ok (.inr .none, none) : Except Exn ((List Argument ⊕ PyVal) × Option String)) =
        .ok (.inr v, text) ∧ v.truthy = false ∧
        (event.requiresData = true → loads (text.getD "") = some .none) := by
    constructor
    · intro h
      refine ⟨.none, none, rfl, rfl, fun hrequires => ?_⟩
      rw [hrequires] at h
      cases h
    · rintro ⟨v, text, heq, -, hload⟩
      cases heq
      by_contra hrequires
      have hload := hload (by simpa using hrequires)
      exact absurd hload (by decide)
  cases data with
  | none => exact hnothing
  | some v =>
    cases v with
    | none => exact hnothing
    | dict items => exact dataSurvives_dict event (hjson _ rfl)
    | list xs =>
      constructor
      · intro h
        cases h
      · rintro ⟨v, text, heq, -⟩
        cases heq
    | _ =>
      constructor
      · intro h
        cases h
      · rintro ⟨v, text, heq, -⟩
        cases heq

/-! ## The other signals -/

/-- An integer fits exactly if it has 32 bits. -/
theorem int32Field_int {i j : ℤ} : int32Field (.int i) = .ok j ↔ j = i ∧ fitsInt32 i := by
  unfold int32Field fitsInt32
  dsimp only
  by_cases h : -2 ^ 31 ≤ i ∧ i < 2 ^ 31
  · rw [if_pos h]
    exact ⟨fun heq => ⟨(Except.ok.inj heq).symm, h⟩, fun heq => congrArg Except.ok heq.1.symm⟩
  · rw [if_neg h]
    exact ⟨fun heq => (by cases heq), fun heq => absurd heq.2 h⟩

/-- Integers fit exactly if each has 32 bits. -/
theorem int32Fields_eq_ok {ids ids' : List ℤ} :
    int32Fields ids = .ok ids' ↔ ids' = ids ∧ ∀ i ∈ ids, fitsInt32 i := by
  induction ids generalizing ids' with
  | nil =>
    constructor
    · intro h
      exact ⟨(Except.ok.inj h).symm, by simp⟩
    · rintro ⟨rfl, -⟩
      rfl
  | cons i ids ih =>
    rw [List.forall_mem_cons]
    constructor
    · intro h
      rw [int32Fields, List.mapM_cons] at h
      obtain ⟨j, hj, hmore⟩ := Except.bind_eq_ok.mp h
      obtain ⟨js, hjs, hids⟩ := Except.bind_eq_ok.mp hmore
      obtain ⟨hji, hfits⟩ := int32Field_int.mp hj
      obtain ⟨hjsids, hall⟩ := ih.mp hjs
      rw [hji, hjsids] at hids
      exact ⟨(Except.ok.inj hids).symm, hfits, hall⟩
    · rintro ⟨rfl, hfits, hall⟩
      exact Except.mapM_cons_ok (int32Field_int.mpr ⟨rfl, hfits⟩) (ih.mpr ⟨rfl, hall⟩)

section Others

variable (context : WorkflowContext) (user : Option String)

/-- A signal goes through unharmed if and only if what is read of its message is the same. -/
theorem roundTrips_of_message {signal : Signal} {type : MessageType} {packet : PacketProto}
    (hencode : eventToProtobuf signal.sender context signal.event (signal.args user) = .ok
      { type := some type, eventName := eventName signal.event, packet := some packet, user })
    {read : PacketProto} (hread : packetOf
      { type := some type, eventName := eventName signal.event, packet := some packet, user } =
        read)
    {decoded : Dict} (hdecoded : (senderOf read).or (workflowOf read) = some decoded) :
    signal.RoundTrips context user ↔ signal.SameSender context decoded ∧
      signal.SameArguments decoded ∧
      ∃ data, formatCallbackData signal.event read (some decoded) = .ok data ∧
        signal.SameWorkflow context data ∧ signal.SameData data := by
  have hdecode := toEventCallback_eq signal.event (some type) (some packet) user
  dsimp only at hdecode
  rw [hread, hdecoded] at hdecode
  constructor
  · rintro ⟨message, decoded', data, hmessage, hcallback, hsender, hworkflow, hdata, hargs⟩
    rw [hencode] at hmessage
    cases hmessage
    rw [hdecode] at hcallback
    cases hformat : formatCallbackData signal.event read (some decoded) with
    | error e =>
      rw [hformat] at hcallback
      cases hcallback
    | ok formatted =>
      rw [hformat] at hcallback
      cases hcallback
      exact ⟨hsender, hargs, _, rfl, hworkflow, hdata⟩
  · rintro ⟨hsender, hargs, data, hformat, hworkflow, hdata⟩
    rw [hformat] at hdecode
    exact ⟨_, decoded, data, hencode, hdecode, hsender, hworkflow, hdata, hargs⟩

/-- A signal without arguments has none to restore. -/
theorem noArguments {decoded : Dict} (h : decoded.get? "arguments" = none) {signal : Signal}
    (hsignal : signal.arguments = []) : signal.SameArguments decoded := by
  refine ⟨[], ?_, ?_⟩
  · rw [decodedArguments, h]
    rfl
  · rw [hsignal]
    exact .nil

/-- Every signal of a workflow goes through unharmed. -/
theorem roundTrips_workflow {event : WalkoffEvent} {data : Option PyVal}
    (hevent : event.eventType = .workflow) (hdata : ∀ v ∈ data, isJson v = true) :
    (Signal.workflow event data hevent hdata).RoundTrips context user := by
  have hjson : isJson (data.getD .none) = true := by
    cases data with
    | none => rfl
    | some v => exact hdata v rfl
  obtain ⟨text, htext⟩ := dumps_of_isJson _ hjson
  let packet : PacketProto := .workflowPacket
    { sender := some (addWorkflowToProto context), additionalData := some text }
  have hencode : eventToProtobuf .workflow context event
      ((Signal.workflow event data hevent hdata).args user) = .ok
      { type := some .workflowPacket, eventName := eventName event, packet := some packet
        user } := by
    have hpacket : convertWorkflowToProto context (data.map .value) = .ok
        { sender := some (addWorkflowToProto context), additionalData := some text } := by
      cases data with
      | none =>
        obtain rfl := Except.ok.inj htext
        rfl
      | some v =>
        show (v.dumps.bind fun text => _) = _
        rw [show v.dumps = .ok text from htext]
        rfl
    unfold eventToProtobuf
    rw [hevent]
    show ((convertWorkflowToProto context (data.map .value)).bind fun packet => _) = _
    rw [hpacket]
    rfl
  have hsender : (Signal.workflow event data hevent hdata).SameSender context
      (MessageToDict.workflowSender (addWorkflowToProto context)) := by
    intro key _
    rfl
  have hcallback : ∀ sender, callbackData event packet sender = [] := by
    intro sender
    rw [callbackData, if_neg (by rintro rfl; cases hevent), if_pos hevent]
  have hsend : event ≠ .sendMessage := by
    rintro rfl
    cases hevent
  apply (@roundTrips_of_message context user (.workflow event data hevent hdata) _ packet hencode
    packet rfl _ rfl).mpr
  refine ⟨hsender, noArguments rfl rfl, ?_⟩
  by_cases hrequires : event.requiresData = true
  · have hformat := @formatCallbackData_data event hrequires hsend packet text _ rfl
      (loads_dumps hjson htext)
    refine ⟨_, hformat _, .inl rfl, fun _ => ?_⟩
    rw [hcallback]
    show OrderedDict.get? (if event = .sendMessage then _ else _) _ = _
    rw [if_neg hsend]
    rfl
  · have hno : event.requiresData = false := by simpa using hrequires
    exact ⟨_, formatCallbackData_plain hno _ _, .inl rfl, fun h => absurd h hrequires⟩

/-- The message of an element that is no action. -/
theorem eventToProtobuf_element {event : WalkoffEvent} (hevent : event.eventType = .branch ∨
    event.eventType = .conditionalExpression ∨ event.eventType = .condition ∨
    event.eventType = .transform) (id : UUID) (names : Option (String × String)) :
    eventToProtobuf (.element id names) context event { user } = .ok
      { type := some .generalPacket, eventName := eventName event
        packet := some (.generalPacket (convertBranchTransformConditionToProto id names context))
        user } := by
  unfold eventToProtobuf
  rcases hevent with h | h | h | h
  all_goals
    rw [h]
    rfl

/-- Every signal of a branch or an expression goes through unharmed. -/
theorem roundTrips_element {event : WalkoffEvent} {id : UUID}
    (hevent : event.eventType = .branch ∨ event.eventType = .conditionalExpression) :
    (Signal.element event id hevent).RoundTrips context user := by
  have hencode := eventToProtobuf_element context user
    (hevent.elim .inl fun h => .inr (.inl h)) id none
  have hno : event.requiresData = false ∧ event ≠ .consoleLog ∧ event.eventType ≠ .workflow := by
    cases event <;> simp [WalkoffEvent.eventType, WalkoffEvent.requiresData] at hevent ⊢
  apply (@roundTrips_of_message context user (.element event id hevent) _ _ hencode _ rfl _
    rfl).mpr
  refine ⟨?_, noArguments rfl rfl, ?_⟩
  · show ∀ key ∈ _, _
    simp only [List.forall_mem_cons]
    exact ⟨rfl, rfl, rfl, rfl, rfl, rfl, by simp⟩
  · refine ⟨_, formatCallbackData_plain hno.1 _ _, .inr ?_, fun h => ?_⟩
    · rw [callbackData_of_workflow hno.2.1 hno.2.2 rfl]
      rfl
    · rw [show (Signal.element event id hevent).event = event from rfl, hno.1] at h
      cases h

/-- The name of an app action has no place in the packet. -/
theorem not_roundTrips_application {event : WalkoffEvent} {id : UUID} {appName actionName : String}
    (hevent : event.eventType = .condition ∨ event.eventType = .transform) :
    ¬ (Signal.application event id appName actionName hevent).RoundTrips context user := by
  intro h
  have hencode := eventToProtobuf_element context user (.inr (.inr hevent)) id
    (some (appName, actionName))
  obtain ⟨hsender, -⟩ :=
    (@roundTrips_of_message context user (.application event id appName actionName hevent) _ _
      hencode _ rfl _ rfl).mp h
  have haction := hsender "action_name" (by decide)
  cases haction

/-- No console message goes through unharmed. -/
theorem not_roundTrips_consoleLog {self : ExecutingAction} {level : PyVal} {message : String} :
    ¬ (Signal.consoleLog self level message).RoundTrips context user := by
  intro h
  have hencode : eventToProtobuf (.action self) context .consoleLog
      ((Signal.consoleLog self level message).args user) = .ok
      { type := some .logMessage, eventName := eventName .consoleLog
        packet := some (.loggingPacket
          { workflow := some (addWorkflowToProto context), name := some self.action.name
            appName := some self.action.appName, actionName := some self.action.actionName
            level := some level.toStr, message := some message })
        user } := rfl
  obtain ⟨hsender, -⟩ :=
    (@roundTrips_of_message context user (.consoleLog self level message) _ _ hencode _ rfl
      (MessageToDict.workflowSender (addWorkflowToProto context)) rfl).mp h
  have happ := hsender "app_name" (by decide)
  have hlost : OrderedDict.get? "app_name"
      (MessageToDict.workflowSender (addWorkflowToProto context)) = none := rfl
  rw [hlost] at happ
  have hsent : OrderedDict.get? "app_name"
      ((Signal.consoleLog self level message).identity context) =
        some (.str self.action.appName) := rfl
  rw [hsent] at happ
  cases happ

/-- No announcement of a worker goes through unharmed. -/
theorem not_roundTrips_workerReady {id : String} :
    ¬ (Signal.workerReady id).RoundTrips context user := by
  intro h
  have hencode : eventToProtobuf (.worker id) context .workerReady
      ((Signal.workerReady id).args user) = .ok
      { type := some .workerPacket, eventName := eventName .workerReady
        packet := some (.workerPacket { id := some id }), user } := rfl
  obtain ⟨hsender, -⟩ :=
    (@roundTrips_of_message context user (.workerReady id) _ _ hencode _ rfl _ rfl).mp h
  have hid := hsender "id" (by decide)
  cases hid

/-- What is read of a message to users. -/
theorem roundTrips_sendMessage_iff {subject : Option String} {body : PyVal} {users roles : List ℤ}
    {requiresReauth : Bool} (hbody : isJson body = true) :
    (Signal.sendMessage subject body users roles requiresReauth hbody).RoundTrips context user ↔
      ∀ i ∈ users ++ roles, fitsInt32 i := by
  obtain ⟨text, htext⟩ := dumps_of_isJson body hbody
  let signal := Signal.sendMessage subject body users roles requiresReauth hbody
  rw [List.forall_mem_append]
  constructor
  · rintro ⟨message, -, -, hencode, -⟩
    obtain ⟨packet, hpacket, -⟩ := Except.bind_eq_ok.mp hencode
    obtain ⟨text', -, husersRoles⟩ := Except.bind_eq_ok.mp hpacket
    obtain ⟨users', husers, hrolesOnly⟩ := Except.bind_eq_ok.mp husersRoles
    obtain ⟨roles', hroles, -⟩ := Except.bind_eq_ok.mp hrolesOnly
    exact ⟨(int32Fields_eq_ok.mp husers).2, (int32Fields_eq_ok.mp hroles).2⟩
  · rintro ⟨husers, hroles⟩
    have hpacket : convertSendMessageToProtobuf subject body context (signal.args user) = .ok
        { workflow := some (addWorkflowToProto context), subject := some (subject.getD "")
          body := some text, requiresReauth := some requiresReauth, users, roles } := by
      unfold convertSendMessageToProtobuf
      show (body.dumps.bind fun body => (int32Fields users).bind fun users =>
        (int32Fields roles).bind fun roles => _) = _
      rw [htext, int32Fields_eq_ok.mpr ⟨rfl, husers⟩, int32Fields_eq_ok.mpr ⟨rfl, hroles⟩]
      rfl
    have hencode : eventToProtobuf (.message subject body) context .sendMessage
        (signal.args user) = .ok
        { type := some .userMessage, eventName := eventName .sendMessage
          packet := some (.messagePacket
            { workflow := some (addWorkflowToProto context), subject := some (subject.getD "")
              body := some text, requiresReauth := some requiresReauth, users, roles })
          user } := by
      show ((convertSendMessageToProtobuf subject body context (signal.args user)).bind
        fun packet => _) = _
      rw [hpacket]
      rfl
    apply (@roundTrips_of_message context user signal _ _ hencode _ rfl _ rfl).mpr
    refine ⟨?_, noArguments rfl rfl, ?_⟩
    · show ∀ key ∈ _, _
      simp only [List.forall_mem_cons]
      exact ⟨rfl, rfl, rfl, rfl, rfl, rfl, by simp⟩
    · have hload : jsonLoads text = .ok body := by
        rw [jsonLoads, loads_dumps hbody htext]
        rfl
      refine ⟨[("workflow", .dict (MessageToDict.workflowSender (addWorkflowToProto context))),
        ("message", signal.data)], ?_, .inr rfl, fun _ => rfl⟩
      show ((jsonLoads text).bind fun body => _).bind _ = _
      rw [hload]
      rfl

end Others

/-- **A signal goes through the results socket unharmed** exactly when it survives. -/
theorem signal_roundTrips_iff (context : WorkflowContext) (user : Option String)
    (signal : Signal) : signal.RoundTrips context user ↔ signal.Survives := by
  cases signal with
  | workflow event data hevent hdata =>
    exact iff_of_true (roundTrips_workflow context user hevent hdata) trivial
  | element event id hevent =>
    exact iff_of_true (roundTrips_element context user hevent) trivial
  | application event id appName actionName hevent =>
    exact iff_of_false (not_roundTrips_application context user hevent) fun h => h
  | consoleLog self level message =>
    exact iff_of_false (not_roundTrips_consoleLog context user) fun h => h
  | workerReady id =>
    exact iff_of_false (not_roundTrips_workerReady context user) fun h => h
  | sendMessage subject body users roles requiresReauth hbody =>
    exact roundTrips_sendMessage_iff context user hbody
  | action event self data hevent hself hdata =>
    obtain ⟨protos, hprotos, converted, hconverted, hrestores⟩ := addArgumentsToProto_json hself
    rw [@roundTrips_action (.action event self data hevent hself hdata) self context user rfl
      hevent rfl]
    show _ ↔ DeviceSurvives _ ∧ dataSurvives event data = true ∧ _
    rw [dataSurvives_iff event hdata, ← hrestores]
    constructor
    · rintro ⟨arguments, text, protos', hactionData, hdevice, hadd, hload, hargs⟩
      obtain ⟨v, rfl⟩ := actionData_value hactionData
      obtain ⟨hv, hadd⟩ := argumentsToAdd_value.mp hadd
      rw [hprotos] at hadd
      cases hadd
      rw [hconverted] at hargs
      obtain ⟨converted', heq, hargs⟩ := hargs
      cases heq
      exact ⟨hdevice, ⟨v, text, hactionData, hv, hload⟩, hargs⟩
    · rintro ⟨hdevice, ⟨v, text, hactionData, hv, hload⟩, hargs⟩
      exact ⟨.inr v, text, protos, hactionData, hdevice,
        argumentsToAdd_value.mpr ⟨hv, hprotos⟩, hload, converted, hconverted, hargs⟩
  | startArguments self arguments hself harguments =>
    have hsent : ∀ arg ∈ if arguments.isEmpty then self.action.arguments else arguments,
        JsonArgument arg := by
      split
      · exact hself
      · exact harguments
    obtain ⟨protos, hprotos, converted, hconverted, hrestores⟩ := addArgumentsToProto_json hsent
    rw [@roundTrips_action (.startArguments self arguments hself harguments) self context user rfl
      ⟨rfl, WalkoffEvent.noConfusion, WalkoffEvent.noConfusion⟩ rfl]
    show _ ↔ DeviceSurvives _ ∧ _
    rw [← hrestores]
    constructor
    · rintro ⟨arguments', text, protos', hactionData, hdevice, hadd, -, hargs⟩
      cases hactionData
      rw [argumentsToAdd, hprotos] at hadd
      cases hadd
      rw [hconverted] at hargs
      obtain ⟨converted', heq, hargs⟩ := hargs
      cases heq
      exact ⟨hdevice, hargs⟩
    · rintro ⟨hdevice, hargs⟩
      exact ⟨.inl arguments, some "\x7b\x7d", protos, rfl, hdevice, hprotos,
        fun h => (by cases h), converted, hconverted, hargs⟩

/-- The id of a ready worker does not come back: no branch of `to_event_callback` reads the
packet of a worker. -/
theorem workerReady_sender_lost :
    ¬ (Signal.workerReady "worker-1").RoundTrips { name := "sample", id := 100, executionId := 7 }
      none :=
  not_roundTrips_workerReady _ _

end Walkoff.Analysis
