import Walkoff.Library.EventStream
import Walkoff.Model.JsonText
import Walkoff.Model.PyRepr

/-!
# Streams of server-sent events

`walkoff.sse`: an event is published to the channels of a stream as JSON; a subscriber listens to
one channel and formats every event for the client. A filtered stream has one channel for each
subchannel.
-/

set_option autoImplicit false

namespace Walkoff.Program

open Walkoff.Library Walkoff.Model

/-! ## One event -/

/-- `SseEvent`. -/
structure SseEvent where
  event : PyVal
  data : PyVal

section

variable (printable : Char → Bool)

/-- `__convert_dict`. -/
def SseEvent.convertDict (data : PyVal) : Except Exn String :=
  match data.dumps with
  | .error .typeError => pure (PyRepr.str printable data)
  | result => result

/-- `format`: the text of the data. Only a dictionary is written as JSON. -/
def SseEvent.formatData : PyVal → Except Exn String
  | .dict items => convertDict printable (.dict items)
  | data => pure (PyRepr.str printable data)

/-- `format`. -/
def SseEvent.format (self : SseEvent) (eventId : ℕ) (retry : Option ℤ) : Except Exn String := do
  let data ← formatData printable self.data
  let formatted := "id: " ++ toString eventId ++ "\n"
  let formatted := if self.event.truthy then
    formatted ++ ("event: " ++ PyRepr.str printable self.event ++ "\n") else formatted
  let formatted := match retry with
    | some retry => formatted ++ ("retry: " ++ toString retry ++ "\n")
    | none => formatted
  let formatted := if self.data.truthy then formatted ++ ("data: " ++ data ++ "\n") else formatted
  pure (formatted ++ "\n")

end

/-! ## Publishing -/

/-- A message on a channel: the confirmation of a subscription, the text that closes the stream, or
an event. -/
inductive ChannelMessage where
  | subscribed
  | unsubscribe
  | payload (text : String)
  deriving DecidableEq, Repr

/-- An `SseStream` or a `FilteredSseStream` with its channel. -/
inductive SseStream where
  | plain (channel : String)
  | filtered (channel : String)
  deriving Repr

/-- The subchannels of an event: an identifier, or several. -/
inductive Subchannels where
  | one (subchannel : String)
  | many (subchannels : List String)
  deriving Repr

/-- `create_subchannel_name`. -/
def createSubchannelName (channel subchannel : String) : String :=
  channel ++ "." ++ subchannel

namespace SseStream

/-- The channels to which `publish` publishes. -/
def channels : SseStream → Subchannels → List String
  | plain channel, _ => [channel]
  | filtered channel, .one subchannel => [createSubchannelName channel subchannel]
  | filtered channel, .many subchannels => subchannels.map (createSubchannelName channel)

/-- The channel to which `subscribe` subscribes, and that `unsubscribe` closes. -/
def subscribed : SseStream → String → String
  | plain channel, _ => channel
  | filtered channel, subchannel => createSubchannelName channel subchannel

/-- `publish`. -/
def publish (self : SseStream) (data : PyVal) (subchannels : Subchannels) (event : String) :
    Except Exn (List (String × ChannelMessage)) := do
  let response ← PyVal.dumps (.dict [("data", data), ("event", .str event)])
  pure ((self.channels subchannels).map (·, .payload response))

/-- `_publish_response`: the event of the response, or else the default one. -/
def publishResponse (self : SseStream) (data : PyVal) (subchannels : Subchannels)
    (event : Option String) (defaultEvent : String) :
    Except Exn (List (String × ChannelMessage)) :=
  self.publish data subchannels (event.getD defaultEvent)

end SseStream

/-! ## Sending -/

/-- `response[key]` of what has been loaded. -/
def responseItem (response : PyVal) (key : String) : Except Exn PyVal :=
  match response with
  | .dict items =>
    match OrderedDict.get? key items with
    | some value => pure value
    | none => throw .keyError
  | _ => throw .typeError

/-- `send`: the loop over what `listen` yields, with the last ID. -/
def sendFrom (printable : Char → Bool) (retry : Option ℤ) :
    ℕ → List ChannelMessage → Except Exn (List String)
  | _, [] => pure []
  | eventId, .subscribed :: messages => sendFrom printable retry eventId messages
  | _, .unsubscribe :: _ => pure []
  | eventId, .payload text :: messages => do
    let response ← match JsonText.loads text with
      | some response => pure response
      | none => throw .valueError
    let data ← responseItem response "data"
    let event ← responseItem response "event"
    let formatted ← SseEvent.format printable { event, data } (eventId + 1) retry
    pure (formatted :: (← sendFrom printable retry (eventId + 1) messages))

/-- What a subscriber receives of the published messages. -/
def receivedMessages (channel : String) (published : List (String × ChannelMessage)) :
    List ChannelMessage :=
  .subscribed :: (published.filter (·.1 = channel)).map Prod.snd

/-! ## A stream -/

/-- An event name without line breaks. -/
structure EventName where
  text : String
  unbroken : ∀ c ∈ text.toList, EventStream.isBreak c = false

/-- A JSON value. -/
structure JsonData where
  value : PyVal
  isJson : JsonText.isJson value = true

/-- What can happen on a stream. -/
inductive StreamOp where
  | publish (data : JsonData) (subchannels : Subchannels) (event : EventName)
  | respond (data : JsonData) (subchannels : Subchannels) (event : Option EventName)
      (defaultEvent : EventName)
  | unsubscribe (subchannel : String)

/-- The messages of an operation. -/
def StreamOp.messages (stream : SseStream) :
    StreamOp → Except Exn (List (String × ChannelMessage))
  | publish data subchannels event => stream.publish data.value subchannels event.text
  | respond data subchannels event defaultEvent =>
    stream.publishResponse data.value subchannels (event.map EventName.text) defaultEvent.text
  | unsubscribe subchannel => pure [(stream.subscribed subchannel, .unsubscribe)]

/-- What a subscriber of the stream is sent in a run. -/
def streamOutput (printable : Char → Bool) (stream : SseStream) (retry : Option ℤ)
    (subchannel : String) (ops : List StreamOp) : Except Exn (List String) := do
  let published ← ops.mapM (StreamOp.messages stream)
  sendFrom printable retry 0 (receivedMessages (stream.subscribed subchannel) published.flatten)

end Walkoff.Program
