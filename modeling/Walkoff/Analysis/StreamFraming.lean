import Walkoff.Analysis.UnbrokenTexts
import Walkoff.Program.SseStreams

/-!
# What a subscriber reads of a stream

The framing of server-sent events puts the data of an event on one line as it is.
`framingLossless_iff` says when every event of a stream comes through: none may be falsy, no string
may hold a line break, and any other value that is not a dictionary must have a `repr` that happens
to be JSON.

A string with line breaks can pretend to be other events, and even to be the ones that are missing.
That it never makes up for what it loses is counted: its events say less than it is long.
-/

set_option autoImplicit false

namespace Walkoff.Analysis

open Walkoff.Library Walkoff.Model Walkoff.Program
open Walkoff.Library.EventStream

/-! ## The law -/

/-- An event that has been published to a subscriber. -/
structure Sent where
  data : JsonData
  event : EventName

/-- One event for each time that the subscriber's channel is published to. -/
def sentTo (stream : SseStream) (subchannel : String) (subchannels : Subchannels) (sent : Sent) :
    List Sent :=
  ((stream.channels subchannels).filter (· = stream.subscribed subchannel)).map fun _ => sent

/-- The events published to a subscriber, until its channel is closed. -/
def received (stream : SseStream) (subchannel : String) : List StreamOp → List Sent
  | [] => []
  | .publish data subchannels event :: ops =>
    sentTo stream subchannel subchannels { data, event } ++ received stream subchannel ops
  | .respond data subchannels event defaultEvent :: ops =>
    sentTo stream subchannel subchannels { data, event := event.getD defaultEvent } ++
      received stream subchannel ops
  | .unsubscribe closed :: ops =>
    if stream.subscribed closed = stream.subscribed subchannel then []
    else received stream subchannel ops

/-- The text decodes to the value: a string is sent as it is, any other value as JSON. -/
def Decodes (text : String) : PyVal → Prop
  | .str s => text = s
  | v => JsonText.loads text = some v

/-- The event is what has been sent as the event of this number. -/
structure DeliveredAs (sent : Sent × ℕ) (read : Dispatched) : Prop where
  id : read.id = (toString sent.2).toList
  event : read.event = sent.1.event.text.toList
  data : Decodes (String.ofList read.data) sent.1.data.value

variable (printable : Char → Bool) (stream : SseStream) (retry : Option ℤ) (subchannel : String)

/-- What is read of the output is what has been published, numbered from 1. -/
def FramingLossless (ops : List StreamOp) : Prop :=
  ∃ texts, streamOutput printable stream retry subchannel ops = .ok texts ∧
    List.Forall₂ DeliveredAs ((received stream subchannel ops).zipIdx 1)
      (parse (String.join texts).toList)

/-- The data fit on their line: they are not falsy, and strings have no line break. A list or a
number must be written as JSON reads it. -/
def fits : PyVal → Bool
  | .str s => s ≠ "" && s.toList.all (!isBreak ·)
  | .dict items => !items.isEmpty
  | v => v.truthy && legible printable v

variable {printable stream retry subchannel}

/-! ## The text of an event -/

/-- The text of the data. -/
def wire (printable : Char → Bool) : PyVal → String
  | .dict items =>
    match PyVal.dumps (.dict items) with
    | .ok text => text
    | .error _ => ""
  | v => PyRepr.str printable v

/-- The lines before the data. -/
def headers (retry : Option ℤ) (sent : Sent) (eventId : ℕ) : List String :=
  ("id: " ++ toString eventId) ::
    ((if sent.event.text = "" then [] else ["event: " ++ sent.event.text]) ++
      (retry.toList.map fun retry => "retry: " ++ toString retry))

/-- The line of the data, if there is one. -/
def dataLine (printable : Char → Bool) (v : PyVal) : List String :=
  if v.truthy then ["data: " ++ wire printable v] else []

/-- The text of an event. -/
def framed (printable : Char → Bool) (retry : Option ℤ) (sent : Sent) (eventId : ℕ) :
    List Char :=
  ended ((headers retry sent eventId).map String.toList) ++
    (ended ((dataLine printable sent.data.value).map String.toList) ++ ['\n'])

/-- The data of JSON is put on the wire. -/
theorem formatData_eq {v : PyVal} (hjson : JsonText.isJson v = true) :
    SseEvent.formatData printable v = .ok (wire printable v) := by
  cases v with
  | dict items =>
    obtain ⟨text, htext⟩ := dumps_of_isJson _ hjson
    simp only [SseEvent.formatData, SseEvent.convertDict, wire, htext]
  | _ => rfl

/-- JSON data can always be formatted. -/
theorem format_eq (sent : Sent) (eventId : ℕ) :
    SseEvent.format printable { event := .str sent.event.text, data := sent.data.value } eventId
      retry = .ok (String.ofList (framed printable retry sent eventId)) := by
  obtain ⟨⟨v, hjson⟩, name, hname⟩ := sent
  unfold SseEvent.format
  rw [formatData_eq hjson]
  refine congrArg Except.ok ?_
  apply String.toList_injective
  rw [String.toList_ofList]
  unfold framed headers dataLine ended
  dsimp only
  generalize v.truthy = truthy
  cases retry <;> by_cases hn : name = "" <;> cases truthy <;>
    simp [hn, PyVal.truthy, PyRepr.str]

/-! ## The output of a run -/

/-- The published text of an event. -/
def response (sent : Sent) : PyVal :=
  .dict [("data", sent.data.value), ("event", .str sent.event.text)]

/-- A response is JSON. -/
theorem isJson_response (sent : Sent) : JsonText.isJson (response sent) = true := by
  have hdata := sent.data.isJson
  simp [response, JsonText.isJson, JsonText.isJsonItems, hdata]

/-- A payload is sent under the next number. -/
theorem sendFrom_payload {text : String} {sent : Sent}
    (h : (response sent).dumps = .ok text) (eventId : ℕ) (messages : List ChannelMessage) :
    sendFrom printable retry eventId (.payload text :: messages) =
      (sendFrom printable retry (eventId + 1) messages).map
        (String.ofList (framed printable retry sent (eventId + 1)) :: ·) := by
  have hloads : JsonText.loads text = some (response sent) :=
    loads_dumps (isJson_response sent) h
  rw [sendFrom, hloads]
  show (SseEvent.format printable
    { event := .str sent.event.text, data := sent.data.value } (eventId + 1) retry >>= _) = _
  rw [format_eq]
  rfl

/-- The texts of some events, numbered on. -/
def outputFrom (printable : Char → Bool) (retry : Option ℤ) (eventId : ℕ) (sents : List Sent) :
    List String :=
  (sents.zipIdx (eventId + 1)).map fun numbered =>
    String.ofList (framed printable retry numbered.1 numbered.2)

/-- The same of a payload for several channels. -/
theorem sendFrom_payloads {text : String} {sent : Sent} (h : (response sent).dumps = .ok text)
    {messages : List ChannelMessage} {sents : List Sent}
    (hmore : ∀ eventId, sendFrom printable retry eventId messages =
      .ok (outputFrom printable retry eventId sents))
    (channels : List String) (eventId : ℕ) :
    sendFrom printable retry eventId
        (((channels.map (·, ChannelMessage.payload text)).filter
          (·.1 = stream.subscribed subchannel)).map Prod.snd ++ messages) =
      .ok (outputFrom printable retry eventId
        (((channels.filter (· = stream.subscribed subchannel)).map fun _ => sent) ++ sents)) := by
  induction channels generalizing eventId with
  | nil => exact hmore eventId
  | cons channel channels ih =>
    by_cases hchannel : channel = stream.subscribed subchannel
    · simp only [List.map_cons, List.filter_cons, hchannel, decide_true, if_true,
        List.cons_append]
      rw [sendFrom_payload h, ih]
      rfl
    · simp only [List.map_cons, List.filter_cons, hchannel, decide_false, Bool.false_eq_true,
        if_false]
      exact ih eventId

/-- Publishing puts the payload on every channel. -/
theorem publish_eq {sent : Sent} {text : String} (h : (response sent).dumps = .ok text)
    (subchannels : Subchannels) :
    stream.publish sent.data.value subchannels sent.event.text =
      .ok ((stream.channels subchannels).map (·, .payload text)) := by
  unfold SseStream.publish
  rw [show PyVal.dumps (.dict [("data", sent.data.value), ("event", .str sent.event.text)]) =
    .ok text from h]
  rfl

/-- The messages for the subscriber's channel. -/
def heardOn (channel : String) (published : List (String × ChannelMessage)) :
    List ChannelMessage :=
  (published.filter (·.1 = channel)).map Prod.snd

/-- What is heard on a channel comes part by part. -/
theorem heardOn_append (channel : String) (published rest : List (String × ChannelMessage)) :
    heardOn channel (published ++ rest) = heardOn channel published ++ heardOn channel rest := by
  unfold heardOn
  rw [List.filter_append, List.map_append]

/-- What is published to channels of a subscriber is sent on for each of them. -/
theorem publish_sent (sent : Sent) (subchannels : Subchannels)
    {messages : List ChannelMessage} {sents : List Sent}
    (hmore : ∀ eventId, sendFrom printable retry eventId messages =
      .ok (outputFrom printable retry eventId sents)) :
    ∃ published, stream.publish sent.data.value subchannels sent.event.text = .ok published ∧
      ∀ eventId, sendFrom printable retry eventId
          (heardOn (stream.subscribed subchannel) published ++ messages) =
        .ok (outputFrom printable retry eventId
          (sentTo stream subchannel subchannels sent ++ sents)) := by
  obtain ⟨text, htext⟩ := dumps_of_isJson _ (isJson_response sent)
  exact ⟨_, publish_eq htext subchannels, sendFrom_payloads htext hmore _⟩

/-- Over a run, what is heard is what was sent to the subscriber. -/
theorem messages_sent (ops : List StreamOp) :
    ∃ published, ops.mapM (StreamOp.messages stream) = .ok published ∧
      ∀ eventId, sendFrom printable retry eventId
          (heardOn (stream.subscribed subchannel) published.flatten) =
        .ok (outputFrom printable retry eventId (received stream subchannel ops)) := by
  induction ops with
  | nil => exact ⟨[], rfl, fun eventId => rfl⟩
  | cons op ops ih =>
    obtain ⟨rest, hrest, hmore⟩ := ih
    suffices h : ∃ published, op.messages stream = .ok published ∧
        ∀ eventId, sendFrom printable retry eventId
            (heardOn (stream.subscribed subchannel) published ++
              heardOn (stream.subscribed subchannel) rest.flatten) =
          .ok (outputFrom printable retry eventId (received stream subchannel (op :: ops))) by
      obtain ⟨published, hpublished, hsend⟩ := h
      refine ⟨published :: rest, ?_, ?_⟩
      · rw [List.mapM_cons, hpublished, hrest]
        rfl
      · rw [List.flatten_cons, heardOn_append]
        exact hsend
    cases op with
    | publish data subchannels event =>
      exact publish_sent { data, event } subchannels hmore
    | respond data subchannels event defaultEvent =>
      have hevent : (event.map EventName.text).getD defaultEvent.text =
          (event.getD defaultEvent).text := by
        cases event <;> rfl
      have hsent := @publish_sent printable stream retry subchannel
        { data, event := event.getD defaultEvent } subchannels _ _ hmore
      rw [← hevent] at hsent
      exact hsent
    | unsubscribe closed =>
      refine ⟨_, rfl, fun eventId => ?_⟩
      by_cases hclosed : stream.subscribed closed = stream.subscribed subchannel
      · simp only [heardOn, received, hclosed, List.filter_cons, decide_true, if_true,
          List.map_cons, List.cons_append]
        rfl
      · simp only [heardOn, received, hclosed, List.filter_cons, decide_false,
          Bool.false_eq_true, if_false]
        exact hmore eventId

/-- **The output of a stream is the text of the events published to the subscriber.** -/
theorem streamOutput_eq (ops : List StreamOp) :
    streamOutput printable stream retry subchannel ops =
      .ok (outputFrom printable retry 0 (received stream subchannel ops)) := by
  obtain ⟨published, hpublished, hsend⟩ := @messages_sent printable stream retry subchannel ops
  unfold streamOutput
  rw [hpublished]
  exact hsend 0

/-! ## Reading one event -/

/-- The buffers behind the lines before the data. -/
def begun (sent : Sent) (eventId : ℕ) : Buffers :=
  { id := (toString eventId).toList, event := sent.event.text.toList, data := [] }

/-- What is read of the text of one event. -/
def readOf (printable : Char → Bool) (numbered : Sent × ℕ) : List Dispatched :=
  eventsFrom (begun numbered.1 numbered.2)
    (lines (ended ((dataLine printable numbered.1.data.value).map String.toList) ++ ['\n']))

/-- A number is written without a null character. -/
theorem zero_notMem_toString (n : ℕ) : '\x00' ∉ (toString n).toList := by
  intro h
  have hdigits : (toString n).toList = Nat.toDigits 10 n := Nat.toList_repr
  rw [hdigits] at h
  exact absurd (isDigit_toDigits n _ h) (by decide)

section

variable (buffers : Buffers) (rest : List (List Char))

/-- A line with an id sets it. -/
theorem eventsFrom_id (eventId : ℕ) :
    eventsFrom buffers (("id: " ++ toString eventId).toList :: rest) =
      eventsFrom { buffers with id := (toString eventId).toList } rest := by
  have hline : ("id: " ++ toString eventId).toList =
      ['i', 'd'] ++ ':' :: ' ' :: (toString eventId).toList := String.toList_append
  rw [hline, eventsFrom_field (by decide)]
  exact congrArg (eventsFrom · rest) (if_neg (zero_notMem_toString eventId))

/-- A line with an event sets its name. -/
theorem eventsFrom_event (name : String) :
    eventsFrom buffers (("event: " ++ name).toList :: rest) =
      eventsFrom { buffers with event := name.toList } rest := by
  have hline : ("event: " ++ name).toList =
      ['e', 'v', 'e', 'n', 't'] ++ ':' :: ' ' :: name.toList := String.toList_append
  rw [hline, eventsFrom_field (by decide)]
  rfl

/-- A line with a time to retry leaves the buffers. -/
theorem eventsFrom_retry (retry : ℤ) :
    eventsFrom buffers (("retry: " ++ toString retry).toList :: rest) =
      eventsFrom buffers rest := by
  have hline : ("retry: " ++ toString retry).toList =
      ['r', 'e', 't', 'r', 'y'] ++ ':' :: ' ' :: (toString retry).toList := String.toList_append
  rw [hline, eventsFrom_field (by decide)]
  rfl

/-- A line of data adds to the data. -/
theorem eventsFrom_data (text : String) :
    eventsFrom buffers (("data: " ++ text).toList :: rest) =
      eventsFrom { buffers with data := buffers.data ++ (text.toList ++ ['\n']) } rest := by
  have hline : ("data: " ++ text).toList =
      ['d', 'a', 't', 'a'] ++ ':' :: ' ' :: text.toList := String.toList_append
  rw [hline, eventsFrom_field (by decide)]
  rfl

end

/-- The lines before the data set the ID and the name, and nothing else. -/
theorem eventsFrom_headers {buffers : Buffers} (h : buffers.Fresh) (sent : Sent) (eventId : ℕ)
    (rest : List (List Char)) :
    eventsFrom buffers ((headers retry sent eventId).map String.toList ++ rest) =
      eventsFrom (begun sent eventId) rest := by
  obtain ⟨id, event, data⟩ := buffers
  obtain ⟨rfl, rfl⟩ : event = [] ∧ data = [] := h
  have hretry : ∀ buffers, eventsFrom buffers
      ((retry.toList.map fun retry => "retry: " ++ toString retry).map String.toList ++ rest) =
        eventsFrom buffers rest := by
    intro buffers
    cases retry with
    | none => rfl
    | some retry => exact eventsFrom_retry buffers rest retry
  unfold headers begun
  rw [List.map_cons, List.cons_append, eventsFrom_id, List.map_append, List.append_assoc]
  by_cases hname : sent.event.text = ""
  · rw [if_pos hname, hname]
    exact hretry _
  · rw [if_neg hname, List.map_singleton, List.singleton_append, eventsFrom_event]
    exact hretry _

/-- The headers have no line break. -/
theorem unbroken_headers (sent : Sent) (eventId : ℕ) :
    ∀ line ∈ (headers retry sent eventId).map String.toList, ∀ c ∈ line, isBreak c = false := by
  have hid : Unbroken "id: " := unbroken_of_all rfl
  have hevent : Unbroken "event: " := unbroken_of_all rfl
  have hretry : Unbroken "retry: " := unbroken_of_all rfl
  refine List.forall_mem_map.mpr fun line hline => ?_
  suffices Unbroken line from this
  unfold headers at hline
  rcases List.mem_cons.mp hline with rfl | hline
  · exact hid.append (unbroken_toString eventId)
  rcases List.mem_append.mp hline with hline | hline
  · split_ifs at hline
    · cases hline
    · rw [List.mem_singleton.mp hline]
      exact hevent.append sent.event.unbroken
  · obtain ⟨n, -, rfl⟩ := List.mem_map.mp hline
    exact hretry.append (unbroken_int n)

/-- The lines of an event that is data only are those of its text and a blank one. -/
theorem lines_dataLine (text : String) :
    lines (ended ([("data: " ++ text)].map String.toList) ++ ['\n']) =
      lines (("data: " ++ text).toList ++ ['\n']) ++ [[]] := by
  have hended : ended ([("data: " ++ text)].map String.toList) ++ ['\n'] =
      ("data: " ++ text).toList ++ '\n' :: ['\n'] := by
    simp [ended]
  rw [hended, lines_append]
  rfl

/-- The lines of an event end with a blank one. -/
theorem lines_data (v : PyVal) : ∃ ls,
    lines (ended ((dataLine printable v).map String.toList) ++ ['\n']) = ls ++ [[]] := by
  unfold dataLine
  split_ifs
  · exact ⟨_, lines_dataLine (wire printable v)⟩
  · exact ⟨[], rfl⟩

/-- **An event is read on its own**, whatever comes before and behind it. -/
theorem eventsFrom_framed {buffers : Buffers} (h : buffers.Fresh) (sent : Sent) (eventId : ℕ)
    (rest : List Char) :
    ∃ after : Buffers, after.Fresh ∧
      eventsFrom buffers (lines (framed printable retry sent eventId ++ rest)) =
        readOf printable (sent, eventId) ++ eventsFrom after (lines rest) := by
  obtain ⟨ls, hls⟩ := @lines_data printable sent.data.value
  have hlines : lines (framed printable retry sent eventId ++ rest) =
      (headers retry sent eventId).map String.toList ++ ((ls ++ [[]]) ++ lines rest) := by
    unfold framed
    rw [List.append_assoc, lines_ended (unbroken_headers sent eventId), List.append_assoc,
      List.singleton_append, lines_append, hls]
  refine ⟨buffersAfter (begun sent eventId) (ls ++ [[]]), fresh_after _ ls, ?_⟩
  rw [hlines, eventsFrom_headers h, eventsFrom_append]
  unfold readOf
  rw [hls]

/-- From fresh buffers, the output is read event by event. -/
theorem eventsFrom_output {buffers : Buffers} (h : buffers.Fresh) (sents : List Sent)
    (eventId : ℕ) :
    eventsFrom buffers (lines (String.join (outputFrom printable retry eventId sents)).toList) =
      (sents.zipIdx (eventId + 1)).flatMap (readOf printable) := by
  induction sents generalizing buffers eventId with
  | nil => rfl
  | cons sent sents ih =>
    have hjoin : (String.join (outputFrom printable retry eventId (sent :: sents))).toList =
        framed printable retry sent (eventId + 1) ++
          (String.join (outputFrom printable retry (eventId + 1) sents)).toList := by
      unfold outputFrom
      rw [List.zipIdx_cons, List.map_cons, String.join_cons, String.toList_append,
        String.toList_ofList]
    obtain ⟨after, hafter, hread⟩ := @eventsFrom_framed printable retry buffers h sent
      (eventId + 1) (String.join (outputFrom printable retry (eventId + 1) sents)).toList
    rw [hjoin, hread, ih hafter, List.zipIdx_cons, List.flatMap_cons]

/-- **What is read of a stream is read event by event.** -/
theorem parse_output (ops : List StreamOp) :
    parse (String.join (outputFrom printable retry 0 (received stream subchannel ops))).toList =
      ((received stream subchannel ops).zipIdx 1).flatMap (readOf printable) :=
  eventsFrom_output ⟨rfl, rfl⟩ _ 0

/-! ## What is read of one event -/

section

variable {sent : Sent} {eventId : ℕ}

/-- Falsy data are dropped, and the event with them. -/
theorem readOf_falsy (h : sent.data.value.truthy = false) :
    readOf printable (sent, eventId) = [] := by
  unfold readOf dataLine
  rw [h]
  rfl

/-- Data on one line are read as they are. -/
theorem readOf_unbroken (h : sent.data.value.truthy = true)
    (hwire : Unbroken (wire printable sent.data.value)) :
    readOf printable (sent, eventId) =
      [{ id := (toString eventId).toList, event := sent.event.text.toList,
         data := (wire printable sent.data.value).toList }] := by
  have hdata : Unbroken "data: " := unbroken_of_all rfl
  unfold readOf dataLine
  rw [if_pos h, lines_dataLine, lines_plain (hdata.append hwire), List.cons_append,
    eventsFrom_data]
  show Buffers.dispatched _ ++ [] = _
  unfold Buffers.dispatched begun
  simp

end

/-- What is put on the wire has no line break, but for a text that has one. -/
theorem unbroken_wire {v : PyVal} (hjson : JsonText.isJson v = true)
    (hstr : ∀ s, v = .str s → Unbroken s) : Unbroken (wire printable v) := by
  cases v with
  | str s => exact hstr s rfl
  | dict items =>
    obtain ⟨text, htext⟩ := dumps_of_isJson _ hjson
    simp only [wire, htext]
    exact unbroken_dumps _ text htext
  | surrogates _ => cases hjson
  | _ => exact unbroken_repr printable _ hjson

/-- What Python writes decodes to the value exactly if it is legible. -/
theorem decodes_repr {v : PyVal} (hjson : JsonText.isJson v = true) :
    JsonText.loads (PyRepr.repr printable v) = some v ↔ legible printable v = true := by
  rw [loads_repr hjson]
  unfold readAs
  cases legible printable v <;> simp

/-- A text fits exactly if it is not empty and has no line break. -/
theorem fits_str {s : String} :
    fits printable (.str s) = true ↔ PyVal.truthy (.str s) = true ∧ Unbroken s := by
  simp [fits, PyVal.truthy, Unbroken]

/-- What fits on its line is read as what it is. -/
theorem wire_of_fits {v : PyVal} (hjson : JsonText.isJson v = true)
    (h : fits printable v = true) :
    v.truthy = true ∧ Unbroken (wire printable v) ∧ Decodes (wire printable v) v := by
  cases v with
  | str s =>
    obtain ⟨htruthy, hs⟩ := fits_str.mp h
    exact ⟨htruthy, hs, rfl⟩
  | dict items =>
    obtain ⟨text, htext⟩ := dumps_of_isJson _ hjson
    refine ⟨h, unbroken_wire hjson (by rintro s ⟨⟩), ?_⟩
    simp only [wire, htext]
    exact loads_dumps hjson htext
  | none => cases h
  | nonFinite _ => cases h
  | surrogates _ | object _ => cases hjson
  | _ =>
    obtain ⟨htruthy, hlegible⟩ := Bool.and_eq_true_iff.mp h
    exact ⟨htruthy, unbroken_wire hjson (by rintro s ⟨⟩), (decodes_repr hjson).mpr hlegible⟩

/-- What does not fit is dropped, is broken into lines, or is read as something else. -/
theorem not_fits {v : PyVal} (hjson : JsonText.isJson v = true)
    (h : fits printable v = false) :
    v.truthy = false ∨ (∃ s, v = .str s ∧ ¬Unbroken s) ∨
      (v.truthy = true ∧ Unbroken (wire printable v) ∧ ¬Decodes (wire printable v) v) := by
  by_cases htruthy : v.truthy = true
  · right
    cases v with
    | str s =>
      refine .inl ⟨s, rfl, fun hs => ?_⟩
      rw [fits_str.mpr ⟨htruthy, hs⟩] at h
      cases h
    | dict items =>
      rw [show fits printable (.dict items) = true from htruthy] at h
      cases h
    | none => cases htruthy
    | surrogates _ | object _ => cases hjson
    | _ =>
      refine .inr ⟨htruthy, unbroken_wire hjson (by rintro s ⟨⟩), fun hdecodes => ?_⟩
      have hlegible := (@decodes_repr printable _ hjson).mp hdecodes
      have hfits := Bool.and_eq_true_iff.mpr ⟨htruthy, hlegible⟩
      exact absurd (h.symm.trans hfits) Bool.false_ne_true
  · exact .inl (Bool.eq_false_iff.mpr htruthy)

/-- An event whose data fits is delivered. -/
theorem delivered_of_fits (numbered : Sent × ℕ)
    (h : fits printable numbered.1.data.value = true) :
    ∃ read, readOf printable numbered = [read] ∧ DeliveredAs numbered read := by
  obtain ⟨sent, eventId⟩ := numbered
  obtain ⟨htruthy, hwire, hdecodes⟩ := wire_of_fits sent.data.isJson h
  refine ⟨_, readOf_unbroken htruthy hwire, rfl, rfl, ?_⟩
  rw [String.ofList_toList]
  exact hdecodes

/-- A string with line breaks: the first one, what stands before it and what stands behind it. -/
theorem split_broken {s : String} (h : ¬Unbroken s) :
    ∃ first c rest, s.toList = first ++ c :: rest ∧ (∀ d ∈ first, isBreak d = false) ∧
      isBreak c = true := by
  obtain ⟨c, hc, hbreak⟩ : ∃ c ∈ s.toList, isBreak c = true := by
    simpa [Unbroken] using h
  obtain ⟨c, hfind⟩ := Option.isSome_iff_exists.mp (List.find?_isSome.mpr ⟨c, hc, hbreak⟩)
  obtain ⟨hbreak, first, rest, hsplit, hfirst⟩ := List.find?_eq_some_iff_append.mp hfind
  refine ⟨first, c, rest, hsplit, fun d hd => ?_, hbreak⟩
  simpa using hfirst d hd

/-- The lines behind the first one contribute no more than they are long. -/
theorem contributions_le (afterReturn : Bool) (cs : List Char) :
    ((linesFrom afterReturn [] (cs ++ ['\n'])).map contribution).sum ≤ cs.length := by
  calc ((linesFrom afterReturn [] (cs ++ ['\n'])).map contribution).sum
      ≤ ((linesFrom afterReturn [] (cs ++ ['\n'])).map List.length).sum :=
        List.sum_le_sum fun line _ => contribution_le line
    _ = cs.countP (!isBreak ·) := by
        rw [length_linesFrom afterReturn [] cs fun _ => rfl, List.length_nil, zero_add]
    _ ≤ cs.length := List.countP_le_length

/-- A broken string says less than it is long. -/
theorem weight_readOf_broken {sent : Sent} {s : String} (h : sent.data.value = .str s)
    (hs : ¬Unbroken s) (eventId : ℕ) :
    weight (readOf printable (sent, eventId)) ≤ s.toList.length := by
  obtain ⟨first, c, rest, hsplit, hfirst, hc⟩ := split_broken hs
  have hdata : ∀ d ∈ "data: ".toList, isBreak d = false := forall_of_all rfl
  have hprefixed : ∀ d ∈ "data: ".toList ++ first, isBreak d = false :=
    List.forall_mem_append.mpr ⟨hdata, hfirst⟩
  have hlines : lines (("data: " ++ s).toList ++ ['\n']) =
      ("data: ".toList ++ first) :: linesFrom (c = '\r') [] (rest ++ ['\n']) := by
    rw [String.toList_append, hsplit, ← List.append_assoc, List.append_assoc, List.cons_append]
    exact linesFrom_plain hprefixed hc [] _
  have hcontribution : contribution ("data: ".toList ++ first) = first.length + 1 := by
    have hfield : field (['d', 'a', 't', 'a'] ++ ':' :: ' ' :: first) =
        (['d', 'a', 't', 'a'], first) := field_of_name (by decide) first
    show contribution (['d', 'a', 't', 'a'] ++ ':' :: ' ' :: first) = _
    unfold contribution
    rw [hfield, if_pos rfl]
  have htruthy : sent.data.value.truthy = true := by
    rw [h]
    have hne : s ≠ "" := by
      rintro rfl
      cases first <;> cases hsplit
    simpa [PyVal.truthy] using hne
  have hwire : wire printable sent.data.value = s := by
    rw [h]
    rfl
  have hrest := contributions_le (c = '\r') rest
  have hlength := congrArg List.length hsplit
  rw [List.length_append, List.length_cons] at hlength
  unfold readOf dataLine
  rw [if_pos htruthy, lines_dataLine, hwire, hlines]
  refine (weight_eventsFrom _ _).trans ?_
  rw [List.map_append, List.sum_append, List.map_cons, List.sum_cons, hcontribution]
  show 0 + (first.length + 1 + _ + 0) ≤ _
  omega

/-! ## The whole stream -/

/-- Where each is delivered once, all are delivered in their order. -/
theorem delivered_flatMap {α β : Type} {R : α → β → Prop} {f : α → List β} {xs : List α}
    (h : ∀ x ∈ xs, ∃ y, f x = [y] ∧ R x y) : List.Forall₂ R xs (xs.flatMap f) := by
  induction xs with
  | nil => exact .nil
  | cons x xs ih =>
    obtain ⟨⟨y, hy, hR⟩, hxs⟩ := List.forall_mem_cons.mp h
    rw [List.flatMap_cons, hy]
    exact .cons hR (ih hxs)

/-- What is read was delivered from something. -/
theorem exists_delivered {α β : Type} {R : α → β → Prop} {xs : List α} {ys : List β}
    (h : List.Forall₂ R xs ys) {y : β} (hy : y ∈ ys) : ∃ x ∈ xs, R x y := by
  induction h with
  | nil => cases hy
  | cons hR _ ih =>
    rcases List.mem_cons.mp hy with rfl | hy
    · exact ⟨_, List.mem_cons_self, hR⟩
    · obtain ⟨x, hx, hxy⟩ := ih hy
      exact ⟨x, List.mem_cons_of_mem _ hx, hxy⟩

/-- The length of the data of an event, as far as it is known, with one more. -/
def leastWeight : PyVal → ℕ
  | .str s => s.toList.length + 1
  | _ => 1

/-- The data that have been read of an event are as long as they must be. -/
theorem leastWeight_le {numbered : Sent × ℕ} {read : Dispatched} (h : DeliveredAs numbered read) :
    leastWeight numbered.1.data.value ≤ read.data.length + 1 := by
  have hdata := h.data
  cases hv : numbered.1.data.value with
  | str s =>
    rw [hv] at hdata
    rw [← show String.ofList read.data = s from hdata]
    simp [leastWeight]
  | _ => exact Nat.succ_le_succ (Nat.zero_le _)

section Counting

variable {xs : List (Sent × ℕ)} {fit : Sent × ℕ → Bool} {owed : Dispatched → Bool}

/-- What is read of a whole stream, as far as it is owed, is as long as it must be. -/
theorem sum_le_weight {reads : List Dispatched} (h : List.Forall₂ DeliveredAs xs reads)
    (howed : ∀ x ∈ xs, ∀ read, DeliveredAs x read → fit x = false → owed read = true) :
    (xs.map fun x => if fit x then 0 else leastWeight x.1.data.value).sum ≤
      weight (reads.filter owed) := by
  induction h with
  | nil => exact le_rfl
  | @cons x read xs reads hx _ ih =>
    obtain ⟨hread, hmore⟩ := List.forall_mem_cons.mp howed
    have hrest := ih hmore
    rw [List.map_cons, List.sum_cons, List.filter_cons]
    cases hfit : fit x with
    | true =>
      rw [if_pos rfl, zero_add]
      refine hrest.trans ?_
      split_ifs
      · exact Nat.le_add_left _ _
      · exact le_rfl
    | false =>
      rw [if_neg Bool.false_ne_true, if_pos (hread read hx hfit)]
      exact Nat.add_le_add (leastWeight_le hx) hrest

/-- What is owed is weighed event by event. -/
theorem weight_flatMap (f : Sent × ℕ → List Dispatched) :
    weight ((xs.flatMap f).filter owed) = (xs.map fun x => weight ((f x).filter owed)).sum := by
  induction xs with
  | nil => rfl
  | cons x xs ih =>
    rw [List.flatMap_cons, List.filter_append, weight_append, ih, List.map_cons, List.sum_cons]

/-- What is owed weighs no more than what is read. -/
theorem weight_filter_le (reads : List Dispatched) :
    weight (reads.filter owed) ≤ weight reads := by
  have hsublist := (List.filter_sublist (p := owed) (l := reads)).map
    fun read : Dispatched => read.data.length + 1
  exact hsublist.sum_le_sum fun _ _ => Nat.zero_le _

end Counting

section Lossless

variable {xs : List (Sent × ℕ)}

/-- The ID is the number of an event that does not fit. -/
def owed (printable : Char → Bool) (xs : List (Sent × ℕ)) (read : Dispatched) : Bool :=
  xs.any fun x => !fits printable x.1.data.value && (toString x.2).toList = read.id

/-- What is read of an event that does not fit is owed. -/
theorem owed_of_delivered {x : Sent × ℕ} (hx : x ∈ xs) {read : Dispatched} (h : DeliveredAs x read)
    (hfits : fits printable x.1.data.value = false) : owed printable xs read = true := by
  refine List.any_eq_true.mpr ⟨x, hx, ?_⟩
  rw [hfits, h.id]
  simp

/-- An event that does not fit is read as less than it must say. -/
theorem weight_readOf_lt (hids : ∀ x ∈ xs, ∀ y ∈ xs, x.2 = y.2 → x = y)
    (h : List.Forall₂ DeliveredAs xs (xs.flatMap (readOf printable))) {x : Sent × ℕ} (hx : x ∈ xs)
    (hfits : fits printable x.1.data.value = false) :
    weight (readOf printable x) < leastWeight x.1.data.value := by
  obtain ⟨sent, eventId⟩ := x
  rcases not_fits sent.data.isJson hfits with hfalsy | ⟨s, hs, hbroken⟩ |
    ⟨htruthy, hwire, hdecodes⟩
  · rw [readOf_falsy hfalsy]
    show 0 < leastWeight sent.data.value
    cases sent.data.value <;> exact Nat.succ_pos _
  · have hweight := @weight_readOf_broken printable sent s hs hbroken eventId
    show _ < leastWeight sent.data.value
    rw [hs]
    exact Nat.lt_succ_of_le hweight
  · -- it is read as one event with its own number, and the data of that event do not decode
    have hread := @readOf_unbroken printable sent eventId htruthy hwire
    obtain ⟨y, hy, hdelivers⟩ := exists_delivered h
      (List.mem_flatMap.mpr ⟨_, hx, hread ▸ List.mem_singleton_self _⟩)
    obtain rfl := hids _ hx y hy (PyVal.natRepr_injective hdelivers.id)
    have hdata := hdelivers.data
    rw [String.ofList_toList] at hdata
    exact absurd hdata hdecodes

/-- What fits is not owed. -/
theorem weight_owed_fits (hids : ∀ x ∈ xs, ∀ y ∈ xs, x.2 = y.2 → x = y) {x : Sent × ℕ}
    (hx : x ∈ xs) (hfits : fits printable x.1.data.value = true) :
    weight ((readOf printable x).filter (owed printable xs)) = 0 := by
  obtain ⟨read, hread, hdelivers⟩ := delivered_of_fits x hfits
  have hnot : owed printable xs read = false := by
    refine List.any_eq_false.mpr fun y hy hyread => ?_
    rw [Bool.and_eq_true, decide_eq_true_eq, hdelivers.id] at hyread
    obtain rfl := hids y hy x hx (PyVal.natRepr_injective hyread.2)
    rw [hfits] at hyread
    exact absurd hyread.1 Bool.false_ne_true
  rw [hread, List.filter_cons_of_neg (by rw [hnot]; decide)]
  rfl

/-- **What is read is what has been sent exactly if everything fits.** -/
theorem delivered_readOf_iff (hids : ∀ x ∈ xs, ∀ y ∈ xs, x.2 = y.2 → x = y) :
    List.Forall₂ DeliveredAs xs (xs.flatMap (readOf printable)) ↔
      ∀ x ∈ xs, fits printable x.1.data.value = true := by
  constructor
  · intro h
    by_contra hcon
    obtain ⟨x, hx, hfits⟩ : ∃ x ∈ xs, fits printable x.1.data.value = false := by
      simpa using hcon
    have hle := sum_le_weight h fun x hx read => @owed_of_delivered printable xs x hx read
    rw [weight_flatMap] at hle
    refine absurd hle (not_le.mpr (List.sum_lt_sum _ _ (fun y hy => ?_) ⟨x, hx, ?_⟩))
    · cases hy' : fits printable y.1.data.value with
      | true => exact (weight_owed_fits hids hy hy').le
      | false => exact (weight_filter_le _).trans (weight_readOf_lt hids h hy hy').le
    · rw [hfits]
      exact (weight_filter_le _).trans_lt (weight_readOf_lt hids h hx hfits)
  · intro h
    exact delivered_flatMap fun x hx => delivered_of_fits x (h x hx)

end Lossless

/-- Numbered events are told apart by their numbers. -/
theorem zipIdx_unique {α : Type} {xs : List α} {k : ℕ} :
    ∀ x ∈ xs.zipIdx k, ∀ y ∈ xs.zipIdx k, x.2 = y.2 → x = y := by
  rintro ⟨a, i⟩ hx ⟨b, j⟩ hy rfl
  have ha := (List.mk_mem_zipIdx_iff_le_and_getElem?_sub.mp hx).2
  have hb := (List.mk_mem_zipIdx_iff_le_and_getElem?_sub.mp hy).2
  rw [Option.some.inj (ha.symm.trans hb)]

/-- **The framing loses nothing exactly when the data of every event published to the subscriber
fit on their line.** -/
theorem framingLossless_iff (printable : Char → Bool) (stream : SseStream) (retry : Option ℤ)
    (subchannel : String) (ops : List StreamOp) :
    FramingLossless printable stream retry subchannel ops ↔
      ∀ sent ∈ received stream subchannel ops, fits printable sent.data.value = true := by
  unfold FramingLossless
  rw [streamOutput_eq]
  have hall : (∀ x ∈ (received stream subchannel ops).zipIdx 1,
      fits printable x.1.data.value = true) ↔
        ∀ sent ∈ received stream subchannel ops, fits printable sent.data.value = true := by
    have hmap := List.zipIdx_map_fst 1 (received stream subchannel ops)
    constructor
    · intro h sent hsent
      rw [← hmap] at hsent
      obtain ⟨x, hx, rfl⟩ := List.mem_map.mp hsent
      exact h x hx
    · intro h x hx
      exact h x.1 (List.fst_mem_of_mem_zipIdx hx)
  rw [← hall, ← delivered_readOf_iff zipIdx_unique, ← parse_output]
  constructor
  · rintro ⟨texts, htexts, h⟩
    obtain rfl := Except.ok.inj htexts
    exact h
  · intro h
    exact ⟨_, rfl, h⟩

/-! ## An event out of a string -/

/-- A stream on which one string is published. -/
def forgingOps : List StreamOp :=
  [.publish { value := .str "up\n\nid: 7\ndata: down", isJson := rfl } (.many [])
    { text := "", unbroken := forall_of_all rfl }]

/-- **A string starts another event**: of one event that has been published, the subscriber reads
two. -/
theorem payload_starts_another_event :
    (∃ texts, streamOutput (fun _ => true) (.plain "counters") none "" forgingOps = .ok texts ∧
      parse (String.join texts).toList =
        [{ id := ['1'], event := [], data := ['u', 'p'] },
         { id := ['7'], event := [], data := ['d', 'o', 'w', 'n'] }]) ∧
    ¬FramingLossless (fun _ => true) (.plain "counters") none "" forgingOps := by
  have hparse : parse (String.join (outputFrom (fun _ => true) none 0
      (received (.plain "counters") "" forgingOps))).toList =
        [{ id := ['1'], event := [], data := ['u', 'p'] },
         { id := ['7'], event := [], data := ['d', 'o', 'w', 'n'] }] := by
    rw [parse_output]
    with_unfolding_all rfl
  refine ⟨⟨_, streamOutput_eq forgingOps, hparse⟩, ?_⟩
  rintro ⟨texts, htexts, h⟩
  obtain rfl := Except.ok.inj ((streamOutput_eq forgingOps).symm.trans htexts)
  rw [hparse] at h
  exact absurd h.length_eq (by decide)

end Walkoff.Analysis
