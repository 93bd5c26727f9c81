import Walkoff.Program.RemoteExecution
import Walkoff.Program.ResultsCodec

/-!
# Messages that apps compose

`apps.messaging`: an app composes a message of components, each of which is written as JSON under
the tag of its class, and signals it. A tag is found in the registry of the classes again when the
JSON is read.
-/

set_option autoImplicit false

namespace Walkoff.Program.Messaging

open Walkoff.Model hiding eventToProtobuf
open Walkoff.Library (OrderedDict)
open Walkoff.Program.ResultsCodec hiding Message

/-! ## Tags -/

/-- Where `re.sub('(.)([A-Z][a-z]+)', r'\1_\2', name)` is in a match: in none, before its capital,
or among its small letters. -/
inductive MatchPlace where
  | outside
  | capital
  | letters
  deriving DecidableEq, Repr

/-- The first substitution of `convert_class_name_to_tag`. -/
def separateWords : MatchPlace → List Char → List Char
  | _, [] => []
  | .capital, c :: cs => c :: separateWords .letters cs
  | place, c :: cs =>
    if place = .letters ∧ c.isLower then c :: separateWords .letters cs
    else match cs with
      | d :: e :: _ =>
        if c ≠ '\n' ∧ d.isUpper ∧ e.isLower then c :: '_' :: separateWords .capital cs
        else c :: separateWords .outside cs
      | _ => c :: separateWords .outside cs

/-- The second substitution, `re.sub('([a-z0-9])([A-Z])', r'\1_\2', sub)`. -/
def separateCapitals : List Char → List Char
  | [] => []
  | [c] => [c]
  | c :: d :: cs =>
    if (c.isLower ∨ c.isDigit) ∧ d.isUpper then c :: '_' :: separateCapitals (d :: cs)
    else c :: separateCapitals (d :: cs)

/-- `convert_class_name_to_tag`. -/
def convertClassNameToTag (name : String) : String :=
  String.ofList ((separateCapitals (separateWords .outside name.toList)).map Char.toLower)

/-! ## Components -/

/-- `MessageComponent` and its subclasses. -/
inductive MessageComponent where
  | base (requiresResponse : Bool)
  | text (value : PyVal)
  | url (address title : PyVal)
  | acceptDecline
  deriving DecidableEq, Repr

namespace MessageComponent

/-- `message_type`. -/
def messageType : MessageComponent → String
  | base _ => "__base"
  | text _ => convertClassNameToTag "Text"
  | url _ _ => convertClassNameToTag "Url"
  | acceptDecline => convertClassNameToTag "AcceptDecline"

/-- `requires_response`. -/
def requiresResponse : MessageComponent → Bool
  | base requiresResponse => requiresResponse
  | text _ | url _ _ => false
  | acceptDecline => true

/-- `get_component_json`. -/
def getComponentJson : MessageComponent → Dict
  | text value => [("text", value)]
  | url address title => ("url", address) :: if title.truthy then [("title", title)] else []
  | base _ | acceptDecline => []

/-- `as_json`. -/
def asJson (self : MessageComponent) : Dict :=
  [("type", .str self.messageType), ("requires_response", .bool self.requiresResponse),
   ("data", .dict self.getComponentJson)]

/-- `from_component_json` of the subclasses. -/
def textFromJson (json : PyVal) : Except Exn MessageComponent := do
  pure (text (← subscript "text" json))

@[inherit_doc textFromJson]
def urlFromJson (json : PyVal) : Except Exn MessageComponent := do
  let address ← subscript "url" json
  match json with
  | .dict items => pure (url address ((OrderedDict.get? "title" items).getD .none))
  | _ => throw .attributeError

/-- `registry`: the classes by their tags. -/
def registry : OrderedDict String (PyVal → Except Exn MessageComponent) :=
  [(convertClassNameToTag "Text", textFromJson), (convertClassNameToTag "Url", urlFromJson),
   (convertClassNameToTag "AcceptDecline", fun _ => pure acceptDecline)]

/-- `registry.get(tag, MessageComponent)`; a list or a dictionary has no hash. -/
def classOf : PyVal → Except Exn (PyVal → Except Exn MessageComponent)
  | .str tag => pure ((registry.get? tag).getD fun _ => pure (base false))
  | .list _ | .dict _ => throw .typeError
  | _ => pure fun _ => pure (base false)

/-- `from_json`. -/
def fromJson (json : PyVal) : Except Exn MessageComponent := do
  let fromComponentJson ← classOf (← subscript "type" json)
  fromComponentJson (← subscript "data" json)

end MessageComponent

/-! ## Messages -/

/-- `Message`. -/
structure Message where
  subject : Option String
  body : List MessageComponent
  deriving DecidableEq, Repr

namespace Message

/-- The entry `body` of `as_json`. -/
def bodyJson (self : Message) : PyVal :=
  .list (self.body.map fun component => .dict component.asJson)

/-- The entry `subject` of `as_json`, which an empty subject does not get. -/
def subjectJson (self : Message) : Option String :=
  self.subject.filter (· ≠ "")

/-- `as_json`. -/
def asJson (self : Message) : Dict :=
  ("body", self.bodyJson) :: (self.subjectJson.map fun text => ("subject", PyVal.str text)).toList

/-- `json_in.get('subject', None)`, which is a text or nothing. -/
def subjectOf (json : Dict) : Except Exn (Option String) :=
  match json.get? "subject" with
  | none | some .none => pure none
  | some (.str text) => pure (some text)
  | some _ => throw .typeError

/-- `from_json`. -/
def fromJson (json : Dict) : Except Exn Message := do
  let subject ← subjectOf json
  match (json.get? "body").getD (.list []) with
  | .list components => pure { subject, body := ← components.mapM MessageComponent.fromJson }
  | _ => throw .typeError

end Message

/-- `send_message`: what is signalled, with the user that the worker adds. -/
structure SentMessage where
  message : Message
  users : Option (List ℤ)
  roles : Option (List ℤ)
  requiresReauth : Bool
  context : WorkflowContext
  user : Option String

/-- The signal of `send_message` as the worker puts it on the results socket. -/
def SentMessage.toProtobuf (sent : SentMessage) : Except Exn ResultsCodec.Message :=
  eventToProtobuf (.message sent.message.subjectJson sent.message.bodyJson) sent.context
    .sendMessage
    { user := sent.user, users := some (sent.users.getD []), roles := some (sent.roles.getD [])
      requiresReauth := some sent.requiresReauth }

/-! ## Actions that compose a message

In `apps.Utilities.actions` every action takes a message as JSON and returns one as JSON. -/

/-- `create_empty_message`. -/
def createEmptyMessage (subject : Option String) : Dict :=
  Message.asJson { subject, body := [] }

/-- `append_text_message_component`, `append_url_message_component` and
`append_accept_decline_message_component`. -/
def appendMessageComponent (component : MessageComponent) (message : Dict) :
    Except Exn Dict := do
  let message ← Message.fromJson message
  pure (Message.asJson { message with body := message.body ++ [component] })

/-- `combine_messages`. -/
def combineMessages (message₁ message₂ : Dict) : Except Exn Dict := do
  let message₁ ← Message.fromJson message₁
  let message₂ ← Message.fromJson message₂
  pure (Message.asJson { message₁ with body := message₁.body ++ message₂.body })

/-- `set_message_subject`. -/
def setMessageSubject (subject : Option String) (message : Dict) : Except Exn Dict := do
  let message ← Message.fromJson message
  pure (Message.asJson { message with subject })

/-- `send_full_message`, with the context of the action that sends the message. -/
def sendFullMessage (users roles : Option (List ℤ)) (context : WorkflowContext)
    (user : Option String) (message : Dict) : Except Exn SentMessage := do
  pure { message := ← Message.fromJson message, users, roles, requiresReauth := false, context
         user }

/-- How the actions of a workflow compose a message. -/
inductive Composition where
  | createEmpty (subject : Option String)
  | appendText (message : Composition) (text : PyVal)
  | appendUrl (message : Composition) (url title : PyVal)
  | appendAcceptDecline (message : Composition)
  | combine (message₁ message₂ : Composition)
  | setSubject (message : Composition) (subject : Option String)

/-- The result of the last action, each of which takes the results of others. -/
def Composition.run : Composition → Except Exn Dict
  | createEmpty subject => pure (createEmptyMessage subject)
  | appendText message text => do appendMessageComponent (.text text) (← message.run)
  | appendUrl message url title => do appendMessageComponent (.url url title) (← message.run)
  | appendAcceptDecline message => do appendMessageComponent .acceptDecline (← message.run)
  | combine message₁ message₂ => do combineMessages (← message₁.run) (← message₂.run)
  | setSubject message subject => do setMessageSubject subject (← message.run)

end Walkoff.Program.Messaging
