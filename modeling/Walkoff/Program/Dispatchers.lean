import Walkoff.Library.Effect
import Walkoff.Library.NestedDict
import Walkoff.Model.PyVal

/-!
# The dispatchers of the interfaces

`interfaces.dispatchers`: callbacks are registered for the events of actions of an app, or for the
events of senders, and called when such an event is dispatched. A callback that no container holds
strongly may die, and the weak references to it are gone then.
-/

set_option autoImplicit false

namespace Walkoff.Program

open Walkoff.Library Walkoff.Model

variable {Callback Event : Type} [DecidableEq Callback] [DecidableEq Event]

/-! ## Containers -/

/-- `CallbackContainer`: two sets. -/
structure CallbackContainer (Callback : Type) where
  weak : List Callback
  strong : List Callback
  weak_nodup : weak.Nodup
  strong_nodup : strong.Nodup

namespace CallbackContainer

/-- `CallbackContainer()`. -/
def empty : CallbackContainer Callback where
  weak := []
  strong := []
  weak_nodup := List.nodup_nil
  strong_nodup := List.nodup_nil

/-- `register`. -/
def register (func : Callback) (weak : Bool) (self : CallbackContainer Callback) :
    CallbackContainer Callback :=
  if weak then { self with
    weak := self.weak.insert func
    weak_nodup := self.weak_nodup.insert }
  else { self with
    strong := self.strong.insert func
    strong_nodup := self.strong_nodup.insert }

/-- `__iter__`: the weak references first. -/
def iter (self : CallbackContainer Callback) : List Callback :=
  self.weak ++ self.strong

/-- `is_registered`. -/
def isRegistered (self : CallbackContainer Callback) (func : Callback) : Bool :=
  decide (func ∈ self.weak) || decide (func ∈ self.strong)

/-- A callback has died: its weak reference is gone. -/
def forget (func : Callback) (self : CallbackContainer Callback) : CallbackContainer Callback :=
  { self with
    weak := self.weak.filter (· ≠ func)
    weak_nodup := self.weak_nodup.filter _ }

end CallbackContainer

/-! ## Arguments of the registrations -/

/-- An argument that is one element or an iterable of these. -/
inductive OneOrMany (α : Type) where
  | one (x : α)
  | many (xs : List α)
  deriving Repr

/-- `convert_to_iterable`. -/
def OneOrMany.toList {α : Type} : OneOrMany α → List α
  | one x => [x]
  | many xs => xs

/-- A device ID, or the text `all`. -/
inductive DeviceKey where
  | text (s : String)
  | number (n : ℤ)
  deriving DecidableEq, Repr

/-- `'all'`. -/
def DeviceKey.all : DeviceKey :=
  .text "all"

/-! ## Events of actions -/

/-- `AppActionEventDispatcher._event_router`. -/
abbrev AppActionEventDispatcher (Callback Event : Type) :=
  OrderedDict Event (OrderedDict DeviceKey (CallbackContainer Callback))

namespace AppActionEventDispatcher

/-- `_register_event_for_device_id`, in the router of the event. -/
def registerEventForDeviceId (deviceId : DeviceKey) (func : Callback) (weak : Bool)
    (router : OrderedDict DeviceKey (CallbackContainer Callback)) :
    OrderedDict DeviceKey (CallbackContainer Callback) :=
  router.change deviceId .empty (.register func weak)

/-- `register_event`. The text `all` is the only device key then. -/
def registerEvent (event : Event) (deviceIds : OneOrMany DeviceKey) (func : Callback)
    (weak : Bool) (self : AppActionEventDispatcher Callback Event) :
    AppActionEventDispatcher Callback Event :=
  OrderedDict.change event [] (fun router => deviceIds.toList.foldl
    (fun router deviceId => registerEventForDeviceId deviceId func weak router) router) self

/-- `_get_callbacks`. -/
def getCallbacks (self : AppActionEventDispatcher Callback Event) (event : Event)
    (deviceId : DeviceKey) : List Callback :=
  match OrderedDict.get? event self with
  | none => []
  | some router =>
    (router.valueOr .all .empty).iter ++
      if deviceId ≠ .all then (router.valueOr deviceId .empty).iter else []

/-- `is_registered`. -/
def isRegistered (self : AppActionEventDispatcher Callback Event) (event : Event)
    (deviceId : DeviceKey) (func : Callback) : Bool :=
  match OrderedDict.get? event self with
  | none => false
  | some router =>
    let allIsRegistered := (router.valueOr .all .empty).isRegistered func
    if deviceId = .all then allIsRegistered
    else allIsRegistered || (router.valueOr deviceId .empty).isRegistered func

end AppActionEventDispatcher

/-- `AppEventDispatcher._router`. -/
abbrev AppEventDispatcher (Callback Event : Type) :=
  OrderedDict String (OrderedDict String (AppActionEventDispatcher Callback Event))

/-- What is read of the data of an action's event. -/
structure ActionData where
  appName : String
  actionName : String
  deviceId : Option DeviceKey
  deriving Repr

/-- `data.get("device_id", "all")`. -/
def ActionData.device (data : ActionData) : DeviceKey :=
  data.deviceId.getD .all

namespace AppEventDispatcher

/-- `validate_app_actions`, where `appActions` gives the keys of `app_apis[app]['actions']`. -/
def validateAppActions (appActions : String → Option (List String)) (app : String)
    (actions : OneOrMany String) : Except Exn (List String) :=
  match appActions app with
  | none => throw (.unknownApp app)
  | some available =>
    match actions with
    | .one "all" => pure available.dedup
    | actions =>
      if actions.toList.all (· ∈ available) then pure actions.toList.dedup
      else throw (.unknownAppAction app (", ".intercalate actions.toList.dedup))

/-- The loop over the events, in the dispatcher of an action. -/
def registerForEvents (events : List Event) (deviceIds : OneOrMany DeviceKey) (func : Callback)
    (weak : Bool) (self : AppActionEventDispatcher Callback Event) :
    AppActionEventDispatcher Callback Event :=
  events.foldl (fun self event => self.registerEvent event deviceIds func weak) self

/-- `register_app_actions`. -/
def registerAppActions (appActions : String → Option (List String)) (func : Callback)
    (app : String) (events : List Event) (actions : OneOrMany String)
    (deviceIds : OneOrMany DeviceKey) (weak : Bool) (self : AppEventDispatcher Callback Event) :
    Except Exn (AppEventDispatcher Callback Event) := do
  let actions ← validateAppActions appActions app actions
  pure (OrderedDict.change app [] (fun byAction => actions.foldl (fun byAction action =>
    OrderedDict.change action [] (registerForEvents events deviceIds func weak) byAction)
      byAction) self)

/-- The callbacks that `dispatch` goes through. -/
def callbacks (self : AppEventDispatcher Callback Event) (event : Event) (data : ActionData) :
    List Callback :=
  match (OrderedDict.get? data.appName self).bind (OrderedDict.get? data.actionName) with
  | none => []
  | some dispatcher => dispatcher.getCallbacks event data.device

/-- `is_registered`. -/
def isRegistered (self : AppEventDispatcher Callback Event) (app action : String)
    (event : Event) (device : DeviceKey) (func : Callback) : Bool :=
  match (OrderedDict.get? app self).bind (OrderedDict.get? action) with
  | none => false
  | some dispatcher => dispatcher.isRegistered event device func

end AppEventDispatcher

/-! ## Events of senders -/

/-- `EventDispatcher._router`. -/
abbrev EventDispatcher (Callback Event : Type) :=
  OrderedDict String (OrderedDict Event (CallbackContainer Callback))

/-- What is read of the data of an event. -/
structure SenderData where
  senderId : String
  senderName : Option String
  deriving Repr

namespace EventDispatcher

/-- `set(sender_ids) | set(names)`, or `all` when both are empty. -/
def entryIds (senderIds names : List String) : List String :=
  if (senderIds ++ names).isEmpty then ["all"] else (senderIds ++ names).dedup

/-- `__register_entry`, in the router of the entry. -/
def registerEntry (events : List Event) (func : Callback) (weak : Bool)
    (router : OrderedDict Event (CallbackContainer Callback)) :
    OrderedDict Event (CallbackContainer Callback) :=
  events.foldl (fun router event => router.change event .empty (.register func weak)) router

/-- `register_events`; `None` is an argument without elements. -/
def registerEvents (func : Callback) (events : List Event) (senderIds names : OneOrMany String)
    (weak : Bool) (self : EventDispatcher Callback Event) : EventDispatcher Callback Event :=
  (entryIds senderIds.toList names.toList).foldl
    (fun self entryId => self.change entryId [] (registerEntry events func weak)) self

section

variable (isController : Event → Bool)

/-- `__get_sender_ids`: the ID of the sender. -/
def senderId (event : Event) (data : SenderData) : String :=
  if isController event then "controller" else data.senderId

/-- `__get_sender_ids`: the name of the sender. -/
def senderName (event : Event) (data : SenderData) : Option String :=
  if isController event then none else data.senderName

/-- The entries that `_get_callbacks` looks at. -/
def entries (event : Event) (data : SenderData) : List String :=
  "all" :: senderId isController event data :: (senderName isController event data).toList

/-- `_get_callbacks`: a set. -/
def getCallbacks (self : EventDispatcher Callback Event) (event : Event) (data : SenderData) :
    List Callback :=
  ((entries isController event data).flatMap fun entry =>
    (OrderedDict.valueOr event .empty (self.valueOr entry [])).iter).dedup

end

end EventDispatcher

/-! ## Calling -/

/-- A callback is called, and may raise. -/
def call (raises : Callback → Option Exn) (func : Callback) :
    EStateM Exn (List Callback) Unit := do
  modify (· ++ [func])
  match raises func with
  | some e => throw e
  | none => pure ()

/-- The loop of both `dispatch` methods: what a callback raises is only logged. -/
def callEach (raises : Callback → Option Exn) (callbacks : List Callback) :
    EStateM Exn (List Callback) Unit :=
  callbacks.forM fun func => tryCatch (call raises func) fun _ => pure ()

/-! ## Both dispatchers -/

/-- The two dispatchers of `InterfaceEventDispatcher`. -/
structure Dispatchers (Callback Event : Type) where
  appActions : AppEventDispatcher Callback Event
  events : EventDispatcher Callback Event

namespace Dispatchers

/-- Some container holds the callback strongly. -/
def holds (self : Dispatchers Callback Event) (func : Callback) : Bool :=
  (self.appActions.any fun app => app.2.any fun action => action.2.any fun event =>
    event.2.any fun device => func ∈ device.2.strong) ||
  self.events.any fun entry => entry.2.any fun event => func ∈ event.2.strong

/-- A callback has died: no container has a reference to it any more. -/
def forget (func : Callback) (self : Dispatchers Callback Event) : Dispatchers Callback Event where
  appActions := self.appActions.mapValues (OrderedDict.mapValues (OrderedDict.mapValues
    (OrderedDict.mapValues (CallbackContainer.forget func))))
  events := self.events.mapValues (OrderedDict.mapValues (CallbackContainer.forget func))

end Dispatchers

/-- An event that is sent to one of the dispatchers. -/
inductive SentEvent (Event : Type) where
  | action (event : Event) (data : ActionData)
  | general (event : Event) (data : SenderData)

/-- `dispatch`. -/
def Dispatchers.dispatch (isController : Event → Bool) (raises : Callback → Option Exn)
    (self : Dispatchers Callback Event) : SentEvent Event → EStateM Exn (List Callback) Unit
  | .action event data => callEach raises (self.appActions.callbacks event data)
  | .general event data => callEach raises (self.events.getCallbacks isController event data)

/-- What can happen to the dispatchers between two events. -/
inductive DispatcherOp (Callback Event : Type) where
  | registerAppActions (func : Callback) (app : String) (events : List Event)
      (actions : OneOrMany String) (deviceIds : OneOrMany DeviceKey) (weak : Bool)
  | registerEvents (func : Callback) (events : List Event) (senderIds names : OneOrMany String)
      (weak : Bool)
  | die (func : Callback)

/-- A registration that raises changes nothing, and a callback that is held strongly lives on. -/
def Dispatchers.serve (appActions : String → Option (List String))
    (self : Dispatchers Callback Event) :
    DispatcherOp Callback Event → Dispatchers Callback Event
  | .registerAppActions func app events actions deviceIds weak =>
    match self.appActions.registerAppActions appActions func app events actions deviceIds weak with
    | .ok registered => { self with appActions := registered }
    | .error _ => self
  | .registerEvents func events senderIds names weak =>
    { self with events := self.events.registerEvents func events senderIds names weak }
  | .die func => if self.holds func then self else self.forget func

end Walkoff.Program
