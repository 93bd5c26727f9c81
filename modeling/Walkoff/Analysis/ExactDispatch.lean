import Mathlib.Data.List.Dedup
import Mathlib.Data.List.Count
import Walkoff.Program.Dispatchers

/-!
# Which callbacks an event calls

The routers hold what has been registered and still lives (`RoutersHold`, kept by every operation).
The events of senders are dispatched to a set, those of actions to the contents of up to four sets
one after the other, so a callback that is in two of them is called twice (`exactlyOnce_iff`).
-/

set_option autoImplicit false

namespace Walkoff.Analysis

open Walkoff.Library Walkoff.Model Walkoff.Program

variable {Callback Event : Type} [DecidableEq Callback] [DecidableEq Event]

/-! ## What has been registered -/

/-- An accepted call of `register_app_actions`, with its actions expanded. -/
structure AppRegistration (Callback Event : Type) where
  func : Callback
  app : String
  events : List Event
  actions : List String
  devices : List DeviceKey
  weak : Bool

/-- A call of `register_events`. -/
structure EventRegistration (Callback Event : Type) where
  func : Callback
  events : List Event
  senderIds : List String
  names : List String
  weak : Bool

/-- The registrations of the callbacks that live. -/
structure Registrations (Callback Event : Type) where
  appActions : List (AppRegistration Callback Event)
  events : List (EventRegistration Callback Event)

/-- The registrations after an operation. -/
def Registrations.note (appActions : String → Option (List String))
    (dispatchers : Dispatchers Callback Event) (self : Registrations Callback Event) :
    DispatcherOp Callback Event → Registrations Callback Event
  | .registerAppActions func app events actions deviceIds weak =>
    match AppEventDispatcher.validateAppActions appActions app actions with
    | .ok actions =>
      { self with
        appActions := { func, app, events, actions, devices := deviceIds.toList, weak } ::
          self.appActions }
    | .error _ => self
  | .registerEvents func events senderIds names weak =>
    { self with
      events := { func, events, senderIds := senderIds.toList, names := names.toList, weak } ::
        self.events }
  | .die func =>
    if dispatchers.holds func then self
    else { appActions := self.appActions.filter (·.func ≠ func)
           events := self.events.filter (·.func ≠ func) }

/-- The dispatchers and the registrations after a sequence of operations. -/
def afterOps (appActions : String → Option (List String))
    (ops : List (DispatcherOp Callback Event)) :
    Dispatchers Callback Event × Registrations Callback Event :=
  ops.foldl (fun state op => (state.1.serve appActions op, state.2.note appActions state.1 op))
    ({ appActions := [], events := [] }, { appActions := [], events := [] })

/-! ## What an event should call -/

/-- The registration is for the event of the action. -/
def AppRegistration.Covers (r : AppRegistration Callback Event) (event : Event)
    (data : ActionData) : Prop :=
  r.app = data.appName ∧ data.actionName ∈ r.actions ∧ event ∈ r.events

/-- The registration is for the sender of the event, or for all. -/
def EventRegistration.Names (isController : Event → Bool)
    (r : EventRegistration Callback Event) (event : Event) (data : SenderData) : Prop :=
  (r.senderIds = [] ∧ r.names = []) ∨
    EventDispatcher.senderId isController event data ∈ r.senderIds ∨
    ∃ name, EventDispatcher.senderName isController event data = some name ∧ name ∈ r.names

/-- A callback that lives is registered for the event. -/
def RegisteredFor (isController : Event → Bool) (registrations : Registrations Callback Event)
    (func : Callback) : SentEvent Event → Prop
  | .action event data => ∃ r ∈ registrations.appActions, r.func = func ∧ r.Covers event data ∧
      (.all ∈ r.devices ∨ data.device ∈ r.devices)
  | .general event data => ∃ r ∈ registrations.events, r.func = func ∧ event ∈ r.events ∧
      r.Names isController event data

/-- `is_registered` says for every callback whether the event of an action calls it. -/
def SaysWhatIsCalled (dispatchers : Dispatchers Callback Event) : SentEvent Event → Prop
  | .action event data => ∀ func, func ∈ dispatchers.appActions.callbacks event data ↔
      dispatchers.appActions.isRegistered data.appName data.actionName event data.device func
  | .general _ _ => True

/-- The event calls each matching callback once and no other, whatever the callbacks raise. -/
def ExactlyOnce (isController : Event → Bool)
    (state : Dispatchers Callback Event × Registrations Callback Event)
    (sent : SentEvent Event) : Prop :=
  (∀ raises, ∃ called, state.1.dispatch isController raises sent [] = .ok () called ∧
    ∀ func, (RegisteredFor isController state.2 func sent → called.count func = 1) ∧
      (¬RegisteredFor isController state.2 func sent → called.count func = 0)) ∧
  SaysWhatIsCalled state.1 sent

/-- When this is so. For an action, no callback is registered for its event both weakly and
strongly, or both for all devices and for the device; for a sender, every callback registered
under one of the entries that are looked up is registered for the sender or for all. -/
def Unambiguous (isController : Event → Bool) (registrations : Registrations Callback Event) :
    SentEvent Event → Prop
  | .action event data => ∀ r ∈ registrations.appActions, ∀ r' ∈ registrations.appActions,
      r.func = r'.func → r.Covers event data → r'.Covers event data →
        ∀ key ∈ r.devices, ∀ key' ∈ r'.devices, (key = .all ∨ key = data.device) →
          (key' = .all ∨ key' = data.device) → key = key' ∧ r.weak = r'.weak
  | .general event data => ∀ r ∈ registrations.events, event ∈ r.events →
      (∃ entry ∈ EventDispatcher.entryIds r.senderIds r.names,
        entry ∈ EventDispatcher.entries isController event data) →
          RegisteredFor isController registrations r.func (.general event data)

/-! ## One container -/

/-- The weak or the strong references. -/
def CallbackContainer.side (container : CallbackContainer Callback) : Bool → List Callback
  | true => container.weak
  | false => container.strong

open CallbackContainer (side)

/-- Registering adds the callback to the set of its kind. -/
theorem mem_side_register (container : CallbackContainer Callback) (func : Callback)
    (weak : Bool) {g : Callback} {w : Bool} : g ∈ side (container.register func weak) w ↔
      g ∈ side container w ∨ (g = func ∧ w = weak) := by
  cases weak <;> cases w <;> simp [CallbackContainer.register, side, or_comm]

/-- A set has a callback once or not at all. -/
theorem count_side (container : CallbackContainer Callback) (w : Bool) (func : Callback) :
    (side container w).count func = if func ∈ side container w then 1 else 0 := by
  have hnodup : (side container w).Nodup := by
    cases w with
    | true => exact container.weak_nodup
    | false => exact container.strong_nodup
  exact List.Nodup.count hnodup

omit [DecidableEq Callback] in
/-- Iterating goes through both sets. -/
theorem mem_iter {container : CallbackContainer Callback} {func : Callback} :
    func ∈ container.iter ↔ ∃ w, func ∈ side container w := by
  rw [Bool.exists_bool, or_comm]
  exact List.mem_append

/-- A callback is registered exactly if iterating meets it. -/
theorem isRegistered_iff {container : CallbackContainer Callback} {func : Callback} :
    container.isRegistered func = true ↔ func ∈ container.iter := by
  simp [CallbackContainer.isRegistered, CallbackContainer.iter]

/-- A death takes the callback out of the weak set. -/
theorem mem_side_forget {container : CallbackContainer Callback} {func g : Callback} {w : Bool} :
    g ∈ side (container.forget func) w ↔ g ∈ side container w ∧ (w = true → g ≠ func) := by
  cases w <;> simp [CallbackContainer.forget, side]

/-! ## The routers -/

/-- The container of an action, an event and a device. -/
def containerOf (dispatcher : AppEventDispatcher Callback Event) (app action : String)
    (event : Event) (key : DeviceKey) : CallbackContainer Callback :=
  OrderedDict.valueOr key .empty (OrderedDict.valueOr event [] (OrderedDict.valueOr action []
    (OrderedDict.valueOr app [] dispatcher)))

/-- The container of an entry and an event. -/
def entryOf (dispatcher : EventDispatcher Callback Event) (entry : String) (event : Event) :
    CallbackContainer Callback :=
  OrderedDict.valueOr event .empty (OrderedDict.valueOr entry [] dispatcher)

section

variable {func g : Callback} {weak w : Bool}

/-- A registration puts the callback in the containers of its devices, events and actions. -/
theorem mem_registerAppActions {appActions : String → Option (List String)}
    {dispatcher registered : AppEventDispatcher Callback Event} {app : String}
    {events : List Event} {actions : OneOrMany String} {expanded : List String}
    {deviceIds : OneOrMany DeviceKey}
    (hactions : AppEventDispatcher.validateAppActions appActions app actions = .ok expanded)
    (h : dispatcher.registerAppActions appActions func app events actions deviceIds weak =
      .ok registered) (app' action : String) (event : Event) (key : DeviceKey) :
    g ∈ side (containerOf registered app' action event key) w ↔
      g ∈ side (containerOf dispatcher app' action event key) w ∨
        (app' = app ∧ action ∈ expanded ∧ event ∈ events ∧ key ∈ deviceIds.toList ∧
          g = func ∧ w = weak) := by
  unfold AppEventDispatcher.registerAppActions at h
  rw [hactions] at h
  cases h
  unfold containerOf
  -- from the container up to the app, each level with what holds of the one below it
  have hdevice := OrderedDict.foldl_change_iff
    (P := fun container : CallbackContainer Callback => g ∈ side container w)
    (fun container => mem_side_register container func weak) .empty deviceIds.toList
  have hevent := OrderedDict.foldl_change_iff
    (P := fun router => g ∈ side (OrderedDict.valueOr key .empty router) w)
    (fun router => hdevice router key) [] events
  have haction := OrderedDict.foldl_change_iff
    (P := fun dispatcher => g ∈ side
      (OrderedDict.valueOr key .empty (OrderedDict.valueOr event [] dispatcher)) w)
    (fun dispatcher => hevent dispatcher event) [] expanded
  exact OrderedDict.change_iff
    (P := fun byAction => g ∈ side (OrderedDict.valueOr key .empty
      (OrderedDict.valueOr event [] (OrderedDict.valueOr action [] byAction))) w)
    (fun byAction => haction byAction action) [] app dispatcher app'

/-- A registration for senders puts the callback in the containers of its entries and events. -/
theorem mem_registerEvents {dispatcher : EventDispatcher Callback Event} {events : List Event}
    {senderIds names : OneOrMany String} (entry : String) (event : Event) :
    g ∈ side (entryOf (dispatcher.registerEvents func events senderIds names weak) entry event) w ↔
      g ∈ side (entryOf dispatcher entry event) w ∨
        (entry ∈ EventDispatcher.entryIds senderIds.toList names.toList ∧ event ∈ events ∧
          g = func ∧ w = weak) := by
  have hevent := OrderedDict.foldl_change_iff
    (P := fun container : CallbackContainer Callback => g ∈ side container w)
    (fun container => mem_side_register container func weak) .empty events
  exact OrderedDict.foldl_change_iff
    (P := fun router => g ∈ side (OrderedDict.valueOr event .empty router) w)
    (fun router => hevent router event) [] _ dispatcher entry

/-- A death leaves an empty container. -/
theorem forget_empty : CallbackContainer.forget func .empty = .empty := rfl

/-- After a death, each container of the apps has forgotten the callback. -/
theorem containerOf_forget (dispatchers : Dispatchers Callback Event) (app action : String)
    (event : Event) (key : DeviceKey) :
    containerOf (dispatchers.forget func).appActions app action event key =
      (containerOf dispatchers.appActions app action event key).forget func := by
  unfold containerOf Dispatchers.forget
  dsimp only
  rw [OrderedDict.valueOr_mapValues rfl, OrderedDict.valueOr_mapValues rfl,
    OrderedDict.valueOr_mapValues rfl, OrderedDict.valueOr_mapValues forget_empty]

/-- The same of the containers of the general events. -/
theorem entryOf_forget (dispatchers : Dispatchers Callback Event) (entry : String)
    (event : Event) : entryOf (dispatchers.forget func).events entry event =
      (entryOf dispatchers.events entry event).forget func := by
  unfold entryOf Dispatchers.forget
  dsimp only
  rw [OrderedDict.valueOr_mapValues rfl, OrderedDict.valueOr_mapValues forget_empty]

/-- What holds of the entry of a key, but not of the default, holds of the value of some item. -/
theorem any_of_valueOr {α β : Type} [DecidableEq α] {P : β → Bool} {k : α} {default : β}
    {d : OrderedDict α β} (hdefault : P default = false)
    (h : P (OrderedDict.valueOr k default d) = true) : (d.any fun item => P item.2) = true := by
  unfold OrderedDict.valueOr at h
  cases hget : OrderedDict.get? k d with
  | none =>
    rw [hget] at h
    exact absurd (hdefault.symm.trans h) Bool.false_ne_true
  | some value =>
    rw [hget] at h
    exact List.any_eq_true.mpr ⟨_, OrderedDict.mem_of_get? hget, h⟩

/-- A strong reference in a container of the actions holds its callback. -/
theorem holds_of_containerOf {dispatchers : Dispatchers Callback Event} {app action : String}
    {event : Event} {key : DeviceKey}
    (h : func ∈ side (containerOf dispatchers.appActions app action event key) false) :
    dispatchers.holds func = true := by
  have hdevice := any_of_valueOr (P := fun container : CallbackContainer Callback =>
    decide (func ∈ container.strong)) (decide_eq_false List.not_mem_nil) (decide_eq_true h)
  have hevent := any_of_valueOr
    (P := fun router : OrderedDict DeviceKey (CallbackContainer Callback) =>
      router.any fun device => func ∈ device.2.strong) rfl hdevice
  have haction := any_of_valueOr (P := fun dispatcher : AppActionEventDispatcher Callback Event =>
    dispatcher.any fun event => event.2.any fun device => func ∈ device.2.strong) rfl hevent
  have happ := any_of_valueOr
    (P := fun byAction : OrderedDict String (AppActionEventDispatcher Callback Event) =>
      byAction.any fun action => action.2.any fun event => event.2.any fun device =>
        func ∈ device.2.strong) rfl haction
  exact Bool.or_eq_true_iff.mpr (.inl happ)

/-- A strong reference in a container of the senders holds its callback. -/
theorem holds_of_entryOf {dispatchers : Dispatchers Callback Event} {entry : String}
    {event : Event} (h : func ∈ side (entryOf dispatchers.events entry event) false) :
    dispatchers.holds func = true := by
  have hevent := any_of_valueOr (P := fun container : CallbackContainer Callback =>
    decide (func ∈ container.strong)) (decide_eq_false List.not_mem_nil) (decide_eq_true h)
  have hentry := any_of_valueOr
    (P := fun router : OrderedDict Event (CallbackContainer Callback) =>
      router.any fun event => func ∈ event.2.strong) rfl hevent
  exact Bool.or_eq_true_iff.mpr (.inr hentry)

end

/-! ## The routers hold what has been registered -/

/-- The containers hold exactly the registered callbacks that live. -/
structure RoutersHold (dispatchers : Dispatchers Callback Event)
    (registrations : Registrations Callback Event) : Prop where
  appActions : ∀ func w app action event key,
    func ∈ side (containerOf dispatchers.appActions app action event key) w ↔
      ∃ r ∈ registrations.appActions, r.func = func ∧ r.weak = w ∧ r.app = app ∧
        action ∈ r.actions ∧ event ∈ r.events ∧ key ∈ r.devices
  events : ∀ func w entry event, func ∈ side (entryOf dispatchers.events entry event) w ↔
    ∃ r ∈ registrations.events, r.func = func ∧ r.weak = w ∧ event ∈ r.events ∧
      entry ∈ EventDispatcher.entryIds r.senderIds r.names

section

variable {dispatchers : Dispatchers Callback Event}
  {registrations : Registrations Callback Event}

omit [DecidableEq Callback] in
/-- Nothing is registered and nothing is held at first. -/
theorem routersHold_empty :
    RoutersHold ({ appActions := [], events := [] } : Dispatchers Callback Event)
      { appActions := [], events := [] } where
  appActions func w app action event key := by
    cases w <;> simp [containerOf, side, CallbackContainer.empty]
  events func w entry event := by
    cases w <;> simp [entryOf, side, CallbackContainer.empty]

/-- A callback dies in the containers as it does in the registrations. -/
theorem RoutersHold.die (h : RoutersHold dispatchers registrations) {func : Callback}
    (hdies : dispatchers.holds func = false) : RoutersHold (dispatchers.forget func)
      { appActions := registrations.appActions.filter (·.func ≠ func)
        events := registrations.events.filter (·.func ≠ func) } where
  appActions g w app action event key := by
    rw [containerOf_forget, mem_side_forget, h.appActions]
    constructor
    · rintro ⟨⟨r, hr, rfl, rfl, hcovers⟩, hweak⟩
      refine ⟨r, List.mem_filter.mpr ⟨hr, ?_⟩, rfl, rfl, hcovers⟩
      rw [decide_eq_true_eq]
      intro heq
      cases hside : r.weak with
      | true => exact hweak hside heq
      | false =>
        have hmem := (h.appActions r.func r.weak app action event key).mpr
          ⟨r, hr, rfl, rfl, hcovers⟩
        rw [hside, heq] at hmem
        exact absurd ((holds_of_containerOf hmem).symm.trans hdies) Bool.noConfusion
    · rintro ⟨r, hr, rfl, rfl, hcovers⟩
      obtain ⟨hr, hne⟩ := List.mem_filter.mp hr
      exact ⟨⟨r, hr, rfl, rfl, hcovers⟩, fun _ => by simpa using hne⟩
  events g w entry event := by
    rw [entryOf_forget, mem_side_forget, h.events]
    constructor
    · rintro ⟨⟨r, hr, rfl, rfl, hcovers⟩, hweak⟩
      refine ⟨r, List.mem_filter.mpr ⟨hr, ?_⟩, rfl, rfl, hcovers⟩
      rw [decide_eq_true_eq]
      intro heq
      cases hside : r.weak with
      | true => exact hweak hside heq
      | false =>
        have hmem := (h.events r.func r.weak entry event).mpr ⟨r, hr, rfl, rfl, hcovers⟩
        rw [hside, heq] at hmem
        exact absurd ((holds_of_entryOf hmem).symm.trans hdies) Bool.noConfusion
    · rintro ⟨r, hr, rfl, rfl, hcovers⟩
      obtain ⟨hr, hne⟩ := List.mem_filter.mp hr
      exact ⟨⟨r, hr, rfl, rfl, hcovers⟩, fun _ => by simpa using hne⟩

/-- Every operation keeps the agreement. -/
theorem RoutersHold.serve (h : RoutersHold dispatchers registrations)
    (appActions : String → Option (List String)) (op : DispatcherOp Callback Event) :
    RoutersHold (dispatchers.serve appActions op)
      (registrations.note appActions dispatchers op) := by
  cases op with
  | registerAppActions func app events actions deviceIds weak =>
    cases hactions : AppEventDispatcher.validateAppActions appActions app actions with
    | error e =>
      have hraises : dispatchers.appActions.registerAppActions appActions func app events actions
          deviceIds weak = .error e := by
        unfold AppEventDispatcher.registerAppActions
        rw [hactions]
        rfl
      unfold Dispatchers.serve Registrations.note
      dsimp only
      rw [hraises, hactions]
      exact h
    | ok expanded =>
      cases hregistered : dispatchers.appActions.registerAppActions appActions func app events
          actions deviceIds weak with
      | error e =>
        unfold AppEventDispatcher.registerAppActions at hregistered
        rw [hactions] at hregistered
        cases hregistered
      | ok registered =>
        unfold Dispatchers.serve Registrations.note
        dsimp only
        rw [hregistered, hactions]
        refine ⟨fun g w app' action event key => ?_, h.events⟩
        dsimp only
        rw [mem_registerAppActions hactions hregistered, h.appActions, or_comm,
          List.exists_mem_cons_iff]
        refine or_congr_left ?_
        constructor
        · rintro ⟨rfl, haction, hevent, hkey, rfl, rfl⟩
          exact ⟨rfl, rfl, rfl, haction, hevent, hkey⟩
        · rintro ⟨rfl, rfl, rfl, haction, hevent, hkey⟩
          exact ⟨rfl, haction, hevent, hkey, rfl, rfl⟩
  | registerEvents func events senderIds names weak =>
    unfold Dispatchers.serve Registrations.note
    refine ⟨h.appActions, fun g w entry event => ?_⟩
    dsimp only
    rw [mem_registerEvents, h.events, or_comm, List.exists_mem_cons_iff]
    refine or_congr_left ?_
    constructor
    · rintro ⟨hentry, hevent, rfl, rfl⟩
      exact ⟨rfl, rfl, hevent, hentry⟩
    · rintro ⟨rfl, rfl, hevent, hentry⟩
      exact ⟨hentry, hevent, rfl, rfl⟩
  | die func =>
    unfold Dispatchers.serve Registrations.note
    dsimp only
    cases hholds : dispatchers.holds func with
    | true => exact h
    | false => exact h.die hholds

/-- After every sequence of operations the routers hold what is registered and lives. -/
theorem routersHold_afterOps (appActions : String → Option (List String))
    (ops : List (DispatcherOp Callback Event)) :
    RoutersHold (afterOps appActions ops).1 (afterOps appActions ops).2 := by
  unfold afterOps
  suffices hall : ∀ state : Dispatchers Callback Event × Registrations Callback Event,
      RoutersHold state.1 state.2 →
        RoutersHold (ops.foldl (fun state op =>
            (state.1.serve appActions op, state.2.note appActions state.1 op)) state).1
          (ops.foldl (fun state op =>
            (state.1.serve appActions op, state.2.note appActions state.1 op)) state).2 from
    hall _ routersHold_empty
  induction ops with
  | nil => exact fun _ h => h
  | cons op ops ih => exact fun state h => ih _ (h.serve appActions op)

end

/-! ## Calling -/

omit [DecidableEq Callback] in
/-- The loop calls every callback, whatever they raise. -/
theorem callEach_eq (raises : Callback → Option Exn) (callbacks log : List Callback) :
    callEach raises callbacks log = .ok () (log ++ callbacks) := by
  have hcall : ∀ func (log : List Callback),
      (tryCatch (call raises func) fun _ => pure () : EStateM Exn (List Callback) Unit) log =
        .ok () (log ++ [func]) := by
    intro func log
    rw [tryCatch_apply]
    unfold call
    rw [bind_of_ok (modify_apply _ log)]
    cases raises func with
    | none => rfl
    | some e => rfl
  unfold callEach
  induction callbacks generalizing log with
  | nil =>
    rw [List.append_nil]
    rfl
  | cons func callbacks ih =>
    show (tryCatch (call raises func) (fun _ => pure ()) >>= fun _ =>
      callbacks.forM fun func => tryCatch (call raises func) fun _ => pure ()) log = _
    rw [bind_of_ok (hcall func log), ih, List.append_assoc]
    rfl

/-- A list without duplicates has at most one element of a kind when all of the kind are equal. -/
theorem countP_le_one_iff {α : Type} {l : List α} (hl : l.Nodup) (p : α → Bool) :
    l.countP p ≤ 1 ↔ ∀ x ∈ l, ∀ y ∈ l, p x = true → p y = true → x = y := by
  induction l with
  | nil => simp
  | cons a l ih =>
    obtain ⟨ha, hl⟩ := List.nodup_cons.mp hl
    by_cases hp : p a = true
    · rw [List.countP_cons_of_pos hp, Nat.succ_le_succ_iff, Nat.le_zero, List.countP_eq_zero]
      constructor
      · intro h x hx y hy hpx hpy
        have hfirst : ∀ z ∈ a :: l, p z = true → z = a := fun z hz hpz =>
          (List.mem_cons.mp hz).resolve_right fun hz => h z hz hpz
        exact (hfirst x hx hpx).trans (hfirst y hy hpy).symm
      · intro h x hx hpx
        have heq := h a List.mem_cons_self x (List.mem_cons_of_mem _ hx) hp hpx
        exact ha (heq ▸ hx)
    · rw [List.countP_cons_of_neg hp, ih hl]
      constructor
      · intro h x hx y hy hpx hpy
        refine h x ((List.mem_cons.mp hx).resolve_left ?_) y
          ((List.mem_cons.mp hy).resolve_left ?_) hpx hpy
        · rintro rfl
          exact hp hpx
        · rintro rfl
          exact hp hpy
      · exact fun h x hx y hy =>
          h x (List.mem_cons_of_mem _ hx) y (List.mem_cons_of_mem _ hy)

/-! ## The callbacks of the event of an action -/

/-- The sets that `_get_callbacks` goes through for a device: the key, and whether it is the set
of weak references. -/
def slots (device : DeviceKey) : List (DeviceKey × Bool) :=
  (if device ≠ .all then [.all, device] else [.all]).flatMap fun key => [(key, true), (key, false)]

/-- The sets gone through are those of all devices and of the one. -/
theorem mem_slots {device key : DeviceKey} {w : Bool} :
    (key, w) ∈ slots device ↔ key = .all ∨ key = device := by
  unfold slots
  by_cases h : device = .all
  · cases w <;> simp [h]
  · cases w <;> simp [h]

/-- No set is gone through twice. -/
theorem nodup_slots (device : DeviceKey) : (slots device).Nodup := by
  unfold slots
  by_cases h : device = .all
  · simp [h]
  · simp [h, Ne.symm h]

omit [DecidableEq Callback] in
/-- The callbacks are the contents of the sets, one after the other. -/
theorem callbacks_eq (dispatcher : AppEventDispatcher Callback Event) (event : Event)
    (data : ActionData) : dispatcher.callbacks event data =
      (slots data.device).flatMap fun slot =>
        side (containerOf dispatcher data.appName data.actionName event slot.1) slot.2 := by
  have hempty : ∀ w, side (CallbackContainer.empty : CallbackContainer Callback) w = [] := by
    rintro (_ | _) <;> rfl
  unfold AppEventDispatcher.callbacks containerOf
  cases happ : OrderedDict.get? data.appName dispatcher with
  | none => simp [OrderedDict.valueOr, happ, hempty]
  | some byAction =>
    cases haction : OrderedDict.get? data.actionName byAction with
    | none => simp [OrderedDict.valueOr, happ, haction, hempty]
    | some byEvent =>
      unfold AppActionEventDispatcher.getCallbacks
      cases hevent : OrderedDict.get? event byEvent with
      | none => simp [OrderedDict.valueOr, happ, haction, hevent, hempty]
      | some router =>
        unfold slots
        by_cases h : data.device = .all
        · simp [OrderedDict.valueOr, happ, haction, hevent, h, CallbackContainer.iter, side]
        · simp [OrderedDict.valueOr, happ, haction, hevent, h, CallbackContainer.iter, side]

/-- How often a callback is called: once for each of the sets that has it. -/
theorem count_callbacks (dispatcher : AppEventDispatcher Callback Event) (event : Event)
    (data : ActionData) (func : Callback) : (dispatcher.callbacks event data).count func =
      (slots data.device).countP fun slot => decide (func ∈
        side (containerOf dispatcher data.appName data.actionName event slot.1) slot.2) := by
  rw [callbacks_eq]
  induction slots data.device with
  | nil => rfl
  | cons slot rest ih =>
    rw [List.flatMap_cons, List.count_append, ih, count_side, List.countP_cons, add_comm]
    simp only [decide_eq_true_eq]

omit [DecidableEq Callback] in
/-- The callbacks of an event are those registered for all devices or for its own. -/
theorem mem_callbacks {dispatcher : AppEventDispatcher Callback Event}
    {event : Event} {data : ActionData} {func : Callback} :
    func ∈ dispatcher.callbacks event data ↔ ∃ key w, (key = .all ∨ key = data.device) ∧
      func ∈ side (containerOf dispatcher data.appName data.actionName event key) w := by
  rw [callbacks_eq, List.mem_flatMap]
  constructor
  · rintro ⟨⟨key, w⟩, hslot, hmem⟩
    exact ⟨key, w, mem_slots.mp hslot, hmem⟩
  · rintro ⟨key, w, hkey, hmem⟩
    exact ⟨(key, w), mem_slots.mpr hkey, hmem⟩

/-- `is_registered` says which callbacks there are. -/
theorem isRegistered_iff_mem (dispatcher : AppEventDispatcher Callback Event) (event : Event)
    (data : ActionData) (func : Callback) :
    dispatcher.isRegistered data.appName data.actionName event data.device func = true ↔
      func ∈ dispatcher.callbacks event data := by
  unfold AppEventDispatcher.isRegistered AppEventDispatcher.callbacks
  cases (OrderedDict.get? data.appName dispatcher).bind (OrderedDict.get? data.actionName) with
  | none => simp
  | some byEvent =>
    unfold AppActionEventDispatcher.isRegistered AppActionEventDispatcher.getCallbacks
    cases hevent : OrderedDict.get? event byEvent with
    | none => simp [hevent]
    | some router =>
      by_cases h : data.device = .all
      · simp [hevent, h, isRegistered_iff]
      · simp [hevent, h, isRegistered_iff]

section

variable {dispatchers : Dispatchers Callback Event}
  {registrations : Registrations Callback Event} (isController : Event → Bool)

omit [DecidableEq Callback] in
/-- A callback matches the event of an action when one of the sets has it. -/
theorem RoutersHold.registeredFor_action (h : RoutersHold dispatchers registrations) (event : Event)
    (data : ActionData) (func : Callback) :
    RegisteredFor isController registrations func (.action event data) ↔
      func ∈ dispatchers.appActions.callbacks event data := by
  rw [mem_callbacks]
  constructor
  · rintro ⟨r, hr, rfl, ⟨happ, haction, hevent⟩, hall | hdevice⟩
    · exact ⟨.all, r.weak, .inl rfl,
        (h.appActions _ _ _ _ _ _).mpr ⟨r, hr, rfl, rfl, happ, haction, hevent, hall⟩⟩
    · exact ⟨data.device, r.weak, .inr rfl,
        (h.appActions _ _ _ _ _ _).mpr ⟨r, hr, rfl, rfl, happ, haction, hevent, hdevice⟩⟩
  · rintro ⟨key, w, hkey, hmem⟩
    obtain ⟨r, hr, rfl, -, happ, haction, hevent, hdevice⟩ := (h.appActions _ _ _ _ _ _).mp hmem
    refine ⟨r, hr, rfl, ⟨happ, haction, hevent⟩, ?_⟩
    rcases hkey with rfl | rfl
    · exact .inl hdevice
    · exact .inr hdevice

/-- No callback is called twice for the event of an action exactly when each is registered for it
in one way only. -/
theorem RoutersHold.count_le_one_iff (h : RoutersHold dispatchers registrations) (event : Event)
    (data : ActionData) :
    (∀ func, (dispatchers.appActions.callbacks event data).count func ≤ 1) ↔
      Unambiguous isController registrations (.action event data) := by
  constructor
  · intro hcount r hr r' hr' hfunc hcovers hcovers' key hkey key' hkey' hlooked hlooked'
    have hunique := hcount r.func
    rw [count_callbacks, countP_le_one_iff (nodup_slots _)] at hunique
    have heq := hunique (key, r.weak) (mem_slots.mpr hlooked) (key', r'.weak)
      (mem_slots.mpr hlooked')
      (decide_eq_true ((h.appActions _ _ _ _ _ _).mpr
        ⟨r, hr, rfl, rfl, hcovers.1, hcovers.2.1, hcovers.2.2, hkey⟩))
      (decide_eq_true ((h.appActions _ _ _ _ _ _).mpr
        ⟨r', hr', hfunc.symm, rfl, hcovers'.1, hcovers'.2.1, hcovers'.2.2, hkey'⟩))
    exact Prod.mk.inj heq
  · intro hone func
    rw [count_callbacks, countP_le_one_iff (nodup_slots _)]
    rintro ⟨key, w⟩ hslot ⟨key', w'⟩ hslot' hmem hmem'
    obtain ⟨r, hr, rfl, rfl, happ, haction, hevent, hkey⟩ :=
      (h.appActions _ _ _ _ _ _).mp (of_decide_eq_true hmem)
    obtain ⟨r', hr', hfunc, rfl, happ', haction', hevent', hkey'⟩ :=
      (h.appActions _ _ _ _ _ _).mp (of_decide_eq_true hmem')
    obtain ⟨hdevice, hweak⟩ := hone r hr r' hr' hfunc.symm ⟨happ, haction, hevent⟩
      ⟨happ', haction', hevent'⟩ key hkey key' hkey' (mem_slots.mp hslot) (mem_slots.mp hslot')
    exact Prod.ext hdevice hweak

/-! ## The callbacks of the event of a sender -/

/-- The callbacks that are registered under an entry that is looked up. -/
theorem RoutersHold.mem_getCallbacks (h : RoutersHold dispatchers registrations) (event : Event)
    (data : SenderData) (func : Callback) :
    func ∈ dispatchers.events.getCallbacks isController event data ↔
      ∃ r ∈ registrations.events, r.func = func ∧ event ∈ r.events ∧
        ∃ entry ∈ EventDispatcher.entryIds r.senderIds r.names,
          entry ∈ EventDispatcher.entries isController event data := by
  unfold EventDispatcher.getCallbacks
  rw [List.mem_dedup, List.mem_flatMap]
  constructor
  · rintro ⟨entry, hentry, hmem⟩
    obtain ⟨w, hmem⟩ := mem_iter.mp hmem
    obtain ⟨r, hr, hfunc, -, hevent, hid⟩ := (h.events func w entry event).mp hmem
    exact ⟨r, hr, hfunc, hevent, entry, hid, hentry⟩
  · rintro ⟨r, hr, hfunc, hevent, entry, hid, hentry⟩
    exact ⟨entry, hentry, mem_iter.mpr
      ⟨r.weak, (h.events func r.weak entry event).mpr ⟨r, hr, hfunc, rfl, hevent, hid⟩⟩⟩

omit [DecidableEq Callback] [DecidableEq Event] in
/-- A registration for the sender or for all is found under an entry that is looked up. -/
theorem EventRegistration.Names.entry {r : EventRegistration Callback Event} {event : Event}
    {data : SenderData} (h : r.Names isController event data) :
    ∃ entry ∈ EventDispatcher.entryIds r.senderIds r.names,
      entry ∈ EventDispatcher.entries isController event data := by
  have hlisted : ∀ entry ∈ r.senderIds ++ r.names,
      entry ∈ EventDispatcher.entryIds r.senderIds r.names := by
    intro entry hentry
    unfold EventDispatcher.entryIds
    rw [if_neg (fun hempty => List.ne_nil_of_mem hentry (List.isEmpty_iff.mp hempty))]
    exact List.mem_dedup.mpr hentry
  rcases h with ⟨hids, hnames⟩ | hid | ⟨name, hname, hmem⟩
  · refine ⟨"all", ?_, List.mem_cons_self⟩
    rw [hids, hnames]
    exact List.mem_cons_self
  · exact ⟨_, hlisted _ (List.mem_append_left _ hid), .tail _ (.head _)⟩
  · refine ⟨name, hlisted _ (List.mem_append_right _ hmem), ?_⟩
    unfold EventDispatcher.entries
    rw [hname]
    exact .tail _ (.tail _ (.head _))

/-- Every callback that matches the event of a sender is called. -/
theorem RoutersHold.mem_of_registeredFor (h : RoutersHold dispatchers registrations) {event : Event}
    {data : SenderData} {func : Callback}
    (hregistered : RegisteredFor isController registrations func (.general event data)) :
    func ∈ dispatchers.events.getCallbacks isController event data := by
  obtain ⟨r, hr, hfunc, hevent, hnames⟩ := hregistered
  exact (h.mem_getCallbacks isController event data func).mpr
    ⟨r, hr, hfunc, hevent, hnames.entry isController⟩

end

/-! ## The law -/

/-- The event of an action calls the callbacks of the action. -/
theorem dispatch_action (isController : Event → Bool) (raises : Callback → Option Exn)
    (dispatchers : Dispatchers Callback Event) (event : Event) (data : ActionData) :
    dispatchers.dispatch isController raises (.action event data) [] =
      .ok () (dispatchers.appActions.callbacks event data) :=
  callEach_eq raises _ []

/-- A general event calls those of its sender and of the event. -/
theorem dispatch_general (isController : Event → Bool) (raises : Callback → Option Exn)
    (dispatchers : Dispatchers Callback Event) (event : Event) (data : SenderData) :
    dispatchers.dispatch isController raises (.general event data) [] =
      .ok () (dispatchers.events.getCallbacks isController event data) :=
  callEach_eq raises _ []

/-- After every sequence of registrations, with callbacks dying in between: an event calls each
matching callback exactly once and no other exactly when the registrations are unambiguous for
it. -/
theorem exactlyOnce_iff (isController : Event → Bool)
    (appActions : String → Option (List String)) (ops : List (DispatcherOp Callback Event))
    (sent : SentEvent Event) : ExactlyOnce isController (afterOps appActions ops) sent ↔
      Unambiguous isController (afterOps appActions ops).2 sent := by
  have hhold := routersHold_afterOps appActions ops
  generalize afterOps appActions ops = state at hhold
  cases sent with
  | action event data =>
    rw [← hhold.count_le_one_iff isController event data]
    constructor
    · rintro ⟨hdispatch, -⟩ func
      obtain ⟨called, hcalled, hcount⟩ := hdispatch fun _ => none
      rw [dispatch_action] at hcalled
      cases hcalled
      by_cases hregistered : RegisteredFor isController state.2 func (.action event data)
      · exact ((hcount func).1 hregistered).le
      · exact ((hcount func).2 hregistered).le.trans zero_le_one
    · intro hcount
      refine ⟨fun raises => ⟨_, dispatch_action isController raises _ event data,
        fun func => ⟨fun h => ?_, fun h => ?_⟩⟩,
        fun func => (isRegistered_iff_mem _ event data func).symm⟩
      · rw [hhold.registeredFor_action] at h
        exact le_antisymm (hcount func) (List.count_pos_iff.mpr h)
      · rw [hhold.registeredFor_action] at h
        exact List.count_eq_zero.mpr h
  | general event data =>
    constructor
    · rintro ⟨hdispatch, -⟩ r hr hevent hentry
      obtain ⟨called, hcalled, hcount⟩ := hdispatch fun _ => none
      rw [dispatch_general] at hcalled
      cases hcalled
      by_contra hregistered
      exact List.count_eq_zero.mp ((hcount r.func).2 hregistered)
        ((hhold.mem_getCallbacks isController event data r.func).mpr
          ⟨r, hr, rfl, hevent, hentry⟩)
    · intro hone
      refine ⟨fun raises => ⟨_, dispatch_general isController raises _ event data,
        fun func => ⟨fun h => ?_, fun h => ?_⟩⟩,
        trivial⟩
      · exact List.count_eq_one_of_mem (List.nodup_dedup _)
          (hhold.mem_of_registeredFor isController h)
      · refine List.count_eq_zero.mpr fun hmem => h ?_
        obtain ⟨r, hr, rfl, hevent, hentry⟩ :=
          (hhold.mem_getCallbacks isController event data func).mp hmem
        exact hone r hr hevent hentry

/-- A callback that is registered for all devices and for one of them is called twice for that
device. -/
theorem registered_for_all_and_one_called_twice :
    ¬∀ (appActions : String → Option (List String)) (ops : List (DispatcherOp String String))
      (sent : SentEvent String), ExactlyOnce (fun _ => false) (afterOps appActions ops) sent := by
  intro hall
  let device : ActionData :=
    { appName := "HelloWorld", actionName := "Buzz", deviceId := some (.number 3) }
  obtain ⟨hdispatch, -⟩ := hall (fun _ => some ["Buzz"])
    [.registerAppActions "on_start" "HelloWorld" ["ActionStarted"] (.one "all") (.one .all) true,
      .registerAppActions "on_start" "HelloWorld" ["ActionStarted"] (.one "all")
        (.one (.number 3)) true]
    (.action "ActionStarted" device)
  obtain ⟨called, hcalled, hcount⟩ := hdispatch fun _ => none
  rw [dispatch_action] at hcalled
  obtain rfl : ["on_start", "on_start"] = called := by
    injection hcalled
  have htwice : List.count "on_start" ["on_start", "on_start"] = 2 := rfl
  obtain ⟨hone, hnone⟩ := hcount "on_start"
  rw [htwice] at hone hnone
  have hother := hnone fun h => absurd (hone h) (by decide)
  exact absurd hother (by decide)

end Walkoff.Analysis
