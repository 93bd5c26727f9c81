import Walkoff.Analysis.ActionOutcomes

/-!
# When the calls of the loop at an action return

At an action the loop looks up the app instance and executes the action. `Performs` says of
the action, the accumulator and the app code whether these calls return: the device has to be
there and to be usable as a key, the events of the action have to be encodable, an await has
to be saved, and a run has to deliver its outcome. `PerformsTo` says that the status of the
action is a given one.
-/

set_option autoImplicit false

namespace Walkoff.Analysis

open Walkoff.Model Walkoff.Program
open Walkoff.Library (OrderedDict lift bind_apply bind_of_ok bind_of_error bind_eq_ok Except.bind_eq_ok)

variable {σ : Type}

/-! ## The app instance -/

/-- The key of the action's app instance. -/
def instanceKeyOf (action : Action) (accumulator : Accumulator) :
    Except Exn (Option InstanceKey) :=
  match action.deviceId with
  | none => pure none
  | some argument => do
    let value ← argument.getValue accumulator
    if !hashable value then throw .typeError
    pure (some (action.appName, value))

/-- The world in which the app instance of a key is there. -/
def withInstance (env : Env σ) (key : Option InstanceKey) (w : World σ) : World σ :=
  key.elim w fun deviceId =>
    if w.instances.contains deviceId then w
    else { w with
      behaviour := env.createInstance deviceId w.behaviour
      instances := w.instances ++ [deviceId] }

/-- **Looking up the app instance** raises if there is no key, and makes the instance on its
first use otherwise. -/
theorem setupAppInstance_cases (env : Env σ) (o : Origin) (action : Action) (w : World σ) :
    (∃ e, instanceKeyOf action (w.accumulators o.executionId) = .error e ∧
        setupAppInstance env o action w = .error e w) ∨
      ∃ key sent, instanceKeyOf action (w.accumulators o.executionId) = .ok key ∧
        setupAppInstance env o action w = .ok key { withInstance env key w with sent } := by
  unfold setupAppInstance instanceKeyOf
  cases action.deviceId with
  | none => exact .inr ⟨none, w.sent, rfl, rfl⟩
  | some argument =>
    dsimp only
    rw [bind_of_ok (rfl : getAccumulator o.executionId w = .ok (w.accumulators o.executionId) w)]
    cases argument.getValue (w.accumulators o.executionId) with
    | error e => exact .inl ⟨e, rfl, rfl⟩
    | ok value =>
      cases hhash : hashable value with
      | false => exact .inl ⟨.typeError, by simp [hhash, Bind.bind, Except.bind, throw, throwThe,
          MonadExceptOf.throw], by simp [bind_apply, lift, hhash]⟩
      | true =>
        have hkey : (do
            let value ← (Except.ok value : Except Exn PyVal)
            if (!hashable value) = true then throw .typeError
            pure (some (action.appName, value))) = Except.ok (some (action.appName, value)) := by
          simp [hhash, Bind.bind, Except.bind, Pure.pure, Except.pure]
        by_cases hmem : (action.appName, value) ∈ w.instances
        · refine .inr ⟨_, w.sent, hkey, ?_⟩
          simp [bind_apply, lift, hhash, hmem, withInstance]
        · refine .inr ⟨_, w.sent ++ [workflowPacket o .appInstanceCreated "null"], hkey, ?_⟩
          simp [bind_apply, lift, hhash, hmem, withInstance]
          rfl

/-! ## The calls -/

section

variable (env : Env σ) (o : Origin) (action : Action) (arguments : List Argument)

/-- `Action.execute` returns: the action can start, and then its await can be saved and encoded, or
its run delivers an outcome. -/
def Executes (key : Option InstanceKey) (resume : Bool) (w : World σ) : Prop :=
  ∃ device, startedWith action arguments (w.accumulators o.executionId) = .ok device ∧
    if action.trigger.isSome && !resume then
      encoded action device [] = .ok () ∧ saveRefusal env o.executionId w = none
    else RunDelivers env o action key arguments device w

/-- The calls at an action return. -/
def Performs (resume : Bool) (w : World σ) : Prop :=
  ∃ key, instanceKeyOf action (w.accumulators o.executionId) = .ok key ∧
    Executes env o action arguments key resume (withInstance env key w)

/-- The app function of the action is called and returns a result with this status. -/
def ReturnsStatus (key : Option InstanceKey) (w : World σ) (status : String) : Prop :=
  ∃ api args bound result behaviour,
    env.appApis.actionApi action.appName action.actionName = .ok api ∧
    validated env action arguments api (w.accumulators o.executionId) = .ok args ∧
    env.isAppActionBound action.appName api.run = .ok bound ∧
    env.appFunction action args (if bound then key else none) w.behaviour =
      (.ok result, behaviour) ∧
    reportedStatus api result = status

/-- The calls at an action return, and its app function a result with this status. -/
def PerformsTo (resume : Bool) (w : World σ) (status : String) : Prop :=
  ∃ key, instanceKeyOf action (w.accumulators o.executionId) = .ok key ∧
    Executes env o action arguments key resume (withInstance env key w) ∧
    ReturnsStatus env o action arguments key (withInstance env key w) status

variable {env o action arguments}

/-- The status that a run of the action returns is determined by the state it runs in. -/
theorem ReturnsStatus.unique {key : Option InstanceKey} {w : World σ} {status status' : String}
    (h : ReturnsStatus env o action arguments key w status)
    (h' : ReturnsStatus env o action arguments key w status') : status = status' := by
  obtain ⟨api, args, bound, result, behaviour, hapi, hargs, hbound, hran, rfl⟩ := h
  obtain ⟨api', args', bound', result', behaviour', hapi', hargs', hbound', hran', rfl⟩ := h'
  obtain rfl := Except.ok.inj (hapi.symm.trans hapi')
  obtain rfl := Except.ok.inj (hargs.symm.trans hargs')
  obtain rfl := Except.ok.inj (hbound.symm.trans hbound')
  rw [hran] at hran'
  cases hran'
  rfl

/-- A run of an action has the status of invalid arguments, and its app function is not called,
or the status of its app function. -/
theorem runAction_status {device : PyVal} {executionId : ℕ} {key : Option InstanceKey}
    {w w' : World σ} {status : String}
    (h : runAction env o action (.action action executionId device) arguments key w =
      .ok status w') :
    (status = "InvalidArguments" ∧
        ∀ status', ¬ ReturnsStatus env o action arguments key w status') ∨
      ReturnsStatus env o action arguments key w status := by
  rw [runAction_eq] at h
  obtain ⟨api, harguments, -, hapi⟩ | ⟨harguments, -⟩ := argumentsApi_cases env action
  case inr =>
    rw [harguments] at h
    cases h
  rw [harguments] at h
  dsimp only at h
  cases hvalidated : validated env action arguments api (w.accumulators o.executionId) with
  | error e =>
    rw [hvalidated] at h
    cases e with
    | invalidArgument message errors =>
      refine .inl ⟨?_, ?_⟩
      · obtain ⟨_, _, _, h⟩ := bind_eq_ok.mp h
        obtain ⟨_, _, _, h⟩ := bind_eq_ok.mp h
        obtain ⟨_, _, _, h⟩ := bind_eq_ok.mp h
        cases h
        rfl
      · rintro status' ⟨api', args, _, _, _, hapi', hargs, _⟩
        obtain rfl := Except.ok.inj (hapi.symm.trans hapi')
        rw [hvalidated] at hargs
        cases hargs
    | _ => cases h
  | ok args =>
    rw [hvalidated] at h
    dsimp only at h
    cases hbound : env.isAppActionBound action.appName api.run with
    | error e =>
      rw [hbound] at h
      cases h
    | ok bound =>
      rw [hbound] at h
      obtain ⟨_, _, hlift, hrest⟩ := bind_eq_ok.mp h
      cases hlift
      obtain ⟨result, w₁, hlocal, hreport⟩ := bind_eq_ok.mp hrest
      cases hran : env.appFunction action args (if bound then key else none) w.behaviour with
      | mk outcome behaviour =>
        cases outcome with
        | error e =>
          rw [executeLocally_of_error env o action hran] at hlocal
          cases hlocal
        | ok result' =>
          rcases executeLocally_cases env o action hran with ⟨-, w₂, hlocal', -, -⟩ |
            ⟨-, e, w₂, hraised⟩
          case inr =>
            rw [hraised] at hlocal
            cases hlocal
          rw [hlocal'] at hlocal
          cases hlocal
          refine .inr ⟨api, args, bound, result, behaviour, hapi, hvalidated, hbound, hran, ?_⟩
          rcases @reportResult_cases σ env o action api device hapi executionId result w₁ with
            ⟨-, -, -, packet, -, -, hreported⟩ | ⟨-, e, hraised⟩
          · rw [hreported] at hreport
            cases hreport
            rfl
          · rw [hraised] at hreport
            cases hreport

/-- The calls at an action whose device is no key, or is not there, raise. -/
theorem performAction_of_no_key {resume : Bool} {w : World σ} {e : Exn}
    (h : instanceKeyOf action (w.accumulators o.executionId) = .error e) :
    performAction env o action arguments resume w = .error e w := by
  rcases setupAppInstance_cases env o action w with ⟨e', hkey, hsetup⟩ | ⟨key, sent, hkey, -⟩
  · rw [h] at hkey
    cases hkey
    exact bind_of_error hsetup
  · rw [h] at hkey
    cases hkey

/-- Making an app instance leaves the accumulators alone. -/
theorem withInstance_accumulators (env : Env σ) (key : Option InstanceKey) (w : World σ) :
    (withInstance env key w).accumulators = w.accumulators := by
  cases key with
  | none => rfl
  | some deviceId =>
    simp only [withInstance, Option.elim]
    split <;> rfl

variable (env o action arguments)

/-- **`Action.execute` returns exactly if `Executes` says so**, and then with a status if it does
not wait. -/
theorem executeAction_cases (haction : o.executingAction = some action)
    (key : Option InstanceKey) (resume : Bool) (w : World σ) :
    (Executes env o action arguments key resume w ∧
      ∃ r w', executeAction env o action key arguments resume w = .ok r w' ∧
        ((action.trigger.isSome && !resume) = false → ∃ status, r = .status status ∧
          ((status = "InvalidArguments" ∧
              ∀ status', ¬ ReturnsStatus env o action arguments key w status') ∨
            ReturnsStatus env o action arguments key w status))) ∨
    (¬ Executes env o action arguments key resume w ∧
      ∃ e w', executeAction env o action key arguments resume w = .error e w') := by
  obtain ⟨herror, hok⟩ := startAction_cases env o action arguments w
  unfold executeAction
  cases hstarted : startedWith action arguments (w.accumulators o.executionId) with
  | error e =>
    refine .inr ⟨?_, e, _, bind_of_error (herror e hstarted)⟩
    rintro ⟨device, h, -⟩
    rw [hstarted] at h
    cases h
  | ok device =>
    obtain ⟨packet, -, hstart⟩ := hok device hstarted
    rw [bind_of_ok hstart]
    have hexecutes : Executes env o action arguments key resume w ↔
        if action.trigger.isSome && !resume then
          encoded action device [] = .ok () ∧ saveRefusal env o.executionId w = none
        else RunDelivers env o action key arguments device w := by
      refine ⟨?_, fun h => ⟨device, hstarted, h⟩⟩
      rintro ⟨device', hdevice, h⟩
      rw [hstarted] at hdevice
      cases hdevice
      exact h
    rw [hexecutes]
    cases hwaits : (action.trigger.isSome && !resume) with
    | true =>
      rw [if_pos rfl, if_pos rfl, awaitData_eq env haction]
      have hrefusal : saveRefusal env o.executionId
          (World.withPacket { w with uuid4 := w.uuid4 + 1 } packet) =
            saveRefusal env o.executionId w := rfl
      rw [hrefusal]
      obtain ⟨hfails, hpacket⟩ := @eventToProtobuf_action_cases o action device []
        .triggerActionAwaitingData rfl none none rfl w.uuid4
      cases saveRefusal env o.executionId w with
      | some e => exact .inr ⟨fun h => (by cases h.2), e, _, rfl⟩
      | none =>
        unfold awaitPacket
        cases hencoded : encoded action device [] with
        | error e =>
          rw [hfails e hencoded]
          exact .inr ⟨fun h => (by cases h.1), e, _, rfl⟩
        | ok u =>
          obtain ⟨packet', -, heq⟩ := hpacket u hencoded
          rw [heq]
          exact .inl ⟨⟨rfl, rfl⟩, _, _, rfl, fun h => (by cases h)⟩
    | false =>
      rw [if_neg Bool.false_ne_true, if_neg Bool.false_ne_true]
      -- the first event changes nothing that the run looks at
      have hruns_iff : RunDelivers env o action key arguments device
          (World.withPacket { w with uuid4 := w.uuid4 + 1 } packet) ↔
            RunDelivers env o action key arguments device w := Iff.rfl
      have hstatus_iff : ∀ status, ReturnsStatus env o action arguments key
          (World.withPacket { w with uuid4 := w.uuid4 + 1 } packet) status ↔
            ReturnsStatus env o action arguments key w status := fun _ => Iff.rfl
      rcases runAction_cases device w.uuid4 arguments key resume
          (World.withPacket { w with uuid4 := w.uuid4 + 1 } packet) with
        ⟨hruns, status, w', _, hrun, -, -⟩ | ⟨hruns, e, w', hrun⟩
      · refine .inl ⟨hruns_iff.mp hruns, _, _, bind_of_ok hrun, fun _ => ⟨status, rfl, ?_⟩⟩
        have hends := runAction_status hrun
        simpa only [hstatus_iff] using hends
      · exact .inr ⟨fun h => hruns (hruns_iff.mpr h), e, w', bind_of_error hrun⟩

/-- From the app instance on. -/
theorem performAction_of_key (haction : o.executingAction = some action) (resume : Bool)
    {w : World σ} {key : Option InstanceKey}
    (h : instanceKeyOf action (w.accumulators o.executionId) = .ok key) :
    (Executes env o action arguments key resume (withInstance env key w) ∧
      ∃ r w', performAction env o action arguments resume w = .ok r w' ∧
        ((action.trigger.isSome && !resume) = false → ∃ status, r = .status status ∧
          ((status = "InvalidArguments" ∧ ∀ status',
              ¬ ReturnsStatus env o action arguments key (withInstance env key w) status') ∨
            ReturnsStatus env o action arguments key (withInstance env key w) status))) ∨
    (¬ Executes env o action arguments key resume (withInstance env key w) ∧
      ∃ e w', performAction env o action arguments resume w = .error e w') := by
  rcases setupAppInstance_cases env o action w with ⟨e', hkey, -⟩ | ⟨key', sent, hkey, hsetup⟩
  · rw [h] at hkey
    cases hkey
  · rw [h] at hkey
    cases hkey
    unfold performAction
    rw [bind_of_ok hsetup]
    exact executeAction_cases env o action arguments haction key resume
      { withInstance env key w with sent }

/-- **An action that waits for data** gets to its await if it has an app instance and can start. -/
theorem performAction_awaits_of {resume : Bool} {w : World σ} {key : Option InstanceKey}
    {device : PyVal} (hwaits : (action.trigger.isSome && !resume) = true)
    (hkey : instanceKeyOf action (w.accumulators o.executionId) = .ok key)
    (hstarted : startedWith action arguments (w.accumulators o.executionId) = .ok device) :
    ∃ sender w₁, Frame Never (Inner o.executionId) w w₁ ∧
      performAction env o action arguments resume w = awaitData env o action sender w₁ ∧
      saveRefusal env o.executionId w₁ = saveRefusal env o.executionId (withInstance env key w) := by
  have hsetup := (frame_setupAppInstance (P := Never) env o action).ends w
  unfold performAction executeAction
  simp only [hwaits, if_true]
  rcases setupAppInstance_cases env o action w with ⟨e, hnone, -⟩ | ⟨key', sent, hkey', hdevice⟩
  · rw [hkey] at hnone
    cases hnone
  · rw [hkey] at hkey'
    cases hkey'
    have hstart := (frame_startAction (P := Never) env o action arguments).ends
      { withInstance env key w with sent }
    obtain ⟨-, hok⟩ := startAction_cases env o action arguments { withInstance env key w with sent }
    rw [withInstance_accumulators] at hok
    obtain ⟨packet, -, hsender⟩ := hok device hstarted
    rw [bind_of_ok hdevice]
    exact ⟨_, _, (hsetup.of_ok hdevice).trans (hstart.of_ok hsender), bind_of_ok hsender, rfl⟩

/-- **An action that waits for data** raises before its await, or gets to it. -/
theorem performAction_awaits_at {resume : Bool}
    (hwaits : (action.trigger.isSome && !resume) = true) (w : World σ) :
    (∃ e w', performAction env o action arguments resume w = .error e w' ∧
        Frame Never (Inner o.executionId) w w') ∨
      ∃ key device sender w₁, instanceKeyOf action (w.accumulators o.executionId) = .ok key ∧
        startedWith action arguments (w.accumulators o.executionId) = .ok device ∧
        Frame Never (Inner o.executionId) w w₁ ∧
        performAction env o action arguments resume w = awaitData env o action sender w₁ ∧
        saveRefusal env o.executionId w₁ =
          saveRefusal env o.executionId (withInstance env key w) := by
  cases hkey : instanceKeyOf action (w.accumulators o.executionId) with
  | error e =>
    refine .inl ⟨e, w, performAction_of_no_key hkey, Std.Refl.refl w⟩
  | ok key =>
    cases hstarted : startedWith action arguments (w.accumulators o.executionId) with
    | error e =>
      have hsetup := (frame_setupAppInstance (P := Never) env o action).ends w
      rcases setupAppInstance_cases env o action w with ⟨e', hnone, -⟩ | ⟨key', sent, -, hdevice⟩
      · rw [hkey] at hnone
        cases hnone
      · obtain ⟨herror, -⟩ := startAction_cases env o action arguments
          { withInstance env key' w with sent }
        rw [withInstance_accumulators] at herror
        have hstart := (frame_startAction (P := Never) env o action arguments).ends
          { withInstance env key' w with sent }
        refine .inl ⟨e, _, (bind_of_ok hdevice).trans (bind_of_error (herror e hstarted)), ?_⟩
        exact (hsetup.of_ok hdevice).trans (hstart.of_error (herror e hstarted))
    | ok device =>
      obtain ⟨sender, w₁, hframe, hawait, hrefusal⟩ :=
        performAction_awaits_of env o action arguments hwaits hkey hstarted
      exact .inr ⟨key, device, sender, w₁, rfl, rfl, hframe, hawait, hrefusal⟩

/-- **The calls at an action return exactly if `Performs` says so.** -/
theorem performAction_returns_iff (haction : o.executingAction = some action) (resume : Bool)
    (w : World σ) :
    (∃ r w', performAction env o action arguments resume w = .ok r w') ↔
      Performs env o action arguments resume w := by
  unfold Performs
  cases hkey : instanceKeyOf action (w.accumulators o.executionId) with
  | error e =>
    rw [performAction_of_no_key hkey]
    exact ⟨fun ⟨_, _, h⟩ => (by cases h), fun ⟨_, h, _⟩ => (by cases h)⟩
  | ok key =>
    rcases performAction_of_key env o action arguments haction resume hkey with
      ⟨hexecutes, r, w', hperform, -⟩ | ⟨hfails, e, w', hperform⟩
    · exact ⟨fun _ => ⟨key, rfl, hexecutes⟩, fun _ => ⟨r, w', hperform⟩⟩
    · refine ⟨fun ⟨_, _, h⟩ => ?_, ?_⟩
      · rw [hperform] at h
        cases h
      · rintro ⟨_, h, hexecutes⟩
        cases h
        exact absurd hexecutes hfails

/-- **An action ends with a status its app function returns** exactly if `PerformsTo` says so. -/
theorem performAction_status_iff (haction : o.executingAction = some action) {resume : Bool}
    (hwaits : (action.trigger.isSome && !resume) = false) {status : String}
    (hstatus : status ≠ "InvalidArguments") (w : World σ) :
    (∃ w', performAction env o action arguments resume w = .ok (.status status) w') ↔
      PerformsTo env o action arguments resume w status := by
  unfold PerformsTo
  cases hkey : instanceKeyOf action (w.accumulators o.executionId) with
  | error e =>
    rw [performAction_of_no_key hkey]
    exact ⟨fun ⟨_, h⟩ => (by cases h), fun ⟨_, h, _⟩ => (by cases h)⟩
  | ok key =>
    rcases performAction_of_key env o action arguments haction resume hkey with
      ⟨hexecutes, r, w', hperform, hreturns⟩ | ⟨hfails, e, w', hperform⟩
    · obtain ⟨status', rfl, hends⟩ := hreturns hwaits
      rw [hperform]
      constructor
      · rintro ⟨_, h⟩
        cases h
        exact ⟨key, rfl, hexecutes, hends.resolve_left fun h => hstatus h.1⟩
      · rintro ⟨_, h, -, hreturned⟩
        cases h
        rcases hends with ⟨-, hnone⟩ | hends
        · exact absurd hreturned (hnone status)
        · obtain rfl := ReturnsStatus.unique hends hreturned
          exact ⟨w', rfl⟩
    · rw [hperform]
      refine ⟨fun ⟨_, h⟩ => (by cases h), ?_⟩
      rintro ⟨_, h, hexecutes, -⟩
      cases h
      exact absurd hexecutes hfails

end

end Walkoff.Analysis
