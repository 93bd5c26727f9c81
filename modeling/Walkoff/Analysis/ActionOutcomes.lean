import Walkoff.Analysis.ParameterLaw
import Walkoff.Analysis.Samples
import Walkoff.Analysis.Signals
import Walkoff.Program.AppFunctions

/-!
# What a call of `Action.execute` reports

`Action.execute` announces that the action has started and then says how it went: it awaits
data, its arguments are invalid, or its app function succeeded or failed, and the result is
filed in the accumulator. `SendsOutcome` states this, `Delivers` the condition under which
it is so: above all, the status of the result has to be declared in the API, since the
lookup of an undeclared one raises after the app function has run.
-/

set_option autoImplicit false

namespace Walkoff.Analysis

open Walkoff.Model Walkoff.Program
open Walkoff.Library (OrderedDict lift bind_apply bind_of_ok bind_of_error)

variable {σ : Type}

/-! ## The outcome -/

/-- The status a result ends up with. -/
def reportedStatus (api : ActionApi) (result : ActionResult) : String :=
  result.status.getD (api.defaultReturn.getD "Success")

/-- `UnhandledException` is a failure, and so is every code the API marks as one. -/
def MarkedFailure (api : ActionApi) (status : String) : Prop :=
  status = "UnhandledException" ∨
    api.returns.bind (OrderedDict.get? status) = some (some true)

section

variable (env : Env σ) (o : Origin) (action : Action)
  (instanceKey : Option InstanceKey) (arguments : List Argument) (resume : Bool)

/-- The arguments an action is run with: those of the call or its own. -/
def runArguments : List Argument :=
  if arguments.isEmpty then action.arguments else arguments

/-- `validate_app_action_parameters` of the arguments the action is run with. -/
def validated (api : ActionApi) (accumulator : Accumulator) :
    Except Exn (OrderedDict String PyVal) :=
  validateAppActionParameters env.validateParameter api.parameters
    (runArguments action arguments) action.appName action.actionName accumulator

/-- The value filed under the action. -/
def HoldsResult (w : World σ) (value : PyVal) : Prop :=
  (w.accumulators o.executionId).getItem (.uuid action.id) = some value

/-- How a call comes to its second event, which it sends and returns after. -/
inductive Concludes (w w' : World σ) (outcome : Packet) : Prop where
  | awaits (hwaits : (action.trigger.isSome && !resume) = true)
      (hevent : outcome.event = .triggerActionAwaitingData)
  | argumentsInvalid {api : ActionApi} {message : String} {errors : List String}
      (hvalidated : validated env action arguments api (w.accumulators o.executionId) =
        .error (.invalidArgument message errors))
      (hevent : outcome.event = .actionArgumentsInvalid)
      (hfiled : HoldsResult o action w' (invalidArgumentsResult message).result)
  | ran {api : ActionApi} {args : OrderedDict String PyVal} {key : Option InstanceKey}
      {result : ActionResult} {behaviour : σ}
      (hapi : env.appApis.actionApi action.appName action.actionName = .ok api)
      (hvalidated : validated env action arguments api (w.accumulators o.executionId) = .ok args)
      (hran : env.appFunction action args key w.behaviour = (.ok result, behaviour))
      (hfailed : MarkedFailure api (reportedStatus api result) →
        outcome.event = .actionExecutionError)
      (hsucceeded : ¬MarkedFailure api (reportedStatus api result) →
        outcome.event = .actionExecutionSuccess)
      (hfiled : HoldsResult o action w' result.result)

/-- A call raises `InvalidArgument` before any event, or returns after two events: that the
action has started, and how it went. -/
def SendsOutcome (w : World σ) : Prop :=
  match executeAction env o action instanceKey arguments resume w with
  | .error e w' => Exn.IsInvalidArgument e ∧ w'.sent = w.sent
  | .ok _ w' => ∃ started outcome, w'.sent = w.sent ++ [started, outcome] ∧
      started.event = .actionStarted ∧
      Concludes env o action arguments resume w w' outcome

/-! ## The condition -/

/-- What of an event of the action may not be encodable: its device id and its arguments. -/
def encoded (device : PyVal) (startArguments : List Argument) : Except Exn Unit := do
  let _ ← int32Field device
  let _ ← addArgumentsToProto (runArguments action startArguments)
  pure ()

/-- The device of the action, or -1. -/
def deviceOf (accumulator : Accumulator) : Except Exn PyVal :=
  match action.deviceId with
  | some argument => argument.getValue accumulator
  | none => pure (.int (-1))

/-- What is needed for the first event: the device of the action. -/
def startedWith (accumulator : Accumulator) : Except Exn PyVal := do
  let device ← deviceOf action accumulator
  encoded action device arguments
  pure device

/-- A result that can be filed and reported: it pickles where the accumulator is external, its
status is declared, and `json.dumps` raises nothing but a `TypeError` on it. -/
structure Reportable (type : AccumulatorType) (api : ActionApi) (result : ActionResult) :
    Prop where
  storable : type = .external → result.result.picklable = true
  declared : reportedStatus api result = "UnhandledException" ∨
    (api.returns.bind (OrderedDict.get? (reportedStatus api result))).isSome
  printable : ∀ e, result.result.dumps = .error e → e = .typeError

/-- The app function returns a result that can be reported. -/
def Returns (type : AccumulatorType) (api : ActionApi)
    (args : OrderedDict String PyVal) (key : Option InstanceKey) (behaviour : σ) : Prop :=
  ∃ result behaviour', env.appFunction action args key behaviour = (.ok result, behaviour') ∧
    Reportable type api result

/-- The run of an action with this API comes to an end that can be reported: its arguments are
valid or `InvalidArgument` is raised, and its app function returns a reportable result. -/
def RunsSoundly (api : ActionApi) (w : World σ) : Prop :=
  let accumulator := w.accumulators o.executionId
  match validated env action arguments api accumulator with
  | .error e => Exn.IsInvalidArgument e
  | .ok args => ∃ bound, env.isAppActionBound action.appName api.run = .ok bound ∧
      Returns env action accumulator.type api args (if bound then instanceKey else none) w.behaviour

/-- The condition under which a call reports its outcome. -/
def Delivers (w : World σ) : Prop :=
  let accumulator := w.accumulators o.executionId
  match startedWith action arguments accumulator with
  | .error e => Exn.IsInvalidArgument e
  | .ok device => encoded action device [] = .ok () ∧
      if action.trigger.isSome && !resume then saveRefusal env o.executionId w = none
      else action.errors = [] ∧ ∃ api,
        env.appApis.actionApi action.appName action.actionName = .ok api ∧
          RunsSoundly env o action instanceKey arguments api w

end

/-! ## The events -/

section

variable {o : Origin} {action : Action} {device : PyVal} {startArguments : List Argument}

/-- The converter makes a packet about an action exactly if the parts of the message can be written.
-/
theorem eventToProtobuf_action_cases {event : WalkoffEvent} (hevent : event.eventType = .action)
    {data : Option PyVal} {text : Option String} (hdata : data.mapM PyVal.dumps = .ok text)
    (executionId : ℕ) :
    (∀ e, encoded action device startArguments = .error e →
      eventToProtobuf (.action action executionId device) ⟨o.executionId, o.user⟩ event data
        startArguments = .error e) ∧
    (∀ u, encoded action device startArguments = .ok u → ∃ packet, packet.event = event ∧
      eventToProtobuf (.action action executionId device) ⟨o.executionId, o.user⟩ event data
        startArguments = .ok packet) := by
  unfold eventToProtobuf encoded runArguments
  rw [hevent, hdata]
  dsimp only
  cases int32Field device with
  | error e =>
    refine ⟨fun e' h => ?_, fun u h => (by cases h)⟩
    cases h
    rfl
  | ok i =>
    cases addArgumentsToProto
        (if startArguments.isEmpty then action.arguments else startArguments) with
    | error e =>
      refine ⟨fun e' h => ?_, fun u h => (by cases h)⟩
      cases h
      rfl
    | ok protos => exact ⟨fun e h => (by cases h), fun u h => ⟨_, rfl, rfl⟩⟩

/-- An action event whose data is JSON is sent if the action can be encoded. -/
theorem handleEvent_action (env : Env σ) {event : WalkoffEvent}
    (hevent : event.eventType = .action) (hsaves : event.savesWorkflow = false)
    {data : Option PyVal} {text : Option String} (hdata : data.mapM PyVal.dumps = .ok text) (executionId : ℕ) (w : World σ) :
    (∀ e, encoded action device startArguments = .error e →
      handleEvent env o (.action action executionId device) event data startArguments w =
        .error e w) ∧
    (∀ u, encoded action device startArguments = .ok u → ∃ packet, packet.event = event ∧
      handleEvent env o (.action action executionId device) event data startArguments w =
        .ok () (w.withPacket packet)) := by
  obtain ⟨herror, hok⟩ := @eventToProtobuf_action_cases o action device startArguments _ hevent _ _
    hdata executionId
  rw [handleEvent_eq_sendPacket hsaves, sendPacket]
  constructor
  · intro e he
    rw [herror e he]
    rfl
  · intro u hu
    obtain ⟨packet, hpacket, heq⟩ := hok u hu
    rw [heq]
    exact ⟨packet, hpacket, rfl⟩

/-! ## The start -/

/-- **The start of a call**: its event is sent, or nothing is. -/
theorem startAction_cases (env : Env σ) (o : Origin) (action : Action)
    (arguments : List Argument) (w : World σ) :
    (∀ e, startedWith action arguments (w.accumulators o.executionId) = .error e →
      startAction env o action arguments w = .error e { w with uuid4 := w.uuid4 + 1 }) ∧
    (∀ device, startedWith action arguments (w.accumulators o.executionId) = .ok device →
      ∃ packet, packet.event = .actionStarted ∧ startAction env o action arguments w =
        .ok (.action action w.uuid4 device)
          (World.withPacket { w with uuid4 := w.uuid4 + 1 } packet)) := by
  have hdata : ∃ text, (if arguments.isEmpty then none else some (PyVal.dict [])).mapM
      PyVal.dumps = .ok text := by
    cases arguments.isEmpty with
    | true => exact ⟨_, rfl⟩
    | false => exact ⟨_, rfl⟩
  obtain ⟨text, hdata⟩ := hdata
  have hresolve : resolveDeviceId o action { w with uuid4 := w.uuid4 + 1 } =
      lift (deviceOf action (w.accumulators o.executionId)) { w with uuid4 := w.uuid4 + 1 } := by
    unfold resolveDeviceId deviceOf
    cases action.deviceId with
    | none => rfl
    | some argument => rfl
  have hstart : startAction env o action arguments w =
      ((do
        let resolvedDeviceId ← resolveDeviceId o action
        let sender := Sender.action action w.uuid4 resolvedDeviceId
        handleEvent env o sender .actionStarted
          (if arguments.isEmpty then none else some (.dict [])) arguments
        pure sender) : M σ Sender) { w with uuid4 := w.uuid4 + 1 } := rfl
  rw [hstart, bind_apply, hresolve]
  unfold startedWith
  cases deviceOf action (w.accumulators o.executionId) with
  | error e =>
    refine ⟨fun e' h => ?_, fun device h => (by cases h)⟩
    cases h
    rfl
  | ok device =>
    obtain ⟨herror, hok⟩ := @handleEvent_action σ o action device arguments env .actionStarted
      rfl rfl _ _ hdata w.uuid4 { w with uuid4 := w.uuid4 + 1 }
    cases hencoded : encoded action device arguments with
    | error e =>
      refine ⟨fun e' h => ?_, fun device h => ?_⟩
      · have he : e = e' := by simpa [Bind.bind, Except.bind, hencoded] using h
        subst he
        exact bind_of_error (herror e hencoded)
      · simp [Bind.bind, Except.bind, hencoded] at h
    | ok u =>
      refine ⟨fun e' h => ?_, fun device' h => ?_⟩
      · simp [Bind.bind, Except.bind, hencoded, Pure.pure, Except.pure] at h
      · have hdevice : device = device' := by
          simpa [Bind.bind, Except.bind, hencoded, Pure.pure, Except.pure] using h
        subst hdevice
        obtain ⟨packet, hpacket, hsend⟩ := hok u hencoded
        exact ⟨packet, hpacket, bind_of_ok hsend⟩

end

/-! ## The result -/

/-- Filing a result changes the accumulator of the execution, or raises. -/
theorem setAccumulatorItem_cases (executionId key : UUID) (result : PyVal) (w : World σ) :
    (∀ accumulator, (w.accumulators executionId).setItem (.uuid key) result = .ok accumulator →
      setAccumulatorItem executionId key result w = .ok ()
        { w with accumulators := Function.update w.accumulators executionId accumulator }) ∧
    (∀ e, (w.accumulators executionId).setItem (.uuid key) result = .error e →
      setAccumulatorItem executionId key result w = .error e w) := by
  have hset : setAccumulatorItem executionId key result w =
      (lift ((w.accumulators executionId).setItem (.uuid key) result) >>=
        putAccumulator executionId) w := rfl
  rw [hset]
  constructor
  · intro accumulator h
    rw [h]
    rfl
  · intro e h
    rw [h]
    rfl

/-- The data of an outcome is JSON. -/
theorem dumps_asJson {result : ActionResult} {json : PyVal} (h : result.asJson = .ok json) :
    ∃ text, json.dumps = .ok text := by
  obtain ⟨r, hr, hjson⟩ := Library.Except.bind_eq_ok.mp h
  cases hjson
  have hdumps : ∃ text, r.dumps = .ok text := by
    unfold ActionResult.jsonResult at hr
    split at hr
    · rename_i text htext
      cases hr
      exact ⟨text, htext⟩
    · cases hr
      exact ⟨_, rfl⟩
    · cases hr
  obtain ⟨text, htext⟩ := hdumps
  have hstatus : ∃ text, ((result.status.map PyVal.str).getD .none).dumps = .ok text := by
    cases result.status with
    | none => exact ⟨_, rfl⟩
    | some status => exact ⟨_, rfl⟩
  obtain ⟨text', htext'⟩ := hstatus
  simp only [PyVal.dumps, PyVal.dumpsItems, htext, htext']
  exact ⟨_, rfl⟩

/-- `as_json` raises what `json.dumps` raises, unless that is a `TypeError`. -/
theorem asJson_ok_iff {result : ActionResult} :
    (∃ json, result.asJson = .ok json) ↔ ∀ e, result.result.dumps = .error e → e = .typeError := by
  unfold ActionResult.asJson ActionResult.jsonResult
  cases hdumps : result.result.dumps with
  | ok text => simp [Bind.bind, Except.bind, Pure.pure, Except.pure]
  | error e =>
    cases e <;> simp [Bind.bind, Except.bind, Pure.pure, Except.pure, throw, throwThe,
      MonadExceptOf.throw]

section

variable {env : Env σ} {o : Origin} {action : Action} {api : ActionApi} {device : PyVal}

/-- The status of a result that has none is the default of the API. -/
theorem setDefaultStatus_eq
    (hapi : env.appApis.actionApi action.appName action.actionName = .ok api)
    (result : ActionResult) :
    result.setDefaultStatus env.appApis action.appName action.actionName =
      .ok { result with status := some (reportedStatus api result) } := by
  obtain ⟨value, status⟩ := result
  cases status with
  | some status => rfl
  | none =>
    unfold ActionResult.setDefaultStatus AppApis.getAppActionDefaultReturn
    rw [hapi]
    rfl

/-- `get_app_action_return_is_failure` of a declared status says whether it is marked. -/
theorem isFailure_cases
    (hapi : env.appApis.actionApi action.appName action.actionName = .ok api)
    (status : String) :
    (∃ failure, (failure = true ↔ MarkedFailure api status) ∧
      env.appApis.getAppActionReturnIsFailure action.appName action.actionName status =
        .ok failure ∧
      (status = "UnhandledException" ∨ (api.returns.bind (OrderedDict.get? status)).isSome)) ∨
    (∃ e, env.appApis.getAppActionReturnIsFailure action.appName action.actionName status =
        .error e ∧
      ¬(status = "UnhandledException" ∨
        (api.returns.bind (OrderedDict.get? status)).isSome)) := by
  unfold AppApis.getAppActionReturnIsFailure
  by_cases hstatus : status = "UnhandledException"
  · rw [if_pos hstatus]
    exact .inl ⟨true, ⟨fun _ => .inl hstatus, fun _ => rfl⟩, rfl, .inl hstatus⟩
  · rw [if_neg hstatus, hapi]
    cases hreturns : api.returns.bind (OrderedDict.get? status) with
    | none =>
      refine .inr ⟨.unknownAppAction action.appName action.actionName, ?_, by simp [hstatus]⟩
      simp [Bind.bind, Except.bind, hreturns, throw, throwThe, MonadExceptOf.throw]
    | some failure =>
      refine .inl ⟨failure.getD false, ?_, ?_, .inr rfl⟩
      · unfold MarkedFailure
        rw [hreturns]
        cases failure with
        | none => simp [hstatus]
        | some b => simp [hstatus]
      · simp [Bind.bind, Except.bind, hreturns, Pure.pure, Except.pure]

/-- **The end of a call**: the outcome is sent if the status is declared, the result prints and
the action can be encoded; nothing is otherwise. -/
theorem reportResult_cases
    (hapi : env.appApis.actionApi action.appName action.actionName = .ok api)
    (executionId : ℕ) (result : ActionResult) (w : World σ) :
    ((reportedStatus api result = "UnhandledException" ∨
        (api.returns.bind (OrderedDict.get? (reportedStatus api result))).isSome) ∧
      (∀ e, result.result.dumps = .error e → e = .typeError) ∧
      encoded action device [] = .ok () ∧
      ∃ packet, (MarkedFailure api (reportedStatus api result) →
          packet.event = .actionExecutionError) ∧
        (¬MarkedFailure api (reportedStatus api result) →
          packet.event = .actionExecutionSuccess) ∧
        reportResult env o action (.action action executionId device) result w =
          .ok (reportedStatus api result) (w.withPacket packet)) ∨
    (¬((reportedStatus api result = "UnhandledException" ∨
        (api.returns.bind (OrderedDict.get? (reportedStatus api result))).isSome) ∧
      (∀ e, result.result.dumps = .error e → e = .typeError) ∧
      encoded action device [] = .ok ()) ∧
      ∃ e, reportResult env o action (.action action executionId device) result w =
        .error e w) := by
  have hreport : reportResult env o action (.action action executionId device) result w =
      (do
        let failure ← lift (env.appApis.getAppActionReturnIsFailure action.appName
          action.actionName (reportedStatus api result))
        let data ← lift
          (ActionResult.asJson { result with status := some (reportedStatus api result) })
        handleEvent env o (.action action executionId device)
          (if failure then .actionExecutionError else .actionExecutionSuccess) (some data) []
        pure (reportedStatus api result) : M σ String) w := by
    unfold reportResult
    rw [setDefaultStatus_eq hapi]
    show (lift (env.appApis.getAppActionReturnIsFailure action.appName action.actionName
      (reportedStatus api result)) >>= _) w = _
    generalize env.appApis.getAppActionReturnIsFailure action.appName action.actionName
      (reportedStatus api result) = failure
    cases failure with
    | error e => rfl
    | ok failure => cases failure <;> rfl
  rw [hreport]
  have hprintable := @asJson_ok_iff { result with status := some (reportedStatus api result) }
  rcases isFailure_cases hapi (reportedStatus api result) with
    ⟨failure, hmarked, hfailure, hdeclared⟩ | ⟨e, hfailure, hundeclared⟩
  · rw [bind_of_ok (show lift _ w = .ok failure w by rw [hfailure]; rfl)]
    cases hjson : ActionResult.asJson
        { result with status := some (reportedStatus api result) } with
    | error e =>
      refine .inr ⟨?_, e, rfl⟩
      rintro ⟨_, hdumps, _⟩
      obtain ⟨json, hok⟩ := hprintable.mpr hdumps
      rw [hjson] at hok
      cases hok
    | ok json =>
      have hdumps := hprintable.mp ⟨json, hjson⟩
      obtain ⟨text, htext⟩ := dumps_asJson hjson
      have hdata : (some json).mapM PyVal.dumps = .ok (some text) := by
        show (some <$> json.dumps) = _
        rw [htext]
        rfl
      have hevent : (if failure then WalkoffEvent.actionExecutionError
          else .actionExecutionSuccess).eventType = .action := by
        cases failure <;> rfl
      have hsaves : (if failure then WalkoffEvent.actionExecutionError
          else .actionExecutionSuccess).savesWorkflow = false := by
        cases failure <;> rfl
      obtain ⟨herror, hok⟩ := @handleEvent_action σ o action device [] env _ hevent hsaves _ _
        hdata executionId w
      rw [bind_of_ok (rfl : lift (.ok json) w = .ok json w)]
      cases hencoded : encoded action device [] with
      | error e =>
        refine .inr ⟨?_, e, bind_of_error (herror e hencoded)⟩
        rintro ⟨_, _, h⟩
        cases h
      | ok u =>
        obtain ⟨packet, hpacket, hsend⟩ := hok u hencoded
        refine .inl ⟨hdeclared, hdumps, rfl, packet, ?_, ?_, bind_of_ok hsend⟩
        · intro hfail
          rw [hpacket, if_pos (hmarked.mpr hfail)]
        · intro hfail
          rw [hpacket, if_neg (fun h => hfail (hmarked.mp h))]
  · refine .inr ⟨fun h => hundeclared h.1, e, ?_⟩
    rw [bind_of_error (show lift _ w = .error e w by rw [hfailure]; rfl)]

end

/-! ## The app function -/

/-- Setting an item files it, if it pickles or the accumulator is in memory. -/
theorem setItem_cases (accumulator : Accumulator) (key : UUID) (result : PyVal) :
    ((accumulator.type = .external → result.picklable = true) ∧
      ∃ accumulator', accumulator.setItem (.uuid key) result = .ok accumulator' ∧
        accumulator'.getItem (.uuid key) = some result) ∨
    (¬(accumulator.type = .external → result.picklable = true) ∧
      ∃ e, accumulator.setItem (.uuid key) result = .error e) := by
  cases hset : accumulator.setItem (.uuid key) result with
  | ok accumulator' =>
    refine .inl ⟨?_, accumulator', rfl, ?_⟩
    · intro hexternal
      unfold Accumulator.setItem at hset
      split at hset
      · cases hset
      · rename_i hpickles
        simpa [hexternal] using hpickles
    · rw [Accumulator.getItem_setItem hset, if_pos rfl]
  | error e =>
    refine .inr ⟨?_, e, rfl⟩
    intro hpickles
    unfold Accumulator.setItem at hset
    split at hset
    · rename_i hrefused
      rw [hpickles hrefused.1] at hrefused
      simp at hrefused
    · cases hset

section

variable (env : Env σ) (o : Origin) (action : Action)

/-- Calling an app function that returns a result files the result. -/
theorem executeLocally_cases {args : OrderedDict String PyVal} {key : Option InstanceKey}
    {result : ActionResult} {behaviour : σ} {w : World σ}
    (hran : env.appFunction action args key w.behaviour = (.ok result, behaviour)) :
    (((w.accumulators o.executionId).type = .external → result.result.picklable = true) ∧
      ∃ w', executeLocally env o action args key w = .ok result w' ∧
        w'.sent = w.sent ∧ HoldsResult o action w' result.result) ∨
    (¬((w.accumulators o.executionId).type = .external → result.result.picklable = true) ∧
      ∃ e w', executeLocally env o action args key w = .error e w') := by
  have hbehave : behave (env.appFunction action args key)
      (w.logged (.appFunction action.id args key)) =
        .ok result { w.logged (.appFunction action.id args key) with behaviour } := by
    unfold behave World.logged
    dsimp only
    rw [hran]
  have hlocal : executeLocally env o action args key w =
      (do
        setAccumulatorItem o.executionId action.id result.result
        pure result : M σ ActionResult)
          { w.logged (.appFunction action.id args key) with behaviour } := by
    unfold executeLocally
    rw [bind_of_ok (rfl : observe (.appFunction action.id args key) w =
      .ok () (w.logged (.appFunction action.id args key))), bind_of_ok hbehave]
  obtain ⟨hok, herror⟩ := setAccumulatorItem_cases o.executionId action.id result.result
    { w.logged (.appFunction action.id args key) with behaviour }
  rw [hlocal]
  rcases setItem_cases (w.accumulators o.executionId) action.id result.result with
    ⟨hstorable, accumulator', hset, hget⟩ | ⟨hstorable, e, hset⟩
  · refine .inl ⟨hstorable, _, bind_of_ok (hok accumulator' hset), rfl, ?_⟩
    unfold HoldsResult
    dsimp only
    rw [Function.update_self]
    exact hget
  · exact .inr ⟨hstorable, e, _, bind_of_error (herror e hset)⟩

/-- An app function that raises is not caught. -/
theorem executeLocally_of_error {args : OrderedDict String PyVal} {key : Option InstanceKey}
    {e : Exn} {behaviour : σ} {w : World σ}
    (hran : env.appFunction action args key w.behaviour = (.error e, behaviour)) :
    executeLocally env o action args key w =
      .error e { w.logged (.appFunction action.id args key) with behaviour } := by
  have hbehave : behave (env.appFunction action args key)
      (w.logged (.appFunction action.id args key)) =
        .error e { w.logged (.appFunction action.id args key) with behaviour } := by
    unfold behave World.logged
    dsimp only
    rw [hran]
  unfold executeLocally
  rw [bind_of_ok (rfl : observe (.appFunction action.id args key) w =
    .ok () (w.logged (.appFunction action.id args key))), bind_of_error hbehave]

/-- What has to hold once an action that does not wait has started. -/
def RunDelivers (instanceKey : Option InstanceKey) (arguments : List Argument) (device : PyVal)
    (w : World σ) : Prop :=
  encoded action device [] = .ok () ∧ action.errors = [] ∧
    ∃ api, env.appApis.actionApi action.appName action.actionName = .ok api ∧
      RunsSoundly env o action instanceKey arguments api w

variable {env o action}

/-- **The API of an action** is there if the action is stored without errors and the API is
found. -/
theorem argumentsApi_cases (env : Env σ) (action : Action) :
    (∃ api, argumentsApi env action = .ok api ∧ action.errors = [] ∧
      env.appApis.actionApi action.appName action.actionName = .ok api) ∨
    (argumentsApi env action = .error .attributeError ∧ ¬(action.errors = [] ∧
      ∃ api, env.appApis.actionApi action.appName action.actionName = .ok api)) := by
  unfold argumentsApi
  cases herrors : action.errors with
  | cons error errors => exact .inr ⟨rfl, fun h => absurd h.1 (List.cons_ne_nil error errors)⟩
  | nil =>
    cases hapi : env.appApis.actionApi action.appName action.actionName with
    | error e => exact .inr ⟨rfl, fun h => (by cases h.2.choose_spec)⟩
    | ok api => exact .inl ⟨api, rfl, rfl, rfl⟩

/-- The beginning of a run of an action. -/
theorem runAction_eq (sender : Sender) (arguments : List Argument)
    (instanceKey : Option InstanceKey) (w : World σ) :
    runAction env o action sender arguments instanceKey w =
      match argumentsApi env action with
      | .error e => .error e w
      | .ok api =>
        match validated env action arguments api (w.accumulators o.executionId) with
        | .error (.invalidArgument message _) =>
          ((do
            setAccumulatorItem o.executionId action.id (invalidArgumentsResult message).result
            let data ← lift (invalidArgumentsResult message).asJson
            handleEvent env o sender .actionArgumentsInvalid (some data) []
            pure "InvalidArguments") : M σ String) w
        | .error e => .error e w
        | .ok args =>
          ((do
            let bound ← lift (env.isAppActionBound action.appName api.run)
            let result ← executeLocally env o action args
              (if bound then instanceKey else none)
            reportResult env o action sender result) : M σ String) w := by
  have hvalidated : ∀ api : ActionApi,
      validateAppActionParameters env.validateParameter api.parameters
        (if arguments.isEmpty then action.arguments else arguments) action.appName
        action.actionName (w.accumulators o.executionId) =
          validated env action arguments api (w.accumulators o.executionId) := fun _ => rfl
  have hapis : argumentsApi env action = argumentsApi env action := rfl
  unfold runAction
  rw [hapis]
  cases argumentsApi env action with
  | error e => rfl
  | ok api =>
    rw [bind_of_ok (rfl : lift (Except.ok api : Except Exn ActionApi) w = .ok api w)]
    rw [bind_of_ok (rfl : getAccumulator o.executionId w =
      .ok (w.accumulators o.executionId) w)]
    rw [hvalidated]
    dsimp only
    cases validated env action arguments api (w.accumulators o.executionId) with
    | ok args => rfl
    | error e => cases e <;> rfl

/-- Invalid arguments are filed and reported, if the action can be encoded. -/
theorem argumentsInvalid_cases {arguments : List Argument} {api : ActionApi} {message : String}
    {errors : List String} {w : World σ}
    (hvalidated : validated env action arguments api (w.accumulators o.executionId) =
      .error (.invalidArgument message errors)) (resume : Bool) (device : PyVal)
    (executionId : ℕ) :
    (encoded action device [] = .ok () ∧ ∃ status w' packet,
      ((do
        setAccumulatorItem o.executionId action.id (invalidArgumentsResult message).result
        let data ← lift (invalidArgumentsResult message).asJson
        handleEvent env o (.action action executionId device) .actionArgumentsInvalid (some data) []
        pure "InvalidArguments") : M σ String) w = .ok status w' ∧
      w'.sent = w.sent ++ [packet] ∧
      Concludes env o action arguments resume w w' packet) ∨
    (¬encoded action device [] = .ok () ∧ ∃ e w',
      ((do
        setAccumulatorItem o.executionId action.id (invalidArgumentsResult message).result
        let data ← lift (invalidArgumentsResult message).asJson
        handleEvent env o (.action action executionId device) .actionArgumentsInvalid (some data) []
        pure "InvalidArguments") : M σ String) w = .error e w') := by
  obtain ⟨_, accumulator, hset, hget⟩ | ⟨hnot, _⟩ := setItem_cases
    (w.accumulators o.executionId) action.id (invalidArgumentsResult message).result
  · have hfile := (setAccumulatorItem_cases o.executionId action.id
      (invalidArgumentsResult message).result w).1 accumulator hset
    rw [bind_of_ok hfile]
    obtain ⟨json, hjson⟩ := asJson_ok_iff.mpr
      (fun e (h : (invalidArgumentsResult message).result.dumps = .error e) => by cases h)
    obtain ⟨text, htext⟩ := dumps_asJson hjson
    rw [hjson]
    have hdata : (some json).mapM PyVal.dumps = .ok (some text) := by
      show (some <$> json.dumps) = _
      rw [htext]
      rfl
    obtain ⟨herror, hok⟩ := @handleEvent_action σ o action device [] env .actionArgumentsInvalid
      rfl rfl _ _ hdata executionId
      { w with accumulators := Function.update w.accumulators o.executionId accumulator }
    cases hencoded : encoded action device [] with
    | error e =>
      exact .inr ⟨fun h => (by cases h), e, _, (bind_of_ok rfl).trans
        (bind_of_error (herror e hencoded))⟩
    | ok u =>
      obtain ⟨packet, hpacket, hsend⟩ := hok u hencoded
      refine .inl ⟨rfl, _, _, packet, bind_of_ok hsend, rfl, ?_⟩
      refine .argumentsInvalid hvalidated hpacket ?_
      unfold HoldsResult World.withPacket
      dsimp only
      rw [Function.update_self]
      exact hget
  · exact absurd (fun _ => rfl) hnot

/-- The app function is called; its result is filed and reported if it is reportable. -/
theorem appFunction_cases {arguments : List Argument} {api : ActionApi}
    {args : OrderedDict String PyVal} {w : World σ}
    (hapi : env.appApis.actionApi action.appName action.actionName = .ok api)
    (hvalidated : validated env action arguments api (w.accumulators o.executionId) = .ok args)
    (key : Option InstanceKey) (device : PyVal) (executionId : ℕ) (resume : Bool) :
    ((encoded action device [] = .ok () ∧
        Returns env action (w.accumulators o.executionId).type api args key w.behaviour) ∧
      ∃ status w' packet,
        ((do
          let result ← executeLocally env o action args key
          reportResult env o action (.action action executionId device) result) : M σ String) w =
            .ok status w' ∧
        w'.sent = w.sent ++ [packet] ∧ Concludes env o action arguments resume w w' packet) ∨
    (¬(encoded action device [] = .ok () ∧
        Returns env action (w.accumulators o.executionId).type api args key w.behaviour) ∧
      ∃ e w',
        ((do
          let result ← executeLocally env o action args key
          reportResult env o action (.action action executionId device) result) : M σ String) w =
            .error e w') := by
  cases hran : env.appFunction action args key w.behaviour with
  | mk outcome behaviour =>
    cases outcome with
    | error e =>
      refine .inr ⟨?_, e, _, bind_of_error (executeLocally_of_error env o action hran)⟩
      rintro ⟨_, result, behaviour', hresult, _⟩
      rw [hran] at hresult
      cases hresult
    | ok result =>
      have hreturns : Returns env action (w.accumulators o.executionId).type api args key
          w.behaviour ↔ Reportable (w.accumulators o.executionId).type api result := by
        refine ⟨?_, fun h => ⟨result, behaviour, hran, h⟩⟩
        rintro ⟨result', behaviour', hresult, hreportable⟩
        rw [hran] at hresult
        cases hresult
        exact hreportable
      rw [hreturns]
      rcases executeLocally_cases env o action hran with
        ⟨hstorable, w', hlocal, hsent, hheld⟩ | ⟨hstorable, e, w', hraised⟩
      · rw [bind_of_ok hlocal]
        rcases @reportResult_cases σ env o action api device hapi executionId result w' with
          ⟨hdeclared, hprintable, hencoded, packet, hfailed, hsucceeded, hreport⟩ |
            ⟨hnot, e, hraised⟩
        · refine .inl ⟨⟨hencoded, hstorable, hdeclared, hprintable⟩, _, _, packet, hreport, ?_, ?_⟩
          · rw [← hsent]
            rfl
          · exact .ran hapi hvalidated hran hfailed hsucceeded hheld
        · refine .inr ⟨?_, e, w', hraised⟩
          rintro ⟨hencoded, hreportable⟩
          exact hnot ⟨hreportable.declared, hreportable.printable, hencoded⟩
      · exact .inr ⟨fun h => hstorable h.2.storable, e, w', bind_of_error hraised⟩

/-- **A run of an action** reports its outcome, or raises. -/
theorem runAction_cases (device : PyVal) (executionId : ℕ) (arguments : List Argument)
    (instanceKey : Option InstanceKey) (resume : Bool) (w : World σ) :
    (RunDelivers env o action instanceKey arguments device w ∧
      ∃ status w' packet, runAction env o action
          (.action action executionId device) arguments instanceKey w = .ok status w' ∧
        w'.sent = w.sent ++ [packet] ∧
        Concludes env o action arguments resume w w' packet) ∨
    (¬RunDelivers env o action instanceKey arguments device w ∧
      ∃ e w', runAction env o action (.action action executionId device)
        arguments instanceKey w = .error e w') := by
  rw [runAction_eq]
  obtain ⟨api, harguments, herrors, hapi⟩ | ⟨harguments, hunknown⟩ := argumentsApi_cases env action
  case inr =>
    rw [harguments]
    refine .inr ⟨?_, .attributeError, w, rfl⟩
    rintro ⟨_, herrors, api, hapi, _⟩
    exact hunknown ⟨herrors, api, hapi⟩
  case inl =>
    rw [harguments]
    have hdelivers : RunDelivers env o action instanceKey arguments device w ↔
        encoded action device [] = .ok () ∧
          RunsSoundly env o action instanceKey arguments api w := by
      refine and_congr Iff.rfl ⟨?_, fun h => ⟨herrors, api, hapi, h⟩⟩
      rintro ⟨_, api', h, hsound⟩
      rw [hapi] at h
      cases h
      exact hsound
    rw [hdelivers]
    unfold RunsSoundly
    dsimp only
    cases hvalidated : validated env action arguments api (w.accumulators o.executionId) with
    | error e =>
      cases e with
      | invalidArgument message errors =>
        dsimp only
        rcases @argumentsInvalid_cases _ _ _ _ _ _ _ _ _ hvalidated resume device
          executionId with ⟨hencoded, hreported⟩ | ⟨hencoded, hraised⟩
        · exact .inl ⟨⟨hencoded, trivial⟩, hreported⟩
        · exact .inr ⟨fun h => hencoded h.1, hraised⟩
      | _ => exact .inr ⟨fun h => h.2, _, w, rfl⟩
    | ok args =>
      dsimp only
      cases hbound : env.isAppActionBound action.appName api.run with
      | error e =>
        refine .inr ⟨?_, e, w, rfl⟩
        rintro ⟨_, bound, h, _⟩
        cases h
      | ok bound =>
        rw [bind_of_ok (rfl : lift (.ok bound) w = .ok bound w)]
        have hreturns : (∃ bound', (Except.ok bound : Except Exn Bool) = .ok bound' ∧
            Returns env action (w.accumulators o.executionId).type api args
              (if bound' then instanceKey else none) w.behaviour) ↔
            Returns env action (w.accumulators o.executionId).type api args
              (if bound then instanceKey else none) w.behaviour := by
          refine ⟨?_, fun h => ⟨bound, rfl, h⟩⟩
          rintro ⟨bound', h, hreturns⟩
          cases h
          exact hreturns
        rw [hreturns]
        exact appFunction_cases hapi hvalidated _ device executionId resume

/-! ## The call -/

/-- What concludes an action reads of the states their accumulators and the behaviour of the apps
only. -/
theorem Concludes.congr {arguments : List Argument} {resume : Bool} {u u' w w' : World σ}
    {packet : Packet} (h : Concludes env o action arguments resume u u' packet)
    (haccumulators : u.accumulators = w.accumulators) (hbehaviour : u.behaviour = w.behaviour)
    (hfinal : u'.accumulators = w'.accumulators) :
    Concludes env o action arguments resume w w' packet := by
  cases h with
  | awaits hwaits hevent => exact .awaits hwaits hevent
  | argumentsInvalid hvalidated hevent hheld =>
    rw [haccumulators] at hvalidated
    unfold HoldsResult at hheld
    rw [hfinal] at hheld
    exact .argumentsInvalid hvalidated hevent hheld
  | ran hapi hvalidated hran hfailed hsucceeded hheld =>
    rw [haccumulators] at hvalidated
    rw [hbehaviour] at hran
    unfold HoldsResult at hheld
    rw [hfinal] at hheld
    exact .ran hapi hvalidated hran hfailed hsucceeded hheld

/-- A world after the first event has sent more than the world before it. -/
theorem sent_ne_of_started {w w' : World σ} {started : Packet} {rest : List Packet}
    (h : w'.sent = w.sent ++ [started] ++ rest) : w'.sent ≠ w.sent := by
  intro heq
  have hlength := congrArg List.length (h.symm.trans heq)
  simp only [List.length_append, List.length_singleton] at hlength
  omega

section

variable (env) {device : PyVal} {arguments : List Argument} {resume : Bool} {w : World σ}
  {started : Packet}

/-- An action that waits, from its first event on. -/
theorem sendsOutcome_awaits_iff (haction : o.executingAction = some action)
    (instanceKey : Option InstanceKey)
    (hwaits : (action.trigger.isSome && !resume) = true) (hevent : started.event = .actionStarted)
    (hstart : startAction env o action arguments w = .ok (.action action w.uuid4 device)
      (World.withPacket { w with uuid4 := w.uuid4 + 1 } started)) :
    SendsOutcome env o action instanceKey arguments resume w ↔
      encoded action device [] = .ok () ∧ saveRefusal env o.executionId w = none := by
  have hexecute : executeAction env o action instanceKey arguments resume w =
      awaitData env o action (.action action w.uuid4 device)
        (World.withPacket { w with uuid4 := w.uuid4 + 1 } started) := by
    unfold executeAction
    rw [bind_of_ok hstart, if_pos hwaits]
  have hrefusal : saveRefusal env o.executionId
      (World.withPacket { w with uuid4 := w.uuid4 + 1 } started) =
        saveRefusal env o.executionId w := rfl
  unfold SendsOutcome
  rw [hexecute, awaitData_eq env haction, hrefusal]
  obtain ⟨herror, hok⟩ := @eventToProtobuf_action_cases o action device []
    .triggerActionAwaitingData rfl none none rfl w.uuid4
  cases hrefused : saveRefusal env o.executionId w with
  | some e =>
    dsimp only
    refine ⟨fun h => ?_, fun h => (by cases h.2)⟩
    have hsent : (((World.withPacket { w with uuid4 := w.uuid4 + 1 } started).logged
        (.saved action.id false)).sent) = w.sent ++ [started] ++ [] := by
      rw [List.append_nil]
      rfl
    exact absurd h.2 (sent_ne_of_started hsent)
  | none =>
    dsimp only
    unfold awaitPacket
    cases hencoded : encoded action device [] with
    | error e =>
      rw [herror e hencoded]
      dsimp only
      refine ⟨fun h => ?_, fun h => (by cases h.1)⟩
      have hsent : ((World.withPacket { w with uuid4 := w.uuid4 + 1 } started).sent) =
          w.sent ++ [started] ++ [] := by
        rw [List.append_nil]
        rfl
      exact absurd h.2 (sent_ne_of_started hsent)
    | ok u =>
      obtain ⟨packet, hpacket, heq⟩ := hok u hencoded
      rw [heq]
      dsimp only
      refine ⟨fun _ => ⟨rfl, rfl⟩, fun _ => ⟨started, packet, ?_, hevent, .awaits hwaits hpacket⟩⟩
      exact List.append_assoc w.sent [started] [packet]

/-- An action that does not wait, from its first event on. -/
theorem sendsOutcome_runs_iff (instanceKey : Option InstanceKey)
    (hwaits : (action.trigger.isSome && !resume) = false)
    (hevent : started.event = .actionStarted)
    (hstart : startAction env o action arguments w = .ok (.action action w.uuid4 device)
      (World.withPacket { w with uuid4 := w.uuid4 + 1 } started)) :
    SendsOutcome env o action instanceKey arguments resume w ↔
      RunDelivers env o action instanceKey arguments device w := by
  have hexecute : executeAction env o action instanceKey arguments resume w =
      ((do
        let status ← runAction env o action (.action action w.uuid4 device)
          arguments instanceKey
        observe (.executed action.id status)
        pure (ActionReturn.status status)) : M σ ActionReturn)
          (World.withPacket { w with uuid4 := w.uuid4 + 1 } started) := by
    unfold executeAction
    rw [bind_of_ok hstart, if_neg (by rw [hwaits]; exact Bool.false_ne_true)]
  have hdelivers : RunDelivers env o action instanceKey arguments device
      (World.withPacket { w with uuid4 := w.uuid4 + 1 } started) ↔
        RunDelivers env o action instanceKey arguments device w := Iff.rfl
  unfold SendsOutcome
  rw [hexecute, ← hdelivers]
  rcases runAction_cases device w.uuid4 arguments instanceKey resume
      (World.withPacket { w with uuid4 := w.uuid4 + 1 } started) with
    ⟨hruns, status, w', packet, hrun, hsent, hconcludes⟩ | ⟨hruns, e, w', hrun⟩
  · rw [bind_of_ok hrun]
    refine ⟨fun _ => hruns, fun _ => ⟨started, packet, ?_, hevent,
      hconcludes.congr rfl rfl rfl⟩⟩
    show w'.sent = _
    rw [hsent]
    exact List.append_assoc w.sent [started] [packet]
  · rw [bind_of_error hrun]
    refine ⟨fun h => ?_, fun h => absurd h hruns⟩
    have hframe := (frame_runAction env o action
      (.action action w.uuid4 device) arguments instanceKey).of_error hrun
    obtain ⟨rest, hsent, _⟩ := hframe.sent
    exact absurd h.2 (sent_ne_of_started hsent)

end

end

/-- **When a call of `Action.execute` reports its outcome**, whatever the app functions do. -/
theorem sendsOutcome_iff_delivers (env : Env σ) (o : Origin) (action : Action)
    (instanceKey : Option InstanceKey) (arguments : List Argument) (resume : Bool) (w : World σ)
    (haction : o.executingAction = some action) :
    SendsOutcome env o action instanceKey arguments resume w ↔
      Delivers env o action instanceKey arguments resume w := by
  obtain ⟨herror, hok⟩ := startAction_cases env o action arguments w
  unfold Delivers
  dsimp only
  cases hstarted : startedWith action arguments (w.accumulators o.executionId) with
  | error e =>
    unfold SendsOutcome executeAction
    rw [bind_of_error (herror e hstarted)]
    exact ⟨fun h => h.1, fun h => ⟨h, rfl⟩⟩
  | ok device =>
    obtain ⟨started, hevent, hstart⟩ := hok device hstarted
    cases hwaits : (action.trigger.isSome && !resume) with
    | true =>
      rw [sendsOutcome_awaits_iff env haction instanceKey hwaits hevent hstart]
      simp
    | false =>
      rw [sendsOutcome_runs_iff env instanceKey hwaits hevent hstart]
      simp [RunDelivers]

/-- **When a call of `Action.execute` on a decorated app function reports its outcome.** -/
theorem sendsOutcome_iff (env : Env σ) (func : Action → AppFunction σ) (o : Origin)
    (action : Action) (instanceKey : Option InstanceKey) (arguments : List Argument)
    (resume : Bool) (w : World σ) (haction : o.executingAction = some action) :
    SendsOutcome (withDecorated env func) o action instanceKey arguments resume w ↔
      Delivers (withDecorated env func) o action instanceKey arguments resume w :=
  sendsOutcome_iff_delivers (withDecorated env func) o action instanceKey arguments resume w
    haction

/-! ## The sample action -/

/-- The execution 7 of a sample workflow that is at this action. -/
def sampleOrigin (action : Action) : Origin :=
  { executionId := 7, workflowId := 100, user := none, executingAction := some action }

/-- A function of the sample app that returns nothing with this status. -/
def returning (status : String) (_ : Action) : AppFunction Unit :=
  fun _ _ behaviour => (.ok (.tuple .none (some status)), behaviour)

/-- The sample action can be started in every state. -/
theorem sampleAction_starts (func : Action → AppFunction Unit) (id : UUID) (w : World Unit) :
    ∃ packet, packet.event = .actionStarted ∧
      startAction (withDecorated succeeding func) (sampleOrigin (sampleAction id none))
        (sampleAction id none) [] w =
        .ok (.action (sampleAction id none) w.uuid4 (.int (-1)))
          (World.withPacket { w with uuid4 := w.uuid4 + 1 } packet) :=
  (startAction_cases _ (sampleOrigin (sampleAction id none)) (sampleAction id none) [] w).2
    (.int (-1)) rfl

/-- A declared status is reported. -/
theorem declared_status_reported :
    SendsOutcome (withDecorated succeeding (returning "Success")) (sampleOrigin (sampleAction 1 none))
      (sampleAction 1 none) none [] false (World.start () []) := by
  rw [sendsOutcome_iff succeeding (returning "Success") (sampleOrigin (sampleAction 1 none))
    (sampleAction 1 none) none [] false (World.start () []) rfl]
  refine ⟨rfl, rfl, _, rfl, false, rfl, _, _, rfl, fun _ => rfl, .inr rfl, fun e h => ?_⟩
  cases h

/-- **An undeclared status** is not reported: the call raises after the app function has run. -/
theorem undeclared_status_raises :
    ¬SendsOutcome (withDecorated succeeding (returning "Oops")) (sampleOrigin (sampleAction 1 none))
      (sampleAction 1 none) none [] false (World.start () []) := by
  obtain ⟨started, hevent, hstart⟩ := sampleAction_starts (returning "Oops") 1 (World.start () [])
  rw [sendsOutcome_runs_iff (withDecorated succeeding (returning "Oops")) none rfl hevent hstart]
  rintro ⟨_, _, api, hapi, hsound⟩
  obtain rfl := Except.ok.inj (hapi.symm.trans rfl)
  obtain ⟨bound, _, result, _, hreturned, hreportable⟩ := hsound
  obtain rfl : { result := .none, status := some "Oops" } = result :=
    Except.ok.inj (Prod.ext_iff.mp hreturned).1
  have hdeclared : "Oops" = "UnhandledException" ∨ (none : Option (Option Bool)).isSome :=
    hreportable.declared
  revert hdeclared
  decide

end Walkoff.Analysis
