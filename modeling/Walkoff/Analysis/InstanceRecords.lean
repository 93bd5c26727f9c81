import Walkoff.Analysis.AccumulatorIsolation
import Walkoff.Analysis.ScheduledJobs
import Walkoff.Program.RuntimeInstances

/-!
# The app instances of a runtime follow its executions

Whatever a runtime is asked to execute, and whatever executions end, the set of app instances has
the entry of a device in an execution exactly if the device has been used in it since the execution
last ended and the class of the app did not raise then, and the class is called exactly when a
request is the first such use. The end of an execution takes out its own entries: its pattern
matches no key of another one.
-/

set_option autoImplicit false

namespace Walkoff.Analysis

open Walkoff.Library Walkoff.Model Walkoff.Program

variable {σ : Type}

/-! ## Keys -/

/-- No character of a UUID is a separator or means something in a pattern. -/
theorem mem_uuid_str {u : UUID} {c : Char} (h : c ∈ u.str.toList) :
    c ≠ ':' ∧ Glob.isSpecial c = false := by
  have hdigit : ∀ n < 16, UUID.hexDigit n ≠ ':' ∧ Glob.isSpecial (UUID.hexDigit n) = false := by
    decide
  have hdigits : ∀ width n : ℕ, ∀ c ∈ UUID.hexDigits width n,
      c ≠ ':' ∧ Glob.isSpecial c = false := by
    intro width
    induction width with
    | zero => simp [UUID.hexDigits]
    | succ width ih =>
      intro n c hc
      rcases List.mem_append.mp hc with hc | hc
      · exact ih _ c hc
      · rw [List.mem_singleton.mp hc]
        exact hdigit _ (Nat.mod_lt _ (by norm_num))
  by_cases hhyphen : c = '-'
  · subst hhyphen
    exact ⟨by decide, by decide⟩
  · have hmem : c ∈ u.str.toList.filter (· != '-') :=
      List.mem_filter.mpr ⟨h, by simpa using hhyphen⟩
    rw [UUID.filter_str] at hmem
    exact hdigits 32 _ c hmem

/-- The characters of the key of an instance. -/
theorem toList_formatAppInstanceKey (executionId : UUID) (deviceId : PyVal) :
    (formatAppInstanceKey executionId deviceId).toList =
      executionId.str.toList ++ ':' :: deviceId.toStr.toList := by
  simp [formatAppInstanceKey]

/-- **A key names its execution and its device.** -/
theorem formatAppInstanceKey_inj {executionId executionId' : UUID} {device device' : ℤ}
    (h : formatAppInstanceKey executionId (.int device) =
      formatAppInstanceKey executionId' (.int device')) :
    executionId = executionId' ∧ device = device' := by
  have hlist := congrArg String.toList h
  rw [toList_formatAppInstanceKey, toList_formatAppInstanceKey] at hlist
  obtain ⟨hexecution, hdevice⟩ := append_cons_inj (fun hc => (mem_uuid_str hc).1 rfl)
    (fun hc => (mem_uuid_str hc).1 rfl) hlist
  exact ⟨UUID.str_injective (String.toList_injective hexecution), repr_injective hdevice⟩

/-- The pattern of an execution matches the keys of its devices and of no other execution. -/
theorem matchGlob_formatScanPattern (executionId executionId' : UUID) (deviceId : PyVal) :
    Glob.matchGlob (WorkflowExecution.formatScanPattern executionId)
      (formatAppInstanceKey executionId' deviceId) = true ↔ executionId' = executionId := by
  have hplain : ∀ c ∈ executionId.str.toList ++ [':'], Glob.isSpecial c = false := by
    simp only [List.forall_mem_append]
    exact ⟨fun c hc => (mem_uuid_str hc).2, by simp [Glob.isSpecial]⟩
  have hpattern : WorkflowExecution.formatScanPattern executionId =
      String.ofList ((executionId.str.toList ++ [':']) ++ ['*']) := by
    apply String.toList_injective
    simp [WorkflowExecution.formatScanPattern]
  rw [hpattern, Glob.matchGlob_prefix hplain, toList_formatAppInstanceKey]
  constructor
  · rintro ⟨rest, hrest⟩
    rw [List.append_assoc, List.singleton_append] at hrest
    obtain ⟨hexecution, -⟩ := append_cons_inj (fun hc => (mem_uuid_str hc).1 rfl)
      (fun hc => (mem_uuid_str hc).1 rfl) hrest
    exact (UUID.str_injective (String.toList_injective hexecution)).symm
  · rintro rfl
    exact ⟨deviceId.toStr.toList, by simp⟩

/-! ## The history of a runtime -/

/-- The device that an accepted request is about. -/
def usedDevice (data : PyVal) : Option ℤ :=
  if isExecutionContext data then
    match subscript "executable_context" data >>= subscript "device_id" with
    | .ok (.int device) => some device
    | _ => none
  else none

/-- The request uses the device in the execution. -/
def UsesDevice (executionId : UUID) (device : ℤ) : RuntimeOp → Prop
  | .post _ workflowExecId data => workflowExecId = executionId ∧ usedDevice data = some device
  | .delete _ _ => False

/-- The request ends the execution. -/
def EndsExecution (executionId : UUID) : RuntimeOp → Prop
  | .post _ _ _ => False
  | .delete workflowExecId _ => workflowExecId = executionId

/-- The class of the app makes an instance of the device, if it is called in the state. -/
def instantiates (apps : RuntimeApps σ) (appName : String) (device : ℤ) (s : RuntimeState σ) :
    Bool :=
  (apps.createInstance appName (.int device) s.behaviour).1.isOk

/-- A request that has been served, and whether the class of the app then made instances. -/
structure ServedRequest where
  op : RuntimeOp
  instantiates : ℤ → Bool

/-- The requests of a run with the state of the class each of them was served in. -/
def history (apps : RuntimeApps σ) (appName : String) : RuntimeState σ → List RuntimeOp →
    List ServedRequest
  | _, [] => []
  | s, op :: ops =>
    ⟨op, fun device => instantiates apps appName device s⟩ ::
      history apps appName (op.next apps appName s) ops

/-- Serving one operation more is the operation after the others. -/
theorem serve_concat (apps : RuntimeApps σ) (appName : String) (s : RuntimeState σ)
    (ops : List RuntimeOp) (op : RuntimeOp) :
    s.serve apps appName (ops ++ [op]) = op.next apps appName (s.serve apps appName ops) := by
  rw [RuntimeState.serve, List.foldl_append]
  rfl

/-- The request served last is the last of a history. -/
theorem history_concat (apps : RuntimeApps σ) (appName : String) (s : RuntimeState σ)
    (ops : List RuntimeOp) (op : RuntimeOp) :
    history apps appName s (ops ++ [op]) = history apps appName s ops ++
      [⟨op, fun device => instantiates apps appName device (s.serve apps appName ops)⟩] := by
  induction ops generalizing s with
  | nil => rfl
  | cons first ops ih => exact congrArg (List.cons _) (ih _)

/-- The device has been used in the execution, which has not ended since, and the class of the app
did not raise. -/
def DeviceInUse (executionId : UUID) (device : ℤ) (served : List ServedRequest) : Prop :=
  ∃ before request after, served = before ++ request :: after ∧
    UsesDevice executionId device request.op ∧ request.instantiates device = true ∧
      ∀ later ∈ after, ¬EndsExecution executionId later.op

/-- At first no device is in use. -/
theorem not_deviceInUse_nil (executionId : UUID) (device : ℤ) :
    ¬DeviceInUse executionId device [] := by
  rintro ⟨before, request, after, h, -⟩
  simp at h

/-- A device is in use after a request that uses it, or that leaves it in use. -/
theorem deviceInUse_concat {executionId : UUID} {device : ℤ} {served : List ServedRequest}
    {request : ServedRequest} : DeviceInUse executionId device (served ++ [request]) ↔
      UsesDevice executionId device request.op ∧ request.instantiates device = true ∨
        DeviceInUse executionId device served ∧ ¬EndsExecution executionId request.op := by
  constructor
  · rintro ⟨before, used, after, h, hused, hmade, hafter⟩
    rcases List.eq_nil_or_concat after with rfl | ⟨after, last, rfl⟩
    · obtain ⟨-, hlast⟩ := List.append_inj' h rfl
      rw [(List.cons.inj hlast).1]
      exact .inl ⟨hused, hmade⟩
    · rw [List.concat_eq_append, ← List.cons_append, ← List.append_assoc] at h
      obtain ⟨hserved, hlast⟩ := List.append_inj' h rfl
      rw [List.concat_eq_append, List.forall_mem_append] at hafter
      rw [(List.cons.inj hlast).1]
      exact .inr ⟨⟨before, used, after, hserved, hused, hmade, hafter.1⟩, hafter.2 last (by simp)⟩
  · rintro (⟨hused, hmade⟩ | ⟨⟨before, used, after, rfl, hused, hmade, hafter⟩, hrequest⟩)
    · exact ⟨served, request, [], rfl, hused, hmade, by simp⟩
    · refine ⟨before, used, after ++ [request], by simp, hused, hmade, ?_⟩
      rw [List.forall_mem_append]
      exact ⟨hafter, by simpa using hrequest⟩

/-! ## What a request does -/

/-- The calls of the class are logged beside the state of the apps. -/
def recording (apps : RuntimeApps σ) : RuntimeApps (σ × List PyVal) where
  runKey := apps.runKey
  call type appName run deviceId arguments s :=
    ((apps.call type appName run deviceId arguments s.1).1,
      ((apps.call type appName run deviceId arguments s.1).2, s.2))
  createInstance appName deviceId s :=
    ((apps.createInstance appName deviceId s.1).1,
      ((apps.createInstance appName deviceId s.1).2, s.2 ++ [deviceId]))
  defaultReturn := apps.defaultReturn
  validationError := apps.validationError

/-- Neither the set of instances nor the log has changed. -/
def SameRecords (s t : RuntimeState (σ × List PyVal)) : Prop :=
  t.instances = s.instances ∧ t.behaviour.2 = s.behaviour.2

instance : Std.Refl (SameRecords (σ := σ)) :=
  ⟨fun _ => ⟨rfl, rfl⟩⟩

instance : IsTrans (RuntimeState (σ × List PyVal)) SameRecords :=
  ⟨fun _ _ _ h h' => ⟨h'.1.trans h.1, h'.2.trans h.2⟩⟩

/-- Filing a result leaves the records of the instances. -/
theorem within_fileResult (executionId : String) (key : Key) (value : PyVal) :
    Within (SameRecords (σ := σ)) (fileResult executionId key value) := by
  intro s
  unfold fileResult
  cases value.picklable <;> exact ⟨rfl, rfl⟩

/-- The function of an app works on the state of the apps and not on the instances. -/
theorem within_executeFromContext (apps : RuntimeApps σ) (context : ExecutableContext)
    (executionId : String) (arguments : OrderedDict String PyVal) (deviceId : Option PyVal) :
    Within SameRecords
      (executeFromContext (recording apps) context executionId arguments deviceId) := by
  unfold executeFromContext
  refine (Within.lift _).bind fun run s => ?_
  rw [bind_apply, get_apply]
  dsimp only
  rw [bind_apply, modify_apply]
  dsimp only
  -- what is left is to file the result, in a state with the same instances
  have hcall : SameRecords s { s with
      behaviour := ((recording apps).call context.type context.appName run deviceId arguments
        s.behaviour).2
      calls := s.calls ++ [{ type := context.type, run, deviceId, arguments }] } := ⟨rfl, rfl⟩
  refine IsTrans.trans (r := SameRecords) s _ _ hcall ?_
  generalize ((recording apps).call context.type context.appName run deviceId arguments
    s.behaviour).1 = result
  cases result with
  | error exception => exact Within.throw _ _
  | ok result =>
    cases result with
    | action result => exact (within_fileResult _ _ _).bind (fun _ => .pure _) _
    | data value =>
      dsimp only
      split
      · exact Within.throw _ _
      · exact (within_fileResult _ _ _).bind (fun _ => .pure _) _

/-- Answering an execution leaves what the execution leaves. -/
theorem within_answerExecution (apps : RuntimeApps σ) (appName executionId : String)
    (context : ExecutableContext) {execution : Executing (σ × List PyVal) ExecutableResult}
    (h : Within SameRecords execution) :
    Within SameRecords (answerExecution (recording apps) appName executionId context execution) := by
  intro s
  have hs := h s
  unfold answerExecution
  cases hrun : execution s with
  | ok result t =>
    rw [hrun] at hs
    exact IsTrans.trans (r := SameRecords) s t _ hs ((Within.lift _).bind (fun _ => .pure _) t)
  | error e t =>
    rw [hrun] at hs
    cases e <;> exact hs

/-- The state after `create_device`. -/
def afterCreateDevice (apps : RuntimeApps σ) (appName : String) (executionId : UUID) (device : ℤ)
    (s : RuntimeState σ) : RuntimeState σ :=
  finalState (ActionExecution.createDevice apps appName executionId.str (.int device) s)

/-- A class is called for a key that is not in the set yet, and the key is in the set if the class
does not raise. -/
theorem afterCreateDevice_of_not_mem (apps : RuntimeApps σ) (appName : String)
    {executionId : UUID} {device : ℤ} {s : RuntimeState (σ × List PyVal)}
    (h : formatAppInstanceKey executionId (.int device) ∉ s.instances) :
    (afterCreateDevice (recording apps) appName executionId device s).instances =
        s.instances ++ (if instantiates (recording apps) appName device s then
          [formatAppInstanceKey executionId (.int device)] else []) ∧
      (afterCreateDevice (recording apps) appName executionId device s).behaviour.2 =
        s.behaviour.2 ++ [.int device] := by
  unfold formatAppInstanceKey at h ⊢
  unfold afterCreateDevice ActionExecution.createDevice instantiates
  rw [bind_apply, get_apply]
  dsimp only
  rw [if_pos h, bind_apply, get_apply]
  dsimp only
  rw [bind_apply, modify_apply]
  dsimp only
  cases ((recording apps).createInstance appName (.int device) s.behaviour).1 with
  | ok => exact ⟨rfl, rfl⟩
  | error e => exact ⟨(List.append_nil _).symm, rfl⟩

/-- A device with a record is not created again. -/
theorem afterCreateDevice_of_mem (apps : RuntimeApps σ) (appName : String) {executionId : UUID}
    {device : ℤ} {s : RuntimeState σ}
    (h : formatAppInstanceKey executionId (.int device) ∈ s.instances) :
    afterCreateDevice apps appName executionId device s = s := by
  unfold formatAppInstanceKey at h
  unfold afterCreateDevice ActionExecution.createDevice
  rw [bind_apply, get_apply]
  dsimp only
  rw [if_neg (not_not.mpr h)]
  rfl

/-! ## Accepted requests -/

/-- Subscripting a dictionary gives the entry of the key. -/
theorem subscript_dict {key : String} {items : OrderedDict String PyVal} {entry : PyVal}
    (h : OrderedDict.get? key items = some entry) : subscript key (.dict items) = .ok entry := by
  simp only [subscript, h]
  rfl

/-- A required entry is there, and as the schema wants it. -/
theorem subscript_of_isObject {required allowed : List String} {v : PyVal}
    (h : isObject required allowed v = true) {key : String} (hkey : key ∈ required) :
    ∃ entry, subscript key v = .ok entry ∧
      ∀ p : PyVal → Bool, entryIs key p v = true → p entry = true := by
  cases v with
  | dict items =>
    unfold isObject at h
    rw [Bool.and_eq_true, List.all_eq_true] at h
    have hmem : key ∈ OrderedDict.keys items := by simpa using h.1 key hkey
    rw [OrderedDict.mem_keys_iff, Option.isSome_iff_exists] at hmem
    obtain ⟨entry, hentry⟩ := hmem
    exact ⟨entry, subscript_dict hentry, fun p hp => by simpa [entryIs, hentry] using hp⟩
  | _ => simp [isObject] at h

/-- An entry that is a text. -/
theorem subscriptText_of_isObject {required allowed : List String} {v : PyVal}
    (h : isObject required allowed v = true) {key : String} (hkey : key ∈ required)
    (htext : entryIs key isText v = true) : ∃ text, subscriptText key v = .ok text := by
  obtain ⟨entry, hentry, hp⟩ := subscript_of_isObject h hkey
  unfold subscriptText
  rw [hentry]
  have hentryText := hp _ htext
  cases entry with
  | str text => exact ⟨text, rfl⟩
  | _ => simp [isText] at hentryText

/-- The context of what is executed in a request. -/
structure ReadsContext (actionContext : PyVal) (type : ExecutableType) (typeText name id : String) :
    Prop where
  readType : subscriptText "type" actionContext = .ok typeText
  ofText : ExecutableType.ofText typeText = some type
  readName : subscriptText "name" actionContext = .ok name
  readId : subscriptText "id" actionContext = .ok id

/-- An accepted request has all that `on_post` reads, and a device is a number. -/
theorem readsContext_of_accepted {data : PyVal} (h : isExecutionContext data = true) :
    ∃ actionContext, subscript "executable_context" data = .ok actionContext ∧
      (∃ type typeText name id, ReadsContext actionContext type typeText name id) ∧
      ∀ deviceId, subscript "device_id" actionContext = .ok deviceId →
        ∃ device, deviceId = .int device := by
  unfold isExecutionContext at h
  simp only [Bool.and_eq_true] at h
  obtain ⟨⟨⟨hobject, -⟩, hcontext⟩, -⟩ := h
  obtain ⟨actionContext, hsubscript, hp⟩ := subscript_of_isObject hobject
    (show "executable_context" ∈ ["workflow_context", "executable_context", "arguments"] by simp)
  have haction := hp _ hcontext
  unfold isExecutableContext at haction
  simp only [Bool.and_eq_true] at haction
  obtain ⟨⟨⟨⟨haction, hname⟩, htype⟩, hid⟩, hdevice⟩ := haction
  refine ⟨actionContext, hsubscript, ?_, ?_⟩
  · obtain ⟨name, hname⟩ := subscriptText_of_isObject haction (by simp) hname
    obtain ⟨id, hid⟩ := subscriptText_of_isObject haction (by simp) hid
    obtain ⟨typeEntry, htypeEntry, hp⟩ := subscript_of_isObject haction
      (show "type" ∈ ["name", "type", "id"] by simp)
    have htypeText := hp _ htype
    cases typeEntry with
    | str typeText =>
      obtain ⟨type, htype⟩ := Option.isSome_iff_exists.mp htypeText
      have hread : subscriptText "type" actionContext = .ok typeText := by
        unfold subscriptText
        rw [htypeEntry]
        rfl
      exact ⟨type, typeText, name, id, hread, htype, hname, hid⟩
    | _ => simp at htypeText
  · intro deviceId hdeviceId
    cases actionContext with
    | dict items =>
      cases hentry : OrderedDict.get? "device_id" items with
      | none =>
        simp only [subscript, hentry] at hdeviceId
        cases hdeviceId
      | some entry =>
        rw [subscript_dict hentry] at hdeviceId
        obtain rfl := Except.ok.inj hdeviceId
        simp only [entryIs, hentry, Option.all_some] at hdevice
        cases entry with
        | int device => exact ⟨device, rfl⟩
        | _ => simp [isDeviceId] at hdevice
    | _ => simp [isObject] at haction

/-- An outcome without an exception leaves the state. -/
theorem liftExn_of_ok {α : Type} {x : Except Exn α} {a : α} (h : x = .ok a)
    (s : RuntimeState σ) : liftExn x s = .ok a s := by
  rw [h]
  rfl

/-- What follows `create_device` in a request leaves the instances alone. -/
theorem within_arguments (apps : RuntimeApps σ) (appName executionId : String)
    (context : ExecutableContext) (data : PyVal) (deviceId : Option PyVal) :
    Within SameRecords (do
      let arguments ← liftExn (argumentsOf data)
      answerExecution (recording apps) appName executionId context
        (executeFromContext (recording apps) context executionId arguments deviceId)) :=
  (Within.lift _).bind fun _ =>
    within_answerExecution apps appName executionId context
      (within_executeFromContext apps context executionId _ deviceId)

/-- What a request does to the instances: nothing, or what `create_device` does for the device it
uses. -/
structure ServesDevice (apps : RuntimeApps σ) (appName : String) (workflowExecId : UUID)
    (data : PyVal) (s t : RuntimeState (σ × List PyVal)) : Prop where
  unused : usedDevice data = none → SameRecords s t
  used : ∀ device, usedDevice data = some device →
    SameRecords (afterCreateDevice (recording apps) appName workflowExecId device s) t

/-- A posted action serves its device. -/
theorem servesDevice_onPost (apps : RuntimeApps σ) (appName : String) (newId workflowExecId : UUID)
    (data : PyVal) (s : RuntimeState (σ × List PyVal)) :
    ServesDevice apps appName workflowExecId data s
      (finalState (ActionExecution.onPost (recording apps) appName newId workflowExecId data s)) := by
  unfold ActionExecution.onPost
  by_cases hvalid : isExecutionContext data = true
  · obtain ⟨actionContext, hsubscript, ⟨type, typeText, name, id, hreads⟩, hdevice⟩ :=
      readsContext_of_accepted hvalid
    simp only [hvalid, Bool.not_true, Bool.false_eq_true, if_false]
    rw [bind_of_ok (liftExn_of_ok hsubscript s), bind_of_ok (liftExn_of_ok hreads.readType s)]
    simp only [hreads.ofText]
    rw [bind_of_ok (liftExn_of_ok hreads.readName s), bind_of_ok (liftExn_of_ok hreads.readId s)]
    cases hdeviceId : subscript "device_id" actionContext with
    | ok deviceId =>
      obtain ⟨device, rfl⟩ := hdevice deviceId hdeviceId
      have hused : usedDevice data = some device := by
        have hread : (Except.ok actionContext >>= subscript "device_id") =
            .ok (.int device) := hdeviceId
        simp only [usedDevice, hvalid, if_true, hsubscript, hread]
      refine ⟨fun h => absurd (hused.symm.trans h) (by simp), fun device' h => ?_⟩
      obtain rfl := Option.some.inj (hused.symm.trans h)
      dsimp only
      unfold afterCreateDevice
      cases hcreate : ActionExecution.createDevice (recording apps) appName workflowExecId.str
          (.int device) s with
      | error e t =>
        -- the exception of the class escapes
        rw [bind_of_error hcreate]
        exact ⟨rfl, rfl⟩
      | ok _ t =>
        rw [bind_of_ok hcreate]
        exact within_arguments apps appName workflowExecId.str _ data (some (.int device)) t
    | error e =>
      have hunused : usedDevice data = none := by
        have hread : (Except.ok actionContext >>= subscript "device_id") = .error e := hdeviceId
        simp only [usedDevice, hvalid, if_true, hsubscript, hread]
      refine ⟨fun _ => ?_, fun device h => absurd (hunused.symm.trans h) (by simp)⟩
      exact within_arguments apps appName workflowExecId.str _ data none s
  · have hunused : usedDevice data = none := by simp [usedDevice, hvalid]
    rw [Bool.not_eq_true] at hvalid
    rw [hvalid]
    exact ⟨fun _ => ⟨rfl, rfl⟩, fun device h => absurd (hunused.symm.trans h) (by simp)⟩

/-! ## The end of an execution -/

/-- `srem` of some entries. -/
theorem forM_srem (keys : List String) (s : RuntimeState σ) :
    keys.forM WorkflowExecution.srem s =
      .ok ⟨⟩ { s with instances := s.instances.filter fun key => key ∉ keys } := by
  induction keys generalizing s with
  | nil =>
    have hall : (s.instances.filter fun key => key ∉ ([] : List String)) = s.instances := by simp
    rw [hall]
    rfl
  | cons key keys ih =>
    have hfirst : WorkflowExecution.srem key s =
        .ok ⟨⟩ { s with instances := s.instances.filter (· ≠ key) } := rfl
    have hmore : (key :: keys).forM WorkflowExecution.srem s =
        keys.forM WorkflowExecution.srem
          { s with instances := s.instances.filter (· ≠ key) } := bind_of_ok hfirst
    rw [hmore, ih]
    congr 2
    rw [List.filter_filter]
    refine List.filter_congr fun key' _ => ?_
    simp [Bool.and_comm]

/-- Deleting an execution answers 204 and takes its records out. -/
theorem onDelete_ok (executionId : UUID) (order : ScanOrder) (s : RuntimeState σ) :
    WorkflowExecution.onDelete executionId order s =
      .ok { statusCode := 204, json := none } { s with
        instances := s.instances.filter fun key => key ∉ order.order (s.instances.filter
          (Glob.matchGlob (WorkflowExecution.formatScanPattern executionId))) } := by
  have hscan : WorkflowExecution.sscanIter (WorkflowExecution.formatScanPattern executionId) order
      s = .ok (order.order (s.instances.filter
        (Glob.matchGlob (WorkflowExecution.formatScanPattern executionId)))) s := rfl
  unfold WorkflowExecution.onDelete
  rw [bind_of_ok hscan, bind_of_ok (forM_srem _ s), pure_apply]

/-- **What is left at the end of an execution** is what its pattern does not match. -/
theorem mem_instances_onDelete {executionId : UUID} {order : ScanOrder} {s : RuntimeState σ}
    {key : String} :
    key ∈ (finalState (WorkflowExecution.onDelete executionId order s)).instances ↔
      key ∈ s.instances ∧
        Glob.matchGlob (WorkflowExecution.formatScanPattern executionId) key = false := by
  rw [onDelete_ok, finalState, List.mem_filter]
  refine and_congr_right fun hkey => ?_
  rw [decide_eq_true_eq, (order.perm _).mem_iff, List.mem_filter]
  simp [hkey]

/-! ## Runs -/

variable (apps : RuntimeApps σ) (appName : String)

/-- **The entry of a device is there after a request** that uses it while the class does not raise,
or if it was there before a request that does not end its execution. -/
theorem mem_instances_next (executionId : UUID) (device : ℤ) (op : RuntimeOp)
    (s : RuntimeState (σ × List PyVal)) :
    formatAppInstanceKey executionId (.int device) ∈
        (RuntimeOp.next (recording apps) appName s op).instances ↔
      UsesDevice executionId device op ∧ instantiates (recording apps) appName device s = true ∨
        formatAppInstanceKey executionId (.int device) ∈ s.instances ∧
          ¬EndsExecution executionId op := by
  cases op with
  | post newId workflowExecId data =>
    have hserves := servesDevice_onPost apps appName newId workflowExecId data s
    simp only [RuntimeOp.next, UsesDevice, EndsExecution, not_false_eq_true, and_true]
    cases hdata : usedDevice data with
    | none =>
      rw [(hserves.unused hdata).1]
      simp
    | some used =>
      rw [(hserves.used used hdata).1]
      have hkey : formatAppInstanceKey executionId (.int device) =
          formatAppInstanceKey workflowExecId (.int used) ↔
            workflowExecId = executionId ∧ some used = some device := by
        constructor
        · intro h
          obtain ⟨hexecution, hdevice⟩ := formatAppInstanceKey_inj h
          exact ⟨hexecution.symm, congrArg some hdevice.symm⟩
        · rintro ⟨rfl, h⟩
          rw [Option.some.inj h]
      by_cases hmem : formatAppInstanceKey workflowExecId (.int used) ∈ s.instances
      · rw [afterCreateDevice_of_mem (recording apps) appName hmem, ← hkey]
        constructor
        · exact .inr
        · rintro (⟨h, -⟩ | h)
          · rwa [h]
          · exact h
      · rw [(afterCreateDevice_of_not_mem apps appName hmem).1, List.mem_append, ← hkey, or_comm]
        refine or_congr_left ?_
        constructor
        · intro h
          split at h
          · next hmade =>
            obtain rfl := (hkey.mp (List.mem_singleton.mp h)).1
            obtain rfl := Option.some.inj (hkey.mp (List.mem_singleton.mp h)).2
            exact ⟨rfl, hmade⟩
          · cases h
        · rintro ⟨h, hmade⟩
          obtain rfl := Option.some.inj (hkey.mp h).2
          rw [if_pos hmade, h]
          exact List.mem_singleton_self _
  | delete workflowExecId order =>
    simp only [RuntimeOp.next, UsesDevice, EndsExecution, false_and, false_or]
    rw [mem_instances_onDelete, ← Bool.not_eq_true, matchGlob_formatScanPattern, eq_comm]

/-- The devices of the requests that used a device which was not in use in their execution. -/
inductive FirstUses : List ServedRequest → List PyVal → Prop where
  | nil : FirstUses [] []
  | first {served : List ServedRequest} {devices : List PyVal} {request : ServedRequest} {executionId : UUID}
      {device : ℤ} (h : FirstUses served devices)
      (huses : UsesDevice executionId device request.op)
      (hfirst : ¬DeviceInUse executionId device served) :
      FirstUses (served ++ [request]) (devices ++ [.int device])
  | other {served : List ServedRequest} {devices : List PyVal} {request : ServedRequest}
      (h : FirstUses served devices)
      (hother : ∀ executionId device, UsesDevice executionId device request.op →
        DeviceInUse executionId device served) : FirstUses (served ++ [request]) devices

/-- One request more keeps the log of the calls of the class. -/
theorem FirstUses.next {served : List ServedRequest} {s : RuntimeState (σ × List PyVal)}
    (h : FirstUses served s.behaviour.2)
    (hinUse : ∀ executionId device, formatAppInstanceKey executionId (.int device) ∈ s.instances ↔
      DeviceInUse executionId device served) (op : RuntimeOp) (made : ℤ → Bool) :
    FirstUses (served ++ [⟨op, made⟩])
      (RuntimeOp.next (recording apps) appName s op).behaviour.2 := by
  cases op with
  | post newId workflowExecId data =>
    have hserves := servesDevice_onPost apps appName newId workflowExecId data s
    simp only [RuntimeOp.next]
    cases hdata : usedDevice data with
    | none =>
      rw [(hserves.unused hdata).2]
      refine h.other fun executionId device huses => ?_
      exact absurd (hdata.symm.trans huses.2) (by simp)
    | some used =>
      rw [(hserves.used used hdata).2]
      by_cases hmem : formatAppInstanceKey workflowExecId (.int used) ∈ s.instances
      · rw [afterCreateDevice_of_mem (recording apps) appName hmem]
        refine h.other fun executionId device huses => ?_
        obtain ⟨rfl, hused⟩ := huses
        obtain rfl := Option.some.inj (hdata.symm.trans hused)
        exact (hinUse _ _).mp hmem
      · rw [(afterCreateDevice_of_not_mem apps appName hmem).2]
        exact h.first ⟨rfl, hdata⟩ fun hused => hmem ((hinUse _ _).mpr hused)
  | delete workflowExecId order =>
    simp only [RuntimeOp.next]
    rw [onDelete_ok]
    exact h.other fun _ _ huses => huses.elim

/-- **The app instances of a runtime follow its executions**: the set has the entry of a device in
an execution exactly if the device is in use in it, and the class of the app has been called, in
order, for the requests that used a device which was not in use. -/
theorem instances_follow_executions (behaviour : σ) (cache : OrderedDict (String × String) PyVal)
    (ops : List RuntimeOp) :
    (∀ executionId device, formatAppInstanceKey executionId (.int device) ∈
        ((RuntimeState.start (behaviour, []) cache).serve (recording apps) appName ops).instances ↔
      DeviceInUse executionId device
        (history (recording apps) appName (RuntimeState.start (behaviour, []) cache) ops)) ∧
    FirstUses (history (recording apps) appName (RuntimeState.start (behaviour, []) cache) ops)
      ((RuntimeState.start (behaviour, []) cache).serve (recording apps) appName ops).behaviour.2 := by
  induction ops using List.reverseRecOn with
  | nil =>
    refine ⟨fun executionId device => ?_, .nil⟩
    exact iff_of_false List.not_mem_nil (not_deviceInUse_nil executionId device)
  | append_singleton ops op ih =>
    rw [history_concat, serve_concat]
    refine ⟨fun executionId device => ?_, ih.2.next apps appName ih.1 op _⟩
    rw [mem_instances_next, ih.1, deviceInUse_concat]

end Walkoff.Analysis
