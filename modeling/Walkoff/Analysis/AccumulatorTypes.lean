import Walkoff.Analysis.JsonRoundTrip
import Walkoff.Analysis.OutcomeEvents
import Walkoff.Analysis.StepRules

/-!
# The two types of accumulators

The in-memory accumulator gives its items under the ids they were filed under, the external one
under the keys of the cache, which begin with the prefix of the execution. The data of
`WorkflowShutdown` are the items, so it differs between the two as soon as anything was filed,
and a run that gets to its end has filed the results of its actions.
-/

set_option autoImplicit false

namespace Walkoff.Analysis

open Walkoff.Model Walkoff.Program Walkoff.Model.JsonText
open Walkoff.Library (EndsAt Ended Reaches Within OrderedDict exists_endsAt bind_apply bind_eq_ok
  finalState)

variable {σ : Type}

/-! ## What is filed stays filed -/

/-- The keys of the accumulator of an execution. -/
def filedKeys (executionId : UUID) (w : World σ) : List Key :=
  OrderedDict.keys (w.accumulators executionId).entries

/-- The accumulator of an execution keeps its type and its keys, and new keys are ids. -/
structure KeysGrow (executionId : UUID) (w w' : World σ) : Prop where
  type : (w'.accumulators executionId).type = (w.accumulators executionId).type
  kept : ∀ key ∈ filedKeys executionId w, key ∈ filedKeys executionId w'
  added : ∀ key ∈ filedKeys executionId w', key ∈ filedKeys executionId w ∨
    ∃ u : UUID, key = Accumulator.formatKey (w.accumulators executionId).type (.uuid u)

variable {executionId : UUID}

/-- Keys are kept where the accumulator of the execution is. -/
theorem KeysGrow.of_eq {w w' : World σ}
    (h : w'.accumulators executionId = w.accumulators executionId) :
    KeysGrow executionId w w' := by
  refine ⟨by rw [h], fun key hkey => ?_, fun key hkey => ?_⟩
  · unfold filedKeys
    rw [h]
    exact hkey
  · left
    unfold filedKeys at hkey
    rw [h] at hkey
    exact hkey

instance : Std.Refl (KeysGrow executionId : World σ → World σ → Prop) where
  refl _ := .of_eq rfl

instance : IsTrans (World σ) (KeysGrow executionId) where
  trans u v w huv hvw := by
    refine ⟨hvw.type.trans huv.type, fun key hkey => hvw.kept key (huv.kept key hkey), ?_⟩
    intro key hkey
    rcases hvw.added key hkey with hkey | ⟨id, hid⟩
    · exact huv.added key hkey
    · exact .inr ⟨id, by rw [hid, huv.type]⟩

/-- What is filed is set under the id, in the way of the accumulator's type. -/
theorem setAccumulatorItem_ok {key : UUID} {value : PyVal} {w w' : World σ}
    (h : setAccumulatorItem executionId key value w = .ok () w') :
    (w'.accumulators executionId).type = (w.accumulators executionId).type ∧
      (w'.accumulators executionId).entries = OrderedDict.set
        (Accumulator.formatKey (w.accumulators executionId).type (.uuid key)) value
        (w.accumulators executionId).entries := by
  obtain ⟨accumulator, w₁, hget, hrest⟩ := bind_eq_ok.mp h
  cases hget
  obtain ⟨accumulator, w₂, hset, hput⟩ := bind_eq_ok.mp hrest
  cases hput
  unfold Accumulator.setItem Library.lift at hset
  split at hset
  · rename_i heq
    split at heq
    · cases heq
    · cases heq
      cases hset
      simp
  · cases hset

/-- Filing an item keeps the keys. -/
theorem keysGrow_setAccumulatorItem (key : UUID) (value : PyVal) :
    Within (KeysGrow executionId) (setAccumulatorItem executionId key value : M σ Unit) := by
  intro w
  cases h : setAccumulatorItem executionId key value w with
  | error e w' =>
    have hsame : w' = w := by
      unfold setAccumulatorItem at h
      rcases Library.bind_eq_error.mp h with hget | ⟨accumulator, w₁, hget, hrest⟩
      · cases hget
      · cases hget
        rcases Library.bind_eq_error.mp hrest with hset | ⟨accumulator, w₂, -, hput⟩
        · unfold Library.lift at hset
          split at hset
          · cases hset
          · cases hset
            rfl
        · cases hput
    rw [hsame]
    exact Std.Refl.refl w
  | ok r w' =>
    obtain ⟨htype, hentries⟩ := setAccumulatorItem_ok h
    refine ⟨htype, fun k hk => ?_, fun k hk => ?_⟩
    · show k ∈ OrderedDict.keys (w'.accumulators executionId).entries
      rw [hentries, OrderedDict.mem_keys_set]
      exact .inr hk
    · have hk' : k ∈ OrderedDict.keys (w'.accumulators executionId).entries := hk
      rw [hentries, OrderedDict.mem_keys_set] at hk'
      exact hk'.symm.imp id fun h => ⟨key, h⟩

/-- **What is filed stays filed** until the execution is shut down. -/
theorem stepRules_keysGrow (env : Env σ) : StepRules (KeysGrow executionId) env executionId where
  condition condition dataIn accumulator := by
    intro w
    unfold behave
    split <;> exact .of_eq rfl
  appFunction action arguments instanceKey := by
    intro w
    unfold behave
    split <;> exact .of_eq rfl
  newUuid4 w := .of_eq rfl
  setItem := keysGrow_setAccumulatorItem
  handle o sender event data arguments _ w :=
    .of_eq (congrFun (sameRuntime_handleEvent env o sender event data arguments w).accumulators _)
  create key w _ := .of_eq rfl
  observe entry w := .of_eq rfl

/-! ## An action that has run has filed its result -/

/-- What has something filed keeps something filed. -/
theorem KeysGrow.ne_nil {w w' : World σ} (h : KeysGrow executionId w w')
    (hw : filedKeys executionId w ≠ []) : filedKeys executionId w' ≠ [] := by
  obtain ⟨key, hkey⟩ := List.exists_mem_of_ne_nil _ hw
  exact List.ne_nil_of_mem (h.kept key hkey)

/-- Whenever the computation returns, something is filed for the execution. -/
def Files {α : Type} (executionId : UUID) (m : M σ α) : Prop :=
  ∀ w a w', m w = .ok a w' → filedKeys executionId w' ≠ []

namespace Files

variable {α β : Type}

/-- What raises never returns. -/
theorem throw (e : Exn) : Files executionId (MonadExcept.throw e : M σ α) := by
  intro w a w' h
  cases h

/-- After an item was set, something is filed. -/
theorem setItem (key : UUID) (value : PyVal) :
    Files executionId (setAccumulatorItem executionId key value : M σ Unit) := by
  intro w a w' h
  obtain ⟨-, hentries⟩ := setAccumulatorItem_ok h
  apply List.ne_nil_of_mem
  show _ ∈ OrderedDict.keys (w'.accumulators executionId).entries
  rw [hentries]
  exact (OrderedDict.mem_keys_set _ _ _ _).mpr (.inl rfl)

/-- Something is filed by what comes later. -/
theorem later {m : M σ α} {f : α → M σ β} (hf : ∀ a, Files executionId (f a)) :
    Files executionId (m >>= f) := by
  intro w b w' h
  obtain ⟨a, w₁, -, hrest⟩ := bind_eq_ok.mp h
  exact hf a w₁ b w' hrest

/-- Something is filed by what comes first. -/
theorem first {m : M σ α} {f : α → M σ β} (hm : Files executionId m)
    (hf : ∀ a, Within (KeysGrow executionId) (f a)) : Files executionId (m >>= f) := by
  intro w b w' h
  obtain ⟨a, w₁, hfirst, hrest⟩ := bind_eq_ok.mp h
  exact ((hf a).of_ok hrest).ne_nil (hm w a w₁ hfirst)

/-- `Action.execute` does not return a status without filing something. -/
theorem runAction (env : Env σ) {o : Origin} (ho : o.executionId = executionId) (action : Action)
    (sender : Sender) (arguments : List Argument) (instanceKey : Option InstanceKey) :
    Files executionId (runAction env o action sender arguments instanceKey) := by
  have hrules := @stepRules_keysGrow σ executionId env
  unfold Program.runAction
  refine later fun api => later fun accumulator => ?_
  split
  · rw [ho]
    refine first (setItem _ _) fun _ => Within.bind (Within.lift _) fun data => ?_
    exact Within.bind (hrules.handle o sender _ _ _ ho) fun _ => Within.pure _
  · exact throw _
  · refine later fun bound => first ?_ fun result => hrules.reportResult ho action sender result
    refine later fun _ => later fun result => ?_
    rw [ho]
    exact first (setItem _ _) fun _ => Within.pure _

end Files

/-- After an action that ended with a status, something is filed. -/
theorem filed_of_performAction {env : Env σ} {o : Origin} (ho : o.executionId = executionId)
    {action : Action} {arguments : List Argument} {resume : Bool} {w w' : World σ} {status : String}
    (h : performAction env o action arguments resume w = .ok (.status status) w') :
    filedKeys executionId w' ≠ [] := by
  obtain ⟨deviceId, w₁, -, hexecute⟩ := bind_eq_ok.mp h
  unfold executeAction at hexecute
  obtain ⟨sender, w₂, -, hrest⟩ := bind_eq_ok.mp hexecute
  split at hrest
  · obtain ⟨_, w₃, -, hrest⟩ := bind_eq_ok.mp hrest
    obtain ⟨_, w₄, -, hrest⟩ := bind_eq_ok.mp hrest
    cases hrest
  · obtain ⟨status', w₃, hrun, hrest⟩ := bind_eq_ok.mp hrest
    obtain ⟨_, w₄, hobserve, hresult⟩ := bind_eq_ok.mp hrest
    cases hresult
    cases hobserve
    show filedKeys executionId w₃ ≠ []
    exact Files.runAction env ho action sender arguments deviceId w₂ status w₃ hrun

/-! ## The end of the loop -/

section

variable {env : Env σ} {control : ℕ → Control} {resume : Bool} {vars : LoopVars}

/-- **After a turn that goes on something is filed.** -/
theorem filed_of_again (hvars : vars.ctx.executionId = executionId) {vars' : LoopVars}
    {w w' : World σ} (hturn : loopTurn env control resume vars w = .ok (.again vars') w') :
    filedKeys executionId w' ≠ [] := by
  have hcases := loopTurn_cases env control resume vars w
  rw [hturn] at hcases
  cases hcases with
  | @executed action vars'' w₁ w₂ _ status henters hpaused haborted hperform hne =>
    have hid : vars''.ctx.origin.executionId = executionId := henters.executionId.trans hvars
    exact filed_of_performAction hid hperform

/-- The texts of the `WorkflowShutdown` events among some packets. -/
def shutdownData (packets : List Packet) : List (Option String) :=
  (packets.filter (·.event = .workflowShutdown)).map (·.additionalData)

/-- The accumulators sent at shutdown come packet by packet. -/
theorem shutdownData_append (packets packets' : List Packet) :
    shutdownData (packets ++ packets') = shutdownData packets ++ shutdownData packets' := by
  unfold shutdownData
  rw [List.filter_append, List.map_append]

/-- Packets that report no outcome carry no accumulator. -/
theorem shutdownData_of_inner {packets : List Packet}
    (h : ∀ p ∈ packets, p.event.isOutcome = false) : shutdownData packets = [] := by
  unfold shutdownData
  have hnone : packets.filter (·.event = .workflowShutdown) = [] := by
    apply List.filter_eq_nil_iff.mpr
    intro p hp hevent
    have houtcome := h p hp
    rw [of_decide_eq_true hevent] at houtcome
    cases houtcome
  rw [hnone]
  rfl

/-- What reports no outcome sends no accumulator. -/
theorem shutdownData_of_quiet {w w' : World σ} (h : Quiet executionId w w') :
    shutdownData w'.sent = shutdownData w.sent := by
  obtain ⟨new, hsent, hnew⟩ := h
  rw [hsent, shutdownData_append, shutdownData_of_inner fun p hp => (hnew p hp).2,
    List.append_nil]

/-- **A turn that returns** has shut the context down, and sent the accumulator it found, or it
sends no `WorkflowShutdown`. -/
theorem shutdown_of_returned {w w' : World σ}
    (hturn : loopTurn env control resume vars w = .ok .returned w') :
    (∃ actions ctx w₁ text, vars.actions.next env vars.ctx w = .ok (none, actions, ctx) w₁ ∧
      ((w₁.accumulators vars.ctx.executionId).asJson vars.ctx.executionId).dumps = .ok text ∧
      shutdownData w'.sent = shutdownData w.sent ++ [some text]) ∨
    shutdownData w'.sent = shutdownData w.sent := by
  have hcases := loopTurn_cases env control resume vars w
  rw [hturn] at hcases
  cases hcases with
  | @shutDown actions ctx w₁ w' hnext hshutdown =>
    left
    have hid : ctx.executionId = vars.ctx.executionId := (next_executionId env hnext).1
    rw [shutdown_eq, hid] at hshutdown
    cases hdumps : ((w₁.accumulators vars.ctx.executionId).asJson vars.ctx.executionId).dumps with
    | error e =>
      simp only [hdumps] at hshutdown
      cases hshutdown
    | ok text =>
      simp only [hdumps] at hshutdown
      cases hshutdown
      refine ⟨actions, ctx, w₁, text, hnext, hdumps, ?_⟩
      show shutdownData (w₁.sent ++ [_]) = _
      rw [shutdownData_append, shutdownData_of_quiet (Quiet.of_frame (frame_next_run hnext))]
      rfl
  | @paused action vars' w₁ w₂ w' henters hpaused hsend =>
    right
    rw [sendEvent_paused env (o := vars'.ctx.origin) henters.executingAction] at hsend
    cases hrefusal : saveRefusal env vars'.ctx.origin.executionId w₂ with
    | some e =>
      rw [hrefusal] at hsend
      cases hsend
    | none =>
      rw [hrefusal] at hsend
      cases hsend
      show shutdownData (w₂.sent ++ [_]) = _
      rw [shutdownData_append, shutdownData_of_quiet henters.quiet]
      exact List.append_nil _
  | @aborted action vars' w₁ w₂ w' henters hpaused haborted hsend =>
    right
    rw [sendEvent_aborted] at hsend
    cases hsend
    show shutdownData (w₂.sent ++ [_]) = _
    rw [shutdownData_append, shutdownData_of_quiet henters.quiet]
    exact List.append_nil _
  | @triggerStatus action vars' w₁ w₂ w' henters hpaused haborted hperform =>
    right
    have hquiet := quiet_performAction env resume vars'.ctx.origin henters.executingAction
      vars.startArguments (w := w₂) (by rw [hperform]; rintro _ _ ⟨⟩)
    rw [hperform] at hquiet
    exact (shutdownData_of_quiet hquiet).trans (shutdownData_of_quiet henters.quiet)

/-- What the accumulator of an execution looks like when it is sent. -/
structure Filed (executionId : UUID) (type : AccumulatorType) (accumulator : Accumulator) :
    Prop where
  hasType : accumulator.type = type
  ids : ∀ key ∈ OrderedDict.keys accumulator.entries, ∃ u : UUID,
    key = Accumulator.formatKey type (.uuid u)
  filed : accumulator.entries ≠ []

/-- A loop that starts at an action with only ids filed, and returns, has sent a filled
accumulator or no `WorkflowShutdown`. -/
theorem shutdownData_of_runLoop {type : AccumulatorType} {turns : ℕ} {start : UUID}
    {w w' : World σ} (hvars : vars.ctx.executionId = executionId)
    (hactions : vars.actions = .fresh start) (hstart : (vars.ctx.getActionById start).isSome = true)
    (htype : (w.accumulators executionId).type = type)
    (hids : ∀ key ∈ filedKeys executionId w, ∃ u : UUID,
      key = Accumulator.formatKey type (.uuid u))
    (hrun : runLoop env control resume turns vars w = .ok .returned w') :
    (∃ accumulator text, Filed executionId type accumulator ∧
      (accumulator.asJson executionId).dumps = .ok text ∧
      shutdownData w'.sent = shutdownData w.sent ++ [some text]) ∨
    shutdownData w'.sent = shutdownData w.sent := by
  have hrules := @stepRules_keysGrow σ executionId env
  have hended : Ended (runLoop env control resume turns vars w) := by
    rw [hrun]
    trivial
  obtain ⟨last, w₁, hends⟩ := exists_endsAt hended
  obtain ⟨k, -, hreach⟩ := hends.reaches
  have hturn : loopTurn env control resume last w₁ = .ok .returned w' := by
    have hloop := hends.loop_eq
    rw [runLoop] at hrun
    rw [hrun] at hloop
    cases hlast : loopTurn env control resume last w₁ with
    | error e u =>
      rw [hlast] at hloop
      cases hloop
    | ok r u =>
      rw [hlast] at hloop
      cases r with
      | again next => cases hloop
      | returned =>
        cases hloop
        rfl
  have hid : last.ctx.executionId = executionId := (frame_reaches hreach).2.1.trans hvars
  have hsent : shutdownData w₁.sent = shutdownData w.sent :=
    shutdownData_of_quiet (Quiet.of_frame (frame_reaches hreach).1)
  have hgrow := hrules.reaches hvars hreach
  have hfiled : last = vars ∨ filedKeys executionId w₁ ≠ [] := by
    clear hturn hends hsent hgrow
    induction hreach with
    | refl vars w => exact .inl rfl
    | @again n vars vars₁ vars₂ w w₁ w₂ hturn hrest ih =>
      right
      have hid₁ := (frame_again hturn).2.1.trans hvars
      exact (hrules.reaches hid₁ hrest).ne_nil (filed_of_again hvars hturn)
  rcases shutdown_of_returned hturn with ⟨actions, ctx, w₂, text, hnext, hdumps, hdata⟩ | hdata
  · left
    rw [hid] at hdumps
    have hnextGrow : KeysGrow executionId w₁ w₂ := (hrules.next hid last.actions).of_ok hnext
    have hall : KeysGrow executionId w w₂ := IsTrans.trans _ _ _ hgrow hnextGrow
    refine ⟨w₂.accumulators executionId, text, ⟨hall.type.trans htype, ?_, ?_⟩, hdumps, ?_⟩
    · intro key hkey
      rcases hall.added key hkey with hold | ⟨u, hu⟩
      · exact hids key hold
      · exact ⟨u, htype ▸ hu⟩
    · have hne : filedKeys executionId w₂ ≠ [] := by
        rcases hfiled with rfl | hne
        · rw [hactions] at hnext
          obtain ⟨action, haction⟩ := Option.isSome_iff_exists.mp hstart
          have hyield : ActionIter.next env last.ctx (.fresh start) w₁ =
              .ok (ActionIter.yield last.ctx (last.ctx.getActionById start)) w₁ := rfl
          rw [hyield, haction] at hnext
          cases hnext
        · exact hnextGrow.ne_nil hne
      intro hnil
      apply hne
      unfold filedKeys
      rw [hnil]
      rfl
    · rw [hdata, hsent]
  · exact .inr (hdata.trans hsent)

end

/-! ## The data of a shutdown -/

/-- No hexadecimal digit is a `u`. -/
theorem hexDigit_ne_u : ∀ n < 16, UUID.hexDigit n ≠ 'u' := by
  decide

/-- No text of hexadecimal digits has a `u`. -/
theorem hexDigits_ne_u (width n : ℕ) : ∀ c ∈ UUID.hexDigits width n, c ≠ 'u' := by
  induction width generalizing n with
  | zero => simp [UUID.hexDigits]
  | succ width ih =>
    intro c hc
    rw [UUID.hexDigits] at hc
    rcases List.mem_append.mp hc with hc | hc
    · exact ih (n / 16) c hc
    · rw [List.mem_singleton.mp hc]
      exact hexDigit_ne_u _ (Nat.mod_lt _ (by decide))

/-- No id begins like a key of the cache: its text has no `u`. -/
theorem str_ne_itemKey (u executionId : UUID) (key : Key) :
    u.str ≠ Accumulator.itemKey .external executionId key := by
  intro h
  have hmem : 'u' ∈ u.str.toList := by
    rw [h]
    unfold Accumulator.itemKey
    simp
  have hdigit : 'u' ∈ UUID.hexDigits 32 u.toNat := by
    rw [← UUID.filter_str]
    exact List.mem_filter.mpr ⟨hmem, rfl⟩
  exact hexDigits_ne_u _ _ _ hdigit rfl

/-- The JSON of a filled dictionary begins with its first key. -/
theorem firstKey_eq {k k' text : String} {x x' : PyVal} {items items' : List (String × PyVal)}
    (h : (PyVal.dict ((k, x) :: items)).dumps = .ok text)
    (h' : (PyVal.dict ((k', x') :: items')).dumps = .ok text) : k = k' := by
  have hread : ∀ {k : String} {x : PyVal} {items : List (String × PyVal)},
      (PyVal.dict ((k, x) :: items)).dumps = .ok text →
        ∃ rest, readString (text.toList.drop 2) = some (k, rest) := by
    intro k x items hdumps
    rw [PyVal.dumps] at hdumps
    obtain ⟨texts, htexts, hresult⟩ := Library.Except.bind_eq_ok.mp hdumps
    obtain ⟨first, others, rfl, -, -⟩ := dumpsItems_cons htexts
    obtain rfl := Except.ok.inj hresult
    have hjoined : ∃ rest, (", ".intercalate ((PyVal.quote k ++ ": " ++ first) :: others)).toList =
        '"' :: (k.toList.flatMap PyVal.escapeChar ++ '"' :: rest) := by
      cases others with
      | nil =>
        rw [String.intercalate_singleton, toList_item]
        exact ⟨_, rfl⟩
      | cons other others =>
        rw [toList_intercalate_cons _ _ (List.cons_ne_nil _ _), toList_item]
        exact ⟨_, by rw [List.cons_append, List.append_assoc, List.cons_append]⟩
    obtain ⟨rest, hrest⟩ := hjoined
    refine ⟨rest ++ ['\x7d'], ?_⟩
    rw [toList_braces, hrest, List.cons_append, List.append_assoc, List.cons_append]
    exact readString_quote k _
  obtain ⟨rest, hk⟩ := hread h
  obtain ⟨rest', hk'⟩ := hread h'
  rw [hk] at hk'
  cases hk'
  rfl

/-- **The data of the two types of accumulators differ.** -/
theorem Filed.dumps_ne {memory external : Accumulator} {text text' : String}
    (hmemory : Filed executionId .memory memory) (hexternal : Filed executionId .external external)
    (h : (memory.asJson executionId).dumps = .ok text)
    (h' : (external.asJson executionId).dumps = .ok text') : text ≠ text' := by
  rintro rfl
  obtain ⟨⟨key, x⟩, items, hitems⟩ := List.exists_cons_of_ne_nil hmemory.filed
  obtain ⟨⟨key', x'⟩, items', hitems'⟩ := List.exists_cons_of_ne_nil hexternal.filed
  obtain ⟨u, hu⟩ := hmemory.ids key (by
    rw [hitems]
    exact List.mem_cons_self)
  unfold Accumulator.asJson at h h'
  rw [hmemory.hasType, hitems, List.map_cons] at h
  rw [hexternal.hasType, hitems', List.map_cons] at h'
  have hkeys := firstKey_eq h h'
  dsimp only at hkeys
  rw [hu] at hkeys
  exact str_ne_itemKey u executionId key' hkeys

/-! ## Uninterrupted runs -/

/-- A pending execution of a valid workflow from one of its actions, with any start arguments and
environment variables, of which nothing is filed yet and no shutdown has been sent. -/
structure NewExecution (σ : Type) where
  env : Env σ
  world : World σ
  workflow : Workflow
  request : Request
  thread : String
  pending : world.status request.executionId = some .pending
  stored : world.workflow request.workflowId = some workflow
  valid : workflow.isValid = true
  starts : request.resume = false
  start_mem : ∃ action ∈ workflow.actions, request.start.or workflow.start = some action.id
  unfiled : (world.accumulators request.executionId).entries = []

/-- The run of the execution with one type of accumulator, for a number of turns. -/
def NewExecution.run (x : NewExecution σ) (type : AccumulatorType) (turns : ℕ) :
    EStateM.Result Exn (World σ) Progress :=
  execute { x.env with accumulatorType := type } undisturbed turns x.thread x.request x.world

/-- The runs with the two types of accumulators return, having done the same; they have sent a
`WorkflowShutdown` with the same data, and left an empty accumulator. -/
def Interchangeable (x : NewExecution σ) : Prop :=
  ∃ turns turns' memory external text,
    x.run .memory turns = .ok .returned memory ∧ x.run .external turns' = .ok .returned external ∧
    memory.log = external.log ∧
    shutdownData memory.sent = shutdownData x.world.sent ++ [some text] ∧
    shutdownData external.sent = shutdownData x.world.sent ++ [some text] ∧
    (memory.accumulators x.request.executionId).entries = [] ∧
    (external.accumulators x.request.executionId).entries = []

/-- The keys after an update are old ones or those of the items. -/
theorem mem_keys_update {α β : Type} [DecidableEq α] {d : OrderedDict α β} {items : List (α × β)}
    {key : α} (h : key ∈ OrderedDict.keys (OrderedDict.update d items)) :
    key ∈ OrderedDict.keys d ∨ key ∈ items.map Prod.fst := by
  induction items generalizing d with
  | nil => exact .inl h
  | cons item items ih =>
    rcases ih h with hkey | hkey
    · rcases (OrderedDict.mem_keys_set _ _ _ _).mp hkey with rfl | hkey
      · exact .inr List.mem_cons_self
      · exact .inl hkey
    · exact .inr (List.mem_cons_of_mem _ hkey)

/-- Only ids are filed, in the way of the type. -/
def OnlyIds (type : AccumulatorType) (accumulator : Accumulator) : Prop :=
  accumulator.type = type ∧ ∀ key ∈ OrderedDict.keys accumulator.entries, ∃ u : UUID,
    key = Accumulator.formatKey type (.uuid u)

/-- An update with ids leaves only ids filed. -/
theorem OnlyIds.update {type : AccumulatorType} {accumulator : Accumulator}
    (h : OnlyIds type accumulator) {items : List (Key × PyVal)}
    (hitems : ∀ item ∈ items, ∃ u : UUID, item.1 = .uuid u) :
    OnlyIds type (accumulator.update items) := by
  obtain ⟨htype, hids⟩ := h
  refine ⟨htype, fun key hkey => ?_⟩
  rcases mem_keys_update hkey with hold | hnew
  · exact hids key hold
  · rw [List.map_map] at hnew
    obtain ⟨item, hitem, rfl⟩ := List.mem_map.mp hnew
    obtain ⟨u, hu⟩ := hitems item hitem
    exact ⟨u, by rw [Function.comp_apply, hu, htype]⟩

/-- An accumulator put back in its place is found there. -/
theorem OnlyIds.put {type : AccumulatorType} {accumulator : Accumulator}
    (h : OnlyIds type accumulator) {accumulators : UUID → Accumulator} {id : UUID} :
    OnlyIds type (Function.update accumulators id accumulator id) := by
  rw [Function.update_self]
  exact h

/-- The entries a run starts with are filed under ids. -/
theorem initialEntries_ids (workflow : Workflow) (fromResumed : Bool) :
    ∀ item ∈ initialEntries workflow fromResumed, ∃ u : UUID, item.1 = .uuid u := by
  intro item hitem
  unfold initialEntries at hitem
  rcases List.mem_append.mp hitem with hitem | hitem
  · obtain ⟨variable', -, rfl⟩ := List.mem_map.mp hitem
    exact ⟨variable'.id, rfl⟩
  · split at hitem
    · cases hitem
    · obtain ⟨branch, -, rfl⟩ := List.mem_map.mp hitem
      exact ⟨branch.id, rfl⟩

/-- The context of a new execution is made with only ids filed. -/
theorem NewExecution.prepare_ok (x : NewExecution σ) (type : AccumulatorType) :
    ∃ w₁, prepare { x.env with accumulatorType := type } x.request x.world =
        .ok (some (newContext x.workflow x.request.executionId none)) w₁ ∧
      OnlyIds type (w₁.accumulators x.request.executionId) ∧ w₁.sent = x.world.sent := by
  rw [prepare_eq x.pending (by decide), x.stored]
  dsimp only
  rw [x.valid, if_neg (by decide), x.starts, if_neg Bool.false_ne_true]
  have hnew : OnlyIds type { type, entries := [] } := ⟨rfl, by simp [OrderedDict.keys]⟩
  have hinitial := hnew.update (initialEntries_ids x.workflow (x.request.user.any (· ≠ "")))
  cases type with
  | memory =>
    refine ⟨_, rfl, ?_, rfl⟩
    exact hinitial.put
  | external =>
    refine ⟨_, rfl, ?_, rfl⟩
    have hfresh : { x.world.accumulators x.request.executionId with type := .external } =
        ({ type := .external, entries := [] } : Accumulator) :=
      congrArg (Accumulator.mk .external) x.unfiled
    rw [← hfresh] at hinitial
    exact hinitial.put

/-- The environment variables of a request are filed under their ids. -/
theorem announceStart_onlyIds {env : Env σ} {type : AccumulatorType} {ctx : Context}
    {w w' : World σ} {vars : List EnvironmentVariable} (hids : OnlyIds type (w.accumulators ctx.executionId))
    (h : announceStart env ctx vars w = .ok () w') :
    OnlyIds type (w'.accumulators ctx.executionId) ∧
      shutdownData w'.sent = shutdownData w.sent := by
  obtain ⟨_, w₁, hfile, hsend⟩ := bind_eq_ok.mp h
  rw [sendEvent_start] at hsend
  cases hsend
  have hsent : shutdownData (w₁.withPacket
      (workflowPacket ctx.origin .workflowExecutionStart "null")).sent = shutdownData w₁.sent := by
    show shutdownData (w₁.sent ++ [_]) = _
    rw [shutdownData_append]
    exact List.append_nil _
  rw [hsent]
  unfold fileEnvironmentVariables at hfile
  split at hfile
  · cases hfile
    exact ⟨hids, rfl⟩
  · cases hfile
    refine ⟨?_, rfl⟩
    apply OnlyIds.put
    apply hids.update
    intro item hitem
    obtain ⟨v, -, rfl⟩ := List.mem_map.mp hitem
    exact ⟨v.id, rfl⟩

/-- **What a run sends of a new execution** when it shuts down: a filled accumulator. -/
theorem NewExecution.shutdownData_run (x : NewExecution σ) {type : AccumulatorType} {turns : ℕ}
    {w : World σ} (h : x.run type turns = .ok .returned w) :
    (∃ accumulator text, Filed x.request.executionId type accumulator ∧
      (accumulator.asJson x.request.executionId).dumps = .ok text ∧
      shutdownData w.sent = shutdownData x.world.sent ++ [some text]) ∨
    shutdownData w.sent = shutdownData x.world.sent := by
  obtain ⟨w₁, hprepare, hids, hsent⟩ := x.prepare_ok type
  unfold NewExecution.run at h
  rw [execute_of_context hprepare] at h
  obtain ⟨action, haction, hstart⟩ := x.start_mem
  set ctx := newContext x.workflow x.request.executionId none with hctx
  have hrequest : ∃ w₂, runRequest { x.env with accumulatorType := type } undisturbed turns
      x.request ctx (finalState (register x.thread ctx w₁)) = .ok .returned w₂ ∧
      w₂.sent = w.sent := by
    cases hrun : runRequest { x.env with accumulatorType := type } undisturbed turns x.request ctx
        (finalState (register x.thread ctx w₁)) with
    | error e w' =>
      rw [hrun] at h
      cases h
    | ok progress w' =>
      rw [hrun] at h
      cases progress with
      | running vars => cases h
      | returned =>
        cases h
        exact ⟨w', rfl, rfl⟩
  obtain ⟨w₂, hrun, hsent₂⟩ := hrequest
  rw [← hsent₂, ← hsent]
  unfold runRequest strategyExecute at hrun
  obtain ⟨_, w₃, hannounce, hrest⟩ := bind_eq_ok.mp hrun
  have hfirst : (x.request.start.or ctx.workflow.start).or ctx.workflow.start = some action.id := by
    show (x.request.start.or x.workflow.start).or x.workflow.start = some action.id
    rw [hstart]
    rfl
  rw [hfirst, x.starts] at hrest
  obtain ⟨hids₃, hsent₃⟩ := announceStart_onlyIds hids hannounce
  have hsome : (ctx.getActionById action.id).isSome = true := by
    apply List.find?_isSome.mpr
    exact ⟨action, haction, decide_eq_true rfl⟩
  have hloop := @shutdownData_of_runLoop σ x.request.executionId
    { x.env with accumulatorType := type } undisturbed false
    { ctx, actions := .fresh action.id, startArguments := x.request.startArguments, boundary := 0 }
    type turns action.id w₃ w₂ rfl rfl hsome hids₃.1 hids₃.2 hrest
  rw [hsent₃] at hloop
  exact hloop

/-- **The data two runs of an execution shut down with differ.** -/
theorem NewExecution.shutdown_ne (x : NewExecution σ) {turns turns' : ℕ} {memory external : World σ}
    {text text' : String} (hmemory : x.run .memory turns = .ok .returned memory)
    (hexternal : x.run .external turns' = .ok .returned external)
    (hdata : shutdownData memory.sent = shutdownData x.world.sent ++ [some text])
    (hdata' : shutdownData external.sent = shutdownData x.world.sent ++ [some text']) :
    text ≠ text' := by
  rcases x.shutdownData_run hmemory with ⟨accumulator, text₁, hfiled, hdumps, hsent⟩ | hsent
  · rcases x.shutdownData_run hexternal with ⟨accumulator', text₂, hfiled', hdumps', hsent'⟩ | hsent'
    · have htext : [some text] = [some text₁] := List.append_cancel_left (hdata.symm.trans hsent)
      have htext' : [some text'] = [some text₂] :=
        List.append_cancel_left (hdata'.symm.trans hsent')
      simp only [List.cons.injEq, Option.some.injEq, and_true] at htext htext'
      rw [htext, htext']
      exact hfiled.dumps_ne hfiled' hdumps hdumps'
    · rw [hdata'] at hsent'
      simp at hsent'
  · rw [hdata] at hsent
    simp at hsent

/-- No execution runs the same with the two types of accumulators. -/
theorem not_interchangeable (x : NewExecution σ) : ¬ Interchangeable x := by
  rintro ⟨turns, turns', memory, external, text, hmemory, hexternal, -, hdata, hdata', -, -⟩
  exact x.shutdown_ne hmemory hexternal hdata hdata' rfl

/-- A new execution of a workflow with one action. -/
def oneAction : NewExecution Unit where
  env := succeeding
  world := pendingWorld (sampleWorkflow [sampleAction 1 none] [])
  workflow := sampleWorkflow [sampleAction 1 none] []
  request := sampleRequest
  thread := "worker"
  pending := rfl
  stored := rfl
  valid := rfl
  starts := rfl
  start_mem := ⟨sampleAction 1 none, List.mem_singleton_self _, rfl⟩
  unfiled := rfl

/-- The runs of one action report different data. -/
theorem oneAction_not_interchangeable : ¬ Interchangeable oneAction := by
  rintro ⟨turns, turns', memory, external, text, hmemory, hexternal, -, hdata, hdata', -, -⟩
  exact oneAction.shutdown_ne hmemory hexternal hdata hdata' rfl

end Walkoff.Analysis
