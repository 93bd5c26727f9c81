import Walkoff.Analysis.SavedStates
import Walkoff.Analysis.StepRules

/-!
# The life of an app instance

An instance is created when the loop first gets to an action on its device; it travels
through the saved states of the execution and is shut down when the loop runs out of actions.
An abort shuts nothing down, neither at an action of a run nor between two runs.
-/

set_option autoImplicit false

namespace Walkoff.Analysis

open Walkoff.Model Walkoff.Program
open Walkoff.Library (Always Guarded Run EndsAt Ended Within OrderedDict bind_apply get_apply
  finalState finalState_bind_pure follow)

/-! ## A record of app instances -/

/-- What happens to an app instance. -/
inductive InstanceEvent where
  /-- `AppInstance.create`, and whether the app's constructor has returned. -/
  | created (key : InstanceKey) (constructed : Bool)
  /-- `shutdown` is called on the instance. -/
  | shutDown (key : InstanceKey)
  deriving DecidableEq

/-- The keys instances have been created for. -/
def createdKeys : List InstanceEvent → List InstanceKey
  | [] => []
  | .created key _ :: events => key :: createdKeys events
  | .shutDown _ :: events => createdKeys events

/-- The calls of `shutdown_instances`: one for every key that holds an instance. -/
def shutdownCalls (keys : List InstanceKey) (events : List InstanceEvent) : List InstanceEvent :=
  (keys.filter fun key => .created key true ∈ events).map .shutDown

variable {σ : Type}

/-- The app code with a record of its instances. A constructor that raises leaves none. -/
def watched (env : Env σ) (constructed : InstanceKey → σ → Bool) :
    Env (σ × List InstanceEvent) where
  accumulatorType := env.accumulatorType
  appApis := env.appApis
  isAppActionBound := env.isAppActionBound
  validateParameter := env.validateParameter
  appFunction action arguments instanceKey state :=
    let (result, behaviour) := env.appFunction action arguments instanceKey state.1
    (result, behaviour, state.2)
  condition condition dataIn accumulator state :=
    let (result, behaviour) := env.condition condition dataIn accumulator state.1
    (result, behaviour, state.2)
  createInstance key state :=
    (env.createInstance key state.1, state.2 ++ [.created key (constructed key state.1)])
  shutdownInstances keys state :=
    (env.shutdownInstances keys state.1, state.2 ++ shutdownCalls keys state.2)
  instancesPickle keys state := env.instancesPickle keys state.1

/-- The record. -/
def events (w : World (σ × List InstanceEvent)) : List InstanceEvent := w.behaviour.2

/-- **The life of the app instances of an execution**: there is one for a key at most, and when
the execution is over each has been shut down once. -/
structure InstanceLifetime (executionId : UUID) (w : World (σ × List InstanceEvent)) : Prop where
  once : (createdKeys (events w)).Nodup
  shutDown : Over executionId w → ∀ key, .created key true ∈ events w →
    (events w).count (.shutDown key) = 1

/-- A turn gets to an action and is aborted there, when an app instance has been constructed. -/
def TurnAbandons (env : Env (σ × List InstanceEvent)) (control : ℕ → Control) (resume : Bool)
    (vars : LoopVars) (w : World (σ × List InstanceEvent)) : Prop :=
  ∃ action vars' w₁ w₂, Enters env control resume vars w action vars' w₁ w₂ ∧
    vars'.ctx.isPaused = false ∧ vars'.ctx.isAborted = true ∧ ∃ key, .created key true ∈ events w₂

/-- A step aborts the execution when an app instance has been constructed: the run of a worker
at an action, or the controller between two runs. -/
def Abandons (env : Env (σ × List InstanceEvent)) (executionId : UUID)
    (w : World (σ × List InstanceEvent)) : LifecycleOp → Prop
  | .work thread control turns => ∃ request requests, w.requestQueue = request :: requests ∧
      ∃ vars v, LastTurnAt env control turns thread request { w with requestQueue := requests } vars v ∧
        TurnAbandons env control request.resume vars v
  | .abort => ∃ row, OrderedDict.get? executionId w.workflowStatus = some row ∧
      Abortable row.status ∧ (w.workflow row.workflowId).isSome = true ∧
      ∃ key, .created key true ∈ events w
  | _ => False

/-! ## While nothing is shut down -/

/-- The created keys come event by event. -/
theorem createdKeys_append (xs ys : List InstanceEvent) :
    createdKeys (xs ++ ys) = createdKeys xs ++ createdKeys ys := by
  induction xs with
  | nil => rfl
  | cons x xs ih => cases x <;> simp [createdKeys, ih]

/-- A key that was created is among them. -/
theorem mem_createdKeys {key : InstanceKey} {constructed : Bool} {events : List InstanceEvent}
    (h : .created key constructed ∈ events) : key ∈ createdKeys events := by
  induction events with
  | nil => cases h
  | cons event events ih =>
    rcases List.mem_cons.mp h with rfl | hrest
    · exact List.mem_cons_self
    · cases event with
      | created other flag => exact List.mem_cons_of_mem _ (ih hrest)
      | shutDown other => exact ih hrest

/-- Shutting instances down creates none. -/
theorem createdKeys_shutdownCalls (keys : List InstanceKey) (events : List InstanceEvent) :
    createdKeys (shutdownCalls keys events) = [] := by
  unfold shutdownCalls
  induction keys.filter _ with
  | nil => rfl
  | cons key keys ih => exact ih

/-- The instances the loop holds are the ones that have been created, and none of them has been
shut down. -/
structure Tracked (w : World (σ × List InstanceEvent)) : Prop where
  created : createdKeys (events w) = w.instances
  nodup : w.instances.Nodup
  open_ : ∀ key, .shutDown key ∉ events w

/-- A step keeps track of the instances. -/
def KeepsTrack (w w' : World (σ × List InstanceEvent)) : Prop := Tracked w → Tracked w'

instance : Std.Refl (KeepsTrack : World (σ × List InstanceEvent) → _ → Prop) where
  refl _ h := h

instance : IsTrans (World (σ × List InstanceEvent)) KeepsTrack where
  trans _ _ _ huv hvw h := hvw (huv h)

/-- The record and the instances are as before. -/
structure SameInstances (w w' : World (σ × List InstanceEvent)) : Prop where
  events : events w' = events w
  instances : w'.instances = w.instances

instance : Std.Refl (SameInstances : World (σ × List InstanceEvent) → _ → Prop) where
  refl _ := ⟨rfl, rfl⟩

instance : IsTrans (World (σ × List InstanceEvent)) SameInstances where
  trans _ _ _ huv hvw := ⟨hvw.events.trans huv.events, hvw.instances.trans huv.instances⟩

/-- Sameness of instances is symmetric. -/
theorem SameInstances.symm {w w' : World (σ × List InstanceEvent)} (h : SameInstances w w') :
    SameInstances w' w :=
  ⟨h.events.symm, h.instances.symm⟩

/-- Where the instances are the same, they are kept track of. -/
theorem SameInstances.keepsTrack {w w' : World (σ × List InstanceEvent)}
    (h : SameInstances w w') : KeepsTrack w w' := by
  intro htracked
  refine ⟨?_, ?_, ?_⟩
  · rw [h.events, h.instances]
    exact htracked.created
  · rw [h.instances]
    exact htracked.nodup
  · rw [h.events]
    exact htracked.open_

/-- Handling an event leaves the instances. -/
theorem sameInstances_handleEvent (env : Env (σ × List InstanceEvent)) (o : Origin)
    (sender : Sender) (event : WalkoffEvent) (data : Option PyVal) (arguments : List Argument) :
    Within SameInstances
      (handleEvent env o sender event data arguments : M (σ × List InstanceEvent) Unit) := by
  intro w
  have h := sameRuntime_handleEvent env o sender event data arguments w
  exact ⟨congrArg Prod.snd h.behaviour, h.instances⟩

/-- The same of filing an item. -/
theorem sameInstances_setAccumulatorItem (executionId key : UUID) (value : PyVal) :
    Within SameInstances
      (setAccumulatorItem executionId key value : M (σ × List InstanceEvent) Unit) := by
  refine Within.bind (fun _ => ⟨rfl, rfl⟩) fun accumulator => ?_
  exact Within.bind (Within.lift _) fun _ _ => ⟨rfl, rfl⟩

/-- App code that leaves the record alone. -/
theorem sameInstances_behave {α : Type}
    {f : σ × List InstanceEvent → Except Exn α × (σ × List InstanceEvent)}
    (hf : ∀ state, (f state).2.2 = state.2) : Within SameInstances (behave f) := by
  intro w
  have hsame := hf w.behaviour
  unfold behave
  generalize f w.behaviour = acted at hsame
  obtain ⟨result, behaviour⟩ := acted
  cases result with
  | ok a => exact ⟨hsame, rfl⟩
  | error e => exact ⟨hsame, rfl⟩

section

variable (env : Env σ) (constructed : InstanceKey → σ → Bool)

/-- The same of a condition of the apps. -/
theorem sameInstances_condition (condition : Condition) (dataIn : PyVal)
    (accumulator : Accumulator) :
    Within SameInstances (behave ((watched env constructed).condition condition dataIn accumulator)) :=
  sameInstances_behave fun _ => rfl

/-- The same of a function of the apps. -/
theorem sameInstances_appFunction (action : Action) (arguments : OrderedDict String PyVal)
    (instanceKey : Option InstanceKey) :
    Within SameInstances
      (behave ((watched env constructed).appFunction action arguments instanceKey)) :=
  sameInstances_behave fun _ => rfl

/-- **The steps of a run keep track of the instances.** -/
theorem stepRules_keepsTrack (executionId : UUID) :
    StepRules KeepsTrack (watched env constructed) executionId where
  condition _ _ _ w := (sameInstances_condition env constructed _ _ _ w).keepsTrack
  appFunction _ _ _ w := (sameInstances_appFunction env constructed _ _ _ w).keepsTrack
  newUuid4 _ := SameInstances.keepsTrack ⟨rfl, rfl⟩
  setItem key value w := (sameInstances_setAccumulatorItem executionId key value w).keepsTrack
  handle o sender event data arguments _ w :=
    (sameInstances_handleEvent _ o sender event data arguments w).keepsTrack
  create key w hnew htracked := by
    have hcreated : createdKeys (events w ++ [.created key (constructed key w.behaviour.1)]) =
        w.instances ++ [key] := by
      rw [createdKeys_append, htracked.created]
      rfl
    refine ⟨hcreated, ?_, ?_⟩
    · exact List.Nodup.append htracked.nodup (List.nodup_singleton key) (by simpa using hnew)
    · intro other hmem
      rcases List.mem_append.mp hmem with hold | hlast
      · exact htracked.open_ other hold
      · cases List.mem_singleton.mp hlast
  observe _ _ := SameInstances.keepsTrack ⟨rfl, rfl⟩

/-- The steps of the controller leave the instances alone. -/
theorem controllerRules_sameInstances :
    ControllerRules SameInstances (watched env constructed) where
  condition := sameInstances_condition env constructed
  trigger _ _ _ := ⟨rfl, rfl⟩
  tables _ _ _ _ _ := ⟨rfl, rfl⟩

end

/-! ## The beginning of a run -/

/-- The same of setting the accumulator up. -/
theorem sameInstances_initAccumulator (env : Env (σ × List InstanceEvent)) (ctx : Context)
    (fromResumed : Bool) : Within SameInstances (initAccumulator env ctx fromResumed) := by
  refine Within.bind ?_ fun accumulator _ => ⟨rfl, rfl⟩
  unfold makeAccumulator
  cases env.accumulatorType with
  | memory => exact Within.pure _
  | external => exact fun _ => ⟨rfl, rfl⟩

/-- **The instances of a run** are the ones of the saved state, if it is a resumption. -/
theorem instances_of_prepare {env : Env (σ × List InstanceEvent)} {request : Request}
    {ctx : Context} {w w₁ : World (σ × List InstanceEvent)}
    (h : prepare env request w = .ok (some ctx) w₁) :
    events w₁ = events w ∧ w₁.instances = if request.resume then
      ((w.savedState request.executionId).map (·.appInstances)).getD [] else [] := by
  have hstartable : Startable request w := by
    by_contra hnot
    exact prepare_of_not_startable hnot ctx w₁ h
  obtain ⟨status, workflow, hstatus, haborted, hworkflow, hvalid, hresumed⟩ := hstartable
  rw [prepare_eq hstatus haborted, hworkflow] at h
  dsimp only at h
  rw [hvalid, if_neg (by decide)] at h
  cases hresume : request.resume with
  | true =>
    rw [hresume, if_pos rfl] at h
    obtain ⟨saved, hsaved⟩ := Option.isSome_iff_exists.mp (hresumed hresume)
    rw [makeResumedContext, bind_apply, get_apply] at h
    simp only [hsaved] at h
    obtain ⟨_, w₂, hmodify, hinit⟩ := Library.bind_eq_ok.mp h
    cases hmodify
    obtain ⟨_, w₃, hinit, hpure⟩ := Library.bind_eq_ok.mp hinit
    cases hpure
    have hsame := (sameInstances_initAccumulator _ _ _).of_ok hinit
    refine ⟨hsame.events, ?_⟩
    rw [hsaved, hsame.instances]
    rfl
  | false =>
    rw [hresume, if_neg Bool.false_ne_true] at h
    obtain ⟨ctx', w₂, hmake, hpure⟩ := Library.bind_eq_ok.mp h
    cases hpure
    obtain ⟨_, w₃, hmodify, hinit⟩ := Library.bind_eq_ok.mp hmake
    cases hmodify
    obtain ⟨_, w₄, hinit, hpure⟩ := Library.bind_eq_ok.mp hinit
    cases hpure
    have hsame := (sameInstances_initAccumulator _ _ _).of_ok hinit
    exact ⟨hsame.events, hsame.instances⟩

/-- Getting from a context to the loop leaves the instances alone. -/
theorem sameInstances_announced (env : Env (σ × List InstanceEvent)) (thread : String)
    (request : Request) (ctx : Context) (w : World (σ × List InstanceEvent)) :
    SameInstances w (announced env thread request ctx w) := by
  have hannounce : Within SameInstances
      (announceStart env ctx request.environmentVariables : M (σ × List InstanceEvent) Unit) := by
    refine Within.bind ?_ fun _ => sameInstances_handleEvent _ _ _ _ _ _
    unfold fileEnvironmentVariables
    split
    · exact Within.pure _
    · exact Within.bind (fun _ => ⟨rfl, rfl⟩) fun _ _ => ⟨rfl, rfl⟩
  have hregister : SameInstances w (finalState (register thread ctx w)) := ⟨rfl, rfl⟩
  exact IsTrans.trans _ _ _ hregister (hannounce _)

/-! ## The last turn -/

/-- How a turn leaves the instances, by the packets that change the status of the execution;
`abandons` is what it takes for an abort to leave one behind. -/
inductive LastPackets (executionId : UUID) (abandons : Prop)
    (w w' : World (σ × List InstanceEvent)) : List Packet → Prop where
  | nothing : LastPackets executionId abandons w w' []
  | shutDown {packet : Packet} (hevent : packet.event = .workflowShutdown)
    (hall : ∀ key, .created key true ∈ events w' → (events w').count (.shutDown key) = 1) :
    LastPackets executionId abandons w w' [packet]
  | aborted {packet : Packet} (hevent : packet.event = .workflowAborted) (htracked : Tracked w')
    (habandons : ∀ key, .created key true ∈ events w' → abandons) :
    LastPackets executionId abandons w w' [packet]
  | halted {packet : Packet} {saved : SavedWorkflow} (hevent : packet.event.savesWorkflow = true)
    (htracked : Tracked w') (hnone : w.savedState executionId = none)
    (hsaved : w'.savedWorkflow = w.savedWorkflow ++ [saved])
    (hid : saved.workflowExecutionId = executionId) (hinstances : saved.appInstances = w'.instances) :
    LastPackets executionId abandons w w' [packet]

/-- What a turn sends and what becomes of the instances. -/
structure Settles (executionId : UUID) (abandons : Prop)
    (w w' : World (σ × List InstanceEvent)) (last : List Packet) : Prop where
  workflowStatus : w'.workflowStatus = w.workflowStatus
  sent : ∃ inner, w'.sent = w.sent ++ (inner ++ last) ∧ ∀ p ∈ inner, Inner executionId p
  ids : ∀ p ∈ last, p.executionId = executionId
  once : (createdKeys (events w')).Nodup
  packets : LastPackets executionId abandons w w' last

variable {executionId : UUID} {abandons : Prop}

/-- A turn that changes no status. -/
theorem settles_of_ordinary {w w' : World (σ × List InstanceEvent)}
    (h : Ordinary executionId w w') (htracked : Tracked w') : Settles executionId abandons w w' [] := by
  obtain ⟨inner, hsent, hinner⟩ := h.sent
  refine ⟨h.workflowStatus, ⟨inner, ?_, hinner⟩, by simp, ?_, .nothing⟩
  · rw [hsent, List.append_nil]
  · rw [htracked.created]
    exact htracked.nodup

/-- Getting to the turn that settles them. -/
theorem Settles.after {u v w : World (σ × List InstanceEvent)} {last : List Packet}
    {abandons' : Prop} (himp : abandons → abandons') (huv : Ordinary executionId u v)
    (h : Settles executionId abandons v w last) : Settles executionId abandons' u w last := by
  obtain ⟨inner, hsent, hinner⟩ := huv.sent
  obtain ⟨inner', hsent', hinner'⟩ := h.sent
  refine ⟨h.workflowStatus.trans huv.workflowStatus, ⟨inner ++ inner', ?_, ?_⟩, h.ids, h.once, ?_⟩
  · rw [hsent', hsent]
    simp only [List.append_assoc]
  · intro p hp
    exact (List.mem_append.mp hp).elim (hinner p) (hinner' p)
  · have hpackets := h.packets
    cases hpackets with
    | nothing => exact .nothing
    | shutDown hevent hall => exact .shutDown hevent hall
    | aborted hevent htracked habandons =>
      exact .aborted hevent htracked fun key hkey => himp (habandons key hkey)
    | halted hevent htracked hnone hsaved hid hinstances =>
      rw [huv.savedState] at hnone
      rw [huv.savedWorkflow] at hsaved
      exact .halted hevent htracked hnone hsaved hid hinstances

/-- Every instance is shut down once. -/
theorem count_shutDown {w : World (σ × List InstanceEvent)} (h : Tracked w) {key : InstanceKey}
    (hkey : .created key true ∈ events w) :
    (events w ++ shutdownCalls w.instances (events w)).count (.shutDown key) = 1 := by
  have hmem : key ∈ w.instances := by
    rw [← h.created]
    exact mem_createdKeys hkey
  have hinj : Function.Injective InstanceEvent.shutDown := by
    intro a b hab
    cases hab
    rfl
  rw [List.count_append, List.count_eq_zero.mpr (h.open_ key), shutdownCalls, Nat.zero_add,
    List.count_map_of_injective _ _ hinj]
  apply List.count_eq_one_of_mem (h.nodup.filter _)
  exact List.mem_filter.mpr ⟨hmem, decide_eq_true hkey⟩

/-- **Shutting the context down** shuts every instance down, and reports it if the accumulator
is JSON. -/
theorem settles_shutdown (env : Env σ) (constructed : InstanceKey → σ → Bool) (ctx : Context)
    {w : World (σ × List InstanceEvent)} (h : Tracked w) :
    ∃ last, Settles ctx.executionId abandons w
      (finalState (shutdown (watched env constructed) ctx w)) last := by
  have honce : (createdKeys (events w ++ shutdownCalls w.instances (events w))).Nodup := by
    rw [createdKeys_append, createdKeys_shutdownCalls, List.append_nil, h.created]
    exact h.nodup
  rw [shutdown_eq]
  cases ((w.accumulators ctx.executionId).asJson ctx.executionId).dumps with
  | error e =>
    exact ⟨[], rfl, ⟨[], (List.append_nil _).symm, by simp⟩, by simp, honce, .nothing⟩
  | ok text =>
    refine ⟨[workflowPacket ctx.origin .workflowShutdown text], rfl, ⟨[], rfl, by simp⟩, ?_, honce, ?_⟩
    · intro p hp
      rw [List.mem_singleton.mp hp]
      rfl
    · exact .shutDown rfl fun key hkey => count_shutDown h (by
        rcases List.mem_append.mp hkey with hkey | hkey
        · exact hkey
        · obtain ⟨_, -, heq⟩ := List.mem_map.mp hkey
          cases heq)

/-- **A pause** saves the instances, or is refused. -/
theorem settles_paused (env : Env (σ × List InstanceEvent)) {o : Origin} {action : Action}
    (haction : o.executingAction = some action) {w : World (σ × List InstanceEvent)} (h : Tracked w) :
    ∃ last, Settles o.executionId abandons w (finalState (sendEvent env o .workflowPaused none w)) last := by
  have honce : (createdKeys (events w)).Nodup := by
    rw [h.created]
    exact h.nodup
  rw [sendEvent_paused env haction]
  cases hrefusal : saveRefusal env o.executionId w with
  | some e =>
    exact ⟨[], rfl, ⟨[], (List.append_nil _).symm, by simp⟩, by simp, honce, .nothing⟩
  | none =>
    have hsaved := (saveRefusal_eq_none_iff.mp hrefusal).2
    refine ⟨[workflowPacket o .workflowPaused "null"], rfl, ⟨[], rfl, by simp⟩, ?_, honce, ?_⟩
    · intro p hp
      rw [List.mem_singleton.mp hp]
      rfl
    · have hsame : SameInstances w (((w.withSavedWorkflow
          (savedWorkflowFromWorkflow o action w.instances)).logged
            (.saved action.id true)).withPacket (workflowPacket o .workflowPaused "null")) :=
        ⟨rfl, rfl⟩
      have htracked := hsame.keepsTrack h
      exact .halted rfl htracked hsaved rfl rfl rfl

/-- An await does so, too. -/
theorem settles_awaitData (env : Env (σ × List InstanceEvent)) {o : Origin} {action : Action}
    (haction : o.executingAction = some action) (sender : Sender)
    {w : World (σ × List InstanceEvent)} (h : Tracked w) :
    ∃ last, Settles o.executionId abandons w (finalState (awaitData env o action sender w)) last := by
  have honce : (createdKeys (events w)).Nodup := by
    rw [h.created]
    exact h.nodup
  rw [awaitData_eq env haction]
  cases hrefusal : saveRefusal env o.executionId w with
  | some e =>
    exact ⟨[], rfl, ⟨[], (List.append_nil _).symm, by simp⟩, by simp, honce, .nothing⟩
  | none =>
    have hsaved := (saveRefusal_eq_none_iff.mp hrefusal).2
    dsimp only
    cases hpacket : awaitPacket o sender with
    | error e =>
      exact ⟨[], rfl, ⟨[], (List.append_nil _).symm, by simp⟩, by simp, honce, .nothing⟩
    | ok packet =>
      obtain ⟨hevent, hid⟩ := awaitPacket_event hpacket
      refine ⟨[packet], rfl, ⟨[], rfl, by simp⟩, ?_, honce, ?_⟩
      · intro p hp
        rw [List.mem_singleton.mp hp]
        exact hid
      · have hsame : SameInstances w ((((w.withSavedWorkflow
            (savedWorkflowFromWorkflow o action w.instances)).logged
              (.saved action.id true)).withPacket packet).logged (.awaiting action.id)) :=
          ⟨rfl, rfl⟩
        have htracked := hsame.keepsTrack h
        have hsaves : packet.event.savesWorkflow = true := by
          rw [hevent]
          rfl
        exact .halted hsaves htracked hsaved rfl rfl rfl

/-- **An abort** leaves the instances as they are. -/
theorem settles_aborted (o : Origin) {w : World (σ × List InstanceEvent)} (h : Tracked w)
    (habandons : ∀ key, .created key true ∈ events w → abandons) :
    Settles o.executionId abandons w (w.withPacket (workflowPacket o .workflowAborted "null"))
      [workflowPacket o .workflowAborted "null"] := by
  have hsame : SameInstances w (w.withPacket (workflowPacket o .workflowAborted "null")) :=
    ⟨rfl, rfl⟩
  refine ⟨rfl, ⟨[], rfl, by simp⟩, ?_, ?_, .aborted rfl (hsame.keepsTrack h) habandons⟩
  · intro p hp
    rw [List.mem_singleton.mp hp]
    rfl
  · rw [hsame.events, h.created]
    exact h.nodup

section

variable {env : Env σ} {constructed : InstanceKey → σ → Bool} {control : ℕ → Control}
  {resume : Bool} {vars : LoopVars}

/-- Executing an action changes no status, or saves the instances at an await. -/
theorem settles_performAction {o : Origin} {action : Action}
    (haction : o.executingAction = some action) (arguments : List Argument)
    {w : World (σ × List InstanceEvent)} (h : Tracked w) :
    ∃ last, Settles o.executionId abandons w
      (finalState (performAction (watched env constructed) o action arguments resume w)) last := by
  have hrules := stepRules_keepsTrack env constructed o.executionId
  have htracked := hrules.performAction rfl action arguments resume w h
  cases hwaits : (action.trigger.isSome && !resume) with
  | false =>
    exact ⟨[], settles_of_ordinary (frame_performAction_run _ o hwaits arguments w) htracked⟩
  | true =>
    rcases performAction_awaits (watched env constructed) hwaits arguments w with
      ⟨e, w₁, hraised, hframe⟩ | ⟨sender, w₁, hframe, hawait⟩
    · rw [hraised] at htracked ⊢
      exact ⟨[], settles_of_ordinary (hframe.mono (fun _ h => h.elim) fun _ h => h) htracked⟩
    · rw [hawait] at htracked ⊢
      -- the instances are the same before the await and after it
      have hsame : Within SameInstances
          (awaitData (watched env constructed) o action sender) :=
        Within.bind (sameInstances_handleEvent _ o _ _ _ _) fun _ =>
          Within.bind (fun _ => ⟨rfl, rfl⟩) fun _ => Within.pure _
      obtain ⟨last, hsettles⟩ :=
        settles_awaitData (watched env constructed) haction sender ((hsame w₁).symm.keepsTrack htracked)
      exact ⟨last, hsettles.after id (hframe.mono (fun _ h => h.elim) fun _ h => h)⟩

/-- **How a turn settles the instances.** -/
theorem settles_loopTurn {w : World (σ × List InstanceEvent)} (h : Tracked w) :
    ∃ last, Settles vars.ctx.executionId
      (TurnAbandons (watched env constructed) control resume vars w) w
      (finalState (loopTurn (watched env constructed) control resume vars w)) last := by
  set abandons := TurnAbandons (watched env constructed) control resume vars w with habandons
  have hrules := stepRules_keepsTrack env constructed vars.ctx.executionId
  have henter : ∀ {action : Action} {vars' : LoopVars} {w₁ w₂ w' : World (σ × List InstanceEvent)},
      Enters (watched env constructed) control resume vars w action vars' w₁ w₂ →
        (Tracked w₂ → ∃ last, Settles vars'.ctx.origin.executionId abandons w₂ w' last) →
          ∃ last, Settles vars.ctx.executionId abandons w w' last := by
    intro action vars' w₁ w₂ w' henters hsettles
    obtain ⟨last, hsettles⟩ := hsettles (hrules.enters rfl henters h)
    have hid : vars'.ctx.origin.executionId = vars.ctx.executionId := henters.executionId
    rw [hid] at hsettles
    exact ⟨last, hsettles.after id henters.frame⟩
  have hshutdown : ∀ {actions : ActionIter} {ctx : Context} {w₁ : World (σ × List InstanceEvent)},
      vars.actions.next (watched env constructed) vars.ctx w = .ok (none, actions, ctx) w₁ →
        ∃ last, Settles vars.ctx.executionId abandons w
          (finalState (shutdown (watched env constructed) ctx w₁)) last := by
    intro actions ctx w₁ hnext
    obtain ⟨hid, -⟩ := next_executionId _ hnext
    have htracked : Tracked w₁ := (hrules.next rfl vars.actions).of_ok hnext h
    obtain ⟨last, hsettles⟩ := settles_shutdown env constructed ctx htracked
    rw [show ctx.executionId = _ from hid] at hsettles
    exact ⟨last, hsettles.after id (frame_next_run hnext)⟩
  have hperform : ∀ {action : Action} {vars' : LoopVars} {w₁ w₂ : World (σ × List InstanceEvent)}
      {r : EStateM.Result Exn (World (σ × List InstanceEvent)) ActionReturn},
      Enters (watched env constructed) control resume vars w action vars' w₁ w₂ →
        performAction (watched env constructed) vars'.ctx.origin action vars.startArguments resume w₂
            = r →
          ∃ last, Settles vars.ctx.executionId abandons w (finalState r) last := by
    rintro action vars' w₁ w₂ _ henters rfl
    exact henter henters fun htracked => settles_performAction henters.executingAction _ htracked
  have hcases := loopTurn_cases (watched env constructed) control resume vars w
  generalize loopTurn (watched env constructed) control resume vars w = r at hcases
  cases hcases with
  | branchingRaised hnext =>
    have hframe := (frame_next _ vars.ctx vars.actions).of_error hnext
    have htracked := (hrules.next rfl vars.actions).of_error hnext h
    exact ⟨[], settles_of_ordinary
      (hframe.mono (fun _ h => TriesBranches.runEntry h) fun _ h => h) htracked⟩
  | shutDown hnext hdone =>
    have hsettles := hshutdown hnext
    rw [hdone] at hsettles
    exact hsettles
  | shutdownRaised hnext hdone =>
    have hsettles := hshutdown hnext
    rw [hdone] at hsettles
    exact hsettles
  | @paused action vars' w₁ w₂ w' henters _ hsend =>
    refine henter henters fun htracked => ?_
    have hsettles := @settles_paused _ abandons (watched env constructed) vars'.ctx.origin _ henters.executingAction _ htracked
    rw [hsend] at hsettles
    exact hsettles
  | @pauseRaised action vars' w₁ w₂ w' e henters _ hsend =>
    refine henter henters fun htracked => ?_
    have hsettles := @settles_paused _ abandons (watched env constructed) vars'.ctx.origin _ henters.executingAction _ htracked
    rw [hsend] at hsettles
    exact hsettles
  | @aborted action vars' w₁ w₂ w' henters hpaused haborted hsend =>
    refine henter henters fun htracked => ?_
    rw [sendEvent_aborted] at hsend
    cases hsend
    exact ⟨_, settles_aborted vars'.ctx.origin htracked fun key hkey =>
      ⟨action, vars', w₁, w₂, henters, hpaused, haborted, key, hkey⟩⟩
  | abortRaised henters _ _ hsend =>
    rw [sendEvent_aborted] at hsend
    cases hsend
  | actionRaised henters _ _ hdone => exact hperform henters hdone
  | awaited henters _ _ hdone => exact hperform henters hdone
  | triggerStatus henters _ _ hdone => exact hperform henters hdone
  | executed henters _ _ hdone _ => exact hperform henters hdone

/-- A turn that abandons an instance reports an abort, and leaves the instance open. -/
theorem settles_of_abandons {w : World (σ × List InstanceEvent)} (h : Tracked w)
    (habandons : TurnAbandons (watched env constructed) control resume vars w) :
    ∃ packet, packet.event = .workflowAborted ∧
      Settles vars.ctx.executionId True w
        (finalState (loopTurn (watched env constructed) control resume vars w)) [packet] ∧
      ∃ key, .created key true ∈
          events (finalState (loopTurn (watched env constructed) control resume vars w)) ∧
        .shutDown key ∉
          events (finalState (loopTurn (watched env constructed) control resume vars w)) := by
  have hrules := stepRules_keepsTrack env constructed vars.ctx.executionId
  obtain ⟨action, vars', w₁, w₂, henters, hpaused, haborted, key, hkey⟩ := habandons
  have htracked : Tracked w₂ := hrules.enters rfl henters h
  have hid : vars'.ctx.origin.executionId = vars.ctx.executionId := henters.executionId
  have hsettles := settles_aborted vars'.ctx.origin htracked fun _ _ => trivial
  rw [hid] at hsettles
  rw [henters.loopTurn_eq, hpaused, haborted, if_neg Bool.false_ne_true, if_pos rfl,
    finalState_bind_pure, sendEvent_aborted]
  exact ⟨_, rfl, hsettles.after id henters.frame, key, hkey, htracked.open_ key⟩

/-! ## A call of `execute` -/

/-- The run of a request abandons an instance in its last turn. -/
def RunAbandons (env : Env (σ × List InstanceEvent)) (control : ℕ → Control) (turns : ℕ)
    (thread : String) (request : Request) (w : World (σ × List InstanceEvent)) : Prop :=
  ∃ vars v, LastTurnAt env control turns thread request w vars v ∧
    TurnAbandons env control request.resume vars v

/-- The turns before the last one. -/
theorem tracked_lastTurn {turns : ℕ} {thread : String} {request : Request} {ctx : Context}
    {w w₁ v : World (σ × List InstanceEvent)}
    (hprepare : prepare (watched env constructed) request w = .ok (some ctx) w₁)
    (htracked : Tracked w₁)
    (hlast : LastTurnAt (watched env constructed) control turns thread request w vars v) :
    vars.ctx.executionId = ctx.executionId ∧ Tracked v ∧
      Ordinary ctx.executionId (announced (watched env constructed) thread request ctx w₁) v := by
  obtain ⟨ctx', w₁', start, hprepare', -, hends⟩ := hlast
  rw [hprepare] at hprepare'
  cases hprepare'
  obtain ⟨_, -, hreach⟩ := hends.reaches
  obtain ⟨hframe, hid, -⟩ := frame_reaches hreach
  have hrules := stepRules_keepsTrack env constructed ctx.executionId
  have hannounced := (sameInstances_announced (watched env constructed) thread request ctx w₁).keepsTrack htracked
  exact ⟨hid, hrules.reaches rfl hreach hannounced, hframe⟩

/-- **How a call settles the instances.** -/
theorem settles_execute {turns : ℕ} {thread : String} {request : Request} {ctx : Context}
    {w w₁ : World (σ × List InstanceEvent)}
    (hprepare : prepare (watched env constructed) request w = .ok (some ctx) w₁)
    (hended : Ended (execute (watched env constructed) control turns thread request w))
    (htracked : Tracked w₁) :
    ∃ v last, finalState (execute (watched env constructed) control turns thread request w) =
        { v with executingWorkflows := (finalState
          (execute (watched env constructed) control turns thread request w)).executingWorkflows } ∧
      Settles ctx.executionId
        (RunAbandons (watched env constructed) control turns thread request w)
        (announced (watched env constructed) thread request ctx w₁) v last ∧
      (RunAbandons (watched env constructed) control turns thread request w →
        (∃ packet, packet.event = .workflowAborted ∧ last = [packet]) ∧
        ∃ key, .created key true ∈ events v ∧ .shutDown key ∉ events v) := by
  obtain ⟨v, hfinal, hcases⟩ := execute_lastTurn hprepare hended
  have hannounced := (sameInstances_announced (watched env constructed) thread request ctx w₁).keepsTrack htracked
  by_cases habandons : RunAbandons (watched env constructed) control turns thread request w
  · obtain ⟨vars, v₁, hlast, hturn⟩ := habandons
    obtain ⟨hid, htracked₁, hframe⟩ := tracked_lastTurn hprepare htracked hlast
    obtain ⟨packet, hevent, hsettles, hopen⟩ := settles_of_abandons htracked₁ hturn
    rw [hid] at hsettles
    have hv : v = finalState (loopTurn (watched env constructed) control request.resume vars v₁) := by
      rcases hcases with ⟨-, hnone⟩ | ⟨vars', v₁', hlast', hv⟩
      · exact absurd hlast (hnone vars v₁)
      · obtain ⟨rfl, rfl⟩ := hlast.unique hlast'
        exact hv
    refine ⟨v, [packet], hfinal, ?_, fun _ => ⟨⟨packet, hevent, rfl⟩, ?_⟩⟩
    · rw [hv]
      exact hsettles.after (fun _ => ⟨vars, v₁, hlast, hturn⟩) hframe
    · rw [hv]
      exact hopen
  · rcases hcases with ⟨rfl, -⟩ | ⟨vars, v₁, hlast, rfl⟩
    · exact ⟨_, [], hfinal, settles_of_ordinary (Std.Refl.refl _) hannounced, fun h => absurd h habandons⟩
    · obtain ⟨hid, htracked₁, hframe⟩ := tracked_lastTurn hprepare htracked hlast
      obtain ⟨last, hsettles⟩ := @settles_loopTurn _ env constructed control request.resume vars _ htracked₁
      rw [hid] at hsettles
      exact ⟨_, last, hfinal, hsettles.after (fun hturn => ⟨vars, v₁, hlast, hturn⟩) hframe,
        fun h => absurd h habandons⟩

/-! ## Steps -/

/-- Between two runs, the instances of the saved state are the ones that have been created, and
none of them has been shut down. -/
structure InstancesKept (executionId : UUID) (w : World (σ × List InstanceEvent)) : Prop where
  once : (createdKeys (events w)).Nodup
  halted : ∀ status, w.status executionId = some status → Abortable status →
    (∀ key, .shutDown key ∉ events w) ∧
      createdKeys (events w) = ((w.savedState executionId).map (·.appInstances)).getD []

/-- How working off a request settles the instances. -/
inductive WorkSettles (executionId : UUID) (abandons : Prop)
    (w w' : World (σ × List InstanceEvent)) : Prop where
  /-- The request is not run. -/
  | dropped (hstatus : w'.status executionId = w.status executionId) (hevents : events w' = events w)
    (hsaved : w'.savedState executionId = w.savedState executionId) (hnot : ¬ abandons)
  | ran {a v : World (σ × List InstanceEvent)} {last : List Packet}
    (hsettles : Settles executionId abandons a v last)
    (hleft : abandons → (∃ packet, packet.event = .workflowAborted ∧ last = [packet]) ∧
      ∃ key, .created key true ∈ events v ∧ .shutDown key ∉ events v)
    (hstatus : w'.status executionId = some (finalStatus .running last))
    (hevents : events w' = events v)
    (hsaved : w'.savedWorkflow = savedAfter executionId last v.savedWorkflow)

variable {workflowId : UUID}

/-- The same of receiving what was sent. -/
theorem sameInstances_receiveSince (sent : List Packet) (w : World (σ × List InstanceEvent)) :
    SameInstances w (receiveSince sent w) :=
  within_receiveResults (fun _ _ _ => ⟨rfl, rfl⟩) _ w

/-- **Working off a request.** -/
theorem workSettles_of_step {thread : String} {turns : ℕ} {w w' : World (σ × List InstanceEvent)}
    (horderly : Orderly executionId workflowId w) (hkept : InstancesKept executionId w)
    (hstep : LifecycleStep (watched env constructed) executionId w (.work thread control turns) w') :
    WorkSettles executionId
      (Abandons (watched env constructed) executionId w (.work thread control turns)) w w' := by
  obtain ⟨request, row, hqueue, hfits, hrow, -, -, -⟩ := orderly_work horderly hstep
  obtain ⟨_, _, hqueue', hended, rfl⟩ := lifecycleStep_work hstep
  rw [hqueue] at hqueue'
  cases hqueue'
  have habandons : Abandons (watched env constructed) executionId w (.work thread control turns) ↔
      RunAbandons (watched env constructed) control turns thread request
        { w with requestQueue := [] } := by
    constructor
    · rintro ⟨_, _, hqueue', habandons⟩
      rw [hqueue] at hqueue'
      cases hqueue'
      exact habandons
    · exact fun habandons => ⟨request, [], hqueue, habandons⟩
  rw [habandons]
  set u : World (σ × List InstanceEvent) := { w with requestQueue := [] } with hu
  have hevents : events u = events w := rfl
  by_cases hstartable : Startable request u
  · obtain ⟨workflow, user, w₁, -, hprepare⟩ := prepare_of_startable (watched env constructed) hstartable
    obtain ⟨status, -, hstatus, hne, -⟩ := hstartable
    rw [hfits.execution] at hstatus
    have hpending : status = .pending := by
      have hsame : w.status executionId = some status := hstatus
      rcases hfits.status with h | h
      · rw [hsame] at h
        exact Option.some.inj h
      · rw [hsame] at h
        exact absurd (Option.some.inj h) hne
    obtain ⟨hopen, hcreated⟩ := hkept.halted status hstatus (.inl hpending)
    obtain ⟨hevents₁, hinstances⟩ := instances_of_prepare hprepare
    have htracked : Tracked w₁ := by
      have hsame : w₁.instances = createdKeys (events w) := by
        rw [hinstances, hcreated, hfits.execution]
        cases hresume : request.resume with
        | true => rfl
        | false =>
          rw [hfits.first hresume]
          rfl
      refine ⟨?_, ?_, ?_⟩
      · rw [hsame, hevents₁, hevents]
      · rw [hsame]
        exact hkept.once
      · rw [hevents₁, hevents]
        exact hopen
    obtain ⟨v, last, hfinal, hsettles, hleft⟩ := settles_execute hprepare hended htracked
    have hframe := (frame_prepare (P := Never) (E := Never) (watched env constructed) request).of_ok
      hprepare
    have hannounce := endsWith_announceStart (watched env constructed) (newContext workflow request.executionId user)
      request.environmentVariables
      (finalState (register thread (newContext workflow request.executionId user) w₁))
    rw [show (newContext workflow request.executionId user).executionId = executionId from
      hfits.execution] at hsettles
    obtain ⟨inner, hsent, hinner⟩ := hsettles.sent
    obtain ⟨none, hprepared, hnever⟩ := hframe.sent
    obtain rfl : none = [] := List.eq_nil_iff_forall_not_mem.mpr hnever
    rw [hfinal]
    generalize World.executingWorkflows _ = executingWorkflows
    have hrowv : OrderedDict.get? executionId
        ({ v with executingWorkflows } : World (σ × List InstanceEvent)).workflowStatus = some row := by
      show OrderedDict.get? executionId v.workflowStatus = some row
      rw [hsettles.workflowStatus]
      refine (congrArg _ (hannounce.workflowStatus.trans hframe.workflowStatus)).trans ?_
      exact hrow
    have hsentv : ({ v with executingWorkflows } : World (σ × List InstanceEvent)).sent =
        w.sent ++ (workflowPacket (newContext workflow request.executionId user).origin
          .workflowExecutionStart "null" :: (inner ++ last)) := by
      show v.sent = _
      have hbefore : w₁.sent = w.sent := hprepared.trans (List.append_nil _)
      rw [hsent, announced, hannounce.sent, show (finalState (register thread
        (newContext workflow request.executionId user) w₁)).sent = w₁.sent from rfl, hbefore]
      simp only [List.append_assoc, List.cons_append, List.nil_append]
    obtain ⟨workflowStatus, hreceived, hget⟩ :=
      receiveSince_eq hrowv hsentv ⟨hfits.execution, rfl⟩ hinner hsettles.ids
    have hsame : SameInstances v (receiveSince w.sent { v with executingWorkflows }) :=
      IsTrans.trans v { v with executingWorkflows } _ ⟨rfl, rfl⟩ (sameInstances_receiveSince _ _)
    refine .ran hsettles hleft ?_ hsame.events ?_
    · rw [hreceived]
      show (OrderedDict.get? executionId workflowStatus).map _ = _
      rw [hget]
      rfl
    · rw [hreceived]
  · rw [execute_of_not_startable _ control turns thread hstartable]
    have hnothing : receiveSince w.sent u = u := by
      rw [receiveSince, show u.sent = w.sent from rfl, List.drop_length]
      rfl
    rw [hnothing]
    refine .dropped rfl rfl rfl ?_
    rintro ⟨vars, v, ⟨ctx, w₁, start, hprepare, -⟩, -⟩
    exact prepare_of_not_startable hstartable ctx w₁ hprepare

/-- Working off a request keeps the saved instances, and keeps the lifetimes unless it abandons
an instance. -/
theorem WorkSettles.lifetimes {abandons : Prop} {w w' : World (σ × List InstanceEvent)}
    (h : WorkSettles executionId abandons w w') (hkept : InstancesKept executionId w)
    (hlife : InstanceLifetime executionId w) :
    InstancesKept executionId w' ∧ (InstanceLifetime executionId w' ↔ ¬ abandons) := by
  cases h with
  | dropped hstatus hevents hsaved hnot =>
    refine ⟨⟨?_, ?_⟩, iff_of_true ⟨?_, ?_⟩ hnot⟩
    · rw [hevents]
      exact hkept.once
    · rw [hstatus, hevents, hsaved]
      exact hkept.halted
    · rw [hevents]
      exact hlife.once
    · rw [over_iff hstatus, hevents]
      exact hlife.shutDown
  | @ran a v last hsettles hleft hstatus hevents hsaved =>
    have honce : (createdKeys (events w')).Nodup := by
      rw [hevents]
      exact hsettles.once
    have hrunning : ∀ {status}, finalStatus .running last = status → ¬ Abortable status →
        InstancesKept executionId w' := by
      rintro status rfl hnot
      refine ⟨honce, fun status hsome habortable => ?_⟩
      rw [hstatus, Option.some.injEq] at hsome
      subst hsome
      exact absurd habortable hnot
    have hids := hsettles.ids
    have hpackets := hsettles.packets
    cases hpackets with
    | nothing =>
      refine ⟨@hrunning .running rfl (by simp [Abortable]), iff_of_true ⟨honce, fun hover => ?_⟩ fun hab => ?_⟩
      · exact absurd hover (@not_over _ _ _ .running hstatus (by decide))
      · obtain ⟨⟨packet, -, heq⟩, -⟩ := hleft hab
        cases heq
    | @shutDown packet hevent hall =>
      have hfinal : finalStatus .running [packet] = .completed := by
        simp [finalStatus, hevent, statusAfter]
      refine ⟨hrunning hfinal (by simp [Abortable]), iff_of_true ⟨honce, fun _ => ?_⟩ fun hab => ?_⟩
      · rw [hevents]
        exact hall
      · obtain ⟨⟨packet', hevent', heq⟩, -⟩ := hleft hab
        cases heq
        rw [hevent] at hevent'
        cases hevent'
    | @aborted packet hevent htracked habandons =>
      have hfinal : finalStatus .running [packet] = .aborted := by
        simp [finalStatus, hevent, statusAfter]
      have hover : Over executionId w' := by
        rw [hfinal] at hstatus
        exact .inr hstatus
      refine ⟨hrunning hfinal (by simp [Abortable]), ?_, ?_⟩
      · intro hafter hab
        obtain ⟨-, key, hkey, hopen⟩ := hleft hab
        have hcount := hafter.shutDown hover key (hevents ▸ hkey)
        rw [hevents, List.count_eq_zero.mpr hopen] at hcount
        cases hcount
      · intro hnot
        refine ⟨honce, fun _ key hkey => ?_⟩
        rw [hevents] at hkey
        exact absurd (habandons key hkey) hnot
    | @halted packet saved hevent htracked hnone hrows hid hinstances =>
      obtain ⟨hfinal, hkeeps⟩ := @finalStatus_of_saves [packet]
        (by simpa using hevent) .running (by decide)
      have hstate : w'.savedState executionId = some saved := by
        rw [savedAfter, hkeeps, if_neg Bool.false_ne_true] at hsaved
        exact savedState_append hnone hid (hsaved.trans hrows)
      refine ⟨⟨honce, fun status _ _ => ?_⟩, iff_of_true ⟨honce, fun hover => ?_⟩ fun hab => ?_⟩
      · rw [hevents, hstate, htracked.created]
        exact ⟨htracked.open_, hinstances.symm⟩
      · exact absurd hover (not_over hstatus ⟨hfinal.1, hfinal.2.1⟩)
      · obtain ⟨⟨packet', hevent', heq⟩, -⟩ := hleft hab
        cases heq
        rw [hevent'] at hevent
        cases hevent

/-- A step of the controller that leaves the status and the saved state alone. -/
theorem InstancesKept.keep {w w' : World (σ × List InstanceEvent)}
    (h : InstancesKept executionId w) (hsame : SameInstances w w')
    (hstatus : w'.status executionId = w.status executionId)
    (hsaved : w'.savedState executionId = w.savedState executionId) :
    InstancesKept executionId w' := by
  refine ⟨?_, ?_⟩
  · rw [hsame.events]
    exact h.once
  · rw [hstatus, hsaved, hsame.events]
    exact h.halted

/-- The lifetime of the instances is kept where they and what is over stay. -/
theorem InstanceLifetime.keep {w w' : World (σ × List InstanceEvent)}
    (h : InstanceLifetime executionId w) (hsame : SameInstances w w')
    (hover : Over executionId w' → Over executionId w) : InstanceLifetime executionId w' := by
  refine ⟨?_, fun hafter => ?_⟩
  · rw [hsame.events]
    exact h.once
  · rw [hsame.events]
    exact h.shutDown (hover hafter)

/-- Continuing an execution that is halted. -/
theorem lifetimes_of_continued {id : UUID} {start : Option UUID} {resume : Bool}
    {status : WorkflowStatusEnum} {w w' : World (σ × List InstanceEvent)}
    (hkept : InstancesKept executionId w) (hlife : InstanceLifetime executionId w)
    (hsame : SameInstances w w') (hstatus : w.status executionId = some status)
    (habortable : Abortable status) (hc : Continued id executionId start resume w w') :
    InstancesKept executionId w' ∧ InstanceLifetime executionId w' := by
  have hsaved : w'.savedState executionId = w.savedState executionId := by
    rw [World.savedState, hc.savedWorkflow, World.savedState]
  refine ⟨⟨?_, fun _ _ _ => ?_⟩, hlife.keep hsame fun hover => ?_⟩
  · rw [hsame.events]
    exact hkept.once
  · rw [hsame.events, hsaved]
    exact hkept.halted status hstatus habortable
  · exact absurd hover (not_over hc.status (by decide))

/-- **The steps of the controller** keep the saved instances, and keep the lifetimes unless the
execution is aborted with an instance open. -/
theorem lifetimes_controller {w w' : World (σ × List InstanceEvent)} {op : LifecycleOp}
    (hop : ∀ thread control turns, op ≠ .work thread control turns)
    (hkept : InstancesKept executionId w) (hlife : InstanceLifetime executionId w)
    (hstep : LifecycleStep (watched env constructed) executionId w op w') :
    InstancesKept executionId w' ∧ (InstanceLifetime executionId w' ↔
      ¬ Abandons (watched env constructed) executionId w op) := by
  have hrules := controllerRules_sameInstances env constructed
  cases op with
  | work thread control turns => exact absurd rfl (hop thread control turns)
  | resume user =>
    obtain rfl := Option.some.inj hstep
    have hsame := hrules.resumeWorkflow executionId user w
    rcases resumeWorkflow_cases executionId user w with heq | ⟨row, start, hrow, hpaused, -, hc⟩
    · rw [heq]
      exact ⟨hkept, iff_of_true hlife fun habandons => habandons⟩
    · have hstatus := status_eq_of_row hrow
      obtain ⟨hkept', hlife'⟩ :=
        lifetimes_of_continued hkept hlife hsame hstatus (.inr (.inl hpaused)) hc
      exact ⟨hkept', iff_of_true hlife' fun habandons => habandons⟩
  | answer dataIn arguments user =>
    unfold LifecycleStep lifecycleStep at hstep
    dsimp only at hstep
    split at hstep
    case isFalse => cases hstep
    case isTrue hwaiting =>
      obtain rfl := Option.some.inj hstep
      have hsame := hrules.resumeTriggerStep executionId dataIn arguments user w
      have hanswer := resumeTriggerStep_cases (watched env constructed) executionId dataIn arguments
        user w
      generalize finalState
        (resumeTriggerStep (watched env constructed) executionId dataIn arguments user w) = w' at hsame hanswer
      have hkeep : w'.status executionId = w.status executionId →
          w'.savedState executionId = w.savedState executionId →
          InstancesKept executionId w' ∧ InstanceLifetime executionId w' := by
        intro hstatus hsaved
        exact ⟨hkept.keep hsame hstatus hsaved, hlife.keep hsame (over_iff hstatus).mp⟩
      have hboth : InstancesKept executionId w' ∧ InstanceLifetime executionId w' := by
        cases hanswer with
        | unanswered hframe => exact hkeep (hframe.status _) (hframe.savedState _)
        | @answered saved w₁ hsaved hframe hcontinued =>
          rcases hcontinued with heq | hc
          · subst heq
            exact hkeep (hframe.status _) (hframe.savedState _)
          · have hpending := hc.status
            have hstate : w'.savedState executionId = w.savedState executionId := by
              rw [World.savedState, hc.savedWorkflow]
              exact hframe.savedState executionId
            refine ⟨⟨?_, fun _ _ _ => ?_⟩, hlife.keep hsame fun hover => ?_⟩
            · rw [hsame.events]
              exact hkept.once
            · rw [hsame.events, hstate]
              exact hkept.halted _ hwaiting (.inr (.inr rfl))
            · exact absurd hover (not_over hpending (by decide))
      exact ⟨hboth.1, iff_of_true hboth.2 fun habandons => habandons⟩
  | abort =>
    obtain rfl := Option.some.inj hstep
    have hsame := hrules.abortWorkflow executionId w
    cases hrow : OrderedDict.get? executionId w.workflowStatus with
    | none =>
      have hnot : ¬ Abandons (watched env constructed) executionId w .abort := by
        rintro ⟨row, hrow', -⟩
        rw [hrow] at hrow'
        cases hrow'
      cases abortWorkflow_cases executionId w with
      | told published heq =>
        rw [heq]
        exact ⟨hkept.keep ⟨rfl, rfl⟩ rfl rfl, iff_of_true (hlife.keep ⟨rfl, rfl⟩ id) hnot⟩
      | aborted row hrow' heq =>
        rw [hrow] at hrow'
        cases hrow'
    | some row =>
      by_cases haborts : Abortable row.status ∧ (w.workflow row.workflowId).isSome = true
      · have hstatus := status_abortWorkflow hrow haborts.1 haborts.2
        refine ⟨⟨?_, fun status hsome habortable => ?_⟩, ?_, ?_⟩
        · rw [hsame.events]
          exact hkept.once
        · rw [hstatus, Option.some.injEq] at hsome
          subst hsome
          simp [Abortable] at habortable
        · rintro hafter ⟨_, -, -, -, key, hkey⟩
          have hcount := hafter.shutDown (.inr hstatus) key (hsame.events ▸ hkey)
          have hopen := (hkept.halted _ (status_eq_of_row hrow) haborts.1).1 key
          rw [hsame.events, List.count_eq_zero.mpr hopen] at hcount
          cases hcount
        · intro hnot
          refine ⟨?_, fun _ key hkey => ?_⟩
          · rw [hsame.events]
            exact hkept.once
          · rw [hsame.events] at hkey
            exact absurd ⟨row, hrow, haborts.1, haborts.2, key, hkey⟩ hnot
      · have hnot : ¬ Abandons (watched env constructed) executionId w .abort := by
          rintro ⟨row', hrow', habortable, hworkflow, -⟩
          rw [hrow] at hrow'
          cases hrow'
          exact haborts ⟨habortable, hworkflow⟩
        obtain ⟨published, heq⟩ := abortWorkflow_of_not_aborts hrow haborts
        rw [heq]
        exact ⟨hkept.keep ⟨rfl, rfl⟩ rfl rfl, iff_of_true (hlife.keep ⟨rfl, rfl⟩ id) hnot⟩

/-- **A step keeps the lifetimes exactly if** it abandons no instance. -/
theorem lifetimes_step {w w' : World (σ × List InstanceEvent)} {op : LifecycleOp}
    (horderly : Orderly executionId workflowId w) (hkept : InstancesKept executionId w)
    (hlife : InstanceLifetime executionId w)
    (hstep : LifecycleStep (watched env constructed) executionId w op w') :
    InstancesKept executionId w' ∧ (InstanceLifetime executionId w' ↔
      ¬ Abandons (watched env constructed) executionId w op) := by
  cases op with
  | work thread control turns =>
    exact (workSettles_of_step horderly hkept hstep).lifetimes hkept hlife
  | resume user => exact lifetimes_controller (by simp) hkept hlife hstep
  | answer dataIn arguments user => exact lifetimes_controller (by simp) hkept hlife hstep
  | abort => exact lifetimes_controller (by simp) hkept hlife hstep

end

/-! ## The instance of an action -/

/-- The key of an action's instance: its app, and what its device resolves to. -/
def PairOf (action : Action) (accumulator : Accumulator) : Option InstanceKey → Prop
  | none => action.deviceId = none
  | some key => key.1 = action.appName ∧ ∃ argument, action.deviceId = some argument ∧
      argument.getValue accumulator = .ok key.2

/-- If the app function of the action is called, it is passed the instance of its pair if it is
bound, and none if it is not. -/
def PassesInstance (env : Env σ) (action : Action) (instanceKey : Option InstanceKey) : Obs → Prop
  | .appFunction id _ passed => id = action.id ∧ ∃ api bound, argumentsApi env action = .ok api ∧
      env.isAppActionBound action.appName api.run = .ok bound ∧
      passed = if bound then instanceKey else none
  | _ => True

section

variable {env : Env σ} {o : Origin}

/-- **The key of an action** is the one of its pair, and its instance has been created. -/
theorem setupAppInstance_pair {action : Action} {w w' : World σ} {instanceKey : Option InstanceKey}
    (h : setupAppInstance env o action w = .ok instanceKey w') :
    PairOf action (w.accumulators o.executionId) instanceKey ∧
      ∀ key, instanceKey = some key → key ∈ w'.instances := by
  unfold setupAppInstance at h
  cases hdevice : action.deviceId with
  | none =>
    rw [hdevice] at h
    cases h
    exact ⟨hdevice, by simp⟩
  | some argument =>
    rw [hdevice] at h
    obtain ⟨accumulator, w₁, hread, h⟩ := Library.bind_eq_ok.mp h
    cases hread
    obtain ⟨value, w₂, hvalue, h⟩ := Library.bind_eq_ok.mp h
    cases hget : argument.getValue (w.accumulators o.executionId) with
    | error e =>
      rw [hget] at hvalue
      cases hvalue
    | ok found =>
      rw [hget] at hvalue
      cases hvalue
      split at h
      · cases h
      · change (if (action.appName, value) ∉ w.instances then (do
            modify fun w => { w with
              behaviour := env.createInstance (action.appName, value) w.behaviour
              instances := w.instances ++ [(action.appName, value)] }
            sendEvent env o .appInstanceCreated none
            pure (some (action.appName, value)))
          else pure (some (action.appName, value)) : M σ (Option InstanceKey)) w = _ at h
        have hpair : PairOf action (w.accumulators o.executionId) (some (action.appName, value)) :=
          ⟨rfl, argument, hdevice, hget⟩
        split at h
        · obtain ⟨_, w₃, hmodify, h⟩ := Library.bind_eq_ok.mp h
          cases hmodify
          obtain ⟨_, w₄, hsend, h⟩ := Library.bind_eq_ok.mp h
          cases h
          have hsame := (sameRuntime_handleEvent env o .workflow .appInstanceCreated none []).of_ok hsend
          refine ⟨hpair, ?_⟩
          rintro key ⟨⟩
          rw [hsame.instances]
          exact List.mem_append_right _ (List.mem_singleton_self _)
        · rename_i hold
          cases h
          refine ⟨hpair, ?_⟩
          rintro key ⟨⟩
          exact not_not.mp hold

/-- Running an action passes the instance of its key to the apps. -/
theorem frame_runAction_passes (action : Action) (sender : Sender) (arguments : List Argument)
    (instanceKey : Option InstanceKey) :
    Within (Frame (PassesInstance env action instanceKey) (Inner o.executionId))
      (runAction env o action sender arguments instanceKey) := by
  unfold runAction
  refine Within.bind_lift fun api hapi => ?_
  refine Within.bind (frame_getAccumulator _) fun accumulator => ?_
  split
  · refine Within.bind (frame_setAccumulatorItem _ _ _) fun _ => ?_
    refine Within.bind (Within.lift _) fun _ => ?_
    exact Within.bind (frame_handleEvent_inner rfl rfl) fun _ => Within.pure _
  · exact Within.throw _
  · refine Within.bind_lift fun bound hbound => ?_
    refine Within.bind ?_ fun result => frame_reportResult env o action sender result
    refine Within.bind (frame_observe ⟨rfl, api, bound, hapi, hbound, rfl⟩) fun _ => ?_
    refine Within.bind (frame_behave _) fun result => ?_
    exact Within.bind (frame_setAccumulatorItem _ _ _) fun _ => Within.pure _

/-- What a call of `Action.execute` logs. -/
theorem logs_executeAction {action : Action} (haction : o.executingAction = some action)
    (instanceKey : Option InstanceKey) (arguments : List Argument) (resume : Bool) (w : World σ) :
    Logs (PassesInstance env action instanceKey) w
      (finalState (executeAction env o action instanceKey arguments resume w)) := by
  unfold executeAction
  rw [bind_apply]
  have hstart : Within (Frame (PassesInstance env action instanceKey) (Inner o.executionId))
      (startAction env o action arguments : M σ Sender) := frame_startAction env o action arguments
  cases hsender : startAction env o action arguments w with
  | error e w₁ => exact (hstart.of_error hsender).log
  | ok sender w₁ =>
    refine Logs.trans (hstart.of_ok hsender).log ?_
    dsimp only
    split
    · rw [awaitData_eq env haction]
      cases saveRefusal env o.executionId w₁ with
      | some e => exact Logs.single w₁ trivial
      | none =>
        dsimp only
        have hsaved : Logs (PassesInstance env action instanceKey) w₁ ((w₁.withSavedWorkflow
            (savedWorkflowFromWorkflow o action w₁.instances)).logged (.saved action.id true)) :=
          Logs.single (w₁.withSavedWorkflow _) trivial
        cases awaitPacket o sender with
        | error e => exact hsaved
        | ok packet =>
          exact hsaved.trans (Logs.single (World.withPacket _ packet) trivial)
    · rw [bind_apply]
      have hrun : Within (Frame (PassesInstance env action instanceKey) (Inner o.executionId))
          (runAction env o action sender arguments instanceKey) :=
        frame_runAction_passes action sender arguments instanceKey
      cases hstatus : runAction env o action sender arguments instanceKey w₁ with
      | error e w₂ => exact (hrun.of_error hstatus).log
      | ok status w₂ =>
        exact Logs.trans (hrun.of_ok hstatus).log (Logs.single w₂ trivial)

/-- **The instance passed to an action** is the one of its pair: whichever way the action ends,
what it logs passes the instance that has been set up for it. -/
theorem performAction_passes {action : Action} (haction : o.executingAction = some action)
    (arguments : List Argument) (resume : Bool) (w : World σ) :
    (∃ e w', setupAppInstance env o action w = .error e w' ∧
        performAction env o action arguments resume w = .error e w' ∧ w'.log = w.log) ∨
      ∃ instanceKey w₁, setupAppInstance env o action w = .ok instanceKey w₁ ∧
        PairOf action (w.accumulators o.executionId) instanceKey ∧
        (∀ key, instanceKey = some key → key ∈ w₁.instances) ∧
        Logs (PassesInstance env action instanceKey) w
          (finalState (performAction env o action arguments resume w)) := by
  have hsetup := frame_setupAppInstance (P := Never) env o action
  unfold performAction
  rw [bind_apply]
  cases hkey : setupAppInstance env o action w with
  | error e w' =>
    obtain ⟨new, hlog, hnever⟩ := (hsetup.of_error hkey).log
    obtain rfl : new = [] := List.eq_nil_iff_forall_not_mem.mpr hnever
    exact .inl ⟨e, w', rfl, rfl, hlog.trans (List.append_nil _)⟩
  | ok instanceKey w₁ =>
    obtain ⟨hpair, hcreated⟩ := setupAppInstance_pair hkey
    have hlogs : Logs (PassesInstance env action instanceKey) w w₁ :=
      Logs.mono (hsetup.of_ok hkey).log fun _ h => h.elim
    exact .inr ⟨instanceKey, w₁, rfl, hpair, hcreated,
      hlogs.trans (logs_executeAction haction instanceKey arguments resume w₁)⟩

end

/-! ## Runs -/

/-- At the start the lifetimes hold. -/
theorem lifetimes_start (env : Env σ) (constructed : InstanceKey → σ → Bool) (behaviour : σ)
    (workflows : List Workflow) (workflowId executionId : UUID) (start : Option UUID)
    (startArguments : List Argument) (environmentVariables : List EnvironmentVariable)
    (user : Option String) :
    InstancesKept executionId (lifecycleStart (behaviour, []) workflows workflowId executionId start
        startArguments environmentVariables user) ∧
      InstanceLifetime executionId (lifecycleStart (behaviour, []) workflows workflowId executionId
        start startArguments environmentVariables user) := by
  have hsame : SameInstances (World.start (behaviour, []) workflows) (lifecycleStart (behaviour, [])
      workflows workflowId executionId start startArguments environmentVariables user) :=
    (controllerRules_sameInstances env constructed).executeWorkflow _ _ _ _ _ _ _ _
  have hevents := hsame.events
  have hempty : events (World.start ((behaviour, []) : σ × List InstanceEvent) workflows) = [] := rfl
  rw [hempty] at hevents
  have hsaved : (lifecycleStart ((behaviour, []) : σ × List InstanceEvent) workflows workflowId
      executionId start startArguments environmentVariables user).savedState executionId = none := by
    rcases executeWorkflow_cases workflowId executionId start startArguments false
      environmentVariables user (World.start ((behaviour, []) : σ × List InstanceEvent) workflows)
      with heq | hc
    · rw [lifecycleStart, heq]
      rfl
    · rw [lifecycleStart, World.savedState, hc.savedWorkflow]
      rfl
  refine ⟨⟨?_, fun status _ _ => ?_⟩, ?_, fun _ key hkey => ?_⟩
  · rw [hevents]
    exact List.nodup_nil
  · rw [hevents, hsaved]
    exact ⟨by simp, rfl⟩
  · rw [hevents]
    exact List.nodup_nil
  · rw [hevents] at hkey
    cases hkey

/-- **The app instances of an execution** live as they should throughout a run exactly if no step
aborts it with an instance open; and every action is passed the instance of its pair. -/
theorem instanceLifetime_iff (env : Env σ) (constructed : InstanceKey → σ → Bool) (behaviour : σ)
    (workflows : List Workflow) (workflowId executionId : UUID) (start : Option UUID)
    (startArguments : List Argument) (environmentVariables : List EnvironmentVariable)
    (user : Option String) (ops : List LifecycleOp) (w : World (σ × List InstanceEvent)) :
    (Always (LifecycleStep (watched env constructed) executionId) (InstanceLifetime executionId)
        (lifecycleStart (behaviour, []) workflows workflowId executionId start startArguments
          environmentVariables user) ops w ↔
      Run (Guarded (LifecycleStep (watched env constructed) executionId)
          fun w op => ¬ Abandons (watched env constructed) executionId w op)
        (lifecycleStart (behaviour, []) workflows workflowId executionId start startArguments
          environmentVariables user) ops w) ∧
    ∀ (o : Origin) (action : Action) (arguments : List Argument) (resume : Bool)
      (w : World (σ × List InstanceEvent)), o.executingAction = some action →
      (∃ e w', setupAppInstance (watched env constructed) o action w = .error e w' ∧
          performAction (watched env constructed) o action arguments resume w = .error e w' ∧
          w'.log = w.log) ∨
        ∃ instanceKey w₁, setupAppInstance (watched env constructed) o action w =
            .ok instanceKey w₁ ∧
          PairOf action (w.accumulators o.executionId) instanceKey ∧
          (∀ key, instanceKey = some key → key ∈ w₁.instances) ∧
          Logs (PassesInstance (watched env constructed) action instanceKey) w
            (finalState (performAction (watched env constructed) o action arguments resume w)) := by
  obtain ⟨hkept, hlife⟩ := lifetimes_start env constructed behaviour workflows workflowId executionId
    start startArguments environmentVariables user
  have horderly := orderly_start (behaviour, ([] : List InstanceEvent)) workflows workflowId
    executionId start startArguments environmentVariables user
  refine ⟨?_, fun o action arguments resume w haction =>
    performAction_passes haction arguments resume w⟩
  refine @Run.always_iff _ _ (LifecycleStep (watched env constructed) executionId)
    (InstanceLifetime executionId)
    (fun w => Orderly executionId workflowId w ∧ InstancesKept executionId w)
    (fun w op => ¬ Abandons (watched env constructed) executionId w op) ?_ ?_ _ _ _
    ⟨horderly, hkept⟩ hlife
  · rintro w op w' ⟨horderly, hkept⟩ hlife hstep
    exact ⟨orderly_step _ horderly hstep, (lifetimes_step horderly hkept hlife hstep).1⟩
  · rintro w op w' ⟨horderly, hkept⟩ hlife hstep
    exact (lifetimes_step horderly hkept hlife hstep).2

/-- The device 5. -/
def deviceArgument : Argument where
  name := "__device__"
  value := .int 5
  reference := none
  selection := .none
  isReference := false
  errors := []

/-- Two actions, the first of them on a device. -/
def deviceWorkflow : Workflow :=
  { twoActions none none with
    actions := [{ sampleAction 1 none with deviceId := some deviceArgument }, sampleAction 2 none] }

/-- A run is aborted at its second action; the instance of the first is not shut down. -/
theorem abort_abandons_instance :
    ∃ w, Run (LifecycleStep (watched succeeding fun _ _ => true) 7)
        (lifecycleStart ((), []) [deviceWorkflow] 100 7 none [] [] none)
        [.work "Thread-1" (fun n => { pause := false, abort := n == 1 }) 3] w ∧
      ¬ InstanceLifetime 7 w := by
  have hrun : (follow (lifecycleStep (watched succeeding fun _ _ => true) 7)
      (lifecycleStart ((), []) [deviceWorkflow] 100 7 none [] [] none)
      [.work "Thread-1" (fun n => { pause := false, abort := n == 1 }) 3]).any
        (fun w => w.status 7 = some .aborted ∧ .created ("App", .int 5) true ∈ events w ∧
          (events w).count (.shutDown ("App", .int 5)) = 0) = true := by
    decide +kernel
  obtain ⟨w, hw, hopen⟩ := (Option.any_eq_true _ _).mp hrun
  obtain ⟨haborted, hcreated, hcount⟩ := of_decide_eq_true hopen
  refine ⟨w, .of_follow hw, fun hlife => ?_⟩
  have hone := hlife.shutDown (.inr haborted) _ hcreated
  rw [hcount] at hone
  cases hone

end Walkoff.Analysis
