import Walkoff.Analysis.ParameterLaw
import Walkoff.Library.Effect
import Walkoff.Program.ApiValidation

/-!
# Accepted API files and their functions

The documented parameters of an accepted entry are the arguments of its function, except for an
action without parameters, which `validate_actions` does not compare. A call then binds its
arguments unless something is left out of the call or of the documentation that the function needs
(`CallFits`).
-/

set_option autoImplicit false

namespace Walkoff.Analysis

open Walkoff.Library Walkoff.Model Walkoff.Program

/-! ## The law -/

/-- How many leading arguments of the function are not documented: `self` and the event's. -/
def ApiEntry.undocumented (entry : ApiEntry) : ℕ :=
  (if entry.func.signature.argNames.head? = some "self" then 1 else 0) +
    if entry.event ≠ "" then 1 else 0

/-- The arguments of the function without `self` and the event's. -/
def ApiEntry.argumentNames (entry : ApiEntry) : List String :=
  entry.func.signature.argNames.drop (ApiEntry.undocumented entry)

/-- The arguments of the function that are not documented. -/
def ApiEntry.leftOut (entry : ApiEntry) : List String :=
  entry.func.signature.argNames.take (ApiEntry.undocumented entry)

/-- The documented parameters are the arguments of the function. -/
structure MatchesFunction (entry : ApiEntry) : Prop where
  distinct : (entry.parameters.map (·.name)).Nodup
  names : ∀ name, name ∈ entry.parameters.map (·.name) ↔ name ∈ ApiEntry.argumentNames entry
  dataIn : ∀ name, entry.dataIn = some name →
    ∃ param ∈ entry.parameters, param.name = name ∧ param.required = some true

/-- The arguments and the accumulator of a call, and whether it has an instance. -/
structure EntryCall where
  arguments : List Argument
  accumulator : Accumulator
  messagePrefix : String
  hasInstance : Bool

section

variable (convert : PyVal → ParamApi → String → Except Exn PyVal)

/-- What `validate_parameters` returns for the call. -/
def EntryCall.validated (call : EntryCall) (entry : ApiEntry) :
    Except Exn (OrderedDict String PyVal) :=
  validateParameters convert entry.parameters call.arguments call.messagePrefix call.accumulator

/-- The entry matches its function, and a call with what `validate_parameters` returns binds all
arguments. -/
def KeepsPromise (entry : ApiEntry) (call : EntryCall) : Prop :=
  MatchesFunction entry ∧ ∀ arguments, call.validated convert entry = .ok arguments →
    bindArguments entry.func.signature call.hasInstance arguments.keys = .ok ()

end

/-- An action without parameters has a function without further arguments. -/
def NothingHidden (entry : ApiEntry) : Prop :=
  entry.kind = .action → entry.parameters = [] → ApiEntry.argumentNames entry = []

/-- The parameter gets no value in the call: its argument is a reference and the accumulator is
empty. -/
def EntryCall.Skips (call : EntryCall) (param : ParamApi) : Prop :=
  PassedOver call.arguments call.accumulator param

/-- The function can be called without this argument: it has a default or takes the instance. -/
def Dispensable (entry : ApiEntry) (call : EntryCall) (name : String) : Prop :=
  ∀ param ∈ entry.func.signature.named, param.name = name → param.hasDefault = true ∨
    name ∈ entry.func.signature.filled call.hasInstance

/-- The call gives the function what it needs, and nothing twice. -/
structure CallFits (entry : ApiEntry) (call : EntryCall) : Prop where
  leftOut : ∀ name ∈ ApiEntry.leftOut entry, Dispensable entry call name
  skipped : ∀ param ∈ entry.parameters, call.Skips param → Dispensable entry call param.name
  once : ∀ param ∈ entry.parameters,
    param.name ∈ entry.func.signature.filled call.hasInstance → call.Skips param
  collected : ∀ param ∈ entry.parameters, entry.func.signature.varPositional = some param.name →
    entry.func.signature.varKeyword.isSome ∨ call.Skips param
  taken : call.hasInstance = true → entry.func.signature.positional ≠ [] ∨
    entry.func.signature.varPositional ≠ none

/-! ## What is accepted -/

/-- A list of parameters that passes has distinct names, and those are the names seen. -/
theorem foldlM_seeParameter {parameters : List ParamApi} {seen names : List String}
    (h : parameters.foldlM seeParameter seen = .ok names) :
    (∀ param ∈ parameters, param.name ∉ seen) ∧ (parameters.map (·.name)).Nodup ∧
      ∀ name, name ∈ names ↔ name ∈ seen ∨ name ∈ parameters.map (·.name) := by
  induction parameters generalizing seen with
  | nil =>
    cases h
    simp
  | cons param parameters ih =>
    rw [List.foldlM_cons] at h
    obtain ⟨next, hnext, hrest⟩ := Except.bind_eq_ok.mp h
    unfold seeParameter at hnext
    split_ifs at hnext with hseen
    cases hnext
    obtain ⟨hnew, hnodup, hnames⟩ := ih hrest
    refine ⟨?_, ?_, fun name => ?_⟩
    · rw [List.forall_mem_cons]
      exact ⟨hseen, fun p hp hmem => hnew p hp (List.mem_cons_of_mem _ hmem)⟩
    · rw [List.map_cons, List.nodup_cons]
      refine ⟨fun hmem => ?_, hnodup⟩
      obtain ⟨p, hp, hname⟩ := List.mem_map.mp hmem
      exact hnew p hp (hname ▸ List.mem_cons_self)
    · rw [hnames, List.map_cons, List.mem_cons, List.mem_cons, or_assoc, or_left_comm]

/-- Only a first argument with the name `self` is taken away. -/
theorem withoutSelf_eq (names : List String) :
    withoutSelf names = names.drop (if names.head? = some "self" then 1 else 0) := by
  unfold withoutSelf
  split_ifs with h
  · exact List.drop_one.symm
  · rfl

/-- An event takes away one more argument. -/
theorem withoutEvent_ok {func : ApiFunction} {event : String} {names rest : List String}
    (h : withoutEvent func event names = .ok rest) :
    rest = names.drop (if event ≠ "" then 1 else 0) := by
  unfold withoutEvent at h
  by_cases hevent : event ≠ ""
  · rw [if_pos hevent] at h ⊢
    cases names with
    | nil => cases h
    | cons name names =>
      cases heventName : func.eventName with
      | none =>
        rw [heventName] at h
        cases h
      | some eventName =>
        rw [heventName] at h
        exact (Except.ok.inj h).symm
  · rw [if_neg hevent] at h ⊢
    exact (Except.ok.inj h).symm

/-- The function's arguments as the validation reads them. -/
theorem argNames_getD (func : ApiFunction) :
    func.argNames.getD func.signature.argNames = func.signature.argNames := by
  cases hstored : func.argNames with
  | none => rfl
  | some names => exact func.stored names hstored

/-- What passes `validate_action_params` documents each of the function's arguments once. -/
theorem validateActionParams_ok {entry : ApiEntry}
    (h : validateActionParams entry.parameters entry.func entry.event = .ok ()) :
    (entry.parameters.map (·.name)).Nodup ∧
      ∀ name, name ∈ entry.parameters.map (·.name) ↔ name ∈ ApiEntry.argumentNames entry := by
  unfold validateActionParams at h
  obtain ⟨seen, hseen, h⟩ := Except.bind_eq_ok.mp h
  obtain ⟨methodParams, hparams, h⟩ := Except.bind_eq_ok.mp h
  obtain ⟨-, hnodup, hnames⟩ := foldlM_seeParameter hseen
  rw [argNames_getD, withoutSelf_eq] at hparams
  have hdrop : methodParams = ApiEntry.argumentNames entry := by
    rw [withoutEvent_ok hparams, List.drop_drop]
    rfl
  subst hdrop
  split_ifs at h with hequal
  refine ⟨hnodup, fun name => ?_⟩
  obtain ⟨hseen, hargs⟩ := Bool.and_eq_true_iff.mp hequal
  rw [List.all_eq_true] at hseen hargs
  have hname : name ∈ seen ↔ name ∈ entry.parameters.map (·.name) :=
    (hnames name).trans (or_iff_right List.not_mem_nil)
  rw [← hname]
  exact ⟨fun hmem => List.contains_iff_mem.mp (hseen name hmem),
    fun hmem => List.contains_iff_mem.mp (hargs name hmem)⟩

/-- A parameter for the data that passes the check is documented as required. -/
theorem validateDataInParam_ok {params : List ParamApi} {name : String}
    (h : validateDataInParam params name = .ok ()) :
    ∃ param ∈ params, param.name = name ∧ param.required = some true := by
  unfold validateDataInParam at h
  cases hfind : params.find? (·.name = name) with
  | none =>
    rw [hfind] at h
    cases h
  | some param =>
    rw [hfind] at h
    dsimp only at h
    split_ifs at h with hrequired
    refine ⟨param, List.mem_of_find?_eq_some hfind, ?_, ?_⟩
    · simpa using List.find?_some hfind
    · cases hflag : param.required with
      | none =>
        rw [hflag] at hrequired
        cases hrequired
      | some flag =>
        rw [hflag] at hrequired
        exact congrArg some hrequired

/-- What the validation has checked of an entry. -/
def CheckedEntry (entry : ApiEntry) : Prop :=
  ((entry.kind = .action ∧ entry.parameters = []) ∨
    validateActionParams entry.parameters entry.func entry.event = .ok ()) ∧
  ∀ name, entry.dataIn = some name → validateDataInParam entry.parameters name = .ok ()

/-- The entry of an accepted action has been checked against its function. -/
theorem ActionSpec.entry_checked {functions : OrderedDict String ApiFunction} {spec : ActionSpec}
    {entry : ApiEntry} (h : validateAction functions spec = .ok ())
    (hentry : spec.entry functions = some entry) : CheckedEntry entry := by
  unfold ActionSpec.entry at hentry
  obtain ⟨func, hfunc, rfl⟩ := Option.map_eq_some_iff.mp hentry
  unfold validateAction at h
  rw [hfunc] at h
  dsimp only at h
  refine ⟨?_, fun name hname => by cases hname⟩
  by_cases hparams : spec.parameters = []
  · exact .inl ⟨rfl, hparams⟩
  · rw [if_pos hparams] at h
    obtain ⟨_, hchecked, -⟩ := Except.bind_eq_ok.mp h
    exact .inr hchecked

/-- So has the entry of an accepted condition or transform. -/
theorem DataSpec.entry_checked {kind : WalkoffTag} {functions : OrderedDict String ApiFunction}
    {spec : DataSpec} {entry : ApiEntry} (h : validateDataSpec functions spec = .ok ())
    (hentry : spec.entry kind functions = some entry) : CheckedEntry entry := by
  unfold DataSpec.entry at hentry
  obtain ⟨func, hfunc, rfl⟩ := Option.map_eq_some_iff.mp hentry
  unfold validateDataSpec at h
  rw [hfunc] at h
  obtain ⟨_, hdata, hchecked⟩ := Except.bind_eq_ok.mp h
  refine ⟨.inr hchecked, ?_⟩
  rintro name hname
  cases hname
  exact hdata

/-- Every entry of an accepted file has been checked. -/
theorem checkedEntry_of_accepted {functions : AppFunctions} {spec : AppSpec}
    (h : validateAppSpec functions spec = .ok ()) {entry : ApiEntry}
    (hentry : entry ∈ spec.entries functions) : CheckedEntry entry := by
  unfold validateAppSpec at h
  obtain ⟨_, hactions, h⟩ := Except.bind_eq_ok.mp h
  obtain ⟨_, hconditions, htransforms⟩ := Except.bind_eq_ok.mp h
  unfold AppSpec.entries at hentry
  rw [List.mem_append, List.mem_append] at hentry
  rcases hentry with hentry | hentry | hentry
  · obtain ⟨action, haction, hentry⟩ := List.mem_filterMap.mp hentry
    exact ActionSpec.entry_checked (Except.forM_eq_ok.mp hactions action haction) hentry
  · obtain ⟨condition, hcondition, hentry⟩ := List.mem_filterMap.mp hentry
    exact DataSpec.entry_checked (Except.forM_eq_ok.mp hconditions condition hcondition) hentry
  · obtain ⟨transform, htransform, hentry⟩ := List.mem_filterMap.mp hentry
    exact DataSpec.entry_checked (Except.forM_eq_ok.mp htransforms transform htransform) hentry

/-- The documentation of a checked entry is that of its function unless nothing has been
compared. -/
theorem matchesFunction_iff {entry : ApiEntry} (h : CheckedEntry entry) :
    MatchesFunction entry ↔ NothingHidden entry := by
  obtain ⟨hchecked, hdata⟩ := h
  constructor
  · intro hmatches _ hparams
    refine List.eq_nil_iff_forall_not_mem.mpr fun name hname => ?_
    have hdocumented := (hmatches.names name).mpr hname
    rw [hparams] at hdocumented
    exact List.not_mem_nil hdocumented
  · intro hnothing
    have hboth : (entry.parameters.map (·.name)).Nodup ∧
        ∀ name, name ∈ entry.parameters.map (·.name) ↔ name ∈ ApiEntry.argumentNames entry := by
      rcases hchecked with ⟨hkind, hparams⟩ | hchecked
      · rw [hnothing hkind hparams, hparams]
        exact ⟨List.nodup_nil, fun name => Iff.rfl⟩
      · exact validateActionParams_ok hchecked
    exact ⟨hboth.1, hboth.2, fun name hname => validateDataInParam_ok (hdata name hname)⟩

/-! ## What is passed to the function -/

section

variable {convert : PyVal → ParamApi → String → Except Exn PyVal} {arguments : List Argument}
  {messagePrefix : String} {accumulator : Accumulator}

/-- A turn that passes puts a value into the dictionary unless it passes the argument over. -/
theorem turnValue_isSome {param : ParamApi} {value : Option PyVal}
    (h : turnValue convert arguments messagePrefix accumulator param = .ok value) :
    value.isSome ↔ ¬PassedOver arguments accumulator param := by
  constructor
  · intro hsome hpassed
    rw [turnValue_of_passedOver hpassed] at h
    cases h
    cases hsome
  · intro hnot
    unfold turnValue at h
    cases hargument : getArgumentByName arguments param.name with
    | some argument =>
      have hconsulted : Consulted accumulator argument := by
        by_contra hpassed
        exact hnot ⟨argument, hargument, hpassed⟩
      rw [hargument] at h
      dsimp only at h
      obtain ⟨argVal, -, hvalue⟩ := Except.bind_eq_ok.mp h
      rw [if_pos hconsulted] at hvalue
      obtain ⟨converted, -, hresult⟩ := Except.bind_eq_ok.mp hvalue
      cases hresult
      rfl
    | none =>
      rw [hargument] at h
      dsimp only at h
      cases hdefault : param.default with
      | some default =>
        rw [hdefault] at h
        dsimp only at h
        split at h
        · cases h
          rfl
        · cases h
        · cases h
          rfl
      | none =>
        rw [hdefault] at h
        dsimp only at h
        split_ifs at h
        cases h
        rfl

/-- The keys of the dictionary: the parameters whose arguments are not passed over. -/
theorem mem_keys_validateParameters {api : List ParamApi} (hnodup : (api.map (·.name)).Nodup)
    {d : OrderedDict String PyVal}
    (h : validateParameters convert api arguments messagePrefix accumulator = .ok d)
    (name : String) : name ∈ d.keys ↔
      ∃ param ∈ api, param.name = name ∧ ¬PassedOver arguments accumulator param := by
  obtain ⟨-, e, -, herror⟩ | ⟨-, -, errors, -, herror⟩ | ⟨hpasses, -, hentered⟩ :=
    @validateParameters_cases convert arguments messagePrefix accumulator api hnodup
  · rw [h] at herror
    cases herror
  · rw [h] at herror
    cases herror
  · rw [h] at hentered
    cases hentered
    rw [OrderedDict.mem_keys_iff]
    constructor
    · intro hsome
      by_cases hname : name ∈ api.map (·.name)
      · obtain ⟨param, hparam, rfl⟩ := List.mem_map.mp hname
        refine ⟨param, hparam, rfl, ?_⟩
        obtain ⟨value, hvalue⟩ := hpasses param hparam
        rw [get?_enteredAll hnodup hparam rfl, hvalue] at hsome
        exact (turnValue_isSome hvalue).mp hsome
      · rw [get?_enteredAll_of_not_mem hname] at hsome
        cases hsome
    · rintro ⟨param, hparam, rfl, hnot⟩
      obtain ⟨value, hvalue⟩ := hpasses param hparam
      rw [get?_enteredAll hnodup hparam rfl, hvalue]
      exact (turnValue_isSome hvalue).mpr hnot

end

/-- A keyword is bound unless its argument is filled already or does not exist. -/
theorem bindKeyword_ok_iff {signature : Signature} {filled : List String} {keyword : String} :
    bindKeyword signature filled keyword = .ok () ↔ keyword ∉ filled ∧
      (keyword ∈ signature.named.map (·.name) ∨ signature.varKeyword.isSome = true) := by
  unfold bindKeyword
  split_ifs with hfilled hnamed hkeyword
  · exact iff_of_false nofun fun h => h.1 hfilled
  · exact iff_of_true rfl ⟨hfilled, .inl hnamed⟩
  · exact iff_of_true rfl ⟨hfilled, .inr hkeyword⟩
  · exact iff_of_false nofun fun h => h.2.elim hnamed hkeyword

/-- When Python can bind the arguments of a call. -/
theorem bindArguments_ok_iff {signature : Signature} {hasInstance : Bool}
    {keywords : List String} : bindArguments signature hasInstance keywords = .ok () ↔
      (∀ keyword ∈ keywords, keyword ∉ signature.filled hasInstance ∧
        (keyword ∈ signature.named.map (·.name) ∨ signature.varKeyword.isSome = true)) ∧
      (hasInstance = true → signature.positional ≠ [] ∨ signature.varPositional ≠ none) ∧
      ∀ param ∈ signature.named, param.hasDefault = false →
        param.name ∉ signature.filled hasInstance → param.name ∈ keywords := by
  have hfind : signature.named.find? (fun param => !param.hasDefault &&
      !(signature.filled hasInstance).contains param.name && !keywords.contains param.name) =
        none ↔ ∀ param ∈ signature.named, param.hasDefault = false →
          param.name ∉ signature.filled hasInstance → param.name ∈ keywords := by
    rw [List.find?_eq_none]
    refine forall₂_congr fun param _ => ?_
    simp only [Bool.and_eq_true, Bool.not_eq_true', List.contains_eq_mem, decide_eq_false_iff_not,
      not_and, not_not, and_imp]
  rw [← hfind]
  unfold bindArguments
  dsimp only
  constructor
  · intro h
    obtain ⟨_, hkeywords, h⟩ := Except.bind_eq_ok.mp h
    refine ⟨fun keyword hkeyword => bindKeyword_ok_iff.mp
      (Except.forM_eq_ok.mp hkeywords keyword hkeyword), ?_⟩
    split_ifs at h with htaken
    · cases h
    · refine ⟨fun hinstance => ?_, ?_⟩
      · by_contra hnone
        rw [not_or, not_not, not_not] at hnone
        exact htaken ⟨hinstance, hnone⟩
      · split at h
        · cases h
        · assumption
  · rintro ⟨hkeywords, htaken, hmissing⟩
    refine Except.bind_eq_ok.mpr ⟨⟨⟩, Except.forM_eq_ok.mpr fun keyword hkeyword =>
      bindKeyword_ok_iff.mpr (hkeywords keyword hkeyword), ?_⟩
    have hnot : ¬(hasInstance = true ∧ signature.positional = [] ∧
        signature.varPositional = none) := fun ⟨hinstance, hpositional, hvar⟩ =>
      (htaken hinstance).elim (fun h => h hpositional) fun h => h hvar
    rw [if_neg hnot, hmissing]
    rfl

/-! ## The names of a signature -/

/-- The names that the inspection of a function lists. -/
theorem mem_argNames {signature : Signature} {name : String} : name ∈ signature.argNames ↔
    name ∈ signature.named.map (·.name) ∨ signature.varPositional = some name ∨
      signature.varKeyword = some name := by
  unfold Signature.argNames Signature.named
  simp only [List.mem_append, List.map_append, Option.mem_toList]
  tauto

/-- The name of `*args` is not that of another parameter. -/
theorem varPositional_not_named {func : ApiFunction} {name : String}
    (h : func.signature.varPositional = some name) :
    name ∉ func.signature.named.map (·.name) := by
  have hdistinct := func.distinct
  unfold Signature.argNames at hdistinct
  rw [h, Option.toList_some, List.append_assoc, List.singleton_append, List.nodup_middle,
    List.nodup_cons, List.mem_append, List.mem_append] at hdistinct
  unfold Signature.named
  rw [List.map_append, List.mem_append]
  intro hmem
  exact hdistinct.1 (hmem.imp id .inl)

/-- What is left out of the documentation is not documented. -/
theorem not_mem_argumentNames {entry : ApiEntry} {name : String}
    (h : name ∈ ApiEntry.leftOut entry) : name ∉ ApiEntry.argumentNames entry :=
  fun hmem => List.disjoint_take_drop entry.func.distinct le_rfl h hmem

/-- They are the arguments that the API leaves out, followed by those that it documents. -/
theorem argNames_eq (entry : ApiEntry) : entry.func.signature.argNames =
    ApiEntry.leftOut entry ++ ApiEntry.argumentNames entry :=
  (List.take_append_drop _ _).symm

/-! ## Calls of accepted entries -/

section

variable {entry : ApiEntry} {call : EntryCall}

/-- Whether a parameter gets no value depends on its name only. -/
theorem skips_congr {param other : ParamApi} (h : param.name = other.name) :
    call.Skips param ↔ call.Skips other := by
  unfold EntryCall.Skips PassedOver
  rw [h]

/-- A call with the keys of the dictionary binds all arguments exactly when it fits. -/
theorem binds_iff_callFits (hmatches : MatchesFunction entry) {keywords : List String}
    (hkeywords : ∀ name, name ∈ keywords ↔
      ∃ param ∈ entry.parameters, param.name = name ∧ ¬call.Skips param) :
    bindArguments entry.func.signature call.hasInstance keywords = .ok () ↔
      CallFits entry call := by
  rw [bindArguments_ok_iff]
  constructor
  · rintro ⟨hbound, htaken, hmissing⟩
    have hpassed : ∀ name, ¬Dispensable entry call name → name ∈ keywords := by
      intro name hneeded
      unfold Dispensable at hneeded
      push Not at hneeded
      obtain ⟨param, hparam, rfl, hdefault, hfilled⟩ := hneeded
      exact hmissing param hparam (Bool.eq_false_iff.mpr hdefault) hfilled
    refine ⟨fun name hname => ?_, fun param hparam hskips => ?_, fun param hparam hfilled => ?_,
      fun param hparam hvar => ?_, htaken⟩
    · by_contra hneeded
      obtain ⟨param, hparam, rfl, -⟩ := (hkeywords name).mp (hpassed name hneeded)
      exact not_mem_argumentNames hname
        ((hmatches.names param.name).mp (List.mem_map_of_mem hparam))
    · by_contra hneeded
      obtain ⟨other, -, hname, hnot⟩ := (hkeywords _).mp (hpassed _ hneeded)
      exact hnot ((skips_congr hname).mpr hskips)
    · by_contra hnot
      exact (hbound param.name ((hkeywords _).mpr ⟨param, hparam, rfl, hnot⟩)).1 hfilled
    · by_cases hskips : call.Skips param
      · exact .inr hskips
      · have hkeyword := hbound param.name ((hkeywords _).mpr ⟨param, hparam, rfl, hskips⟩)
        exact .inl (hkeyword.2.resolve_left (varPositional_not_named hvar))
  · intro hfits
    refine ⟨fun keyword hkeyword => ?_, hfits.taken, fun param hparam hdefault hfilled => ?_⟩
    · obtain ⟨param, hparam, rfl, hnot⟩ := (hkeywords keyword).mp hkeyword
      refine ⟨fun hfilled => hnot (hfits.once param hparam hfilled), ?_⟩
      have hname : param.name ∈ entry.func.signature.argNames := by
        rw [argNames_eq]
        exact List.mem_append_right _
          ((hmatches.names param.name).mp (List.mem_map_of_mem hparam))
      rcases mem_argNames.mp hname with hnamed | hvar | hvar
      · exact .inl hnamed
      · exact .inr ((hfits.collected param hparam hvar).resolve_right hnot)
      · rw [hvar]
        exact .inr rfl
    · have hneeded : ¬Dispensable entry call param.name := by
        intro hdispensable
        rcases hdispensable param hparam rfl with h | h
        · exact absurd (hdefault.symm.trans h) Bool.noConfusion
        · exact hfilled h
      have hname : param.name ∈ entry.func.signature.argNames :=
        mem_argNames.mpr (.inl (List.mem_map_of_mem hparam))
      rw [argNames_eq, List.mem_append] at hname
      rcases hname with hname | hname
      · exact absurd (hfits.leftOut _ hname) hneeded
      · obtain ⟨documented, hdocumented, hsame⟩ :=
          List.mem_map.mp ((hmatches.names param.name).mpr hname)
        refine (hkeywords _).mpr ⟨documented, hdocumented, hsame, fun hskips => hneeded ?_⟩
        rw [← hsame]
        exact hfits.skipped documented hdocumented hskips

end

/-- **What an accepted entry promises is kept exactly when nothing of it is hidden and the call
fits**: for every accepted API file, entry and call. -/
theorem keepsPromise_iff (convert : PyVal → ParamApi → String → Except Exn PyVal)
    {functions : AppFunctions} {spec : AppSpec} (h : validateAppSpec functions spec = .ok ())
    {entry : ApiEntry} (hentry : entry ∈ spec.entries functions) (call : EntryCall) :
    KeepsPromise convert entry call ↔ NothingHidden entry ∧
      ∀ arguments, call.validated convert entry = .ok arguments → CallFits entry call := by
  unfold KeepsPromise
  rw [← matchesFunction_iff (checkedEntry_of_accepted h hentry)]
  refine and_congr_right fun hmatches => forall₂_congr fun arguments hvalidated => ?_
  exact binds_iff_callFits hmatches
    (mem_keys_validateParameters hmatches.distinct hvalidated)

/-! ## An action with one argument -/

/-- `repeatBackToMe(self, call)`. -/
def repeatBack : ApiFunction where
  signature :=
    { positional :=
        [{ name := "self", hasDefault := false }, { name := "call", hasDefault := false }]
      varPositional := none
      keywordOnly := []
      varKeyword := none }
  distinct := by decide
  argNames := some ["self", "call"]
  stored _ h := (Option.some.inj h).symm
  eventName := none

/-- An app with this action only. -/
def repeatFunctions : AppFunctions where
  actions := [("main.Main.repeatBackToMe", repeatBack)]
  conditions := []
  transforms := []

/-- Its API with the parameters that are documented. -/
def repeatSpec (parameters : List ParamApi) : AppSpec where
  actions := [{ run := "main.Main.repeatBackToMe", parameters, event := "", defaultReturn := none
                returns := none }]
  conditions := []
  transforms := []

/-- The entry of the action. -/
def repeatEntry (parameters : List ParamApi) : ApiEntry where
  kind := .action
  func := repeatBack
  parameters := parameters
  event := ""
  dataIn := none

/-- The documented parameter. -/
def callParam : ParamApi :=
  { name := "call", default := none, required := some true, schema := .dict [] }

/-- A call with an instance that gives the argument a text. -/
def helloCall : EntryCall where
  arguments := [{ name := "call", value := .str "hello", reference := none, selection := .none
                  isReference := false, errors := [] }]
  accumulator := { type := .memory, entries := [] }
  messagePrefix := ""
  hasInstance := true

/-- The API of the app has the entry of its action. -/
theorem mem_repeatEntries (parameters : List ParamApi) :
    repeatEntry parameters ∈ (repeatSpec parameters).entries repeatFunctions :=
  List.mem_cons_self

/-- The text is validated, and bound to the argument of the function. -/
theorem keepsPromise_iff_repeatBack :
    (helloCall.validated (fun value _ _ => .ok value) (repeatEntry [callParam]) =
          .ok [("call", .str "hello")] ∧
        bindArguments repeatBack.signature true ["call"] = .ok ()) ∧
      (KeepsPromise (fun value _ _ => .ok value) (repeatEntry [callParam]) helloCall ↔
        NothingHidden (repeatEntry [callParam]) ∧
          ∀ arguments, helloCall.validated (fun value _ _ => .ok value)
              (repeatEntry [callParam]) = .ok arguments →
            CallFits (repeatEntry [callParam]) helloCall) := by
  have haccepted : validateAppSpec repeatFunctions (repeatSpec [callParam]) = .ok () := rfl
  exact ⟨⟨rfl, rfl⟩, keepsPromise_iff _ haccepted (mem_repeatEntries [callParam]) helloCall⟩

/-- An API that does not mention the argument is accepted. -/
theorem hidden_argument_accepted : ¬∀ (functions : AppFunctions) (spec : AppSpec),
    validateAppSpec functions spec = .ok () → ∀ entry ∈ spec.entries functions,
      MatchesFunction entry := by
  intro hall
  have hmatches := hall repeatFunctions (repeatSpec []) rfl _ (mem_repeatEntries [])
  have hdocumented := (hmatches.names "call").mpr (by decide)
  exact List.not_mem_nil hdocumented

end Walkoff.Analysis
