import Walkoff.Model.Validator

/-!
# The law of `validate_parameters`

A parameter of an API gets the value of the first argument of its name, resolved in the
accumulator and converted; without an argument its converted default, or the default as it
stands if it does not convert; without a default `None`, unless it is required. A call is
refused if an argument names no parameter or a parameter does not get a value.

The loop of `validate_parameters` keeps to this except at three points: the key `required`
counts whatever its value, a reference argument is passed over when the accumulator is
empty, and only `InvalidArgument` is collected. `validateParameters_cases` says what the
loop does, `validateParameters_lawful_iff` when this is the law.
-/

set_option autoImplicit false

namespace Walkoff.Analysis

open Walkoff.Model
open Walkoff.Library (OrderedDict)

/-! ## The law -/

/-- What an argument stands for: its value, or what it selects of the entry it refers to. -/
def resolve (argument : Argument) (accumulator : Accumulator) : Except Exn PyVal :=
  if !argument.value.isNone then pure argument.value
  else do
    let actionOutput ← argument.getActionFromReference accumulator
    if !argument.selection.truthy then pure actionOutput else argument.select actionOutput

section

variable (convert : PyVal → ParamApi → String → Except Exn PyVal) (arguments : List Argument)
  (messagePrefix : String) (accumulator : Accumulator)

/-- The value a parameter gets by the law, if it gets one. -/
def lawValue (param : ParamApi) : Option PyVal :=
  match getArgumentByName arguments param.name with
  | some argument =>
    ((resolve argument accumulator).bind fun v => convert v param messagePrefix).toOption
  | none =>
    match param.default with
    | some default => some ((convert default param messagePrefix).toOption.getD default)
    | none => if param.required = some true then none else some .none

/-- The law refuses the call. -/
def Refused (api : List ParamApi) : Prop :=
  (∃ argument ∈ arguments, argument.name ∉ api.map (·.name)) ∨
    ∃ param ∈ api, lawValue convert arguments messagePrefix accumulator param = none

/-- A result the law allows: the dictionary of the parameters' values, or an
`InvalidArgument` with errors where the call is refused. -/
def Lawful (api : List ParamApi) : Except Exn (OrderedDict String PyVal) → Prop
  | .ok converted => ¬Refused convert arguments messagePrefix accumulator api ∧
      (∀ name, name ∈ converted.map Prod.fst ↔ name ∈ api.map (·.name)) ∧
      ∀ param ∈ api, OrderedDict.get? param.name converted =
        lawValue convert arguments messagePrefix accumulator param
  | .error (.invalidArgument _ errors) => errors ≠ [] ∧
      Refused convert arguments messagePrefix accumulator api
  | .error _ => False

end

/-! ## One turn of the loop -/

/-- The exception is an `InvalidArgument`. -/
def Exn.IsInvalidArgument : Exn → Prop
  | .invalidArgument _ _ => True
  | _ => False

/-- The computation raises nothing but `InvalidArgument`. -/
def Tame {α : Type} (x : Except Exn α) : Prop :=
  ∀ e, x = .error e → Exn.IsInvalidArgument e

section

variable (convert : PyVal → ParamApi → String → Except Exn PyVal) (arguments : List Argument)
  (messagePrefix : String) (accumulator : Accumulator)

/-- The argument is looked at: the accumulator is not empty, or the argument no reference. -/
def Consulted (argument : Argument) : Prop :=
  (accumulator.truthy || !argument.isReference) = true

instance (argument : Argument) : Decidable (Consulted accumulator argument) :=
  inferInstanceAs (Decidable (_ = true))

/-- What a turn of the loop puts into the dictionary; `none` when it puts in nothing. -/
def turnValue (param : ParamApi) : Except Exn (Option PyVal) :=
  match getArgumentByName arguments param.name with
  | some argument => do
    let argVal ← argument.getValue accumulator
    if Consulted accumulator argument then do
      pure (some (← convert argVal param messagePrefix))
    else pure none
  | none =>
    match param.default with
    | some default =>
      match convert default param messagePrefix with
      | .error (.invalidArgument _ _) => pure (some default)
      | .error e => throw e
      | .ok value => pure (some value)
    | none =>
      if param.required.isSome then throw (.invalidArgument
        ("For " ++ messagePrefix ++ ": Parameter " ++ param.name ++
          " is not specified and has no default") [])
      else pure (some .none)

/-- The dictionary after a turn that did not raise. -/
def entered (name : String) (value : Option PyVal) (converted : OrderedDict String PyVal) :
    OrderedDict String PyVal :=
  match value with
  | some v => OrderedDict.set name v converted
  | none => converted

/-- Validating a parameter enters the value of its turn. -/
theorem validateParam_eq (param : ParamApi) (v : Validation) :
    validateParam convert arguments messagePrefix accumulator param v =
      (turnValue convert arguments messagePrefix accumulator param).map fun value =>
        { v with
          converted := entered param.name value v.converted
          seenParams := param.name :: v.seenParams
          argumentsSet := if (getArgumentByName arguments param.name).isSome then v.argumentsSet
            else param.name :: v.argumentsSet } := by
  unfold validateParam turnValue
  cases hargument : getArgumentByName arguments param.name with
  | some argument =>
    dsimp only
    cases hvalue : argument.getValue accumulator with
    | error e => rfl
    | ok argVal =>
      by_cases hconsulted : Consulted accumulator argument
      · have hcode : (accumulator.truthy || !argument.isReference) = true := hconsulted
        cases hconvert : convert argVal param messagePrefix with
        | error e =>
          simp [Bind.bind, Except.bind, hcode, hconsulted, hconvert, Except.map]
        | ok value =>
          simp [Bind.bind, Except.bind, hcode, hconsulted, hconvert, Except.map, entered,
            Pure.pure, Except.pure]
      · have hcode : ¬(accumulator.truthy || !argument.isReference) = true := hconsulted
        simp [Bind.bind, Except.bind, hcode, hconsulted, Except.map, entered, Pure.pure,
          Except.pure]
  | none =>
    dsimp only
    cases hdefault : param.default with
    | some default =>
      dsimp only
      cases hconvert : convert default param messagePrefix with
      | error e => cases e <;> rfl
      | ok value => rfl
    | none =>
      dsimp only
      split
      · rfl
      · rfl

variable {convert arguments messagePrefix accumulator}

/-- A turn with a value enters it and has seen its parameter. -/
theorem validateTurn_of_ok {param : ParamApi} {value : Option PyVal}
    (h : turnValue convert arguments messagePrefix accumulator param = .ok value)
    (v : Validation) :
    validateTurn convert arguments messagePrefix accumulator v param = .ok { v with
      converted := entered param.name value v.converted
      seenParams := param.name :: v.seenParams
      argumentsSet := if (getArgumentByName arguments param.name).isSome then v.argumentsSet
        else param.name :: v.argumentsSet } := by
  unfold validateTurn
  rw [validateParam_eq, h]
  rfl

/-- A turn that raises `InvalidArgument` is noted as an error; another exception is passed on. -/
theorem validateTurn_of_error {param : ParamApi} {e : Exn}
    (h : turnValue convert arguments messagePrefix accumulator param = .error e)
    (v : Validation) :
    (∃ message errors, e = .invalidArgument message errors ∧
      validateTurn convert arguments messagePrefix accumulator v param =
        .ok { v with errors := v.errors ++ [message] }) ∨
    (¬Exn.IsInvalidArgument e ∧
      validateTurn convert arguments messagePrefix accumulator v param = .error e) := by
  unfold validateTurn
  rw [validateParam_eq, h]
  cases e with
  | invalidArgument message errors => exact .inl ⟨message, errors, rfl, rfl⟩
  | _ => exact .inr ⟨id, rfl⟩

/-! ## The loop -/

variable (convert arguments messagePrefix accumulator)

/-- The turn of the parameter does not raise. -/
def Passes (param : ParamApi) : Prop :=
  ∃ value, turnValue convert arguments messagePrefix accumulator param = .ok value

/-- The dictionary after the turns of some parameters. -/
def enteredAll (params : List ParamApi) (converted : OrderedDict String PyVal) :
    OrderedDict String PyVal :=
  params.foldl (fun d param =>
    entered param.name ((turnValue convert arguments messagePrefix accumulator param).toOption.join)
      d) converted

/-- What the turns of some parameters have done to the local variables. -/
structure Turned (params : List ParamApi) (v v' : Validation) : Prop where
  seen : ∀ name, name ∈ v'.seenParams ↔ name ∈ v.seenParams ∨
    ∃ param ∈ params, param.name = name ∧
      Passes convert arguments messagePrefix accumulator param
  argumentsSet : ∀ name, name ∈ v'.argumentsSet ↔ name ∈ v.argumentsSet ∨
    ∃ param ∈ params, param.name = name ∧
      Passes convert arguments messagePrefix accumulator param ∧
      getArgumentByName arguments param.name = none
  errors : v'.errors = [] ↔ v.errors = [] ∧
    ∀ param ∈ params, Passes convert arguments messagePrefix accumulator param
  converted : v'.converted =
    enteredAll convert arguments messagePrefix accumulator params v.converted

variable {convert arguments messagePrefix accumulator}

/-- The turn of one parameter and those of others are the turns of all. -/
theorem Turned.cons {param : ParamApi} {params : List ParamApi} {u v w : Validation}
    (hturn : Turned convert arguments messagePrefix accumulator [param] u v)
    (hrest : Turned convert arguments messagePrefix accumulator params v w) :
    Turned convert arguments messagePrefix accumulator (param :: params) u w where
  seen name := by
    rw [hrest.seen, hturn.seen]
    simp [or_assoc]
  argumentsSet name := by
    rw [hrest.argumentsSet, hturn.argumentsSet]
    simp [or_assoc]
  errors := by
    rw [hrest.errors, hturn.errors]
    simp [and_assoc]
  converted := by
    rw [hrest.converted, hturn.converted]
    rfl

/-- The step of the loop at a parameter whose turn raises nothing but `InvalidArgument`. -/
theorem validateTurn_turned {param : ParamApi}
    (h : Tame (turnValue convert arguments messagePrefix accumulator param)) (v : Validation) :
    ∃ v', validateTurn convert arguments messagePrefix accumulator v param = .ok v' ∧
      Turned convert arguments messagePrefix accumulator [param] v v' := by
  cases hvalue : turnValue convert arguments messagePrefix accumulator param with
  | ok value =>
    have hpasses : Passes convert arguments messagePrefix accumulator param := ⟨value, hvalue⟩
    refine ⟨_, validateTurn_of_ok hvalue v, ?_, ?_, ?_, ?_⟩
    · intro name
      simp [hpasses, or_comm, eq_comm]
    · intro name
      cases hargument : getArgumentByName arguments param.name with
      | some argument => simp [hargument]
      | none => simp [hargument, hpasses, or_comm, eq_comm]
    · simp [hpasses]
    · simp [enteredAll, hvalue, Except.toOption]
  | error e =>
    have hfails : ¬Passes convert arguments messagePrefix accumulator param := by
      rintro ⟨value, hok⟩
      rw [hvalue] at hok
      cases hok
    obtain ⟨message, errors, rfl, hturn⟩ | ⟨hraised, _⟩ := validateTurn_of_error hvalue v
    · refine ⟨_, hturn, ?_, ?_, ?_, ?_⟩
      · intro name
        simp [hfails]
      · intro name
        simp [hfails]
      · simp [hfails]
      · simp [enteredAll, entered, hvalue, Except.toOption]
    · exact absurd (h e hvalue) hraised

/-- **The loop over parameters whose turns raise nothing but `InvalidArgument`** comes to
its end. -/
theorem foldlM_turned {params : List ParamApi}
    (h : ∀ param ∈ params, Tame (turnValue convert arguments messagePrefix accumulator param))
    (v : Validation) :
    ∃ v', params.foldlM (validateTurn convert arguments messagePrefix accumulator) v = .ok v' ∧
      Turned convert arguments messagePrefix accumulator params v v' := by
  induction params generalizing v with
  | nil =>
    refine ⟨v, rfl, ?_, ?_, ?_, rfl⟩
    · simp
    · simp
    · simp
  | cons param params ih =>
    rw [List.forall_mem_cons] at h
    obtain ⟨u, hu, hturned⟩ := validateTurn_turned h.1 v
    obtain ⟨w, hw, hrest⟩ := ih h.2 u
    refine ⟨w, ?_, hturned.cons hrest⟩
    rw [List.foldlM_cons, hu]
    exact hw

/-- Any other exception ends the loop. -/
theorem foldlM_raises {params : List ParamApi}
    (h : ¬∀ param ∈ params, Tame (turnValue convert arguments messagePrefix accumulator param))
    (v : Validation) :
    ∃ e, ¬Exn.IsInvalidArgument e ∧
      params.foldlM (validateTurn convert arguments messagePrefix accumulator) v = .error e := by
  induction params generalizing v with
  | nil => exact absurd (by simp) h
  | cons param params ih =>
    by_cases hparam : Tame (turnValue convert arguments messagePrefix accumulator param)
    · obtain ⟨u, hu, _⟩ := validateTurn_turned hparam v
      have hrest : ¬∀ p ∈ params,
          Tame (turnValue convert arguments messagePrefix accumulator p) := by
        intro hall
        exact h (List.forall_mem_cons.mpr ⟨hparam, hall⟩)
      obtain ⟨e, he, hloop⟩ := ih hrest u
      refine ⟨e, he, ?_⟩
      rw [List.foldlM_cons, hu]
      exact hloop
    · simp only [Tame, not_forall] at hparam
      obtain ⟨e, hvalue, he⟩ := hparam
      refine ⟨e, he, ?_⟩
      obtain ⟨message, errors, rfl, _⟩ | ⟨_, hturn⟩ := validateTurn_of_error hvalue v
      · exact absurd trivial he
      · rw [List.foldlM_cons, hturn]
        rfl

/-! ## The whole function -/

/-- Under distinct names, the dictionary of the API has its parameters in their order. -/
theorem apiDict_of_nodup {api : List ParamApi} (h : (api.map (·.name)).Nodup) :
    (OrderedDict.update [] (api.map fun p => (p.name, p))).map Prod.snd = api := by
  rw [OrderedDict.update_of_nodup]
  · simp [Function.comp_def]
  · simpa [OrderedDict.keys, Function.comp_def] using h

/-- An argument found by its name is one of the arguments. -/
theorem getArgumentByName_some {arguments : List Argument} {name : String} {argument : Argument}
    (h : getArgumentByName arguments name = some argument) :
    argument ∈ arguments ∧ argument.name = name := by
  refine ⟨List.mem_of_find?_eq_some h, ?_⟩
  simpa using List.find?_some h

/-- Every argument names a parameter. -/
def Known (arguments : List Argument) (api : List ParamApi) : Prop :=
  ∀ argument ∈ arguments, argument.name ∈ api.map (·.name)

/-- The local variables before the loop. -/
def beforeLoop (arguments : List Argument) : Validation :=
  { converted := [], seenParams := [], argumentsSet := arguments.map (·.name), errors := [] }

section

variable {api : List ParamApi} {v : Validation}
  (h : Turned convert arguments messagePrefix accumulator api (beforeLoop arguments) v)

include h

/-- No parameter has been seen that had no argument. -/
theorem Turned.missing_eq_nil : v.seenParams.filter (· ∉ v.argumentsSet) = [] := by
  rw [List.filter_eq_nil_iff]
  intro name hname
  obtain hnil | ⟨param, hparam, rfl, hpasses⟩ := (h.seen name).mp hname
  · cases hnil
  · simp only [decide_not, Bool.not_eq_true', decide_eq_false_iff_not, not_not]
    rw [h.argumentsSet]
    cases hargument : getArgumentByName arguments param.name with
    | none => exact .inr ⟨param, hparam, rfl, hpasses, hargument⟩
    | some argument =>
      obtain ⟨hmem, hname⟩ := getArgumentByName_some hargument
      exact .inl (List.mem_map.mpr ⟨argument, hmem, hname⟩)

/-- There is no extra argument exactly if each names a parameter that was seen. -/
theorem Turned.extra_eq_nil_iff :
    v.argumentsSet.filter (· ∉ v.seenParams) = [] ↔
      ∀ argument ∈ arguments, argument.name ∈ v.seenParams := by
  rw [List.filter_eq_nil_iff]
  simp only [decide_not, Bool.not_eq_true', decide_eq_false_iff_not, not_not]
  constructor
  · intro hall argument hargument
    apply hall
    rw [h.argumentsSet]
    exact .inl (List.mem_map_of_mem hargument)
  · intro hall name hname
    obtain hinit | ⟨param, hparam, rfl, hpasses, _⟩ := (h.argumentsSet name).mp hname
    · obtain ⟨argument, hargument, rfl⟩ := List.mem_map.mp hinit
      exact hall argument hargument
    · exact (h.seen _).mpr (.inr ⟨param, hparam, rfl, hpasses⟩)

/-- Nothing is wrong in the end if no turn failed and no argument is left over. -/
theorem Turned.accepted_iff :
    (v.errors = [] ∧ v.argumentsSet.filter (· ∉ v.seenParams) = []) ↔
      (∀ param ∈ api, Passes convert arguments messagePrefix accumulator param) ∧
        Known arguments api := by
  rw [h.errors, h.extra_eq_nil_iff]
  have hseen : (∀ param ∈ api, Passes convert arguments messagePrefix accumulator param) →
      ∀ name, name ∈ v.seenParams ↔ name ∈ api.map (·.name) := by
    intro hpass name
    rw [h.seen, List.mem_map]
    constructor
    · rintro (hnil | ⟨param, hparam, hname, _⟩)
      · cases hnil
      · exact ⟨param, hparam, hname⟩
    · rintro ⟨param, hparam, hname⟩
      exact .inr ⟨param, hparam, hname, hpass param hparam⟩
  constructor
  · rintro ⟨⟨_, hpass⟩, hall⟩
    exact ⟨hpass, fun argument hargument => (hseen hpass _).mp (hall argument hargument)⟩
  · rintro ⟨hpass, hknown⟩
    exact ⟨⟨rfl, hpass⟩, fun argument hargument => (hseen hpass _).mpr (hknown argument hargument)⟩

end

/-- The end of `validate_parameters`: compare the two sets, and raise if there are errors. -/
def conclude (messagePrefix : String) (v : Validation) : Except Exn (OrderedDict String PyVal) :=
  let extra := v.argumentsSet.filter (· ∉ v.seenParams)
  let missing := v.seenParams.filter (· ∉ v.argumentsSet)
  let errors := if extra.isEmpty ∧ missing.isEmpty then v.errors else
    v.errors ++ ["For " ++ messagePrefix ++ ": Too many arguments. Extra arguments: " ++
      ", ".intercalate extra]
  if errors.isEmpty then pure v.converted
  else throw (.invalidArgument "Invalid arguments" errors)

section

variable {api : List ParamApi} {v : Validation}
  (h : Turned convert arguments messagePrefix accumulator api (beforeLoop arguments) v)

include h

/-- Without errors and extra arguments the converted ones are returned. -/
theorem conclude_of_accepted
    (hgood : v.errors = [] ∧ v.argumentsSet.filter (· ∉ v.seenParams) = []) :
    conclude messagePrefix v = .ok v.converted := by
  unfold conclude
  rw [h.missing_eq_nil, hgood.2, hgood.1]
  rfl

/-- Otherwise `InvalidArgument` is raised, with the errors. -/
theorem conclude_of_not_accepted
    (hbad : ¬(v.errors = [] ∧ v.argumentsSet.filter (· ∉ v.seenParams) = [])) :
    ∃ errors, errors ≠ [] ∧
      conclude messagePrefix v = .error (.invalidArgument "Invalid arguments" errors) := by
  unfold conclude
  rw [h.missing_eq_nil]
  by_cases hextra : v.argumentsSet.filter (· ∉ v.seenParams) = []
  · have herrors : v.errors ≠ [] := fun h => hbad ⟨h, hextra⟩
    have hnonempty : ¬v.errors.isEmpty = true := by simpa using herrors
    refine ⟨v.errors, herrors, ?_⟩
    rw [hextra]
    simp only [List.isEmpty_nil, and_self, if_true]
    rw [if_neg hnonempty]
    rfl
  · refine ⟨v.errors ++ ["For " ++ messagePrefix ++ ": Too many arguments. Extra arguments: " ++
      ", ".intercalate (v.argumentsSet.filter (· ∉ v.seenParams))], by simp, ?_⟩
    have hnonempty : ¬((v.argumentsSet.filter (· ∉ v.seenParams)).isEmpty = true ∧
        ([] : List String).isEmpty = true) := by
      simpa using hextra
    simp only [if_neg hnonempty]
    rw [if_neg (by simp)]
    rfl

end

section

variable {api : List ParamApi} (hnodup : (api.map (·.name)).Nodup)

include hnodup

/-- The validation is the loop over the parameters and its conclusion. -/
theorem validateParameters_eq :
    validateParameters convert api arguments messagePrefix accumulator =
      (api.foldlM (validateTurn convert arguments messagePrefix accumulator)
        (beforeLoop arguments)).bind (conclude messagePrefix) := by
  unfold validateParameters
  dsimp only
  rw [apiDict_of_nodup hnodup]
  rfl

/-- **What `validate_parameters` does**: an exception of a turn other than
`InvalidArgument` escapes; otherwise the dictionary is returned if every turn passes and
every argument is known, and errors are raised if not. -/
theorem validateParameters_cases :
    (¬(∀ param ∈ api, Tame (turnValue convert arguments messagePrefix accumulator param)) ∧
      ∃ e, ¬Exn.IsInvalidArgument e ∧
        validateParameters convert api arguments messagePrefix accumulator = .error e) ∨
    ((∀ param ∈ api, Tame (turnValue convert arguments messagePrefix accumulator param)) ∧
      ¬((∀ param ∈ api, Passes convert arguments messagePrefix accumulator param) ∧
        Known arguments api) ∧
      ∃ errors, errors ≠ [] ∧
        validateParameters convert api arguments messagePrefix accumulator =
          .error (.invalidArgument "Invalid arguments" errors)) ∨
    ((∀ param ∈ api, Passes convert arguments messagePrefix accumulator param) ∧
      Known arguments api ∧
      validateParameters convert api arguments messagePrefix accumulator =
        .ok (enteredAll convert arguments messagePrefix accumulator api [])) := by
  by_cases htame : ∀ param ∈ api,
      Tame (turnValue convert arguments messagePrefix accumulator param)
  · obtain ⟨v, hloop, hturned⟩ := foldlM_turned htame (beforeLoop arguments)
    have heq : validateParameters convert api arguments messagePrefix accumulator =
        conclude messagePrefix v := by
      rw [validateParameters_eq hnodup, hloop]
      rfl
    rw [heq]
    by_cases hgood : v.errors = [] ∧ v.argumentsSet.filter (· ∉ v.seenParams) = []
    · obtain ⟨hpass, hknown⟩ := hturned.accepted_iff.mp hgood
      refine .inr (.inr ⟨hpass, hknown, ?_⟩)
      rw [conclude_of_accepted hturned hgood, hturned.converted]
      rfl
    · refine .inr (.inl ⟨htame, ?_, conclude_of_not_accepted hturned hgood⟩)
      rwa [← hturned.accepted_iff]
  · refine .inl ⟨htame, ?_⟩
    obtain ⟨e, he, hloop⟩ := foldlM_raises htame (beforeLoop arguments)
    refine ⟨e, he, ?_⟩
    rw [validateParameters_eq hnodup, hloop]
    rfl

end

/-! ## The dictionary -/

/-- The turns enter nothing under other names. -/
theorem get?_enteredAll_of_not_mem {params : List ParamApi} {name : String}
    (h : name ∉ params.map (·.name)) (d : OrderedDict String PyVal) :
    OrderedDict.get? name
      (enteredAll convert arguments messagePrefix accumulator params d) =
        OrderedDict.get? name d := by
  induction params generalizing d with
  | nil => rfl
  | cons param params ih =>
    rw [List.map_cons, List.mem_cons, not_or] at h
    have hrest := ih h.2 (entered param.name
      ((turnValue convert arguments messagePrefix accumulator param).toOption.join) d)
    have hfirst : OrderedDict.get? name (entered param.name
        ((turnValue convert arguments messagePrefix accumulator param).toOption.join) d) =
          OrderedDict.get? name d := by
      unfold entered
      split
      · exact OrderedDict.get?_set_of_ne h.1 _ _
      · rfl
    exact hrest.trans hfirst

/-- Every parameter finds in the dictionary what its own turn has put in. -/
theorem get?_enteredAll {params : List ParamApi} (hnodup : (params.map (·.name)).Nodup)
    {param : ParamApi} (hparam : param ∈ params) {d : OrderedDict String PyVal}
    (hd : OrderedDict.get? param.name d = none) :
    OrderedDict.get? param.name
      (enteredAll convert arguments messagePrefix accumulator params d) =
        (turnValue convert arguments messagePrefix accumulator param).toOption.join := by
  induction params generalizing d with
  | nil => cases hparam
  | cons first params ih =>
    rw [List.map_cons, List.nodup_cons] at hnodup
    have hcons : enteredAll convert arguments messagePrefix accumulator (first :: params) d =
        enteredAll convert arguments messagePrefix accumulator params (entered first.name
          ((turnValue convert arguments messagePrefix accumulator first).toOption.join) d) := rfl
    rw [hcons]
    rcases List.mem_cons.mp hparam with rfl | hparam
    · rw [get?_enteredAll_of_not_mem hnodup.1]
      unfold entered
      split
      · rename_i v hv
        rw [hv, OrderedDict.get?_set_self]
      · rename_i hnone
        rw [hnone, hd]
    · apply ih hnodup.2 hparam
      have hne : param.name ≠ first.name := by
        intro heq
        exact hnodup.1 (heq ▸ List.mem_map_of_mem hparam)
      unfold entered
      split
      · rw [OrderedDict.get?_set_of_ne hne, hd]
      · exact hd

/-! ## Where the loop keeps to the law -/

section

variable (convert arguments messagePrefix accumulator)

/-- The turn at a parameter raises nothing but `InvalidArgument`: resolving the argument does
not, and converting its value or the default does not. -/
def Manageable (param : ParamApi) : Prop :=
  match getArgumentByName arguments param.name with
  | some argument => Tame (argument.getValue accumulator) ∧
      (Consulted accumulator argument → ∀ v, argument.getValue accumulator = .ok v →
        Tame (convert v param messagePrefix))
  | none => ∀ default, param.default = some default → Tame (convert default param messagePrefix)

/-- The parameter has neither an argument nor a default, and its `required` is `flag`. -/
def Absent (flag : Bool) (param : ParamApi) : Prop :=
  getArgumentByName arguments param.name = none ∧ param.default = none ∧
    param.required = some flag

/-- The argument of the parameter is passed over: a reference, with an empty accumulator. -/
def PassedOver (param : ParamApi) : Prop :=
  ∃ argument, getArgumentByName arguments param.name = some argument ∧
    ¬Consulted accumulator argument

/-- The law refuses the call for a reason the loop looks at. -/
def PlainlyRefused (api : List ParamApi) : Prop :=
  ¬Known arguments api ∨ ∃ param ∈ api,
    lawValue convert arguments messagePrefix accumulator param = none ∧
      ¬PassedOver arguments accumulator param

end

/-- A turn raises nothing but `InvalidArgument` exactly if its parameter can be managed. -/
theorem tame_turnValue_iff (param : ParamApi) :
    Tame (turnValue convert arguments messagePrefix accumulator param) ↔
      Manageable convert arguments messagePrefix accumulator param := by
  unfold turnValue Manageable
  cases hargument : getArgumentByName arguments param.name with
  | some argument =>
    dsimp only
    cases hvalue : argument.getValue accumulator with
    | error e =>
      simp [Tame, Bind.bind, Except.bind]
    | ok v =>
      by_cases hconsulted : Consulted accumulator argument
      · cases hconvert : convert v param messagePrefix with
        | error e => simp [Tame, Bind.bind, Except.bind, hconsulted, hconvert]
        | ok w => simp [Tame, Bind.bind, Except.bind, hconsulted, hconvert, Pure.pure, Except.pure]
      · simp [Tame, Bind.bind, Except.bind, hconsulted, Pure.pure, Except.pure]
  | none =>
    dsimp only
    cases hdefault : param.default with
    | some default =>
      cases hconvert : convert default param messagePrefix with
      | error e =>
        cases e <;> simp [Tame, hconvert, Exn.IsInvalidArgument, Pure.pure, Except.pure, throw,
          throwThe, MonadExceptOf.throw]
      | ok v => simp [Tame, hconvert, Pure.pure, Except.pure]
    | none =>
      dsimp only
      split
      · simp [Tame, throw, throwThe, MonadExceptOf.throw, Exn.IsInvalidArgument]
      · simp [Tame, Pure.pure, Except.pure]

/-- An argument without a value is a reference: `__init__`, `init_on_load` and
`update_value_reference` see to it. -/
def Built (arguments : List Argument) : Prop :=
  ∀ argument ∈ arguments, argument.value.isNone = true → argument.isReference = true

/-- What the loop gets from an argument it looks at is what the argument stands for. -/
theorem getValue_of_consulted {argument : Argument} (hbuilt : argument.value.isNone = true →
    argument.isReference = true) (h : Consulted accumulator argument) :
    argument.getValue accumulator = resolve argument accumulator := by
  unfold Argument.getValue resolve
  cases hnone : argument.value.isNone with
  | false => rfl
  | true =>
    have htruthy : accumulator.truthy = true := by
      unfold Consulted at h
      rw [hbuilt hnone] at h
      simpa using h
    simp [htruthy]

/-- The turn at a parameter whose argument is passed over puts nothing into the dictionary. -/
theorem turnValue_of_passedOver {param : ParamApi} (h : PassedOver arguments accumulator param) :
    turnValue convert arguments messagePrefix accumulator param = .ok none := by
  obtain ⟨argument, hargument, hpassed⟩ := h
  have hempty : accumulator.truthy = false := by
    unfold Consulted at hpassed
    cases htruthy : accumulator.truthy with
    | true => simp [htruthy] at hpassed
    | false => rfl
  have hvalue : ∃ v, argument.getValue accumulator = .ok v := by
    unfold Argument.getValue
    cases argument.value.isNone with
    | false => exact ⟨_, rfl⟩
    | true => exact ⟨Argument.referenceValue argument.reference, by simp [hempty]; rfl⟩
  obtain ⟨v, hv⟩ := hvalue
  unfold turnValue
  rw [hargument]
  simp [hv, hpassed, Bind.bind, Except.bind, Pure.pure, Except.pure]

/-- The turn at any other parameter gives it the value of the law, or fails where the law has
no value for it, unless the parameter is absent and its `required` is false. -/
theorem turnValue_toOption {param : ParamApi} (hbuilt : Built arguments)
    (h : Manageable convert arguments messagePrefix accumulator param)
    (hpassed : ¬PassedOver arguments accumulator param)
    (habsent : ¬Absent arguments false param) :
    (turnValue convert arguments messagePrefix accumulator param).toOption =
      (lawValue convert arguments messagePrefix accumulator param).map some := by
  unfold turnValue lawValue
  unfold Manageable at h
  cases hargument : getArgumentByName arguments param.name with
  | some argument =>
    have hconsulted : Consulted accumulator argument := by
      by_contra hnot
      exact hpassed ⟨argument, hargument, hnot⟩
    have hresolve := getValue_of_consulted (hbuilt argument (getArgumentByName_some hargument).1)
      hconsulted
    dsimp only
    rw [← hresolve]
    cases hvalue : argument.getValue accumulator with
    | error e => rfl
    | ok v =>
      cases hconvert : convert v param messagePrefix with
      | error e =>
        simp [Bind.bind, Except.bind, hconsulted, hconvert, Except.toOption]
      | ok w =>
        simp [Bind.bind, Except.bind, hconsulted, hconvert, Except.toOption, Pure.pure,
          Except.pure]
  | none =>
    rw [hargument] at h
    dsimp only at h ⊢
    cases hdefault : param.default with
    | some default =>
      cases hconvert : convert default param messagePrefix with
      | ok v => simp [hconvert, Except.toOption, Pure.pure, Except.pure]
      | error e =>
        have hinvalid := h default hdefault e hconvert
        cases e with
        | invalidArgument message errors =>
          simp [hconvert, Except.toOption, Pure.pure, Except.pure]
        | _ => exact absurd hinvalid id
    | none =>
      cases hrequired : param.required with
      | none => rfl
      | some flag =>
        cases flag with
        | true => rfl
        | false => exact absurd ⟨hargument, hdefault, hrequired⟩ habsent

/-- A turn passes exactly if it has a value. -/
theorem passes_iff_isSome {param : ParamApi} :
    Passes convert arguments messagePrefix accumulator param ↔
      (turnValue convert arguments messagePrefix accumulator param).toOption.isSome = true := by
  unfold Passes
  cases turnValue convert arguments messagePrefix accumulator param with
  | ok value => simp [Except.toOption]
  | error e => simp [Except.toOption]

/-- The turn of an absent parameter with a `required` key fails. -/
theorem not_passes_of_absent {param : ParamApi} {flag : Bool}
    (h : Absent arguments flag param) :
    ¬Passes convert arguments messagePrefix accumulator param := by
  obtain ⟨hargument, hdefault, hrequired⟩ := h
  rintro ⟨value, hvalue⟩
  unfold turnValue at hvalue
  rw [hargument, hdefault, hrequired] at hvalue
  cases hvalue

/-- When a turn passes. -/
theorem passes_iff {param : ParamApi} (hbuilt : Built arguments)
    (h : Manageable convert arguments messagePrefix accumulator param) :
    Passes convert arguments messagePrefix accumulator param ↔
      ¬(lawValue convert arguments messagePrefix accumulator param = none ∧
        ¬PassedOver arguments accumulator param) ∧ ¬Absent arguments false param := by
  by_cases hpassed : PassedOver arguments accumulator param
  · have hturn : turnValue convert arguments messagePrefix accumulator param = .ok none :=
      turnValue_of_passedOver hpassed
    have habsent : ¬Absent arguments false param := by
      rintro ⟨hnone, _⟩
      obtain ⟨argument, hargument, _⟩ := hpassed
      rw [hnone] at hargument
      cases hargument
    simp only [hpassed, not_true, and_false, not_false_iff, habsent, and_self, iff_true]
    exact ⟨none, hturn⟩
  · by_cases habsent : Absent arguments false param
    · simp only [habsent, not_true, and_false, iff_false]
      exact not_passes_of_absent habsent
    · rw [passes_iff_isSome, turnValue_toOption hbuilt h hpassed habsent]
      simp [hpassed, habsent, Option.isSome_iff_ne_none]

/-- The condition under which the loop keeps to the law: nothing but `InvalidArgument` is
raised, and no optional parameter counts as required and no reference is passed over, unless
the call has to be refused anyway or the two make up for each other. -/
structure KeepsLaw (convert : PyVal → ParamApi → String → Except Exn PyVal)
    (arguments : List Argument) (messagePrefix : String) (accumulator : Accumulator)
    (api : List ParamApi) : Prop where
  manageable : ∀ param ∈ api, Manageable convert arguments messagePrefix accumulator param
  decided : PlainlyRefused convert arguments messagePrefix accumulator api ∨
    ((∃ param ∈ api, Absent arguments false param) ∧ ∃ param ∈ api,
      PassedOver arguments accumulator param ∧
        lawValue convert arguments messagePrefix accumulator param = none) ∨
    ∀ param ∈ api, ¬Absent arguments false param ∧ ¬PassedOver arguments accumulator param

/-- The law refuses what the loop sees to be wrong, and what a dangling reference is for. -/
theorem refused_iff {api : List ParamApi} :
    Refused convert arguments messagePrefix accumulator api ↔
      PlainlyRefused convert arguments messagePrefix accumulator api ∨
        ∃ param ∈ api, PassedOver arguments accumulator param ∧
          lawValue convert arguments messagePrefix accumulator param = none := by
  have hknown : (∃ argument ∈ arguments, argument.name ∉ api.map (·.name)) ↔
      ¬Known arguments api := by
    simp [Known]
  unfold Refused PlainlyRefused
  rw [hknown]
  constructor
  · rintro (hunknown | ⟨param, hparam, hnone⟩)
    · exact .inl (.inl hunknown)
    · by_cases hpassed : PassedOver arguments accumulator param
      · exact .inr ⟨param, hparam, hpassed, hnone⟩
      · exact .inl (.inr ⟨param, hparam, hnone, hpassed⟩)
  · rintro ((hunknown | ⟨param, hparam, hnone, _⟩) | ⟨param, hparam, _, hnone⟩)
    · exact .inl hunknown
    · exact .inr ⟨param, hparam, hnone⟩
    · exact .inr ⟨param, hparam, hnone⟩

/-- The loop accepts what it does not see to be wrong and what has no absent parameter with a
`required` key that says false. -/
theorem accepts_iff {api : List ParamApi} (hbuilt : Built arguments)
    (h : ∀ param ∈ api, Manageable convert arguments messagePrefix accumulator param) :
    ((∀ param ∈ api, Passes convert arguments messagePrefix accumulator param) ∧
        Known arguments api) ↔
      ¬PlainlyRefused convert arguments messagePrefix accumulator api ∧
        ¬∃ param ∈ api, Absent arguments false param := by
  constructor
  · rintro ⟨hpass, hknown⟩
    refine ⟨?_, ?_⟩
    · rintro (hunknown | ⟨param, hparam, hnone⟩)
      · exact hunknown hknown
      · exact ((passes_iff hbuilt (h param hparam)).mp (hpass param hparam)).1 hnone
    · rintro ⟨param, hparam, habsent⟩
      exact not_passes_of_absent habsent (hpass param hparam)
  · rintro ⟨hplain, habsent⟩
    refine ⟨?_, ?_⟩
    · intro param hparam
      rw [passes_iff hbuilt (h param hparam)]
      exact ⟨fun hnone => hplain (.inr ⟨param, hparam, hnone⟩),
        fun hflag => habsent ⟨param, hparam, hflag⟩⟩
    · by_contra hunknown
      exact hplain (.inl hunknown)

/-- The dictionary of a loop that passes over nothing is that of the law. -/
theorem lawful_enteredAll {api : List ParamApi} (hnodup : (api.map (·.name)).Nodup)
    (hbuilt : Built arguments)
    (h : ∀ param ∈ api, Manageable convert arguments messagePrefix accumulator param)
    (hpass : ∀ param ∈ api, Passes convert arguments messagePrefix accumulator param)
    (hpassed : ∀ param ∈ api, ¬PassedOver arguments accumulator param) :
    (∀ name, name ∈ (enteredAll convert arguments messagePrefix accumulator api []).map Prod.fst ↔
      name ∈ api.map (·.name)) ∧
    ∀ param ∈ api, OrderedDict.get? param.name
      (enteredAll convert arguments messagePrefix accumulator api []) =
        lawValue convert arguments messagePrefix accumulator param := by
  have hvalue : ∀ param ∈ api, OrderedDict.get? param.name
      (enteredAll convert arguments messagePrefix accumulator api []) =
        lawValue convert arguments messagePrefix accumulator param := by
    intro param hparam
    have habsent : ¬Absent arguments false param :=
      fun hflag => not_passes_of_absent hflag (hpass param hparam)
    rw [get?_enteredAll hnodup hparam rfl,
      turnValue_toOption hbuilt (h param hparam) (hpassed param hparam) habsent]
    cases lawValue convert arguments messagePrefix accumulator param with
    | none => rfl
    | some v => rfl
  refine ⟨?_, hvalue⟩
  intro name
  have hkeys := OrderedDict.mem_keys_iff name
    (enteredAll convert arguments messagePrefix accumulator api [])
  unfold OrderedDict.keys at hkeys
  rw [hkeys]
  constructor
  · intro hsome
    by_contra hname
    rw [get?_enteredAll_of_not_mem hname] at hsome
    cases hsome
  · intro hname
    obtain ⟨param, hparam, rfl⟩ := List.mem_map.mp hname
    have hnone := ((passes_iff hbuilt (h param hparam)).mp (hpass param hparam)).1
    rw [hvalue param hparam, Option.isSome_iff_ne_none]
    exact fun hlaw => hnone ⟨hlaw, hpassed param hparam⟩

/-- **When `validate_parameters` keeps to its law.** -/
theorem lawful_iff {api : List ParamApi} (hnodup : (api.map (·.name)).Nodup)
    (hbuilt : Built arguments) :
    Lawful convert arguments messagePrefix accumulator api
        (validateParameters convert api arguments messagePrefix accumulator) ↔
      KeepsLaw convert arguments messagePrefix accumulator api := by
  have htame : (∀ param ∈ api,
      Tame (turnValue convert arguments messagePrefix accumulator param)) ↔
      ∀ param ∈ api, Manageable convert arguments messagePrefix accumulator param :=
    forall₂_congr fun param _ => tame_turnValue_iff param
  obtain ⟨hwild, e, he, hresult⟩ | ⟨hall, hnot, errors, herrors, hresult⟩ |
      ⟨hpass, hknown, hresult⟩ :=
    @validateParameters_cases convert arguments messagePrefix accumulator api hnodup
  · rw [hresult]
    constructor
    · intro hlawful
      cases e with
      | invalidArgument message errors => exact absurd trivial he
      | _ => exact absurd hlawful id
    · intro hkeeps
      exact absurd (htame.mpr hkeeps.manageable) hwild
  · rw [hresult]
    have hmanageable := htame.mp hall
    rw [accepts_iff hbuilt hmanageable, not_and_or, not_not, not_not] at hnot
    show errors ≠ [] ∧ Refused convert arguments messagePrefix accumulator api ↔ _
    rw [refused_iff]
    constructor
    · rintro ⟨_, hplain | hdangling⟩
      · exact ⟨hmanageable, .inl hplain⟩
      · rcases hnot with hplain | habsent
        · exact ⟨hmanageable, .inl hplain⟩
        · exact ⟨hmanageable, .inr (.inl ⟨habsent, hdangling⟩)⟩
    · rintro ⟨_, hplain | ⟨_, hdangling⟩ | hclean⟩
      · exact ⟨herrors, .inl hplain⟩
      · exact ⟨herrors, .inr hdangling⟩
      · rcases hnot with hplain | ⟨param, hparam, habsent⟩
        · exact ⟨herrors, .inl hplain⟩
        · exact absurd habsent (hclean param hparam).1
  · rw [hresult]
    have hmanageable : ∀ param ∈ api,
        Manageable convert arguments messagePrefix accumulator param := by
      intro param hparam
      rw [← tame_turnValue_iff]
      obtain ⟨value, hvalue⟩ := hpass param hparam
      intro e he
      rw [hvalue] at he
      cases he
    obtain ⟨hplain, habsent⟩ := (accepts_iff hbuilt hmanageable).mp ⟨hpass, hknown⟩
    constructor
    · rintro ⟨_, hkeys, _⟩
      refine ⟨hmanageable, .inr (.inr ?_)⟩
      intro param hparam
      refine ⟨fun hflag => habsent ⟨param, hparam, hflag⟩, ?_⟩
      intro hpassed
      -- a parameter that is passed over is no key of the dictionary
      have hmem := (hkeys param.name).mpr (List.mem_map_of_mem hparam)
      have hkey := (OrderedDict.mem_keys_iff param.name _).mp hmem
      rw [get?_enteredAll hnodup hparam rfl, turnValue_of_passedOver hpassed] at hkey
      cases hkey
    · rintro ⟨_, hrefused | ⟨habs, _⟩ | hclean⟩
      · exact absurd hrefused hplain
      · exact absurd habs habsent
      · have hpassed := fun param hparam => (hclean param hparam).2
        refine ⟨?_, lawful_enteredAll hnodup hbuilt hmanageable hpass hpassed⟩
        rw [refused_iff]
        rintro (hrefused | ⟨param, hparam, hover, _⟩)
        · exact hplain hrefused
        · exact hpassed param hparam hover

end

/-! ## The conversions of `validate_parameter` -/

section

variable {lib : Libraries}

/-- An array of a primitive type is iterated over: a number, a truth value or a float raises a
`TypeError`, which is not an invalid argument. -/
theorem validateParameter_array_of_number {param : ParamApi} {items : PyVal} {itemType : String}
    {type : PrimitiveType} (harray : param.schema.entry "type" = some (.str "array"))
    (hitems : param.schema.entry "items" = some items)
    (hitem : items.entry "type" = some (.str itemType))
    (htype : PrimitiveType.ofName itemType = some type) (i : ℤ) (messagePrefix : String) :
    validateParameter lib (.int i) param messagePrefix = .error .typeError := by
  have hconvert : convertArray lib param.schema (.int i) messagePrefix = .error .typeError := by
    rw [convertArray]
    split
    · rename_i hnone
      rw [hitems] at hnone
      cases hnone
    · rename_i found hfound
      rw [hitems] at hfound
      cases hfound
      rw [hitem]
      dsimp only
      rw [htype]
      rfl
  unfold validateParameter
  rw [harray]
  dsimp only
  unfold validateTyped
  have hname : PrimitiveType.ofName "array" = none := by decide
  rw [hname]
  simp only [PyVal.isNone, Bool.not_false, if_true, hconvert]
  rfl

end

/-- **The law of `validate_parameters`** holds of a call exactly under `KeepsLaw`. -/
theorem validateParameters_lawful_iff (lib : Libraries) (api : List ParamApi)
    (arguments : List Argument) (messagePrefix : String) (accumulator : Accumulator)
    (hnodup : (api.map (·.name)).Nodup) (hbuilt : Built arguments) :
    Lawful (validateParameter lib) arguments messagePrefix accumulator api
        (validateParameters (validateParameter lib) api arguments messagePrefix accumulator) ↔
      KeepsLaw (validateParameter lib) arguments messagePrefix accumulator api :=
  lawful_iff hnodup hbuilt

/-- An optional parameter that says so, and nothing else. -/
def optionalLimit : ParamApi :=
  { name := "limit", default := none, required := some false
    schema := .dict [("name", .str "limit"), ("type", .str "integer"),
      ("required", .bool false)] }

/-- Library code for values that are never looked at. -/
def idleLibraries : Libraries where
  boolean value := pure value
  float value := pure value
  draft4 _ _ := pure none

/-- The parameter is refused for want of an argument, although it is optional. -/
theorem optional_parameter_refused :
    ¬Lawful (validateParameter idleLibraries) [] "" { type := .memory, entries := [] }
      [optionalLimit] (validateParameters (validateParameter idleLibraries) [optionalLimit] [] ""
        { type := .memory, entries := [] }) := by
  rintro ⟨_, hunknown | ⟨param, hparam, hnone⟩⟩
  · obtain ⟨argument, hargument, _⟩ := hunknown
    cases hargument
  · rw [List.mem_singleton] at hparam
    subst hparam
    cases hnone

/-- A port that has to be given, and a timeout with a default. -/
def connectionApi : List ParamApi :=
  [{ name := "port", default := none, required := some true
     schema := .dict [("name", .str "port"), ("type", .str "integer"),
       ("required", .bool true)] },
   { name := "timeout", default := some (.int 30), required := none
     schema := .dict [("name", .str "timeout"), ("type", .str "integer"),
       ("default", .int 30)] }]

/-- The second of the ports that another action has found. -/
def foundPort : Argument :=
  .init "port" .none (some (.uuid 7)) (.list [.str "ports", .str "1"])

/-- What the other action has found. -/
def foundPorts : Accumulator where
  type := .memory
  entries := [(.uuid 7, .dict [("ports", .list [.int 22, .str "443"])])]

/-- A call with a reference to resolve, a default to fill in and values to convert keeps to the
law. -/
theorem lawful_connection :
    validateParameters (validateParameter idleLibraries) connectionApi [foundPort] "connect"
        foundPorts = .ok [("port", .int 443), ("timeout", .int 30)] ∧
      Lawful (validateParameter idleLibraries) [foundPort] "connect" foundPorts connectionApi
        (validateParameters (validateParameter idleLibraries) connectionApi [foundPort] "connect"
          foundPorts) := by
  have hport : turnValue (validateParameter idleLibraries) [foundPort] "connect" foundPorts
      connectionApi[0] = .ok (some (.int 443)) := by
    with_unfolding_all rfl
  have htimeout : turnValue (validateParameter idleLibraries) [foundPort] "connect" foundPorts
      connectionApi[1] = .ok (some (.int 30)) := by
    with_unfolding_all rfl
  have hbuilt : Built [foundPort] := List.forall_mem_singleton.mpr fun _ => rfl
  have hnodup : (connectionApi.map (·.name)).Nodup := by decide
  have hkeeps : KeepsLaw (validateParameter idleLibraries) [foundPort] "connect" foundPorts
      connectionApi := by
    refine ⟨fun param hparam => ?_, .inr (.inr fun param hparam => ?_)⟩
    · rw [← tame_turnValue_iff]
      rcases List.mem_pair.mp hparam with rfl | rfl
      · exact fun e he => nomatch hport.symm.trans he
      · exact fun e he => nomatch htimeout.symm.trans he
    · rcases List.mem_pair.mp hparam with rfl | rfl
      · refine ⟨fun habsent => (nomatch habsent.1), ?_⟩
        rintro ⟨argument, hargument, hnot⟩
        obtain rfl := Option.some.inj hargument
        exact hnot rfl
      · refine ⟨fun habsent => (nomatch habsent.2.1), ?_⟩
        rintro ⟨argument, hargument, -⟩
        cases hargument
  exact ⟨by with_unfolding_all rfl, (validateParameters_lawful_iff idleLibraries connectionApi
    [foundPort] "connect" foundPorts hnodup hbuilt).mpr hkeeps⟩

end Walkoff.Analysis
