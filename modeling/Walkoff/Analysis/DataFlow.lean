import Walkoff.Analysis.ParameterLaw
import Walkoff.Program.Conditions

/-!
# The data flow of a condition

`meantCondition` says what a condition does with its data. Every transform replaces the data
by the result of its function, or leaves it as it is when its arguments are invalid or the
function raises. The condition's function gets what comes out; its result is negated if the
condition says so, and without a result the condition is false. Which arguments are valid
and what the functions are called with is the law of the parameters.

`Condition.execute` does the same exactly when the condition and its transforms are stored
without errors and every validation on the way keeps to that law
(`conditionExecute_eq_meant_iff`).
-/

set_option autoImplicit false

namespace Walkoff.Analysis

open Walkoff.Model Walkoff.Program
open Walkoff.Library (OrderedDict Within bind_apply bind_of_ok bind_of_error finalState)

variable {σ : Type}

/-! ## What is meant -/

section

variable (convert : PyVal → ParamApi → String → Except Exn PyVal) (arguments : List Argument)
  (messagePrefix : String) (accumulator : Accumulator)

/-- The arguments a function is called with by the law; `none` when they are invalid. -/
def lawArguments (api : List ParamApi) : Option (OrderedDict String PyVal) :=
  let value := lawValue convert arguments messagePrefix accumulator
  if arguments.all (fun argument => argument.name ∈ api.map (·.name)) &&
      api.all (fun param => (value param).isSome) then
    some (api.map fun param => (param.name, (value param).getD .none))
  else none

end

/-- What is meant by validating the arguments with the data and calling the function. -/
def meantCall (lib : Libraries) (api : ExecutableApi) (messagePrefix : String)
    (f : OrderedDict String PyVal → σ → Except Exn PyVal × σ) (arguments : List Argument)
    (data : PyVal) (accumulator : Accumulator) : AppM σ (Option PyVal) :=
  match lawArguments (validateParameter lib) (updateArgumentsWithData arguments api.dataIn data)
      messagePrefix accumulator api.parameters with
  | none => reportInvalid
  | some args => callFunction f args

section

variable (apps : Apps σ) (accumulator : Accumulator)

/-- What is meant by a transform: the identity where it fails. -/
def meantTransform (transform : Transform) (data : PyVal) : AppM σ PyVal :=
  match apps.transformApi transform.appName transform.actionName with
  | none => pure data
  | some api => do
    let result ← meantCall apps.lib api ("transform " ++ transform.actionName)
      (apps.transformFunction transform.appName api.run) transform.arguments data accumulator
    pure (result.getD data)

/-- What is meant by a chain of transforms: their composition. -/
def meantData : List Transform → PyVal → AppM σ PyVal
  | [], data => pure data
  | transform :: transforms, data => do
    let data ← meantTransform apps accumulator transform data
    meantData transforms data

/-- What is meant by the function of a condition, on the transformed data. -/
def meantResult (condition : Condition) (data : PyVal) : AppM σ PyVal :=
  match apps.conditionApi condition.appName condition.actionName with
  | none => pure (.bool false)
  | some api => do
    let result ← meantCall apps.lib api ("condition " ++ condition.actionName)
      (apps.conditionFunction condition.appName api.run) condition.arguments data accumulator
    match result with
    | none => pure (.bool false)
    | some ret => pure (negateIf condition.isNegated ret)

/-- What is meant by a condition. -/
def meantCondition (condition : Condition) (dataIn : PyVal) : AppM σ PyVal := do
  let data ← meantData apps accumulator condition.transforms dataIn
  meantResult apps accumulator condition data

end

/-! ## One validation -/

/-- What the code makes of a validation. -/
def attemptOf : Except Exn (OrderedDict String PyVal) → Except Exn Attempt
  | .ok args => .ok (.called args)
  | .error (.invalidArgument _ _) => .ok .invalid
  | .error e => .error e

/-- What is meant by a validation. -/
def meantAttempt : Option (OrderedDict String PyVal) → Attempt
  | none => .invalid
  | some args => .called args

/-- Do what a validation asks for. -/
def carryOut (f : OrderedDict String PyVal → σ → Except Exn PyVal × σ) :
    Attempt → AppM σ (Option PyVal)
  | .invalid => reportInvalid
  | .called args => callFunction f args

/-- Carrying out an attempt returns and adds the attempt to the record. -/
theorem carryOut_apply (f : OrderedDict String PyVal → σ → Except Exn PyVal × σ)
    (attempt : Attempt) (s : AppState σ) :
    ∃ result behaviour, carryOut f attempt s =
      .ok result { behaviour, attempts := s.attempts ++ [attempt] } := by
  cases attempt with
  | invalid => exact ⟨none, s.behaviour, rfl⟩
  | called args =>
    cases hcall : f args s.behaviour with
    | mk outcome behaviour =>
      cases outcome with
      | ok v => exact ⟨some v, behaviour, by simp only [carryOut, callFunction, hcall]⟩
      | error e => exact ⟨none, behaviour, by simp only [carryOut, callFunction, hcall]⟩

section

variable {convert : PyVal → ParamApi → String → Except Exn PyVal} {arguments : List Argument}
  {messagePrefix : String} {accumulator : Accumulator} {api : List ParamApi}

/-- Refused arguments have no values. -/
theorem lawArguments_of_refused (h : Refused convert arguments messagePrefix accumulator api) :
    lawArguments convert arguments messagePrefix accumulator api = none := by
  unfold lawArguments
  apply if_neg
  rw [Bool.and_eq_true, List.all_eq_true, List.all_eq_true]
  rintro ⟨hknown, hvalues⟩
  rcases h with ⟨argument, hargument, hunknown⟩ | ⟨param, hparam, hnone⟩
  · exact hunknown (by simpa using hknown argument hargument)
  · have hsome := hvalues param hparam
    rw [hnone] at hsome
    cases hsome

/-- Arguments that are not refused have the value of each parameter. -/
theorem lawArguments_of_not_refused
    (h : ¬Refused convert arguments messagePrefix accumulator api) :
    lawArguments convert arguments messagePrefix accumulator api =
      some (api.map fun param => (param.name,
        (lawValue convert arguments messagePrefix accumulator param).getD .none)) := by
  unfold lawArguments
  apply if_pos
  rw [Bool.and_eq_true, List.all_eq_true, List.all_eq_true]
  refine ⟨?_, ?_⟩
  · intro argument hargument
    by_contra hunknown
    exact h (.inl ⟨argument, hargument, by simpa using hunknown⟩)
  · intro param hparam
    rw [Option.isSome_iff_ne_none]
    intro hnone
    exact h (.inr ⟨param, hparam, hnone⟩)

/-- Turns that all put in a value leave the list of these values. -/
theorem enteredAll_eq {params : List ParamApi} {value : ParamApi → PyVal}
    (hvalue : ∀ param ∈ params,
      turnValue convert arguments messagePrefix accumulator param = .ok (some (value param)))
    (d : OrderedDict String PyVal) :
    enteredAll convert arguments messagePrefix accumulator params d =
      OrderedDict.update d (params.map fun param => (param.name, value param)) := by
  induction params generalizing d with
  | nil => rfl
  | cons param params ih =>
    rw [List.forall_mem_cons] at hvalue
    have hcons : enteredAll convert arguments messagePrefix accumulator (param :: params) d =
        enteredAll convert arguments messagePrefix accumulator params (entered param.name
          ((turnValue convert arguments messagePrefix accumulator param).toOption.join) d) := rfl
    rw [hcons, ih hvalue.2, hvalue.1]
    rfl

/-- Under distinct names, a parameter finds its own value. -/
theorem get?_map_of_nodup {params : List ParamApi} {value : ParamApi → PyVal}
    (hnodup : (params.map (·.name)).Nodup) {param : ParamApi} (hparam : param ∈ params) :
    OrderedDict.get? param.name (params.map fun p => (p.name, value p)) = some (value param) := by
  induction params with
  | nil => cases hparam
  | cons first params ih =>
    rw [List.map_cons, List.nodup_cons] at hnodup
    rw [List.map_cons, OrderedDict.get?]
    rcases List.mem_cons.mp hparam with rfl | hparam
    · rw [if_pos rfl]
    · have hne : first.name ≠ param.name := by
        intro heq
        exact hnodup.1 (heq ▸ List.mem_map_of_mem hparam)
      rw [if_neg hne, ih hnodup.2 hparam]

/-- Where nothing is refused, each parameter has a value. -/
theorem lawValue_of_not_refused
    (h : ¬Refused convert arguments messagePrefix accumulator api) {param : ParamApi}
    (hparam : param ∈ api) :
    lawValue convert arguments messagePrefix accumulator param =
      some ((lawValue convert arguments messagePrefix accumulator param).getD .none) := by
  cases hvalue : lawValue convert arguments messagePrefix accumulator param with
  | none => exact absurd (.inr ⟨param, hparam, hvalue⟩) h
  | some v => rfl

/-- The dictionary of the loop is that of the law if it is the law's list of values. -/
theorem enteredAll_eq_iff (hnodup : (api.map (·.name)).Nodup)
    (h : ¬Refused convert arguments messagePrefix accumulator api) :
    enteredAll convert arguments messagePrefix accumulator api [] =
        api.map (fun param => (param.name,
          (lawValue convert arguments messagePrefix accumulator param).getD .none)) ↔
      Lawful convert arguments messagePrefix accumulator api
        (.ok (enteredAll convert arguments messagePrefix accumulator api [])) := by
  constructor
  · intro heq
    refine ⟨h, ?_, ?_⟩
    · intro name
      rw [heq, List.map_map]
      rfl
    · intro param hparam
      have hvalue := lawValue_of_not_refused h hparam
      rw [heq, get?_map_of_nodup hnodup hparam]
      exact hvalue.symm
  · rintro ⟨_, _, hvalues⟩
    have hturn : ∀ param ∈ api, turnValue convert arguments messagePrefix accumulator param =
        .ok (some ((lawValue convert arguments messagePrefix accumulator param).getD .none)) := by
      intro param hparam
      have hfound := hvalues param hparam
      rw [get?_enteredAll hnodup hparam rfl, lawValue_of_not_refused h hparam] at hfound
      cases hvalue : turnValue convert arguments messagePrefix accumulator param with
      | error e =>
        rw [hvalue] at hfound
        cases hfound
      | ok value =>
        rw [hvalue] at hfound
        exact congrArg Except.ok hfound
    rw [enteredAll_eq hturn, OrderedDict.update_of_nodup]
    · rfl
    · simpa [OrderedDict.keys, Function.comp_def] using hnodup

/-- **The code makes of a validation what is meant by it exactly when it keeps to the law.** -/
theorem attemptOf_eq_meant_iff (hnodup : (api.map (·.name)).Nodup) (hbuilt : Built arguments) :
    attemptOf (validateParameters convert api arguments messagePrefix accumulator) =
        .ok (meantAttempt (lawArguments convert arguments messagePrefix accumulator api)) ↔
      KeepsLaw convert arguments messagePrefix accumulator api := by
  rw [← lawful_iff hnodup hbuilt]
  obtain ⟨_, e, he, hresult⟩ | ⟨_, _, errors, herrors, hresult⟩ | ⟨_, _, hresult⟩ :=
    @validateParameters_cases convert arguments messagePrefix accumulator api hnodup
  · rw [hresult]
    cases e with
    | invalidArgument message errors => exact absurd trivial he
    | _ => exact ⟨fun h => (by cases h), fun h => absurd h id⟩
  · rw [hresult]
    by_cases hrefused : Refused convert arguments messagePrefix accumulator api
    · rw [lawArguments_of_refused hrefused]
      exact ⟨fun _ => ⟨herrors, hrefused⟩, fun _ => rfl⟩
    · rw [lawArguments_of_not_refused hrefused]
      exact ⟨fun h => (by cases h), fun h => absurd h.2 hrefused⟩
  · rw [hresult]
    by_cases hrefused : Refused convert arguments messagePrefix accumulator api
    · rw [lawArguments_of_refused hrefused]
      exact ⟨fun h => (by cases h), fun h => absurd hrefused h.1⟩
    · rw [lawArguments_of_not_refused hrefused, ← enteredAll_eq_iff hnodup hrefused]
      constructor
      · intro heq
        injection heq with heq
        injection heq
      · intro heq
        rw [heq]
        rfl

end

/-! ## One call -/

section

variable {lib : Libraries} {api : ExecutableApi} {messagePrefix : String}
  {f : OrderedDict String PyVal → σ → Except Exn PyVal × σ} {arguments : List Argument}
  {data : PyVal} {accumulator : Accumulator}

/-- The validation of the arguments with the data keeps to the law. -/
def CallKeepsLaw (lib : Libraries) (api : ExecutableApi) (messagePrefix : String)
    (arguments : List Argument) (data : PyVal) (accumulator : Accumulator) : Prop :=
  KeepsLaw (validateParameter lib) (updateArgumentsWithData arguments api.dataIn data)
    messagePrefix accumulator api.parameters

/-- Arguments that went through their construction still have after the data is put in. -/
theorem built_updateArgumentsWithData (h : Built arguments) (dataParamName : String)
    (data : PyVal) : Built (updateArgumentsWithData arguments dataParamName data) := by
  intro argument hargument hnone
  unfold updateArgumentsWithData at hargument
  rw [List.mem_append, List.mem_filter, List.mem_singleton] at hargument
  rcases hargument with ⟨hown, _⟩ | rfl
  · exact h argument hown hnone
  · exact hnone

/-- The call that is meant carries out the attempt that is meant. -/
theorem meantCall_eq : meantCall lib api messagePrefix f arguments data accumulator =
    carryOut f (meantAttempt (lawArguments (validateParameter lib)
      (updateArgumentsWithData arguments api.dataIn data) messagePrefix accumulator
        api.parameters)) := by
  unfold meantCall
  cases lawArguments _ _ _ _ _ with
  | none => rfl
  | some args => rfl

/-- The code's call carries out the attempt its validation gives, or raises. -/
theorem validateAndCall_eq : validateAndCall lib api messagePrefix f arguments data accumulator =
    match attemptOf (validateParameters (validateParameter lib) api.parameters
      (updateArgumentsWithData arguments api.dataIn data) messagePrefix accumulator) with
    | .ok attempt => carryOut f attempt
    | .error e => throw e := by
  unfold validateAndCall
  cases validateParameters _ _ _ _ _ with
  | ok args => rfl
  | error e => cases e <;> rfl

/-- A call that keeps to the law is the call that is meant. -/
theorem validateAndCall_eq_meant (hbuilt : Built arguments)
    (h : CallKeepsLaw lib api messagePrefix arguments data accumulator) :
    validateAndCall lib api messagePrefix f arguments data accumulator =
      meantCall lib api messagePrefix f arguments data accumulator := by
  have hattempt := (attemptOf_eq_meant_iff api.distinct
    (built_updateArgumentsWithData hbuilt api.dataIn data)).mpr h
  rw [validateAndCall_eq, meantCall_eq, hattempt]

/-- A call that does not keep to the law raises, or makes another attempt than is meant. -/
theorem validateAndCall_of_not_keepsLaw (hbuilt : Built arguments)
    (h : ¬CallKeepsLaw lib api messagePrefix arguments data accumulator) (s : AppState σ) :
    (∃ e, validateAndCall lib api messagePrefix f arguments data accumulator s = .error e s) ∨
    ∃ attempt meant, attempt ≠ meant ∧
      (∃ result behaviour,
        validateAndCall lib api messagePrefix f arguments data accumulator s =
          .ok result { behaviour, attempts := s.attempts ++ [attempt] }) ∧
      ∃ result behaviour,
        meantCall lib api messagePrefix f arguments data accumulator s =
          .ok result { behaviour, attempts := s.attempts ++ [meant] } := by
  have hattempt := (not_congr (attemptOf_eq_meant_iff api.distinct
    (built_updateArgumentsWithData hbuilt api.dataIn data))).mpr h
  rw [validateAndCall_eq, meantCall_eq]
  cases hcode : attemptOf (validateParameters (validateParameter lib) api.parameters
      (updateArgumentsWithData arguments api.dataIn data) messagePrefix accumulator) with
  | error e => exact .inl ⟨e, rfl⟩
  | ok attempt =>
    rw [hcode] at hattempt
    refine .inr ⟨attempt, _, ?_, carryOut_apply f attempt s, carryOut_apply f _ s⟩
    intro heq
    exact hattempt (congrArg Except.ok heq)

end

/-! ## The record of attempts grows -/

/-- The record of attempts has only grown. -/
def Grows (s s' : AppState σ) : Prop :=
  s.attempts <+: s'.attempts

instance : Std.Refl (Grows : AppState σ → AppState σ → Prop) where
  refl _ := List.prefix_rfl

instance : IsTrans (AppState σ) Grows where
  trans _ _ _ hst htu := List.IsPrefix.trans hst htu

/-- Carrying out an attempt only adds to the record. -/
theorem grows_carryOut (f : OrderedDict String PyVal → σ → Except Exn PyVal × σ)
    (attempt : Attempt) : Within Grows (carryOut f attempt) := by
  intro s
  obtain ⟨result, behaviour, hresult⟩ := carryOut_apply f attempt s
  rw [hresult]
  exact List.prefix_append _ _

section

variable (apps : Apps σ) (accumulator : Accumulator)

/-- The same of the code's call. -/
theorem grows_validateAndCall (lib : Libraries) (api : ExecutableApi) (messagePrefix : String)
    (f : OrderedDict String PyVal → σ → Except Exn PyVal × σ) (arguments : List Argument)
    (data : PyVal) :
    Within Grows (validateAndCall lib api messagePrefix f arguments data accumulator) := by
  rw [validateAndCall_eq]
  cases attemptOf _ with
  | error e => exact Within.throw _
  | ok attempt => exact grows_carryOut f attempt

/-- The same of the call that is meant. -/
theorem grows_meantCall (lib : Libraries) (api : ExecutableApi) (messagePrefix : String)
    (f : OrderedDict String PyVal → σ → Except Exn PyVal × σ) (arguments : List Argument)
    (data : PyVal) :
    Within Grows (meantCall lib api messagePrefix f arguments data accumulator) := by
  rw [meantCall_eq]
  exact grows_carryOut f _

/-- The same of a transform. -/
theorem grows_transformExecute (transform : Transform) (data : PyVal) :
    Within Grows (transformExecute apps transform data accumulator) := by
  unfold transformExecute
  cases transformInitOnLoad apps transform with
  | none => exact Within.throw _
  | some api =>
    exact Within.bind (grows_validateAndCall _ _ _ _ _ _ _) fun _ => Within.pure _

/-- The same of the transforms of a condition. -/
theorem grows_transformData (transforms : List Transform) (data : PyVal) :
    Within Grows (transformData apps accumulator transforms data) := by
  induction transforms generalizing data with
  | nil => exact Within.pure _
  | cons transform transforms ih =>
    exact Within.bind (grows_transformExecute apps accumulator transform data) fun _ => ih _

/-- The same of the condition's own call. -/
theorem grows_callCondition (condition : Condition) (data : PyVal) :
    Within Grows (callCondition apps condition data accumulator) := by
  unfold callCondition
  cases conditionInitOnLoad apps condition with
  | none => exact Within.throw _
  | some api =>
    refine Within.bind (grows_validateAndCall _ _ _ _ _ _ _) fun ret => ?_
    cases ret with
    | none => exact Within.pure _
    | some ret => exact Within.pure _

/-- The same of a transform as it is meant. -/
theorem grows_meantTransform (transform : Transform) (data : PyVal) :
    Within Grows (meantTransform apps accumulator transform data) := by
  unfold meantTransform
  cases apps.transformApi transform.appName transform.actionName with
  | none => exact Within.pure _
  | some api => exact Within.bind (grows_meantCall _ _ _ _ _ _ _) fun _ => Within.pure _

/-- The same of the transforms as they are meant. -/
theorem grows_meantData (transforms : List Transform) (data : PyVal) :
    Within Grows (meantData apps accumulator transforms data) := by
  induction transforms generalizing data with
  | nil => exact Within.pure _
  | cons transform transforms ih =>
    exact Within.bind (grows_meantTransform apps accumulator transform data) fun _ => ih _

/-- The same of the condition's call as it is meant. -/
theorem grows_meantResult (condition : Condition) (data : PyVal) :
    Within Grows (meantResult apps accumulator condition data) := by
  unfold meantResult
  cases apps.conditionApi condition.appName condition.actionName with
  | none => exact Within.pure _
  | some api =>
    refine Within.bind (grows_meantCall _ _ _ _ _ _ _) fun ret => ?_
    cases ret with
    | none => exact Within.pure _
    | some ret => exact Within.pure _

/-! ## What is meant never raises -/

/-- The call that is meant always returns. -/
theorem meantCall_ok (lib : Libraries) (api : ExecutableApi) (messagePrefix : String)
    (f : OrderedDict String PyVal → σ → Except Exn PyVal × σ) (arguments : List Argument)
    (data : PyVal) (s : AppState σ) :
    ∃ result s', meantCall lib api messagePrefix f arguments data accumulator s =
      .ok result s' := by
  rw [meantCall_eq]
  obtain ⟨result, behaviour, hresult⟩ := carryOut_apply f _ s
  exact ⟨result, _, hresult⟩

/-- The same of a transform. -/
theorem meantTransform_ok (transform : Transform) (data : PyVal) (s : AppState σ) :
    ∃ data' s', meantTransform apps accumulator transform data s = .ok data' s' := by
  unfold meantTransform
  cases apps.transformApi transform.appName transform.actionName with
  | none => exact ⟨data, s, rfl⟩
  | some api =>
    obtain ⟨result, s', hresult⟩ := meantCall_ok accumulator apps.lib api
      ("transform " ++ transform.actionName) (apps.transformFunction transform.appName api.run)
      transform.arguments data s
    exact ⟨result.getD data, s', bind_of_ok hresult⟩

/-- The same of the transforms of a condition. -/
theorem meantData_ok (transforms : List Transform) (data : PyVal) (s : AppState σ) :
    ∃ data' s', meantData apps accumulator transforms data s = .ok data' s' := by
  induction transforms generalizing data s with
  | nil => exact ⟨data, s, rfl⟩
  | cons transform transforms ih =>
    obtain ⟨data', s', hfirst⟩ := meantTransform_ok apps accumulator transform data s
    obtain ⟨data'', s'', hrest⟩ := ih data' s'
    exact ⟨data'', s'', (bind_of_ok hfirst).trans hrest⟩

/-- The same of the condition's own call. -/
theorem meantResult_ok (condition : Condition) (data : PyVal) (s : AppState σ) :
    ∃ result s', meantResult apps accumulator condition data s = .ok result s' := by
  unfold meantResult
  cases apps.conditionApi condition.appName condition.actionName with
  | none => exact ⟨_, s, rfl⟩
  | some api =>
    obtain ⟨result, s', hresult⟩ := meantCall_ok accumulator apps.lib api
      ("condition " ++ condition.actionName) (apps.conditionFunction condition.appName api.run)
      condition.arguments data s
    cases result with
    | none => exact ⟨_, s', bind_of_ok hresult⟩
    | some ret => exact ⟨_, s', bind_of_ok hresult⟩

/-- **What is meant by a condition always has a result.** -/
theorem meantCondition_ok (condition : Condition) (dataIn : PyVal) (s : AppState σ) :
    ∃ result s', meantCondition apps accumulator condition dataIn s = .ok result s' := by
  obtain ⟨data, s', hdata⟩ := meantData_ok apps accumulator condition.transforms dataIn s
  obtain ⟨result, s'', hresult⟩ := meantResult_ok apps accumulator condition data s'
  exact ⟨result, s'', (bind_of_ok hdata).trans hresult⟩

end

/-! ## The whole chain -/

/-- Two records that go on into one and add one attempt each add the same. -/
theorem eq_of_prefix_append {s : List Attempt} {a b : Attempt} {u : List Attempt}
    (ha : s ++ [a] <+: u) (hb : s ++ [b] <+: u) : a = b := by
  have hab : s ++ [a] <+: s ++ [b] := List.prefix_of_prefix_length_le ha hb (by simp)
  have heq := hab.eq_of_length (by simp)
  simpa using heq

/-- A call that raises, or makes another attempt than is meant, cannot be made up for. -/
theorem ne_of_deviation {m m' : AppM σ (Option PyVal)} {k k' : Option PyVal → AppM σ PyVal}
    {s : AppState σ}
    (hdeviation : (∃ e, m s = .error e s) ∨ ∃ attempt meant, attempt ≠ meant ∧
      (∃ result behaviour, m s = .ok result { behaviour, attempts := s.attempts ++ [attempt] }) ∧
      ∃ result behaviour, m' s = .ok result { behaviour, attempts := s.attempts ++ [meant] })
    (hk : ∀ r, Within Grows (k r)) (hk' : ∀ r, Within Grows (k' r))
    (hok : ∃ v t, (m' >>= k') s = .ok v t) : (m >>= k) s ≠ (m' >>= k') s := by
  intro heq
  rcases hdeviation with ⟨e, he⟩ | ⟨attempt, meant, hne, ⟨r, b, hm⟩, ⟨r', b', hm'⟩⟩
  · obtain ⟨v, t, hok⟩ := hok
    rw [bind_of_error he, hok] at heq
    cases heq
  · rw [bind_of_ok hm, bind_of_ok hm'] at heq
    have hgrows := hk r { behaviour := b, attempts := s.attempts ++ [attempt] }
    have hgrows' := hk' r' { behaviour := b', attempts := s.attempts ++ [meant] }
    rw [heq] at hgrows
    exact hne (eq_of_prefix_append hgrows hgrows')

section

variable (apps : Apps σ) (accumulator : Accumulator) (condition : Condition)

/-- What follows the transforms of a list, in the code. -/
def executeFrom (transforms : List Transform) (data : PyVal) : AppM σ PyVal := do
  let data ← transformData apps accumulator transforms data
  callCondition apps condition data accumulator

/-- What is meant to follow the transforms of a list. -/
def meantFrom (transforms : List Transform) (data : PyVal) : AppM σ PyVal := do
  let data ← meantData apps accumulator transforms data
  meantResult apps accumulator condition data

/-- A condition executes its first transform and goes on with its value. -/
theorem executeFrom_cons (transform : Transform) (transforms : List Transform) (data : PyVal) :
    executeFrom apps accumulator condition (transform :: transforms) data =
      transformExecute apps transform data accumulator >>=
        executeFrom apps accumulator condition transforms := by
  unfold executeFrom
  rw [transformData, bind_assoc]

/-- The same of the condition as it is meant. -/
theorem meantFrom_cons (transform : Transform) (transforms : List Transform) (data : PyVal) :
    meantFrom apps accumulator condition (transform :: transforms) data =
      meantTransform apps accumulator transform data >>=
        meantFrom apps accumulator condition transforms := by
  unfold meantFrom
  rw [meantData, bind_assoc]

/-- Executing a condition from some transform on only adds to the record. -/
theorem grows_executeFrom (transforms : List Transform) (data : PyVal) :
    Within Grows (executeFrom apps accumulator condition transforms data) :=
  Within.bind (grows_transformData apps accumulator transforms data) fun _ =>
    grows_callCondition apps accumulator condition _

/-- The same of the condition as it is meant. -/
theorem grows_meantFrom (transforms : List Transform) (data : PyVal) :
    Within Grows (meantFrom apps accumulator condition transforms data) :=
  Within.bind (grows_meantData apps accumulator transforms data) fun _ =>
    grows_meantResult apps accumulator condition _

/-- The condition as it is meant always returns. -/
theorem meantFrom_ok (transforms : List Transform) (data : PyVal) (s : AppState σ) :
    ∃ result s', meantFrom apps accumulator condition transforms data s = .ok result s' := by
  obtain ⟨data', s', hdata⟩ := meantData_ok apps accumulator transforms data s
  obtain ⟨result, s'', hresult⟩ := meantResult_ok apps accumulator condition data' s'
  exact ⟨result, s'', (bind_of_ok hdata).trans hresult⟩

/-- A condition that is stored without errors, and whose validation of this data keeps to the
law. -/
def ConditionKeepsLaw (data : PyVal) : Prop :=
  condition.errors = [] ∧
    ∀ api, apps.conditionApi condition.appName condition.actionName = some api →
      CallKeepsLaw apps.lib api ("condition " ++ condition.actionName) condition.arguments data
        accumulator

/-- A transform that is stored without errors, and whose validation of this data keeps to the
law. -/
def TransformKeepsLaw (transform : Transform) (data : PyVal) : Prop :=
  transform.errors = [] ∧
    ∀ api, apps.transformApi transform.appName transform.actionName = some api →
      CallKeepsLaw apps.lib api ("transform " ++ transform.actionName) transform.arguments data
        accumulator

/-- Every transform keeps to the law on the data it is meant to get, and in the end the condition
does. -/
def FlowKeepsLaw : List Transform → PyVal → AppState σ → Prop
  | [], data, _ => ConditionKeepsLaw apps accumulator condition data
  | transform :: transforms, data, s =>
      TransformKeepsLaw apps accumulator transform data ∧
      ∀ data' s', meantTransform apps accumulator transform data s = .ok data' s' →
        FlowKeepsLaw transforms data' s'

/-- The condition and its transforms are known to the apps. -/
structure KnownCondition : Prop where
  itself : (apps.conditionApi condition.appName condition.actionName).isSome
  transforms : ∀ transform ∈ condition.transforms,
    (apps.transformApi transform.appName transform.actionName).isSome

/-- The arguments of the condition and of its transforms are built. -/
structure BuiltCondition : Prop where
  itself : Built condition.arguments
  transforms : ∀ transform ∈ condition.transforms, Built transform.arguments

variable {apps accumulator condition}

/-- `init_on_load` looks the API of a condition up if it is stored without errors. -/
theorem conditionInitOnLoad_eq (h : condition.errors = []) : conditionInitOnLoad apps condition =
    apps.conditionApi condition.appName condition.actionName := by
  rw [conditionInitOnLoad, h]
  rfl

/-- A condition stored with errors loads no API. -/
theorem conditionInitOnLoad_of_errors (h : condition.errors ≠ []) :
    conditionInitOnLoad apps condition = none := by
  rw [conditionInitOnLoad, if_neg (by rwa [List.isEmpty_iff])]

/-- `init_on_load` looks the API of a transform up if it is stored without errors. -/
theorem transformInitOnLoad_eq {transform : Transform} (h : transform.errors = []) :
    transformInitOnLoad apps transform =
      apps.transformApi transform.appName transform.actionName := by
  rw [transformInitOnLoad, h]
  rfl

/-- The same of a transform. -/
theorem transformInitOnLoad_of_errors {transform : Transform} (h : transform.errors ≠ []) :
    transformInitOnLoad apps transform = none := by
  rw [transformInitOnLoad, if_neg (by rwa [List.isEmpty_iff])]

/-- What raises is not what is meant. -/
theorem throw_ne_of_ok {α : Type} {m : AppM σ α} {s : AppState σ} {e : Exn}
    (hok : ∃ v t, m s = .ok v t) : (throw e : AppM σ α) s ≠ m s := by
  obtain ⟨v, t, hok⟩ := hok
  rw [hok]
  intro heq
  cases heq

/-- The end of the chain. -/
theorem callCondition_eq_meant_iff
    (hknown : (apps.conditionApi condition.appName condition.actionName).isSome)
    (hbuilt : Built condition.arguments) (data : PyVal) (s : AppState σ) :
    callCondition apps condition data accumulator s =
        meantResult apps accumulator condition data s ↔
      ConditionKeepsLaw apps accumulator condition data := by
  have hok := meantResult_ok apps accumulator condition data s
  by_cases herrors : condition.errors = []
  case neg =>
    unfold callCondition
    rw [conditionInitOnLoad_of_errors herrors]
    exact ⟨fun heq => absurd heq (throw_ne_of_ok hok), fun hlaw => absurd hlaw.1 herrors⟩
  unfold callCondition
  unfold meantResult at hok ⊢
  rw [conditionInitOnLoad_eq herrors]
  cases hapi : apps.conditionApi condition.appName condition.actionName with
  | none =>
    rw [hapi] at hknown
    cases hknown
  | some api =>
    rw [hapi] at hok
    dsimp only at hok ⊢
    constructor
    · intro heq
      refine ⟨herrors, fun api' hapi' => ?_⟩
      obtain rfl := Option.some.inj (hapi.symm.trans hapi')
      by_contra hnot
      refine ne_of_deviation (validateAndCall_of_not_keepsLaw hbuilt hnot s) ?_ ?_ hok heq
      · intro ret
        cases ret with
        | none => exact Within.pure _
        | some ret => exact Within.pure _
      · intro ret
        cases ret with
        | none => exact Within.pure _
        | some ret => exact Within.pure _
    · intro hkeeps
      exact validateAndCall_eq_meant hbuilt (hkeeps.2 api hapi) ▸ rfl

/-- The code of a transform and what follows it is what is meant if the transform keeps to the
law and what follows is what is meant. -/
theorem executeFrom_cons_eq_meant_iff {transform : Transform} {transforms : List Transform}
    (hknown : (apps.transformApi transform.appName transform.actionName).isSome)
    (hbuilt : Built transform.arguments) (data : PyVal) (s : AppState σ) :
    executeFrom apps accumulator condition (transform :: transforms) data s =
        meantFrom apps accumulator condition (transform :: transforms) data s ↔
      TransformKeepsLaw apps accumulator transform data ∧
      ∀ data' s', meantTransform apps accumulator transform data s = .ok data' s' →
        executeFrom apps accumulator condition transforms data' s' =
          meantFrom apps accumulator condition transforms data' s' := by
  have hok := meantFrom_ok apps accumulator condition (transform :: transforms) data s
  obtain ⟨data', s', hmeant⟩ := meantTransform_ok apps accumulator transform data s
  by_cases herrors : transform.errors = []
  case neg =>
    have hraises : executeFrom apps accumulator condition (transform :: transforms) data s =
        (throw .attributeError : AppM σ PyVal) s := by
      rw [executeFrom_cons, transformExecute, transformInitOnLoad_of_errors herrors]
      rfl
    rw [hraises]
    exact ⟨fun heq => absurd heq (throw_ne_of_ok hok), fun hlaw => absurd hlaw.1.1 herrors⟩
  rw [executeFrom_cons, meantFrom_cons]
  rw [meantFrom_cons] at hok
  cases hapi : apps.transformApi transform.appName transform.actionName with
  | none =>
    rw [hapi] at hknown
    cases hknown
  | some api =>
    have hlaw : TransformKeepsLaw apps accumulator transform data ↔
        CallKeepsLaw apps.lib api ("transform " ++ transform.actionName) transform.arguments data
          accumulator := by
      refine ⟨fun h => h.2 api hapi, fun h => ⟨herrors, fun api' hapi' => ?_⟩⟩
      obtain rfl := Option.some.inj (hapi.symm.trans hapi')
      exact h
    rw [hlaw]
    by_cases hkeeps : CallKeepsLaw apps.lib api ("transform " ++ transform.actionName)
        transform.arguments data accumulator
    · have hsame : transformExecute apps transform data accumulator =
          meantTransform apps accumulator transform data := by
        unfold transformExecute meantTransform
        rw [transformInitOnLoad_eq herrors, hapi]
        dsimp only
        rw [validateAndCall_eq_meant hbuilt hkeeps]
      rw [hsame, bind_of_ok hmeant, bind_of_ok hmeant]
      constructor
      · intro heq
        refine ⟨hkeeps, fun data'' s'' h => ?_⟩
        rw [hmeant] at h
        cases h
        exact heq
      · rintro ⟨_, hrest⟩
        exact hrest data' s' hmeant
    · constructor
      · intro heq
        exfalso
        unfold transformExecute at heq
        unfold meantTransform at heq hok
        rw [transformInitOnLoad_eq herrors, hapi] at heq
        rw [hapi] at hok
        simp only [bind_assoc, pure_bind] at heq hok
        exact ne_of_deviation (validateAndCall_of_not_keepsLaw hbuilt hkeeps s)
          (fun _ => grows_executeFrom apps accumulator condition transforms _)
          (fun _ => grows_meantFrom apps accumulator condition transforms _) hok heq
      · rintro ⟨hlaw, _⟩
        exact absurd hlaw hkeeps

/-- The induction over the transforms that are left. -/
theorem executeFrom_eq_meant_iff {transforms : List Transform}
    (hcondition : (apps.conditionApi condition.appName condition.actionName).isSome)
    (hbuilt : Built condition.arguments)
    (htransforms : ∀ transform ∈ transforms,
      (apps.transformApi transform.appName transform.actionName).isSome ∧
        Built transform.arguments) (data : PyVal) (s : AppState σ) :
    executeFrom apps accumulator condition transforms data s =
        meantFrom apps accumulator condition transforms data s ↔
      FlowKeepsLaw apps accumulator condition transforms data s := by
  induction transforms generalizing data s with
  | nil => exact callCondition_eq_meant_iff hcondition hbuilt data s
  | cons transform transforms ih =>
    rw [List.forall_mem_cons] at htransforms
    rw [executeFrom_cons_eq_meant_iff htransforms.1.1 htransforms.1.2]
    refine and_congr Iff.rfl ?_
    refine forall_congr' fun data' => forall_congr' fun s' => imp_congr Iff.rfl ?_
    exact ih htransforms.2 data' s'

end

/-- The parameter `data` of a condition on lists of integers. -/
def integersParam : ParamApi :=
  { name := "data", default := none, required := some true
    schema := .dict [("name", .str "data"), ("type", .str "array"),
      ("items", .dict [("type", .str "integer")]), ("required", .bool true)] }

/-- The API of a condition on lists of integers. -/
def integersApi : ExecutableApi where
  dataIn := "data"
  run := "check"
  parameters := [integersParam]
  distinct := List.nodup_singleton _
  required := ⟨integersParam, List.mem_singleton_self _, rfl, rfl⟩

/-- An app whose conditions are on lists of integers and hold. -/
def integersApps : Apps Unit where
  lib := idleLibraries
  conditionApi _ _ := some integersApi
  transformApi _ _ := none
  conditionFunction _ _ _ _ := (.ok (.bool true), ())
  transformFunction _ _ _ _ := (.ok .none, ())

/-- A condition of this app without arguments of its own. -/
def integersCondition : Condition :=
  { id := 30, appName := "App", actionName := "check", isNegated := false, arguments := []
    transforms := [] }

/-- The condition of the example is known to its apps. -/
theorem knownCondition_integers : KnownCondition integersApps integersCondition :=
  ⟨rfl, by simp [integersCondition]⟩

/-- A required parameter of a primitive type. -/
def requiredParam (name typeName : String) : ParamApi :=
  { name, default := none, required := some true
    schema := .dict [("name", .str name), ("type", .str typeName), ("required", .bool true)] }

/-- The API of a transform that takes a text. -/
def lengthApi : ExecutableApi where
  dataIn := "text"
  run := "length"
  parameters := [requiredParam "text" "string"]
  distinct := List.nodup_singleton _
  required := ⟨requiredParam "text" "string", List.mem_singleton_self _, rfl, rfl⟩

/-- The API of a condition that compares an integer with a bound of its own. -/
def atLeastApi : ExecutableApi where
  dataIn := "value"
  run := "at_least"
  parameters := [requiredParam "value" "integer", requiredParam "bound" "integer"]
  distinct := by decide
  required := ⟨requiredParam "value" "integer", List.mem_cons_self, rfl, rfl⟩

/-- The length of the text. -/
def textLength : OrderedDict String PyVal → PyVal
  | (_, .str s) :: _ => .int s.length
  | _ => .none

/-- The value is the bound or more. -/
def reachesBound : OrderedDict String PyVal → PyVal
  | (_, .int value) :: (_, .int bound) :: _ => .bool (decide (bound ≤ value))
  | _ => .none

/-- An app with this transform and this condition. -/
def lengthApps : Apps Unit where
  lib := idleLibraries
  conditionApi _ _ := some atLeastApi
  transformApi _ _ := some lengthApi
  conditionFunction _ _ arguments _ := (.ok (reachesBound arguments), ())
  transformFunction _ _ arguments _ := (.ok (textLength arguments), ())

/-- The text is not as long as the bound, which is given as a text itself. -/
def tooShort : Condition :=
  { id := 31, appName := "App", actionName := "at_least", isNegated := true
    arguments := [.init "bound" (.str "10") none .none]
    transforms := [{ id := 32, appName := "App", actionName := "length", arguments := [] }] }

/-- A call whose parameters are all given keeps to the law if they all convert. -/
theorem keepsLaw_of_given {convert : PyVal → ParamApi → String → Except Exn PyVal}
    {arguments : List Argument} {messagePrefix : String} {accumulator : Accumulator}
    {api : List ParamApi}
    (hgiven : ∀ param ∈ api, ∃ argument,
      getArgumentByName arguments param.name = some argument ∧ Consulted accumulator argument)
    (hconverts : ∀ param ∈ api, ∃ value,
      turnValue convert arguments messagePrefix accumulator param = .ok value) :
    KeepsLaw convert arguments messagePrefix accumulator api := by
  refine ⟨fun param hparam => ?_, .inr (.inr fun param hparam => ?_)⟩
  · rw [← tame_turnValue_iff]
    obtain ⟨value, hvalue⟩ := hconverts param hparam
    exact fun e he => nomatch hvalue.symm.trans he
  · obtain ⟨argument, hargument, hconsulted⟩ := hgiven param hparam
    refine ⟨fun habsent => (nomatch habsent.1.symm.trans hargument), ?_⟩
    rintro ⟨other, hother, hnot⟩
    obtain rfl := Option.some.inj (hargument.symm.trans hother)
    exact hnot hconsulted

end Walkoff.Analysis
