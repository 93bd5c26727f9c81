import Walkoff.Library.Effect
import Walkoff.Model.Validator
import Walkoff.Model.Workflow

/-!
# Executing conditions and transforms

`Condition.execute` passes the data through the transforms of the condition and calls the
condition's function on the result; `Transform.execute` calls one transform. Both put the
data into the parameter `data_in` of the API, validate it together with their own
arguments and call the function under the local execution strategy.
-/

set_option autoImplicit false

namespace Walkoff.Program

open Walkoff.Model
open Walkoff.Library (OrderedDict)

/-- The API of a condition or a transform. `validate_app_spec` refuses an app whose APIs name
a parameter twice or do not require the parameter of the data. -/
structure ExecutableApi where
  dataIn : String
  run : String
  parameters : List ParamApi
  distinct : (parameters.map (·.name)).Nodup
  required : ∃ param ∈ parameters, param.name = dataIn ∧ param.required = some true

/-- The apps: the APIs and the functions of their conditions and transforms. -/
structure Apps (σ : Type) where
  lib : Libraries
  conditionApi : String → String → Option ExecutableApi
  transformApi : String → String → Option ExecutableApi
  conditionFunction : String → String → OrderedDict String PyVal → σ → Except Exn PyVal × σ
  transformFunction : String → String → OrderedDict String PyVal → σ → Except Exn PyVal × σ

/-- What becomes of the validation of arguments: `TransformError` or `ConditionError` is sent,
or the function is called. -/
inductive Attempt where
  | invalid
  | called (arguments : OrderedDict String PyVal)
  deriving DecidableEq, Repr

/-- The state of the app code with a record of the attempts to call it. -/
structure AppState (σ : Type) where
  behaviour : σ
  attempts : List Attempt

/-- Code that calls app code. -/
abbrev AppM (σ : Type) := EStateM Exn (AppState σ)

variable {σ : Type}

/-- `__update_arguments_with_data`. -/
def updateArgumentsWithData (arguments : List Argument) (dataParamName : String)
    (data : PyVal) : List Argument :=
  arguments.filter (·.name ≠ dataParamName) ++ [Argument.init dataParamName data none .none]

/-- `LocalActionExecutionStrategy.execute` of a condition or a transform; `none` is the
`ExecutionError`. -/
def callFunction (f : OrderedDict String PyVal → σ → Except Exn PyVal × σ)
    (arguments : OrderedDict String PyVal) : AppM σ (Option PyVal) := fun s =>
  match f arguments s.behaviour with
  | (.ok v, behaviour) =>
    .ok (some v) { behaviour, attempts := s.attempts ++ [.called arguments] }
  | (.error _, behaviour) =>
    .ok none { behaviour, attempts := s.attempts ++ [.called arguments] }

/-- The validation found the arguments invalid. -/
def reportInvalid : AppM σ (Option PyVal) := fun s =>
  .ok none { s with attempts := s.attempts ++ [.invalid] }

section

variable (lib : Libraries) (api : ExecutableApi) (messagePrefix : String)
  (f : OrderedDict String PyVal → σ → Except Exn PyVal × σ)

/-- What `Condition.execute` and `Transform.execute` share: validate the arguments with the
data and call the function. `none` when the arguments are invalid or the function raises. -/
def validateAndCall (arguments : List Argument) (data : PyVal) (accumulator : Accumulator) :
    AppM σ (Option PyVal) :=
  match validateParameters (validateParameter lib) api.parameters
      (updateArgumentsWithData arguments api.dataIn data) messagePrefix accumulator with
  | .error (.invalidArgument _ _) => reportInvalid
  | .error e => throw e
  | .ok args => callFunction f args

end

section

variable (apps : Apps σ)

/-- `Transform.init_on_load`: the API is looked up `if not self.errors`. A transform without it
has no `_api`. -/
def transformInitOnLoad (transform : Transform) : Option ExecutableApi :=
  if transform.errors.isEmpty then apps.transformApi transform.appName transform.actionName
  else none

/-- `Condition.init_on_load`. -/
def conditionInitOnLoad (condition : Condition) : Option ExecutableApi :=
  if condition.errors.isEmpty then apps.conditionApi condition.appName condition.actionName
  else none

/-- `Transform.execute`: without a result the data is returned as it came. -/
def transformExecute (transform : Transform) (data : PyVal) (accumulator : Accumulator) :
    AppM σ PyVal :=
  match transformInitOnLoad apps transform with
  | none => throw .attributeError
  | some api => do
    let result ← validateAndCall apps.lib api ("transform " ++ transform.actionName)
      (apps.transformFunction transform.appName api.run) transform.arguments data accumulator
    pure (result.getD data)

/-- The loop over the transforms of a condition. -/
def transformData (accumulator : Accumulator) : List Transform → PyVal → AppM σ PyVal
  | [], data => pure data
  | transform :: transforms, data => do
    let data ← transformExecute apps transform data accumulator
    transformData accumulator transforms data

/-- The result of a condition whose function returned `ret`. -/
def negateIf (isNegated : Bool) (ret : PyVal) : PyVal :=
  if isNegated then .bool (!ret.truthy) else ret

/-- The end of `Condition.execute`: call the function on the transformed data. -/
def callCondition (condition : Condition) (data : PyVal) (accumulator : Accumulator) :
    AppM σ PyVal :=
  match conditionInitOnLoad apps condition with
  | none => throw .attributeError
  | some api => do
    let ret ← validateAndCall apps.lib api ("condition " ++ condition.actionName)
      (apps.conditionFunction condition.appName api.run) condition.arguments data accumulator
    match ret with
    | none => pure (.bool false)
    | some ret => pure (negateIf condition.isNegated ret)

/-- `Condition.execute`. -/
def conditionExecute (condition : Condition) (dataIn : PyVal) (accumulator : Accumulator) :
    AppM σ PyVal := do
  let data ← transformData apps accumulator condition.transforms dataIn
  callCondition apps condition data accumulator

end

end Walkoff.Program
