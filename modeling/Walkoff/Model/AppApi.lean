import Walkoff.Model.Argument

/-!
# App APIs and parameter validation

`app_apis` says for every app and action which function to run, which parameters it takes
and which status codes it returns. `validateParameters` resolves the arguments of an
action, a condition or a transform against such a parameter list; converting one value to
its declared type is a parameter (`convert`) of this module.
-/

set_option autoImplicit false

namespace Walkoff.Model

open Walkoff.Library (OrderedDict)

/-- One parameter of an API. `default` and `required` are `none` when the key is absent. -/
structure ParamApi where
  name : String
  default : Option PyVal
  required : Option Bool
  schema : PyVal
  deriving Repr

/-- The API of an action: `returns` maps a status code to its `failure` flag, if it has one. -/
structure ActionApi where
  run : String
  parameters : List ParamApi
  defaultReturn : Option String
  returns : Option (OrderedDict String (Option Bool))
  deriving Repr

/-- `walkoff.config.app_apis`, by app and then by action. -/
abbrev AppApis := OrderedDict String (OrderedDict String ActionApi)

namespace AppApis

/-- `app_apis[app]['actions'][action]` with the two lookups' exceptions. -/
def actionApi (apis : AppApis) (app action : String) : Except Exn ActionApi :=
  match OrderedDict.get? app apis with
  | none => throw (.unknownApp app)
  | some actions =>
    match OrderedDict.get? action actions with
    | none => throw (.unknownAppAction app action)
    | some api => pure api

/-- `get_app_action_default_return`. -/
def getAppActionDefaultReturn (apis : AppApis) (app action : String) : Except Exn String := do
  let api ← apis.actionApi app action
  pure (api.defaultReturn.getD "Success")

/-- `get_app_action_return_is_failure`: a status the API does not declare is an
`UnknownAppAction`. -/
def getAppActionReturnIsFailure (apis : AppApis) (app action status : String) :
    Except Exn Bool :=
  if status = "UnhandledException" then pure true
  else do
    let api ← apis.actionApi app action
    match api.returns.bind (OrderedDict.get? status) with
    | some failure => pure (failure.getD false)
    | none => throw (.unknownAppAction app action)

end AppApis

/-- `get_argument_by_name`: the first argument of that name. -/
def getArgumentByName (arguments : List Argument) (name : String) : Option Argument :=
  arguments.find? (·.name = name)

/-- The local variables of the loop of `validate_parameters`. -/
structure Validation where
  converted : OrderedDict String PyVal
  seenParams : List String
  argumentsSet : List String
  errors : List String

section

variable (convert : PyVal → ParamApi → String → Except Exn PyVal)

/-- The `try` block of `validate_parameters` for one parameter. -/
def validateParam (arguments : List Argument) (messagePrefix : String) (accumulator : Accumulator)
    (param : ParamApi) (v : Validation) : Except Exn Validation :=
  match getArgumentByName arguments param.name with
  | some argument => do
    let argVal ← argument.getValue accumulator
    let converted ← if accumulator.truthy || !argument.isReference then do
        let value ← convert argVal param messagePrefix
        pure (OrderedDict.set param.name value v.converted)
      else pure v.converted
    pure { v with converted, seenParams := param.name :: v.seenParams }
  | none =>
    match param.default with
    | some default => do
      -- a default that does not conform is used anyway
      let value ← match convert default param messagePrefix with
        | .error (.invalidArgument _ _) => pure default
        | result => result
      pure { v with
        converted := OrderedDict.set param.name value v.converted
        argumentsSet := param.name :: v.argumentsSet
        seenParams := param.name :: v.seenParams }
    | none =>
      if param.required.isSome then throw (.invalidArgument
        ("For " ++ messagePrefix ++ ": Parameter " ++ param.name ++
          " is not specified and has no default") [])
      else pure { v with
        converted := OrderedDict.set param.name .none v.converted
        argumentsSet := param.name :: v.argumentsSet
        seenParams := param.name :: v.seenParams }

/-- One turn of the loop: an `InvalidArgument` is collected, any other exception escapes. -/
def validateTurn (arguments : List Argument) (messagePrefix : String) (accumulator : Accumulator)
    (v : Validation) (param : ParamApi) : Except Exn Validation :=
  match validateParam convert arguments messagePrefix accumulator param v with
  | .error (.invalidArgument message _) => pure { v with errors := v.errors ++ [message] }
  | result => result

/-- `validate_parameters`: the converted argument values by parameter name. -/
def validateParameters (api : List ParamApi) (arguments : List Argument) (messagePrefix : String)
    (accumulator : Accumulator) : Except Exn (OrderedDict String PyVal) := do
  let apiDict : OrderedDict String ParamApi := OrderedDict.update [] (api.map fun p => (p.name, p))
  let v ← (apiDict.map Prod.snd).foldlM (validateTurn convert arguments messagePrefix accumulator)
    { converted := [], seenParams := [], argumentsSet := arguments.map (·.name), errors := [] }
  let extra := v.argumentsSet.filter (· ∉ v.seenParams)
  let missing := v.seenParams.filter (· ∉ v.argumentsSet)
  let errors := if extra.isEmpty ∧ missing.isEmpty then v.errors else
    v.errors ++ ["For " ++ messagePrefix ++ ": Too many arguments. Extra arguments: " ++
      ", ".intercalate extra]
  if errors.isEmpty then pure v.converted
  else throw (.invalidArgument "Invalid arguments" errors)

/-- `validate_app_action_parameters`. -/
def validateAppActionParameters (api : List ParamApi) (arguments : List Argument)
    (app action : String) (accumulator : Accumulator) : Except Exn (OrderedDict String PyVal) :=
  validateParameters convert api arguments ("app " ++ app ++ " action " ++ action) accumulator

end

end Walkoff.Model
