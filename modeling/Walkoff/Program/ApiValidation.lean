import Walkoff.Model.Validator
import Walkoff.Program.AppCache

/-!
# The entries of an API file and their functions

`walkoff.appgateway.validator.validate_actions` and `validate_condition_transform_params`, which
compare the documented parameters with the arguments of the functions, and the call with which
`_do_execute` passes on what `validate_parameters` returns.
-/

set_option autoImplicit false

namespace Walkoff.Program

open Walkoff.Library Walkoff.Model

/-! ## Functions -/

/-- A parameter of a function that can be passed by its name. -/
structure SignatureParam where
  name : String
  hasDefault : Bool
  deriving Repr

/-- The signature of a function. -/
structure Signature where
  positional : List SignatureParam
  varPositional : Option String
  keywordOnly : List SignatureParam
  varKeyword : Option String
  deriving Repr

namespace Signature

/-- The parameters that can be passed by name. -/
def named (self : Signature) : List SignatureParam :=
  self.positional ++ self.keywordOnly

/-- `get_function_arg_names`: the names of all parameters, `*args` and `**kwargs` included. -/
def argNames (self : Signature) : List String :=
  self.positional.map (·.name) ++ self.varPositional.toList ++
    (self.keywordOnly.map (·.name) ++ self.varKeyword.toList)

end Signature

/-- A function of an app. `argNames` is what the decorator `action` has stored of the function it
wraps, whose signature this is. -/
structure ApiFunction where
  signature : Signature
  distinct : signature.argNames.Nodup
  argNames : Option (List String)
  stored : ∀ names, argNames = some names → names = signature.argNames
  eventName : Option String

/-! ## The check of one entry -/

/-- The loop over the parameters: a name must not come twice. -/
def seeParameter (seen : List String) (parameter : ParamApi) : Except Exn (List String) :=
  if parameter.name ∈ seen then throw invalidApi else pure (parameter.name :: seen)

/-- The first argument is left out when it is called `self`. -/
def withoutSelf (methodParams : List String) : List String :=
  if methodParams.head? = some "self" then methodParams.tail else methodParams

/-- The first of the arguments takes the event. -/
def withoutEvent (func : ApiFunction) (event : String) (methodParams : List String) :
    Except Exn (List String) :=
  if event ≠ "" then
    match methodParams, func.eventName with
    | [], _ => throw .indexError
    | _ :: _, none => throw .attributeError
    -- an event of another name is only logged
    | _ :: rest, some _ => pure rest
  else pure methodParams

/-- `validate_action_params`. -/
def validateActionParams (parameters : List ParamApi) (func : ApiFunction) (event : String) :
    Except Exn Unit := do
  let seen ← parameters.foldlM seeParameter []
  let methodParams ← withoutEvent func event
    (withoutSelf (func.argNames.getD func.signature.argNames))
  if seen.all (methodParams.contains ·) && methodParams.all (seen.contains ·) then pure ()
  else throw invalidApi

/-! ## Actions -/

/-- What `validate_actions` reads of an action. -/
structure ActionSpec where
  run : String
  parameters : List ParamApi
  event : String
  defaultReturn : Option String
  returns : Option (List String)

/-- `validate_app_action_return_codes`. -/
def validateReturnCodes (returnCodes : List String) : Except Exn Unit :=
  if returnCodes.any (["UnhandledException", "InvalidInput"].contains ·) then throw invalidApi
  else pure ()

/-- The check of `default_return`; the message for a missing one asks a list for its keys. -/
def validateDefaultReturn (action : ActionSpec) : Except Exn Unit :=
  match action.defaultReturn, action.returns with
  | none, _ => pure ()
  | some _, none => throw .attributeError
  | some code, some codes => if codes.contains code then pure () else throw invalidApi

/-- The loop body of `validate_actions`. -/
def validateAction (functions : OrderedDict String ApiFunction) (action : ActionSpec) :
    Except Exn Unit :=
  match OrderedDict.get? action.run functions with
  | none => throw invalidApi
  | some func => do
    if action.parameters ≠ [] then validateActionParams action.parameters func action.event
    validateDefaultReturn action
    validateReturnCodes (action.returns.getD [])

/-- `validate_actions`; functions without an entry are only logged. -/
def validateActions (functions : OrderedDict String ApiFunction) (actions : List ActionSpec) :
    Except Exn Unit :=
  actions.forM (validateAction functions)

/-! ## Conditions and transforms -/

/-- What is read of a condition or a transform. -/
structure DataSpec where
  run : String
  dataIn : String
  parameters : List ParamApi

/-- `validate_data_in_param`. -/
def validateDataInParam (params : List ParamApi) (dataInParamName : String) : Except Exn Unit :=
  match params.find? (·.name = dataInParamName) with
  | none => throw invalidApi
  | some dataInParam =>
    if dataInParam.required.getD false then pure () else throw invalidApi

/-- The loop body of `validate_condition_transform_params`. -/
def validateDataSpec (functions : OrderedDict String ApiFunction) (spec : DataSpec) :
    Except Exn Unit :=
  match OrderedDict.get? spec.run functions with
  | none => throw invalidApi
  | some func => do
    validateDataInParam spec.parameters spec.dataIn
    validateActionParams spec.parameters func ""

/-- `validate_condition_transform_params`. -/
def validateConditionTransformParams (functions : OrderedDict String ApiFunction)
    (specs : List DataSpec) : Except Exn Unit :=
  specs.forM (validateDataSpec functions)

/-! ## An app -/

/-- The functions of an app by qualified name, for each tag. -/
structure AppFunctions where
  actions : OrderedDict String ApiFunction
  conditions : OrderedDict String ApiFunction
  transforms : OrderedDict String ApiFunction

/-- The entries of an API file. -/
structure AppSpec where
  actions : List ActionSpec
  conditions : List DataSpec
  transforms : List DataSpec

/-- What `validate_app_spec` checks of the entries. -/
def validateAppSpec (functions : AppFunctions) (spec : AppSpec) : Except Exn Unit := do
  validateActions functions.actions spec.actions
  validateConditionTransformParams functions.conditions spec.conditions
  validateConditionTransformParams functions.transforms spec.transforms

/-- An entry with the function that its `run` names. -/
structure ApiEntry where
  kind : WalkoffTag
  func : ApiFunction
  parameters : List ParamApi
  event : String
  dataIn : Option String

/-- The entry of an action. -/
def ActionSpec.entry (functions : OrderedDict String ApiFunction) (spec : ActionSpec) :
    Option ApiEntry :=
  (OrderedDict.get? spec.run functions).map fun func =>
    { kind := .action, func, parameters := spec.parameters, event := spec.event, dataIn := none }

/-- The entry of a condition or a transform. -/
def DataSpec.entry (kind : WalkoffTag) (functions : OrderedDict String ApiFunction)
    (spec : DataSpec) : Option ApiEntry :=
  (OrderedDict.get? spec.run functions).map fun func =>
    { kind, func, parameters := spec.parameters, event := "", dataIn := some spec.dataIn }

/-- All entries of an API file. -/
def AppSpec.entries (spec : AppSpec) (functions : AppFunctions) : List ApiEntry :=
  spec.actions.filterMap (·.entry functions.actions) ++
    (spec.conditions.filterMap (·.entry .condition functions.conditions) ++
      spec.transforms.filterMap (·.entry .transform functions.transforms))

/-! ## The call -/

/-- Why Python cannot bind the arguments of a call. -/
inductive CallError where
  | tooManyPositional
  | multipleValues (name : String)
  | unexpectedKeyword (name : String)
  | missing (name : String)
  deriving DecidableEq, Repr

/-- The parameters that the positional arguments fill: the instance, if there is one. -/
def Signature.filled (self : Signature) (hasInstance : Bool) : List String :=
  if hasInstance then (self.positional.take 1).map (·.name) else []

/-- One keyword of a call. -/
def bindKeyword (signature : Signature) (filled : List String) (keyword : String) :
    Except CallError Unit :=
  if keyword ∈ filled then throw (.multipleValues keyword)
  else if keyword ∈ signature.named.map (·.name) then pure ()
  else if signature.varKeyword.isSome then pure ()
  else throw (.unexpectedKeyword keyword)

/-- How Python binds `func(instance, **arguments)` or `func(**arguments)` of `_do_execute`. -/
def bindArguments (signature : Signature) (hasInstance : Bool) (keywords : List String) :
    Except CallError Unit := do
  let filled := signature.filled hasInstance
  keywords.forM (bindKeyword signature filled)
  if hasInstance ∧ signature.positional = [] ∧ signature.varPositional = none then
    throw .tooManyPositional
  match signature.named.find? fun param =>
      !param.hasDefault && !filled.contains param.name && !keywords.contains param.name with
  | some param => throw (.missing param.name)
  | none => pure ()

end Walkoff.Program
