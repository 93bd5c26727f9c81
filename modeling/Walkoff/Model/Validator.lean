import Walkoff.Model.AppApi
import Walkoff.Model.JsonText

/-!
# Converting and validating a value

`validate_parameter` converts a value to the type its API declares and has the result
checked against the API as a JSON schema. `Libraries` is the code it calls for this. The
`schema` of a `ParamApi` is the dictionary of the parameter itself.
-/

set_option autoImplicit false

namespace Walkoff.Model

open Walkoff.Library (OrderedDict)

/-- The conversions and the schema validator that come from elsewhere. -/
structure Libraries where
  /-- `connexion.utils.boolean`. -/
  boolean : PyVal → Except Exn PyVal
  /-- `float`, whose rounding is left open. -/
  float : PyVal → Except Exn PyVal
  /-- `Draft4Validator(schema, ...).validate(instance)`: the formatted `ValidationError`, if
  there is one. -/
  draft4 : PyVal → PyVal → Except Exn (Option String)

/-- The keys of `TYPE_MAP`. -/
inductive PrimitiveType where
  | integer
  | number
  | boolean
  | string
  | user
  | role
  deriving DecidableEq, Repr

/-- `TYPE_MAP.get`. -/
def PrimitiveType.ofName : String → Option PrimitiveType
  | "integer" => some .integer
  | "number" => some .number
  | "boolean" => some .boolean
  | "string" => some .string
  | "user" => some .user
  | "role" => some .role
  | _ => none

namespace PyVal

/-- `value[key]` of a dictionary, if the key is there. -/
def entry (key : String) : PyVal → Option PyVal
  | dict items => OrderedDict.get? key items
  | _ => Option.none

/-- `value[key] = v` of a dictionary. -/
def withEntry (key : String) (value v : PyVal) : PyVal :=
  match value with
  | dict items => dict (OrderedDict.set key v items)
  | other => other

/-- `value.pop(key)` of a dictionary. -/
def withoutEntry (key : String) : PyVal → PyVal
  | dict items => dict (OrderedDict.pop key items)
  | other => other

/-- A value in a dictionary is smaller. -/
theorem sizeOf_get? {key : String} {items : OrderedDict String PyVal} {v : PyVal}
    (h : OrderedDict.get? key items = some v) : sizeOf v < sizeOf items := by
  have hmem := OrderedDict.mem_of_get? h
  have hitem := List.sizeOf_lt_of_mem hmem
  simp only [Prod.mk.sizeOf_spec] at hitem
  omega

/-- An entry of a value is smaller. -/
theorem sizeOf_entry {key : String} {value v : PyVal} (h : value.entry key = some v) :
    sizeOf v < sizeOf value := by
  cases value with
  | dict items =>
    have hitems := sizeOf_get? h
    simp only [dict.sizeOf_spec]
    omega
  | _ => cases h

end PyVal

section

variable (lib : Libraries)

/-- `make_type`, which `convert_primitive_type` calls. -/
def makeType (value : PyVal) (type : PrimitiveType) : Except Exn PyVal :=
  match type with
  | .integer | .user | .role => do pure (.int (← pyInt value))
  | .number => lib.float value
  | .boolean => lib.boolean value
  | .string =>
    match value with
    | .list _ | .dict _ => do pure (.str (← value.dumps))
    | .surrogates _ => pure value
    | _ => pure (.str value.toStr)

/-- The elements a `for` loop over the value visits. -/
def iterate (value : PyVal) : Except Exn (List PyVal) :=
  Argument.selectionItems value

/-- `convert_primitive_array`. -/
def convertPrimitiveArray (values : PyVal) (type : PrimitiveType) : Except Exn PyVal := do
  let items ← iterate values
  pure (.list (← items.mapM fun value => makeType lib value type))

/-- `raise InvalidApi`. -/
def invalidApi : Exn :=
  .raised "InvalidApi"

/-- A value that does not convert to a primitive type. -/
def unconvertible (messagePrefix : String) (value : PyVal) (typeName : String) : Exn :=
  .invalidArgument (messagePrefix ++ " has invalid input. Input " ++ value.toStr ++
    " could not be converted to type " ++ typeName) []

/-- An array with an element that does not convert. -/
def unconvertibleArray (messagePrefix : String) (value : PyVal) : Exn :=
  let items := value.toStr
  let items := if items.length < 30 then items else (items.take 30).toString ++ "...]"
  .invalidArgument (messagePrefix ++ " has invalid input. Input " ++ items ++
    " could not be converted to array with type \"object\"") []

/-- `type(value).__name__`. -/
def typeName : PyVal → String
  | .none => "NoneType"
  | .bool _ => "bool"
  | .int _ => "int"
  | .float _ _ | .nonFinite _ => "float"
  | .str _ | .surrogates _ => "str"
  | .list _ => "list"
  | .dict _ => "dict"
  | .object _ => "object"

/-- A value that should have been a JSON object. -/
def notAnObject (messagePrefix : String) (value : PyVal) : Exn :=
  .invalidArgument (messagePrefix ++ " A JSON object was expected. Instead got \"" ++
    value.toStr ++ "\" of type " ++ typeName value ++ ".") []

/-- A text that is the JSON text of an object. -/
def loadObjectText (text : String) (paramIn : PyVal) (messagePrefix : String) :
    Except Exn (OrderedDict String PyVal) :=
  match JsonText.loads text with
  | none => throw (notAnObject messagePrefix paramIn)
  | some (.dict items) => pure items
  | some value => throw (notAnObject messagePrefix value)

/-- `json.loads` of a text that should hold an object; every other value is taken as it is. -/
def loadObject (paramIn : PyVal) (messagePrefix : String) :
    Except Exn (OrderedDict String PyVal) :=
  match paramIn with
  | .str s => loadObjectText s paramIn messagePrefix
  | .surrogates codePoints => loadObjectText (PyVal.replaced codePoints) paramIn messagePrefix
  | .dict items => pure items
  | value => throw (notAnObject messagePrefix value)

mutual

/-- `convert_json`. -/
def convertJson (spec paramIn : PyVal) (messagePrefix : String) : Except Exn PyVal :=
  match spec.entry "type" with
  | some (.str parameterType) =>
    match PrimitiveType.ofName parameterType with
    | some type =>
      match makeType lib paramIn type with
      | .error .valueError => throw (unconvertible messagePrefix paramIn parameterType)
      | result => result
    | none =>
      if parameterType = "array" then convertArray spec paramIn messagePrefix
      else if parameterType = "object" then convertObject spec paramIn messagePrefix
      else throw invalidApi
  -- `parameter_type in TYPE_MAP` hashes the type
  | some (.list _) | some (.dict _) => throw .typeError
  | some _ => throw invalidApi
  | none =>
    match _h : spec.entry "schema" with
    | some schema => convertJson schema paramIn messagePrefix
    | none => throw invalidApi
termination_by (sizeOf spec, 1)
decreasing_by
  · exact Prod.Lex.right _ (by omega)
  · exact Prod.Lex.right _ (by omega)
  · exact Prod.Lex.left _ _ (PyVal.sizeOf_entry _h)

/-- `convert_array`. -/
def convertArray (schema paramIn : PyVal) (messagePrefix : String) : Except Exn PyVal :=
  match _h : schema.entry "items" with
  | none => pure paramIn
  | some items =>
    match items.entry "type" with
    | none => throw (match items with | .dict _ => .keyError | _ => .typeError)
    | some (.list _) | some (.dict _) => throw .typeError
    | some itemType =>
      match (match itemType with | .str name => PrimitiveType.ofName name | _ => none) with
      | some type =>
        match convertPrimitiveArray lib paramIn type with
        | .error .valueError => throw (unconvertibleArray messagePrefix paramIn)
        | result => result
      | none => do
        let values ← iterate paramIn
        pure (.list (← values.mapM fun value => convertJson items value messagePrefix))
termination_by (sizeOf schema, 0)
decreasing_by
  exact Prod.Lex.left _ _ (PyVal.sizeOf_entry _h)

/-- `__convert_json`. -/
def convertObject (schema paramIn : PyVal) (messagePrefix : String) : Except Exn PyVal := do
  let object ← loadObject paramIn messagePrefix
  match _h : schema.entry "properties" with
  | none => pure (.dict object)
  | some properties =>
    let ret ← object.mapM fun item =>
      match _hp : properties.entry item.1 with
      | some property => do pure (item.1, ← convertJson property item.2 messagePrefix)
      | none => throw (.invalidArgument
          (messagePrefix ++ " Input has unknown parameter " ++ item.1) [])
    pure (.dict ret)
termination_by (sizeOf schema, 0)
decreasing_by
  exact Prod.Lex.left _ _ ((PyVal.sizeOf_entry _hp).trans (PyVal.sizeOf_entry _h))

end

/-- `handle_user_roles_validation`. -/
def handleUserRolesValidation (param : PyVal) : PyVal :=
  let param := param.withEntry "type" (.str "integer")
  if (param.entry "minimum").isNone then param.withEntry "minimum" (.int 1) else param

/-- A value with a type of `TYPE_MAP` that its validators refuse. -/
def nonconforming (messagePrefix : String) (value : PyVal) (parameterType : String)
    (hideInput : Bool) (exception : String) : Exn :=
  .invalidArgument (if hideInput then
      messagePrefix ++ " has invalid input. " ++ parameterType ++
        " does not conform to validators: " ++ exception
    else messagePrefix ++ " has invalid input. Input " ++ value.toStr ++ " with type " ++
      parameterType ++ " does not conform to validators: " ++ exception) []

/-- `validate_primitive_parameter`: here a `TypeError` counts as an invalid argument, too. -/
def validatePrimitiveParameter (value param : PyVal) (type : PrimitiveType)
    (parameterType messagePrefix : String) (hideInput : Bool) : Except Exn PyVal :=
  match makeType lib value type with
  | .error .valueError | .error .typeError =>
    throw (unconvertible messagePrefix value parameterType)
  | .error e => throw e
  | .ok converted => do
    let param := if type = .user ∨ type = .role then handleUserRolesValidation param else param
    match ← lib.draft4 (param.withoutEntry "required") converted with
    | none => pure converted
    | some exception =>
      throw (nonconforming messagePrefix value parameterType hideInput exception)

/-- An array or an object that its validators refuse. -/
def refused (messagePrefix : String) (value : PyVal) (exception : String) : Exn :=
  .invalidArgument (messagePrefix ++ " has invalid input. Input " ++ value.toStr ++
    " does not conform to validators: " ++ exception) []

/-- Validators that accept the converted value. -/
def conforming (schema converted value : PyVal) (messagePrefix : String) : Except Exn PyVal := do
  match ← lib.draft4 schema converted with
  | none => pure converted
  | some exception => throw (refused messagePrefix value exception)

/-- The schema an array is validated against: items that are users or roles are integers. -/
def arraySchema (param : PyVal) : PyVal :=
  match param.entry "items" with
  | none => param
  | some items =>
    if items.entry "type" = some (.str "user") ∨ items.entry "type" = some (.str "role") then
      param.withEntry "items" (handleUserRolesValidation items)
    else param

/-- `validate_parameter` of a value other than `None` whose parameter has a type. -/
def validateTyped (value param : PyVal) (parameterType messagePrefix : String) :
    Except Exn PyVal :=
  match PrimitiveType.ofName parameterType with
  | some type => validatePrimitiveParameter lib value param type parameterType messagePrefix false
  | none =>
    if parameterType = "array" then do
      let converted ← convertArray lib param value messagePrefix
      conforming lib (arraySchema param) converted value messagePrefix
    else throw (.invalidArgument
      ("In " ++ messagePrefix ++ ": Unknown parameter type " ++ parameterType) [])

/-- `validate_parameter`. -/
def validateParameter (value : PyVal) (param : ParamApi) (messagePrefix : String) :
    Except Exn PyVal :=
  let primitiveType := match param.schema.entry "type" with
    | some _ => "primitive"
    | none => "object"
  if !value.isNone then
    match param.schema.entry "type" with
    | some (.str parameterType) => validateTyped lib value param.schema parameterType messagePrefix
    | some (.list _) | some (.dict _) => throw .typeError
    | some parameterType => throw (.invalidArgument
        ("In " ++ messagePrefix ++ ": Unknown parameter type " ++ parameterType.toStr) [])
    | none => do
      let converted ← convertJson lib param.schema value messagePrefix
      match param.schema.entry "schema" with
      | none => throw .keyError
      | some schema => conforming lib schema converted value messagePrefix
  else if param.required = some true then throw (.invalidArgument
    ("In " ++ messagePrefix ++ ": Missing " ++ primitiveType ++ " parameter '" ++ param.name ++
      "'") [])
  else pure .none

end

end Walkoff.Model
