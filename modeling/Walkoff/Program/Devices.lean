import Walkoff.Library.Effect
import Walkoff.Model.Validator
import Walkoff.Program.Users

/-!
# Devices

`walkoff.executiondb.device` and the endpoints that store devices. A request is validated on a
dictionary made of its list of fields, where defaults are filled in; what is stored is made of
the list itself.
-/

set_option autoImplicit false

namespace Walkoff.Program

open Walkoff.Library Walkoff.Model

/-- A field of the API of a device type. `default`, `required` and `encrypted` are `none` when
the key is absent; `schema` is the dictionary of the field itself. -/
structure FieldApi where
  name : String
  type : String
  default : Option PyVal
  required : Option Bool
  encrypted : Option Bool
  schema : PyVal
  deriving Repr

/-- `app_apis[app]['devices'][device_type]['fields']`. -/
abbrev DeviceApis := OrderedDict String (OrderedDict String (List FieldApi))

/-- `UnknownDevice`. -/
def unknownDevice : Exn :=
  .raised "UnknownDevice"

/-- `get_app_device_api`, of which only the fields are used. -/
def getAppDeviceApi (apis : DeviceApis) (app deviceType : String) :
    Except Exn (List FieldApi) :=
  match OrderedDict.get? app apis with
  | none => throw (.unknownApp app)
  | some devices =>
    match OrderedDict.get? deviceType devices with
    | none => throw unknownDevice
    | some fields => pure fields

/-- `{field['name']: field for field in device_fields_api}`: the last of a name counts. -/
def deviceFieldsApiDict (deviceFieldsApi : List FieldApi) : OrderedDict String FieldApi :=
  OrderedDict.update [] (deviceFieldsApi.map fun field => (field.name, field))

/-! ## Validation -/

/-- `value == '' or value is None`. -/
def isBlank : PyVal → Bool
  | .none => true
  | .str s => s == ""
  | _ => false

/-- `validate_device_field`. A type that is not in `TYPE_MAP` has no conversion to call. -/
def validateDeviceField (lib : Libraries) (fieldApi : FieldApi) (value : PyVal)
    (messagePrefix : String) : Except Exn Unit :=
  if fieldApi.required.isNone && isBlank value then pure ()
  else
    match PrimitiveType.ofName fieldApi.type with
    | none => throw (unconvertible messagePrefix value fieldApi.type)
    | some type => do
      let _ ← validatePrimitiveParameter lib value
        ((fieldApi.schema.withoutEntry "required").withoutEntry "encrypted") type fieldApi.type
        messagePrefix fieldApi.encrypted.isSome
      pure ()

/-- One turn of the loop that fills in the defaults. -/
def fillDefault (deviceFields : OrderedDict String PyVal) (fieldApi : FieldApi) :
    OrderedDict String PyVal :=
  match fieldApi.default with
  | none => deviceFields
  | some default =>
    if fieldApi.name ∈ deviceFields.keys then deviceFields
    else deviceFields.set fieldApi.name default

/-- `required_in_api`. -/
def requiredInApi (deviceFieldsApi : List FieldApi) : List String :=
  (deviceFieldsApi.filter fun field => field.required = some true).map FieldApi.name

/-- `validate_device_fields`: the dictionary of fields with the defaults. -/
def validateDeviceFields (lib : Libraries) (deviceFieldsApi : List FieldApi)
    (deviceFields : OrderedDict String PyVal) (deviceType app : String)
    (validateRequired : Bool) : Except Exn (OrderedDict String PyVal) := do
  let messagePrefix := "Device type " ++ deviceType ++ " for app " ++ app
  let deviceFields := deviceFieldsApi.foldl fillDefault deviceFields
  let missing := (requiredInApi deviceFieldsApi).filter (· ∉ deviceFields.keys)
  if validateRequired && !missing.isEmpty then
    throw (.invalidArgument (messagePrefix ++ " requires " ++
      (PyVal.list ((requiredInApi deviceFieldsApi).dedup.map .str)).toStr ++
      " field but only got " ++ (PyVal.list (deviceFields.keys.map .str)).toStr) [])
  deviceFields.forM fun item =>
    match OrderedDict.get? item.1 (deviceFieldsApiDict deviceFieldsApi) with
    | some fieldApi => validateDeviceField lib fieldApi item.2 messagePrefix
    -- the message about an unknown field subscripts its name
    | none => throw .typeError
  pure deviceFields

/-! ## Stored devices -/

/-- A field of a request. -/
structure FieldJson where
  name : String
  value : Option PyVal
  type : Option String
  encrypted : Option PyVal
  deriving Repr

/-- A `DeviceField` or an `EncryptedDeviceField`, of which `value` is the text that is stored or
encrypted. -/
structure DeviceField where
  name : String
  type : String
  value : String
  deriving DecidableEq, Repr

/-- A row of the table `device` with its fields and the name of its app, if it has one. -/
structure Device where
  name : String
  type : String
  description : String
  plaintextFields : List DeviceField
  encryptedFields : List DeviceField
  app : Option String
  deriving DecidableEq, Repr

/-- The body of a request. -/
structure DeviceJson where
  id : Option ℤ
  name : Option String
  appName : Option String
  type : Option String
  description : Option String
  fields : Option (List FieldJson)
  deriving Repr

/-- `body[key]`. -/
def demand {α : Type} (field : Option α) : Except Exn α :=
  match field with
  | none => throw .keyError
  | some value => pure value

/-- `allowed_device_field_types`. -/
def allowedDeviceFieldTypes : List String :=
  ["string", "number", "boolean", "integer"]

/-- The text that is stored of a value. One that cannot be encoded is refused, by the constructor
of an encrypted field and by the database for one in plaintext. -/
def storedText (value : PyVal) : Except Exn String :=
  if value.encodable then pure value.toStr else throw .valueError

/-- `DeviceField.from_json` and `EncryptedDeviceField.from_json`. -/
def DeviceField.fromJson (data : FieldJson) : Except Exn DeviceField := do
  let type ← demand data.type
  let value ← demand data.value
  pure { name := data.name
         type := if type ∈ allowedDeviceFieldTypes then type else "string"
         value := ← storedText value }

/-- `'encrypted' in field and field['encrypted']`. -/
def FieldJson.isEncrypted (field : FieldJson) : Bool :=
  field.encrypted.any PyVal.truthy

/-- `Device._construct_fields_from_json`. -/
def constructFieldsFromJson (fieldsJson : List FieldJson) :
    Except Exn (List DeviceField × List DeviceField) :=
  fieldsJson.foldlM (fun (fields : List DeviceField × List DeviceField) field => do
    let deviceField ← DeviceField.fromJson field
    pure (if field.isEncrypted then (fields.1, fields.2 ++ [deviceField])
      else (fields.1 ++ [deviceField], fields.2))) ([], [])

/-- The fields of a relation that are not replaced by the updated ones, followed by these. -/
def mergedFields (stored updated : List DeviceField) : List DeviceField :=
  stored.filter (fun field => field.name ∉ updated.map DeviceField.name) ++ updated

/-- `Device.update_from_json`. -/
def Device.updateFromJson (self : Device) (json : DeviceJson) (completeObject : Bool) :
    Except Exn Device := do
  let self := { self with
    name := json.name.getD self.name
    description := json.description.getD self.description }
  let self ← match json.fields with
    | none => pure self
    | some fields => do
      let (plaintext, encrypted) ← constructFieldsFromJson fields
      if completeObject then
        pure { self with plaintextFields := plaintext, encryptedFields := encrypted }
      else pure { self with
        plaintextFields := mergedFields self.plaintextFields plaintext
        encryptedFields := mergedFields self.encryptedFields encrypted }
  pure { self with type := json.type.getD self.type }

/-- `Device.from_json`. The device is not in an app yet. -/
def Device.fromJson (json : DeviceJson) : Except Exn Device := do
  let (plaintext, encrypted) ← constructFieldsFromJson (← demand json.fields)
  pure { name := ← demand json.name
         type := ← demand json.type
         description := json.description.getD ""
         plaintextFields := plaintext
         encryptedFields := encrypted
         app := none }

/-! ## The endpoints -/

/-- The names of the table `app` and the table `device`. -/
structure DeviceDb where
  apps : List String
  devices : OrderedDict ℤ Device
  deriving DecidableEq, Repr

/-- `add_configuration_keys_to_field`. -/
def addConfigurationKeysToField (deviceFieldsApi : OrderedDict String FieldApi)
    (field : FieldJson) : FieldJson :=
  match OrderedDict.get? field.name deviceFieldsApi with
  | none => field
  | some fieldApi =>
    { field with
      type := some fieldApi.type
      encrypted := match fieldApi.encrypted with
        | none => field.encrypted
        | some encrypted => some (.bool encrypted) }

/-- `add_configuration_keys_to_device_json`. -/
def addConfigurationKeysToDeviceJson (deviceFields : List FieldJson)
    (deviceFieldsApi : List FieldApi) : List FieldJson :=
  deviceFields.map (addConfigurationKeysToField (deviceFieldsApiDict deviceFieldsApi))

/-- `{field['name']: field['value'] for field in fields}`. -/
def fieldValues (fields : List FieldJson) : Except Exn (OrderedDict String PyVal) := do
  let items ← fields.mapM fun field => do pure (field.name, ← demand field.value)
  pure (OrderedDict.update [] items)

/-- The same dictionary, or `None` for a body without fields. -/
def fieldValuesIfGiven (fields : Option (List FieldJson)) :
    Except Exn (Option (OrderedDict String PyVal)) :=
  match fields with
  | none => pure none
  | some fields => do pure (some (← fieldValues fields))

/-- The body of the `try` statements: the fields of the API the request is validated by. -/
def validatedApi (lib : Libraries) (apis : DeviceApis) (app deviceType : String)
    (fields : Option (OrderedDict String PyVal)) (validateRequired : Bool) :
    Except Exn (List FieldApi) := do
  let deviceFieldsApi ← getAppDeviceApi apis app deviceType
  match fields with
  | none => pure deviceFieldsApi
  | some fields => do
    let _ ← validateDeviceFields lib deviceFieldsApi fields deviceType app validateRequired
    pure deviceFieldsApi

/-- `__crud_device_error_handler` on the exceptions that are caught. -/
def crudDeviceErrorHandler (operation app deviceType : String) (exception : Exn) :
    Option Response :=
  let problem (text title : String) : Option Response := some (.problem 400 title
    ("Could not " ++ operation ++ " device for app " ++ app ++ ", type " ++ deviceType ++ ". " ++
      text ++ "."))
  match exception with
  | .unknownApp _ => problem "App does not exist" "Unknown app."
  | .raised "UnknownDevice" => problem "Type does not exist" "Unknown device type."
  | .invalidArgument _ _ => problem "Invalid input" "Invalid device fields."
  | _ => none

/-- A request about devices at work. -/
abbrev DeviceServing := EStateM Exn DeviceDb

/-- An exception that the handler does not know escapes. -/
def answerException (operation app deviceType : String) (exception : Exn) :
    DeviceServing Response :=
  match crudDeviceErrorHandler operation app deviceType exception with
  | none => throw exception
  | some response => pure response

section

variable (lib : Libraries) (apis : DeviceApis)

/-- `create_device`. -/
def createDevice (json : DeviceJson) : DeviceServing Response := do
  let db ← get
  let name ← lift (demand json.name)
  if db.devices.any fun row => row.2.name = name then
    return fromCrudResource 400 "device" "create" ("Device with name " ++ name ++
      " already exists.")
  let fieldsJson ← lift (demand json.fields)
  let fields ← lift (fieldValues fieldsJson)
  let app ← lift (demand json.appName)
  let deviceType ← lift (demand json.type)
  match validatedApi lib apis app deviceType (some fields) true with
  | .error e => answerException "create" app deviceType e
  | .ok deviceFieldsApi => do
    if app ∉ db.apps then
      return fromCrudResource 400 "device" "create" ("App " ++ app ++ " does not exist.")
    let device ← lift (Device.fromJson { json with
      fields := some (addConfigurationKeysToDeviceJson fieldsJson deviceFieldsApi) })
    -- `App.add_device` leaves out a device whose name is taken in the app
    let taken := db.devices.any fun row => row.2.app = some app ∧ row.2.name = device.name
    let device := { device with app := if taken then none else some app }
    set { db with devices := db.devices.set (OrderedDict.nextId db.devices) device }
    return .success 201

/-- `_update_device`. -/
def updateDeviceBy (deviceId : ℤ) (device : Device) (json : DeviceJson)
    (validateRequired : Bool) : DeviceServing Response := do
  let fields ← lift (fieldValuesIfGiven json.fields)
  let app ← lift (demand json.appName)
  let deviceType := json.type.getD device.type
  match validatedApi lib apis app deviceType fields validateRequired with
  | .error e => answerException "update" app deviceType e
  | .ok deviceFieldsApi => do
    let json := { json with
      fields := json.fields.map (addConfigurationKeysToDeviceJson · deviceFieldsApi) }
    let device ← lift (device.updateFromJson json validateRequired)
    modify fun db => { db with devices := db.devices.set deviceId device }
    return .success 200

/-- `with_device('update', ...)`. -/
def withDevice (json : DeviceJson) (view : ℤ → Device → DeviceServing Response) :
    DeviceServing Response := do
  let deviceId ← lift (demand json.id)
  match (← get).devices.get? deviceId with
  | none => return fromCrudResource 404 "device" "update" ("Device " ++ toString deviceId ++
      " does not exist.")
  | some device => view deviceId device

/-- `update_device`, for PUT. -/
def updateDevice (json : DeviceJson) : DeviceServing Response :=
  withDevice json fun deviceId device => updateDeviceBy lib apis deviceId device json true

/-- `patch_device`, for PATCH. -/
def patchDevice (json : DeviceJson) : DeviceServing Response :=
  withDevice json fun deviceId device => updateDeviceBy lib apis deviceId device json false

/-- A request that stores a device. -/
inductive DeviceRequest where
  | create (json : DeviceJson)
  | update (json : DeviceJson)
  | patch (json : DeviceJson)

/-- The view of a request. -/
def serveDevice : DeviceRequest → DeviceServing Response
  | .create json => createDevice lib apis json
  | .update json => updateDevice lib apis json
  | .patch json => patchDevice lib apis json

end

end Walkoff.Program
