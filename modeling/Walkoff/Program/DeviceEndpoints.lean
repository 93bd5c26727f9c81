import Walkoff.Program.DeviceFields
import Walkoff.Program.Devices

/-!
# The answers about devices

`as_json` of devices and their fields, and the views of the device endpoints with the bodies they
answer with. A field that is encrypted is written without its value unless `as_json` is asked to
export it, which no view does.
-/

set_option autoImplicit false

namespace Walkoff.Program

open Walkoff.Library Walkoff.Model

/-! ## Devices as JSON -/

section

variable (lib : Libraries) (box : SecretBox)

/-- `DeviceField.as_json`. -/
def DeviceField.asJson (self : DeviceField) : Except Exn PyVal := do
  let value ← self.readValue lib
  pure (.dict [("name", .str self.name), ("type", .str self.type), ("value", value),
    ("encrypted", .bool false)])

/-- `EncryptedDeviceField.as_json`. -/
def EncryptedDeviceField.asJson (self : EncryptedDeviceField) (export_ : Bool) :
    Except Exn PyVal :=
  if export_ then do
    let value ← self.readValue lib box
    pure (.dict [("name", .str self.name), ("type", .str self.type), ("value", value)])
  else
    pure (.dict [("name", .str self.name), ("type", .str self.type), ("encrypted", .bool true)])

/-- The row of an encrypted field, of whose value a `Device` has the text. -/
def DeviceField.encrypted (self : DeviceField) : EncryptedDeviceField :=
  { name := self.name, type := self.type, value := box.encrypt self.value.toUTF8 }

/-- `Device.as_json`. -/
def Device.asJson (self : Device) (id : ℤ) (export_ : Bool) :
    Except Exn (OrderedDict String PyVal) := do
  let plaintext ← self.plaintextFields.mapM (DeviceField.asJson lib)
  let encrypted ← self.encryptedFields.mapM fun field =>
    EncryptedDeviceField.asJson lib box (field.encrypted box) export_
  pure [("name", .str self.name), ("id", .int id), ("fields", .list (plaintext ++ encrypted)),
    ("type", .str self.type), ("description", .str self.description)]

/-- `get_device_json_with_app_name`. -/
def getDeviceJsonWithAppName (id : ℤ) (device : Device) : Except Exn PyVal := do
  let deviceJson ← device.asJson lib box id false
  pure (.dict (OrderedDict.set "app_name" (.str (device.app.getD "")) deviceJson))

/-! ## The views -/

/-- What a view answers with. -/
inductive DeviceAnswer where
  | response (response : Response)
  | json (status : ℕ) (body : PyVal)
  | file (attachmentFilename : String) (body : PyVal)

/-- `limit(ITEMS_PER_PAGE)` with `offset((page - 1) * ITEMS_PER_PAGE)`. A negative offset counts as
zero in SQLite. -/
def pageOf {α : Type} (rows : List α) (page : ℤ) (itemsPerPage : ℕ) : List α :=
  (rows.drop ((page - 1) * itemsPerPage).toNat).take itemsPerPage

/-- `read_all_devices`. -/
def readAllDevices (itemsPerPage : ℕ) (page : ℤ) : DeviceServing DeviceAnswer := do
  let rows := pageOf (← get).devices page itemsPerPage
  let body ← lift (rows.mapM fun row => getDeviceJsonWithAppName lib box row.1 row.2)
  pure (.json 200 (.list body))

/-- `with_device` for a device that is named in the path. -/
def withDeviceOf (operation : String) (deviceId : ℤ) (view : Device → DeviceServing DeviceAnswer) :
    DeviceServing DeviceAnswer := do
  match (← get).devices.get? deviceId with
  | none => return .response (fromCrudResource 404 "device" operation
      ("Device " ++ toString deviceId ++ " does not exist."))
  | some device => view device

/-- `read_device`. -/
def readDevice (deviceId : ℤ) (mode : Option String) : DeviceServing DeviceAnswer :=
  withDeviceOf "read" deviceId fun device => do
    let body ← lift (getDeviceJsonWithAppName lib box deviceId device)
    if mode = some "export" then pure (.file (device.name ++ ".json") body)
    else pure (.json 200 body)

/-- `delete_device`. -/
def deleteDevice (deviceId : ℤ) : DeviceServing DeviceAnswer :=
  withDeviceOf "delete" deviceId fun _ => do
    modify fun db => { db with devices := db.devices.pop deviceId }
    pure (.response (.success 204))

/-- The body of an answer to a request that has stored a device. -/
def answerStored (deviceId : ℤ) : Response → DeviceServing DeviceAnswer
  | .success status => do
    match (← get).devices.get? deviceId with
    | none => throw .attributeError
    | some device => do
      let body ← lift (getDeviceJsonWithAppName lib box deviceId device)
      pure (.json status body)
  | response => pure (.response response)

/-- A request to the device endpoints. -/
inductive DeviceOp where
  | create (json : DeviceJson)
  | update (json : DeviceJson)
  | patch (json : DeviceJson)
  | readAll (page : ℤ)
  | read (deviceId : ℤ) (mode : Option String)
  | delete (deviceId : ℤ)

variable (apis : DeviceApis) (itemsPerPage : ℕ)

/-- The answer to a request. -/
def answerDevice : DeviceOp → DeviceServing DeviceAnswer
  | .create json => do
    let deviceId := OrderedDict.nextId (← get).devices
    answerStored lib box deviceId (← createDevice lib apis json)
  | .update json => do
    let response ← updateDevice lib apis json
    answerStored lib box (← lift (demand json.id)) response
  | .patch json => do
    let response ← patchDevice lib apis json
    answerStored lib box (← lift (demand json.id)) response
  | .readAll page => readAllDevices lib box itemsPerPage page
  | .read deviceId mode => readDevice lib box deviceId mode
  | .delete deviceId => deleteDevice deviceId

/-- What a client gets for each of its requests: an answer, or an error of the server. -/
def answersOf : List DeviceOp → DeviceDb → List (Option DeviceAnswer)
  | [], _ => []
  | op :: ops, db =>
    match answerDevice lib box apis itemsPerPage op db with
    | .ok answer db => some answer :: answersOf ops db
    | .error _ db => none :: answersOf ops db

end

end Walkoff.Program
