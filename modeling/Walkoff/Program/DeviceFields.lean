import Mathlib
import Walkoff.Model.PyRepr
import Walkoff.Program.Devices

/-!
# Values of device fields

`DeviceField` and `EncryptedDeviceField`: the text of a value is stored, one of them encrypted, and
converted back to the type of the field when the value is read. Two texts are read in their own
ways, that of `None` and the empty one. This is the code as Python 3 runs it.
-/

set_option autoImplicit false

namespace Walkoff.Program

open Walkoff.Library Walkoff.Model

/-- `convert_primitive_type`: what is not in `TYPE_MAP` cannot be called. -/
def convertPrimitiveType (lib : Libraries) (value : PyVal) (parameterType : String) :
    Except Exn PyVal :=
  match PrimitiveType.ofName parameterType with
  | some type => makeType lib value type
  | none => throw .typeError

/-- `field_type if field_type in allowed_device_field_types else 'string'`. -/
def storedType (fieldType : String) : String :=
  if fieldType ∈ allowedDeviceFieldTypes then fieldType else "string"

/-! ## Plaintext -/

/-- A `DeviceField` that has not been stored: its text may be one that cannot be encoded. -/
structure NewDeviceField where
  name : String
  type : String
  value : PyVal

/-- `DeviceField.__init__`. -/
def DeviceField.new (printable : Char → Bool) (name fieldType : String) (value : PyVal) :
    NewDeviceField :=
  { name, type := storedType fieldType, value := PyRepr.text printable value }

/-- `DeviceField.value`. -/
def NewDeviceField.readValue (lib : Libraries) (self : NewDeviceField) : Except Exn PyVal :=
  if self.value = .str "" then pure self.value
  else if self.value = .str "None" then pure .none
  else convertPrimitiveType lib self.value self.type

/-- `DeviceField.value` of a stored field. -/
def DeviceField.readValue (lib : Libraries) (self : DeviceField) : Except Exn PyVal :=
  NewDeviceField.readValue lib { name := self.name, type := self.type, value := .str self.value }

/-! ## Encrypted -/

/-- `text.encode('utf-8')`: a `UnicodeEncodeError` for a lone surrogate. -/
def encodeText : PyVal → Except Exn ByteArray
  | .str s => pure s.toUTF8
  | _ => throw .valueError

/-- `SecretBox` with the key of the server: it is lossless. -/
structure SecretBox where
  encrypt : ByteArray → ByteArray
  decrypt : ByteArray → ByteArray
  decrypt_encrypt : ∀ plaintext, decrypt (encrypt plaintext) = plaintext

/-- `EncryptedDeviceField`. -/
structure EncryptedDeviceField where
  name : String
  type : String
  value : ByteArray

/-- `EncryptedDeviceField.__init__`. -/
def EncryptedDeviceField.new (printable : Char → Bool) (box : SecretBox)
    (name fieldType : String) (value : PyVal) : Except Exn EncryptedDeviceField := do
  let plaintext ← encodeText (PyRepr.text printable value)
  pure { name, type := storedType fieldType, value := box.encrypt plaintext }

/-- `b''`. -/
def emptyBytes : PyVal :=
  .object { text := "b''", dumpsRaises := .typeError, picklable := true }

/-- `EncryptedDeviceField.value`: bytes are decoded unless they are empty. -/
def EncryptedDeviceField.readValue (lib : Libraries) (box : SecretBox)
    (self : EncryptedDeviceField) : Except Exn PyVal :=
  let val := box.decrypt self.value
  if val = "None".toUTF8 then pure .none
  else if val.size = 0 then pure emptyBytes
  else
    match String.fromUTF8? val with
    | some val => convertPrimitiveType lib (.str val) self.type
    | none => throw .valueError

end Walkoff.Program
