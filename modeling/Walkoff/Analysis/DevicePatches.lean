import Walkoff.Program.Devices

/-!
# Patching the fields of a device

A patch is meant to merge its fields into those of the device by their names.
`update_from_json` merges the plaintext fields of the patch into the plaintext relation and its
encrypted fields into the other one, so a field that changes its kind is kept under its old kind
as well (`keyedMerge_iff`).
-/

set_option autoImplicit false

namespace Walkoff.Analysis

open Walkoff.Library Walkoff.Model Walkoff.Program

/-! ## The two relations of a device -/

/-- `encrypted_fields` and `plaintext_fields`. -/
def Device.relation (device : Device) : Bool → List DeviceField
  | true => device.encryptedFields
  | false => device.plaintextFields

/-- The names across the two relations. -/
def namesAcross (device : Device) : List String :=
  (device.plaintextFields ++ device.encryptedFields).map DeviceField.name

/-- A field of a patch that has all keys of a stored field, and a value that can be stored. -/
structure PatchField where
  name : String
  value : PyVal
  type : String
  encrypted : Option PyVal
  encodable : value.encodable = true := by rfl
  deriving Repr

namespace PatchField

/-- The field in the body of the request. -/
def toJson (field : PatchField) : FieldJson where
  name := field.name
  value := some field.value
  type := some field.type
  encrypted := field.encrypted

/-- The relation that the patch puts the field in. -/
def kind (field : PatchField) : Bool :=
  field.toJson.isEncrypted

/-- The row that is made of the field. -/
def stored (field : PatchField) : DeviceField where
  name := field.name
  type := if field.type ∈ allowedDeviceFieldTypes then field.type else "string"
  value := field.value.toStr

end PatchField

/-- The rows that a patch makes of its fields of one kind. -/
def storedOf (patch : List PatchField) (kind : Bool) : List DeviceField :=
  (patch.filter fun field => field.kind = kind).map PatchField.stored

/-- The body of the request: whatever it says of the device itself, with the fields of a patch. -/
def patchJson (json : DeviceJson) (patch : List PatchField) : DeviceJson :=
  { json with fields := some (patch.map PatchField.toJson) }

section

variable {patch : List PatchField} {device : Device}

/-- The rows of a kind are those of the submitted fields of the kind. -/
theorem mem_storedOf {kind : Bool} {row : DeviceField} :
    row ∈ storedOf patch kind ↔ ∃ field ∈ patch, field.kind = kind ∧ field.stored = row := by
  unfold storedOf
  simp only [List.mem_map, List.mem_filter, decide_eq_true_eq, and_assoc]

/-- The rows of a kind come field by field. -/
theorem storedOf_cons (field : PatchField) (fields : List PatchField) (kind : Bool) :
    storedOf (field :: fields) kind =
      (if field.kind = kind then [field.stored] else []) ++ storedOf fields kind := by
  unfold storedOf
  by_cases h : field.kind = kind <;> simp [h]

/-- The names of these rows are those of the fields. -/
theorem name_mem_storedOf {kind : Bool} {name : String} :
    name ∈ (storedOf patch kind).map DeviceField.name ↔
      ∃ field ∈ patch, field.kind = kind ∧ field.name = name := by
  rw [List.mem_map]
  constructor
  · rintro ⟨row, hrow, rfl⟩
    obtain ⟨field, hfield, hkind, rfl⟩ := mem_storedOf.mp hrow
    exact ⟨field, hfield, hkind, rfl⟩
  · rintro ⟨field, hfield, hkind, rfl⟩
    exact ⟨field.stored, mem_storedOf.mpr ⟨field, hfield, hkind, rfl⟩, rfl⟩

/-- The two relations that are made of a patch are its fields of each kind in their order. -/
theorem constructFieldsFromJson_toJson :
    constructFieldsFromJson (patch.map PatchField.toJson) =
      .ok (storedOf patch false, storedOf patch true) := by
  -- for relations that are not empty, along the loop
  suffices hloop : ∀ before : List DeviceField × List DeviceField,
      (patch.map PatchField.toJson).foldlM
          (fun (fields : List DeviceField × List DeviceField) field => do
            let deviceField ← DeviceField.fromJson field
            pure (if field.isEncrypted then (fields.1, fields.2 ++ [deviceField])
              else (fields.1 ++ [deviceField], fields.2))) before =
        (.ok (before.1 ++ storedOf patch false, before.2 ++ storedOf patch true) :
          Except Exn _) from hloop ([], [])
  induction patch with
  | nil =>
    intro before
    simp only [storedOf, List.filter_nil, List.map_nil, List.append_nil]
    rfl
  | cons field fields ih =>
    intro before
    have hrow : DeviceField.fromJson field.toJson = .ok field.stored := by
      have htext : storedText field.value = .ok field.value.toStr := if_pos field.encodable
      show (storedText field.value).bind _ = _
      rw [htext]
      rfl
    rw [List.map_cons, List.foldlM_cons, hrow]
    refine (ih _).trans ?_
    rw [storedOf_cons, storedOf_cons]
    cases hkind : field.kind with
    | true =>
      rw [if_pos (show field.toJson.isEncrypted = true from hkind)]
      simp
    | false =>
      rw [if_neg (show ¬field.toJson.isEncrypted = true from by
        rw [show field.toJson.isEncrypted = false from hkind]
        exact Bool.false_ne_true)]
      simp

/-- The device that a patch leaves. -/
def patched (device : Device) (json : DeviceJson) (patch : List PatchField) : Device where
  name := json.name.getD device.name
  type := json.type.getD device.type
  description := json.description.getD device.description
  plaintextFields := mergedFields device.plaintextFields (storedOf patch false)
  encryptedFields := mergedFields device.encryptedFields (storedOf patch true)
  app := device.app

/-- Updating a device from a patch gives the patched device. -/
theorem updateFromJson_patchJson (json : DeviceJson) :
    device.updateFromJson (patchJson json patch) false = .ok (patched device json patch) := by
  unfold Device.updateFromJson patchJson
  dsimp only
  rw [constructFieldsFromJson_toJson]
  rfl

/-- Each kind of a patched device is merged with the submitted rows of the kind. -/
theorem relation_patched (json : DeviceJson) (kind : Bool) :
    Device.relation (patched device json patch) kind =
      mergedFields (Device.relation device kind) (storedOf patch kind) := by
  cases kind <;> rfl

/-! ## One relation -/

/-- A merged row is a stored one that was not updated, or an updated one. -/
theorem mem_mergedFields {stored updated : List DeviceField} {row : DeviceField} :
    row ∈ mergedFields stored updated ↔
      (row ∈ stored ∧ row.name ∉ updated.map DeviceField.name) ∨ row ∈ updated := by
  unfold mergedFields
  simp only [List.mem_append, List.mem_filter, decide_eq_true_eq]

/-- Merging the same rows again changes nothing. -/
theorem mergedFields_mergedFields (stored updated : List DeviceField) :
    mergedFields (mergedFields stored updated) updated = mergedFields stored updated := by
  unfold mergedFields
  rw [List.filter_append, List.filter_filter]
  have hupdated : updated.filter (fun row => row.name ∉ updated.map DeviceField.name) = [] := by
    rw [List.filter_eq_nil_iff]
    intro row hrow
    simpa using ⟨row, hrow, rfl⟩
  rw [hupdated, List.append_nil]
  simp only [Bool.and_self]

/-- A patch that has been applied changes nothing any more. -/
theorem patched_patched (json : DeviceJson) :
    patched (patched device json patch) json patch = patched device json patch := by
  have hgetD : ∀ (given : Option String) (default : String),
      given.getD (given.getD default) = given.getD default := by
    intro given default
    cases given <;> rfl
  unfold patched
  simp only [mergedFields_mergedFields, hgetD]

/-! ## What a patch is meant to do -/

/-- The device is merged with a patch by the names of the fields. -/
structure MergedByName (device : Device) (patch : List PatchField) (merged : Device) : Prop where
  once : (namesAcross merged).Nodup
  submitted : ∀ field ∈ patch, field.stored ∈ Device.relation merged field.kind
  others : ∀ kind, ∀ row : DeviceField, row.name ∉ patch.map PatchField.name →
    (row ∈ Device.relation merged kind ↔ row ∈ Device.relation device kind)

/-- The patch is a keyed merge, and applying it again changes nothing. -/
def KeyedMerge (device : Device) (json : DeviceJson) (patch : List PatchField) : Prop :=
  ∃ merged, device.updateFromJson (patchJson json patch) false = .ok merged ∧
    MergedByName device patch merged ∧
    merged.updateFromJson (patchJson json patch) false = .ok merged

/-- No field of the patch is stored under the other kind. -/
def KeepsKinds (device : Device) (patch : List PatchField) : Prop :=
  ∀ field ∈ patch, field.name ∉ (Device.relation device !field.kind).map DeviceField.name

instance (device : Device) (patch : List PatchField) : Decidable (KeepsKinds device patch) :=
  inferInstanceAs (Decidable (∀ field ∈ patch,
    field.name ∉ (Device.relation device !field.kind).map DeviceField.name))

/-- Names are distinct across the kinds exactly if they are within each and no name has both. -/
theorem nodup_namesAcross : (namesAcross device).Nodup ↔
    (∀ kind, ((Device.relation device kind).map DeviceField.name).Nodup) ∧
      ∀ name ∈ (Device.relation device false).map DeviceField.name,
        name ∉ (Device.relation device true).map DeviceField.name := by
  unfold namesAcross
  rw [List.map_append, List.nodup_append', Bool.forall_bool, and_assoc]
  rfl

/-- A submitted field is stored in its kind. -/
theorem storedOf_submitted (json : DeviceJson) {field : PatchField} (hfield : field ∈ patch) :
    field.stored ∈ Device.relation (patched device json patch) field.kind := by
  rw [relation_patched]
  exact mem_mergedFields.mpr (.inr (mem_storedOf.mpr ⟨field, hfield, rfl, rfl⟩))

/-- A row whose name was not submitted stays as it was. -/
theorem relation_patched_of_not_mem (json : DeviceJson) (kind : Bool) {row : DeviceField}
    (hrow : row.name ∉ patch.map PatchField.name) :
    row ∈ Device.relation (patched device json patch) kind ↔
      row ∈ Device.relation device kind := by
  have hnew : row.name ∉ (storedOf patch kind).map DeviceField.name := by
    intro hmem
    obtain ⟨field, hfield, -, hname⟩ := name_mem_storedOf.mp hmem
    exact hrow (List.mem_map.mpr ⟨field, hfield, hname⟩)
  rw [relation_patched, mem_mergedFields]
  constructor
  · rintro (⟨hstored, -⟩ | hupdated)
    · exact hstored
    · exact absurd (List.mem_map_of_mem hupdated) hnew
  · intro hstored
    exact .inl ⟨hstored, hnew⟩

/-- The names of a relation after a patch. -/
theorem name_mem_patched (json : DeviceJson) {kind : Bool} {name : String} :
    name ∈ (Device.relation (patched device json patch) kind).map DeviceField.name ↔
      name ∈ (Device.relation device kind).map DeviceField.name ∨
        ∃ field ∈ patch, field.kind = kind ∧ field.name = name := by
  rw [relation_patched, ← name_mem_storedOf]
  simp only [List.mem_map, mem_mergedFields]
  constructor
  · rintro ⟨row, ⟨hstored, -⟩ | hupdated, rfl⟩
    · exact .inl ⟨row, hstored, rfl⟩
    · exact .inr ⟨row, hupdated, rfl⟩
  · rintro (⟨row, hstored, rfl⟩ | ⟨row, hupdated, rfl⟩)
    · by_cases hnew : ∃ updated ∈ storedOf patch kind, updated.name = row.name
      · obtain ⟨updated, hupdated, hname⟩ := hnew
        exact ⟨updated, .inr hupdated, hname⟩
      · exact ⟨row, .inl ⟨hstored, hnew⟩, rfl⟩
    · exact ⟨row, .inr hupdated, rfl⟩

/-- The rows of a kind have distinct names if the submitted fields have. -/
theorem nodup_storedOf (hpatch : (patch.map PatchField.name).Nodup) (kind : Bool) :
    ((storedOf patch kind).map DeviceField.name).Nodup := by
  unfold storedOf
  rw [List.map_map]
  exact List.Nodup.sublist (List.filter_sublist.map PatchField.name) hpatch

/-- Merging keeps the names distinct. -/
theorem nodup_mergedFields {stored updated : List DeviceField}
    (hstored : (stored.map DeviceField.name).Nodup)
    (hupdated : (updated.map DeviceField.name).Nodup) :
    ((mergedFields stored updated).map DeviceField.name).Nodup := by
  unfold mergedFields
  rw [List.map_append]
  refine List.Nodup.append (hstored.sublist (List.filter_sublist.map _)) hupdated ?_
  intro name hkept hnew
  obtain ⟨row, hrow, rfl⟩ := List.mem_map.mp hkept
  rw [List.mem_filter, decide_eq_true_eq] at hrow
  exact hrow.2 hnew

/-- The two fields of one name in a patch with distinct names are the same. -/
theorem eq_of_name_eq (hpatch : (patch.map PatchField.name).Nodup) {field other : PatchField}
    (hfield : field ∈ patch) (hother : other ∈ patch) (hname : field.name = other.name) :
    field = other :=
  List.inj_on_of_nodup_map hpatch hfield hother hname

/-- A patch that keeps each field in its kind keeps the names distinct. -/
theorem nodup_patched (json : DeviceJson) (hdevice : (namesAcross device).Nodup)
    (hpatch : (patch.map PatchField.name).Nodup) (hkinds : KeepsKinds device patch) :
    (namesAcross (patched device json patch)).Nodup := by
  obtain ⟨heach, hacross⟩ := nodup_namesAcross.mp hdevice
  refine nodup_namesAcross.mpr ⟨fun kind => ?_, fun name hplaintext hencrypted => ?_⟩
  · rw [relation_patched]
    exact nodup_mergedFields (heach kind) (nodup_storedOf hpatch kind)
  · rcases (name_mem_patched json).mp hplaintext with hp | ⟨field, hfield, hfalse, rfl⟩
    · rcases (name_mem_patched json).mp hencrypted with he | ⟨field, hfield, htrue, rfl⟩
      · exact hacross name hp he
      · have hkind := hkinds field hfield
        rw [htrue] at hkind
        exact hkind hp
    · rcases (name_mem_patched json).mp hencrypted with he | ⟨other, hother, htrue, hname⟩
      · have hkind := hkinds field hfield
        rw [hfalse] at hkind
        exact hkind he
      · have hsame := eq_of_name_eq hpatch hother hfield hname
        rw [hsame, hfalse] at htrue
        cases htrue

/-- A field that changes its kind is there twice afterwards. -/
theorem keepsKinds_of_nodup (json : DeviceJson)
    (honce : (namesAcross (patched device json patch)).Nodup) : KeepsKinds device patch := by
  obtain ⟨-, hacross⟩ := nodup_namesAcross.mp honce
  intro field hfield hstored
  have hnew : ∃ other ∈ patch, other.kind = field.kind ∧ other.name = field.name :=
    ⟨field, hfield, rfl, rfl⟩
  have hkept : field.name ∈
      (Device.relation (patched device json patch) !field.kind).map DeviceField.name :=
    (name_mem_patched json).mpr (.inl hstored)
  have hput : field.name ∈
      (Device.relation (patched device json patch) field.kind).map DeviceField.name :=
    (name_mem_patched json).mpr (.inr hnew)
  cases hkind : field.kind with
  | true =>
    rw [hkind] at hkept hput
    exact hacross _ hkept hput
  | false =>
    rw [hkind] at hkept hput
    exact hacross _ hput hkept

end

/-- **A patch is a keyed merge exactly when no field of it changes its kind**: for a device and a
patch with distinct names. -/
theorem keyedMerge_iff (device : Device) (hdevice : (namesAcross device).Nodup)
    (json : DeviceJson) (patch : List PatchField) (hpatch : (patch.map PatchField.name).Nodup) :
    KeyedMerge device json patch ↔ KeepsKinds device patch := by
  constructor
  · rintro ⟨merged, hmerged, hmerge, -⟩
    rw [updateFromJson_patchJson] at hmerged
    cases hmerged
    exact keepsKinds_of_nodup json hmerge.once
  · intro hkinds
    refine ⟨patched device json patch, updateFromJson_patchJson json, ?_, ?_⟩
    · exact ⟨nodup_patched json hdevice hpatch hkinds,
        fun field hfield => storedOf_submitted json hfield,
        fun kind row hrow => relation_patched_of_not_mem json kind hrow⟩
    · rw [updateFromJson_patchJson, patched_patched]

/-- A device with a field in plaintext. -/
def routerDevice : Device where
  name := "router"
  type := "Router"
  description := ""
  plaintextFields := [{ name := "password", type := "string", value := "secret" }]
  encryptedFields := []
  app := none

/-- A new value for its field. -/
def newPassword (encrypted : Bool) : PatchField where
  name := "password"
  value := .str "better"
  type := "string"
  encrypted := some (.bool encrypted)

/-- The body of a request that says nothing of the device itself. -/
def fieldsOnly : DeviceJson where
  id := none
  name := none
  appName := none
  type := none
  description := none
  fields := none

/-- A new value of the same kind replaces the old one. -/
theorem keyedMerge_iff_sameKind : KeyedMerge routerDevice fieldsOnly [newPassword false] :=
  (keyedMerge_iff routerDevice (by decide) fieldsOnly [newPassword false] (by decide)).mpr
    (by decide)

/-- A field that is encrypted from now on keeps its old value in plaintext. -/
theorem encrypted_from_now_on_kept_twice :
    ¬KeyedMerge routerDevice fieldsOnly [newPassword true] := by
  rintro ⟨merged, hmerged, hmerge, -⟩
  rw [updateFromJson_patchJson] at hmerged
  cases hmerged
  exact absurd hmerge.once (by decide)

end Walkoff.Analysis
