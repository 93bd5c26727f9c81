import Walkoff.Library.Transition
import Walkoff.Analysis.ParameterLaw
import Walkoff.Program.Devices

/-!
# Stored devices and their APIs

A stored device fits its API when it has every field it needs once, no other field than those of
the API, and each of them in the relation the API says. What is validated is a dictionary made of
the fields of a request; what is stored are the fields themselves. The theorem of this module says
which requests keep the devices fitting.
-/

set_option autoImplicit false

namespace Walkoff.Analysis

open Walkoff.Library Walkoff.Model Walkoff.Program

/-! ## What a device has to be -/

/-- The entry of an API for a name. -/
def apiField (api : List FieldApi) (name : String) : Option FieldApi :=
  OrderedDict.get? name (deviceFieldsApiDict api)

/-- A field that is required or has a default. -/
def Needed (fieldApi : FieldApi) : Prop :=
  fieldApi.required = some true ∨ fieldApi.default.isSome

/-- The API marks the field as encrypted. -/
def marksEncrypted (fieldApi : FieldApi) : Bool :=
  fieldApi.encrypted.getD false

/-- The API has a field of each of the names, marked as encrypted or not. -/
def AllMarked (api : List FieldApi) (marked : Bool) (names : List String) : Prop :=
  ∀ name ∈ names, ∃ fieldApi, apiField api name = some fieldApi ∧ marksEncrypted fieldApi = marked

/-- The names of the fields of a device fit an API. -/
structure FitsApi (api : List FieldApi) (plaintext encrypted : List String) : Prop where
  once : ∀ fieldApi ∈ api, Needed fieldApi →
    plaintext.count fieldApi.name + encrypted.count fieldApi.name = 1
  plaintext : AllMarked api false plaintext
  encrypted : AllMarked api true encrypted

/-- The names of stored fields. -/
def storedNames (fields : List DeviceField) : List String :=
  fields.map DeviceField.name

/-- The plaintext and encrypted fields of a device fit the API of a device type of its app. -/
def FitsType (apis : DeviceApis) (device : Device) (deviceType : String) : Prop :=
  ∃ app api, device.app = some app ∧ getAppDeviceApi apis app deviceType = .ok api ∧
    FitsApi api (storedNames device.plaintextFields) (storedNames device.encryptedFields)

/-- A device conforms to the API of its type. -/
def Conforms (apis : DeviceApis) (device : Device) : Prop :=
  FitsType apis device device.type

/-- Every stored device conforms to the API of its type. -/
def AllConform (apis : DeviceApis) (db : DeviceDb) : Prop :=
  ∀ row ∈ db.devices, Conforms apis row.2

/-! ## When a request keeps them so -/

/-- The names of the fields of a request. -/
def fieldNames (fields : List FieldJson) : List String :=
  fields.map FieldJson.name

/-- A field of a request that is validated by an API is stored encrypted. -/
def storedEncrypted (api : List FieldApi) (field : FieldJson) : Bool :=
  (addConfigurationKeysToField (deviceFieldsApiDict api) field).isEncrypted

/-- The names of the fields of a request that are stored in plaintext. -/
def plaintextNames (api : List FieldApi) (fields : List FieldJson) : List String :=
  fieldNames (fields.filter fun field => !storedEncrypted api field)

/-- The names of the fields of a request that are stored encrypted. -/
def encryptedNames (api : List FieldApi) (fields : List FieldJson) : List String :=
  fieldNames (fields.filter (storedEncrypted api))

/-- What the fields of a request have to be when the device is of the API they are validated by:
none asks for an encryption of its own where the API is silent, no needed field comes twice, and a
list that replaces all fields has those with a default. -/
structure Listed (api : List FieldApi) (completeObject : Bool) (fields : List FieldJson) :
    Prop where
  noOwnEncryption : ∀ field ∈ fields, ∀ fieldApi, apiField api field.name = some fieldApi →
    fieldApi.encrypted = none → field.isEncrypted = false
  noneTwice : ∀ fieldApi ∈ api, Needed fieldApi → (fieldNames fields).count fieldApi.name ≤ 1
  defaults : completeObject = true →
    ∀ fieldApi ∈ api, fieldApi.default.isSome → fieldApi.name ∈ fieldNames fields

/-- What the fields of a request and the names of the fields they leave have to be when the device
becomes one of another API than that of before or that of the validation. -/
structure Combined (validated api : List FieldApi) (keptPlaintext keptEncrypted : List String)
    (fields : List FieldJson) : Prop where
  marks : ∀ field ∈ fields, ∃ fieldApi, apiField api field.name = some fieldApi ∧
    marksEncrypted fieldApi = storedEncrypted validated field
  plaintext : AllMarked api false keptPlaintext
  encrypted : AllMarked api true keptEncrypted
  once : ∀ fieldApi ∈ api, Needed fieldApi →
    keptPlaintext.count fieldApi.name + keptEncrypted.count fieldApi.name +
      (fieldNames fields).count fieldApi.name = 1

/-- The names of the stored fields that a request leaves. -/
def keptNames (completeObject : Bool) (stored : List DeviceField) (updated : List String) :
    List String :=
  if completeObject then [] else (storedNames stored).filter (· ∉ updated)

/-! ## Names and counts -/

/-- Each field is stored in plain text or encrypted, and in one of the two. -/
theorem count_plaintextNames_add (api : List FieldApi) (fields : List FieldJson) (name : String) :
    (plaintextNames api fields).count name + (encryptedNames api fields).count name =
      (fieldNames fields).count name := by
  induction fields with
  | nil => rfl
  | cons field fields ih =>
    simp only [plaintextNames, encryptedNames, fieldNames] at ih ⊢
    cases hstored : storedEncrypted api field with
    | false =>
      simp only [List.filter_cons, hstored, Bool.not_false, if_true, List.map_cons,
        List.count_cons, Bool.false_eq_true, if_false]
      omega
    | true =>
      simp only [List.filter_cons, hstored, Bool.not_true, if_true, List.map_cons,
        List.count_cons, Bool.false_eq_true, if_false]
      omega

/-- A name is stored in plain text exactly if a field of the name is. -/
theorem mem_plaintextNames {api : List FieldApi} {fields : List FieldJson} {name : String} :
    name ∈ plaintextNames api fields ↔
      ∃ field ∈ fields, storedEncrypted api field = false ∧ field.name = name := by
  simp [plaintextNames, fieldNames, and_assoc]

/-- The same of the encrypted names. -/
theorem mem_encryptedNames {api : List FieldApi} {fields : List FieldJson} {name : String} :
    name ∈ encryptedNames api fields ↔
      ∃ field ∈ fields, storedEncrypted api field = true ∧ field.name = name := by
  simp [encryptedNames, fieldNames, and_assoc]

/-- The names of fields are those of its members. -/
theorem mem_fieldNames {fields : List FieldJson} {name : String} :
    name ∈ fieldNames fields ↔ ∃ field ∈ fields, field.name = name := by
  simp [fieldNames]

/-- The fields of a request are stored as an API says when their names are. -/
theorem allMarked_iff (validated api : List FieldApi) (fields : List FieldJson) :
    AllMarked api false (plaintextNames validated fields) ∧
        AllMarked api true (encryptedNames validated fields) ↔
      ∀ field ∈ fields, ∃ fieldApi, apiField api field.name = some fieldApi ∧
        marksEncrypted fieldApi = storedEncrypted validated field := by
  constructor
  · rintro ⟨hplaintext, hencrypted⟩ field hfield
    cases hstored : storedEncrypted validated field with
    | false => exact hplaintext _ (mem_plaintextNames.mpr ⟨field, hfield, hstored, rfl⟩)
    | true => exact hencrypted _ (mem_encryptedNames.mpr ⟨field, hfield, hstored, rfl⟩)
  · intro hmarks
    constructor
    · intro name hname
      obtain ⟨field, hfield, hstored, rfl⟩ := mem_plaintextNames.mp hname
      exact hstored ▸ hmarks field hfield
    · intro name hname
      obtain ⟨field, hfield, hstored, rfl⟩ := mem_encryptedNames.mp hname
      exact hstored ▸ hmarks field hfield

/-- Names are all marked exactly if both parts are. -/
theorem allMarked_append (api : List FieldApi) (marked : Bool) (names others : List String) :
    AllMarked api marked (names ++ others) ↔
      AllMarked api marked names ∧ AllMarked api marked others :=
  List.forall_mem_append

/-- The names of a kept list and of the fields of a request fit an API exactly when they combine
to it. -/
theorem fits_append_iff (validated api : List FieldApi) (keptPlaintext keptEncrypted : List String)
    (fields : List FieldJson) :
    FitsApi api (keptPlaintext ++ plaintextNames validated fields)
        (keptEncrypted ++ encryptedNames validated fields) ↔
      Combined validated api keptPlaintext keptEncrypted fields := by
  have hcount : ∀ name : String,
      (keptPlaintext ++ plaintextNames validated fields).count name +
          (keptEncrypted ++ encryptedNames validated fields).count name =
        keptPlaintext.count name + keptEncrypted.count name + (fieldNames fields).count name := by
    intro name
    have hsum := count_plaintextNames_add validated fields name
    rw [List.count_append, List.count_append]
    omega
  constructor
  · rintro ⟨honce, hplaintext, hencrypted⟩
    obtain ⟨hkeptPlaintext, hnewPlaintext⟩ := (allMarked_append _ _ _ _).mp hplaintext
    obtain ⟨hkeptEncrypted, hnewEncrypted⟩ := (allMarked_append _ _ _ _).mp hencrypted
    exact ⟨(allMarked_iff _ _ _).mp ⟨hnewPlaintext, hnewEncrypted⟩, hkeptPlaintext,
      hkeptEncrypted, fun fieldApi hmem hneeded =>
        (hcount _).symm.trans (honce fieldApi hmem hneeded)⟩
  · rintro ⟨hmarks, hkeptPlaintext, hkeptEncrypted, honce⟩
    obtain ⟨hnewPlaintext, hnewEncrypted⟩ := (allMarked_iff _ _ _).mpr hmarks
    exact ⟨fun fieldApi hmem hneeded => (hcount _).trans (honce fieldApi hmem hneeded),
      (allMarked_append _ _ _ _).mpr ⟨hkeptPlaintext, hnewPlaintext⟩,
      (allMarked_append _ _ _ _).mpr ⟨hkeptEncrypted, hnewEncrypted⟩⟩

/-! ## What a validation says of the fields -/

/-- What is known of the fields of a request that passed the validation by an API. -/
structure Validated (api : List FieldApi) (validateRequired : Bool) (fields : List FieldJson) :
    Prop where
  valued : ∀ field ∈ fields, field.value.isSome
  known : ∀ field ∈ fields, (apiField api field.name).isSome
  required : validateRequired = true → ∀ fieldApi ∈ api, fieldApi.required = some true →
    fieldApi.name ∈ fieldNames fields ∨
      ∃ other ∈ api, other.name = fieldApi.name ∧ other.default.isSome

/-- Filling in a default adds at most the name of its field. -/
theorem mem_keys_fillDefault (name : String) (deviceFields : OrderedDict String PyVal)
    (fieldApi : FieldApi) :
    name ∈ (fillDefault deviceFields fieldApi).keys ↔
      name ∈ deviceFields.keys ∨ fieldApi.name = name ∧ fieldApi.default.isSome := by
  unfold fillDefault
  cases hdefault : fieldApi.default with
  | none => simp
  | some default =>
    simp only [Option.isSome_some, and_true]
    split
    · rename_i hmem
      constructor
      · exact .inl
      · rintro (h | rfl)
        · exact h
        · exact hmem
    · rw [OrderedDict.mem_keys_set]
      exact or_comm.trans (or_congr Iff.rfl eq_comm)

/-- Filling in all defaults adds the names of the fields that have one. -/
theorem mem_keys_fillDefaults (name : String) (deviceFields : OrderedDict String PyVal)
    (api : List FieldApi) :
    name ∈ (api.foldl fillDefault deviceFields).keys ↔
      name ∈ deviceFields.keys ∨
        ∃ fieldApi ∈ api, fieldApi.name = name ∧ fieldApi.default.isSome := by
  induction api generalizing deviceFields with
  | nil => simp
  | cons fieldApi api ih =>
    rw [List.foldl_cons, ih, mem_keys_fillDefault, List.exists_mem_cons_iff, or_assoc]

/-- The keys of the dictionary of the fields of a request. -/
theorem mem_keys_fieldValues {fields : List FieldJson} {values : OrderedDict String PyVal}
    (h : fieldValues fields = .ok values) (name : String) :
    name ∈ values.keys ↔ name ∈ fieldNames fields := by
  obtain ⟨items, hitems, hvalues⟩ := Except.bind_eq_ok.mp h
  cases hvalues
  have hnames : items.map Prod.fst = fieldNames fields := by
    clear h
    induction fields generalizing items with
    | nil =>
      cases hitems
      rfl
    | cons field fields ih =>
      rw [List.mapM_cons] at hitems
      obtain ⟨item, hitem, hrest⟩ := Except.bind_eq_ok.mp hitems
      obtain ⟨others, hothers, hcons⟩ := Except.bind_eq_ok.mp hrest
      obtain ⟨value, _, hpair⟩ := Except.bind_eq_ok.mp hitem
      cases hcons
      cases hpair
      exact congrArg (field.name :: ·) (ih others hothers)
  rw [OrderedDict.mem_keys_update, hnames]
  simp [OrderedDict.keys]

/-- Where the values could be read, every field has one. -/
theorem valued_of_fieldValues {fields : List FieldJson} {values : OrderedDict String PyVal}
    (h : fieldValues fields = .ok values) : ∀ field ∈ fields, field.value.isSome := by
  obtain ⟨items, hitems, hvalues⟩ := Except.bind_eq_ok.mp h
  clear h hvalues
  induction fields generalizing items with
  | nil => exact fun _ hmem => absurd hmem List.not_mem_nil
  | cons field fields ih =>
    rw [List.mapM_cons] at hitems
    obtain ⟨item, hitem, hrest⟩ := Except.bind_eq_ok.mp hitems
    obtain ⟨others, hothers, _⟩ := Except.bind_eq_ok.mp hrest
    obtain ⟨value, hvalue, _⟩ := Except.bind_eq_ok.mp hitem
    refine List.forall_mem_cons.mpr ⟨?_, ih others hothers⟩
    cases hfield : field.value with
    | none =>
      rw [hfield] at hvalue
      cases hvalue
    | some _ => rfl

/-- **What a validation checks.** -/
theorem validated_of_ok {lib : Libraries} {api : List FieldApi} {fields : List FieldJson}
    {values result : OrderedDict String PyVal} {deviceType app : String}
    {validateRequired : Bool} (hvalues : fieldValues fields = .ok values)
    (h : validateDeviceFields lib api values deviceType app validateRequired = .ok result) :
    Validated api validateRequired fields := by
  unfold validateDeviceFields at h
  dsimp only at h
  split at h
  · cases h
  rename_i hrequired
  obtain ⟨_, hknown, _⟩ := Except.bind_eq_ok.mp h
  have hkeys : ∀ name, name ∈ (api.foldl fillDefault values).keys ↔
      name ∈ fieldNames fields ∨
        ∃ fieldApi ∈ api, fieldApi.name = name ∧ fieldApi.default.isSome := by
    intro name
    rw [mem_keys_fillDefaults, mem_keys_fieldValues hvalues]
  refine ⟨valued_of_fieldValues hvalues, ?_, ?_⟩
  · intro field hfield
    have hmem : field.name ∈ (api.foldl fillDefault values).keys :=
      (hkeys _).mpr (.inl (mem_fieldNames.mpr ⟨field, hfield, rfl⟩))
    obtain ⟨item, hitem, hname⟩ := List.mem_map.mp hmem
    have hturn := Except.forM_eq_ok.mp hknown item hitem
    rw [← hname]
    unfold apiField
    cases hget : OrderedDict.get? item.1 (deviceFieldsApiDict api) with
    | none =>
      rw [hget] at hturn
      cases hturn
    | some _ => rfl
  · rintro rfl fieldApi hmem hfieldApi
    refine (hkeys _).mp ?_
    by_contra hmissing
    have hname : fieldApi.name ∈
        (requiredInApi api).filter (· ∉ (api.foldl fillDefault values).keys) := by
      refine List.mem_filter.mpr ⟨List.mem_map.mpr ⟨fieldApi, ?_, rfl⟩, decide_eq_true hmissing⟩
      exact List.mem_filter.mpr ⟨hmem, decide_eq_true hfieldApi⟩
    have hempty : ((requiredInApi api).filter
        (· ∉ (api.foldl fillDefault values).keys)).isEmpty = false := by
      rw [List.isEmpty_eq_false_iff]
      exact List.ne_nil_of_mem hname
    rw [hempty] at hrequired
    exact hrequired rfl

/-! ## Requests for a device of the API they are validated by -/

/-- How a field is stored is what its API says, or else the request. -/
theorem storedEncrypted_of_apiField {api : List FieldApi} {field : FieldJson}
    {fieldApi : FieldApi} (h : apiField api field.name = some fieldApi) :
    storedEncrypted api field = fieldApi.encrypted.getD field.isEncrypted := by
  unfold storedEncrypted addConfigurationKeysToField
  unfold apiField at h
  rw [h]
  cases hencrypted : fieldApi.encrypted with
  | none => simp [FieldJson.isEncrypted, hencrypted]
  | some encrypted => simp [FieldJson.isEncrypted, hencrypted, PyVal.truthy]

/-- A field of the API is found by its name. -/
theorem apiField_isSome {api : List FieldApi} {fieldApi : FieldApi} (h : fieldApi ∈ api) :
    (apiField api fieldApi.name).isSome := by
  refine (OrderedDict.mem_keys_iff _ _).mp ((OrderedDict.mem_keys_update _ _ _).mpr (.inr ?_))
  rw [List.map_map]
  exact List.mem_map.mpr ⟨fieldApi, h, rfl⟩

/-- The fields are stored as their own API says when none asks for an encryption of its own. -/
theorem marks_iff {api : List FieldApi} {fields : List FieldJson}
    (hknown : ∀ field ∈ fields, (apiField api field.name).isSome) :
    (∀ field ∈ fields, ∃ fieldApi, apiField api field.name = some fieldApi ∧
        marksEncrypted fieldApi = storedEncrypted api field) ↔
      ∀ field ∈ fields, ∀ fieldApi, apiField api field.name = some fieldApi →
        fieldApi.encrypted = none → field.isEncrypted = false := by
  refine forall₂_congr fun field hfield => ?_
  obtain ⟨fieldApi, hapi⟩ := Option.isSome_iff_exists.mp (hknown field hfield)
  rw [hapi, storedEncrypted_of_apiField hapi]
  simp only [Option.some.injEq, exists_eq_left', forall_eq']
  unfold marksEncrypted
  cases hencrypted : fieldApi.encrypted with
  | none => exact ⟨fun h _ => h.symm, fun h => (h rfl).symm⟩
  | some encrypted => simp

/-- A list that replaces all fields. -/
theorem combined_replacing_iff {api : List FieldApi} {fields : List FieldJson}
    (h : Validated api true fields) :
    Combined api api [] [] fields ↔ Listed api true fields := by
  constructor
  · intro hcombined
    have honce : ∀ fieldApi ∈ api, Needed fieldApi →
        (fieldNames fields).count fieldApi.name = 1 := by
      intro fieldApi hmem hneeded
      have hsum := hcombined.once fieldApi hmem hneeded
      rw [List.count_nil] at hsum
      omega
    refine ⟨(marks_iff h.known).mp hcombined.marks,
      fun fieldApi hmem hneeded => (honce fieldApi hmem hneeded).le, ?_⟩
    intro _ fieldApi hmem hdefault
    have hcount := honce fieldApi hmem (.inr hdefault)
    exact List.count_pos_iff.mp (by omega)
  · intro hlisted
    refine ⟨(marks_iff h.known).mpr hlisted.noOwnEncryption, fun _ hmem => ?_, fun _ hmem => ?_, ?_⟩
    · exact absurd hmem List.not_mem_nil
    · exact absurd hmem List.not_mem_nil
    · intro fieldApi hmem hneeded
      have hmost := hlisted.noneTwice fieldApi hmem hneeded
      have hleast : fieldApi.name ∈ fieldNames fields := by
        rcases hneeded with hrequired | hdefault
        · rcases h.required rfl fieldApi hmem hrequired with hnamed | ⟨other, hother, hname, hdefault⟩
          · exact hnamed
          · exact hname ▸ hlisted.defaults rfl other hother hdefault
        · exact hlisted.defaults rfl fieldApi hmem hdefault
      have hcount := List.count_pos_iff.mpr hleast
      simp only [List.count_nil]
      omega

/-- A name that is stored once and updated at most once is there once after a merge. -/
theorem count_merged {name : String} {stored updated : List String}
    (hstored : stored.count name = 1) (hupdated : updated.count name ≤ 1) :
    (stored.filter (· ∉ updated)).count name + updated.count name = 1 := by
  by_cases hmem : name ∈ updated
  · have hcount := List.count_pos_iff.mpr hmem
    have hkept : (stored.filter (· ∉ updated)).count name = 0 := by
      rw [List.count_eq_zero]
      intro hkept
      exact absurd hmem (of_decide_eq_true (List.mem_filter.mp hkept).2)
    omega
  · have hcount := List.count_eq_zero.mpr hmem
    have hkept : (stored.filter (· ∉ updated)).count name = stored.count name :=
      List.count_filter (decide_eq_true hmem)
    omega

/-- Fewer names are all marked if all were. -/
theorem AllMarked.filter {api : List FieldApi} {marked : Bool} {names : List String}
    (h : AllMarked api marked names) (p : String → Bool) :
    AllMarked api marked (names.filter p) :=
  fun name hmem => h name (List.mem_of_mem_filter hmem)

/-- A name that the API marks otherwise is not among the names. -/
theorem AllMarked.count_eq_zero {api : List FieldApi} {marked : Bool} {names : List String}
    (h : AllMarked api marked names) {name : String} {entry : FieldApi}
    (hentry : apiField api name = some entry) (hmark : marksEncrypted entry ≠ marked) :
    names.count name = 0 := by
  rw [List.count_eq_zero]
  intro hname
  obtain ⟨fieldApi, hfieldApi, hmarked⟩ := h name hname
  obtain rfl : entry = fieldApi := Option.some.inj (hentry.symm.trans hfieldApi)
  exact hmark hmarked

/-- A list that is merged into the fields of a device that fits the API. -/
theorem combined_merging_iff {api : List FieldApi} {fields : List FieldJson}
    {plaintext encrypted : List String} (hfits : FitsApi api plaintext encrypted)
    (h : Validated api false fields) :
    Combined api api (plaintext.filter (· ∉ plaintextNames api fields))
        (encrypted.filter (· ∉ encryptedNames api fields)) fields ↔
      Listed api false fields := by
  constructor
  · intro hcombined
    refine ⟨(marks_iff h.known).mp hcombined.marks, ?_, fun hcomplete => by cases hcomplete⟩
    intro fieldApi hmem hneeded
    have hsum := hcombined.once fieldApi hmem hneeded
    omega
  · intro hlisted
    have hmarks := (marks_iff h.known).mpr hlisted.noOwnEncryption
    have hkeptPlaintext := hfits.plaintext.filter (· ∉ plaintextNames api fields)
    have hkeptEncrypted := hfits.encrypted.filter (· ∉ encryptedNames api fields)
    obtain ⟨hnewPlaintext, hnewEncrypted⟩ := (allMarked_iff _ _ _).mpr hmarks
    refine ⟨hmarks, hkeptPlaintext, hkeptEncrypted, ?_⟩
    intro fieldApi hmem hneeded
    have hmost := hlisted.noneTwice fieldApi hmem hneeded
    have hstored := hfits.once fieldApi hmem hneeded
    have hsplit := count_plaintextNames_add api fields fieldApi.name
    obtain ⟨entry, hentry⟩ := Option.isSome_iff_exists.mp (apiField_isSome hmem)
    -- the name is in one of the two relations only, before and after
    cases hmark : marksEncrypted entry with
    | false =>
      have hother : marksEncrypted entry ≠ true := by simp [hmark]
      have hnoneStored := hfits.encrypted.count_eq_zero hentry hother
      have hnoneKept := hkeptEncrypted.count_eq_zero hentry hother
      have hnoneNew := hnewEncrypted.count_eq_zero hentry hother
      have hmerged : (plaintext.filter (· ∉ plaintextNames api fields)).count fieldApi.name +
          (plaintextNames api fields).count fieldApi.name = 1 :=
        count_merged (by omega) (by omega)
      omega
    | true =>
      have hother : marksEncrypted entry ≠ false := by simp [hmark]
      have hnoneStored := hfits.plaintext.count_eq_zero hentry hother
      have hnoneKept := hkeptPlaintext.count_eq_zero hentry hother
      have hnoneNew := hnewPlaintext.count_eq_zero hentry hother
      have hmerged : (encrypted.filter (· ∉ encryptedNames api fields)).count fieldApi.name +
          (encryptedNames api fields).count fieldApi.name = 1 :=
        count_merged (by omega) (by omega)
      omega

/-! ## What is stored -/

/-- The value of the field can be stored, if it has one. -/
def Storing (field : FieldJson) : Prop :=
  ∀ value, field.value = some value → value.encodable = true

/-- A field that is known and has a storable value is made. -/
theorem fromJson_of_known {api : List FieldApi} {field : FieldJson}
    (hvalued : field.value.isSome) (hknown : (apiField api field.name).isSome)
    (hstoring : Storing field) :
    ∃ deviceField, DeviceField.fromJson
        (addConfigurationKeysToField (deviceFieldsApiDict api) field) = .ok deviceField ∧
      deviceField.name = field.name := by
  obtain ⟨value, hvalue⟩ := Option.isSome_iff_exists.mp hvalued
  obtain ⟨fieldApi, hapi⟩ := Option.isSome_iff_exists.mp hknown
  unfold apiField at hapi
  unfold addConfigurationKeysToField
  rw [hapi]
  have htext : storedText value = .ok value.toStr := if_pos (hstoring value hvalue)
  refine ⟨{ name := field.name
            type := if fieldApi.type ∈ allowedDeviceFieldTypes then fieldApi.type else "string"
            value := value.toStr }, ?_, rfl⟩
  unfold DeviceField.fromJson
  simp only [hvalue]
  show (storedText value).bind _ = _
  rw [htext]
  rfl

/-- What is made of a field can be stored. -/
theorem storing_of_fromJson {deviceFieldsApi : OrderedDict String FieldApi} {field : FieldJson}
    {deviceField : DeviceField} (h : DeviceField.fromJson
      (addConfigurationKeysToField deviceFieldsApi field) = .ok deviceField) : Storing field := by
  intro value hvalue
  have hconfigured : (addConfigurationKeysToField deviceFieldsApi field).value = some value := by
    unfold addConfigurationKeysToField
    cases OrderedDict.get? field.name deviceFieldsApi with
    | none => exact hvalue
    | some fieldApi => exact hvalue
  obtain ⟨type, -, h⟩ := Except.bind_eq_ok.mp h
  rw [hconfigured] at h
  obtain ⟨demanded, hdemanded, h⟩ := Except.bind_eq_ok.mp h
  obtain rfl := Except.ok.inj hdemanded
  obtain ⟨text, htext, -⟩ := Except.bind_eq_ok.mp h
  unfold storedText at htext
  by_contra hnot
  rw [if_neg hnot] at htext
  cases htext

/-- The relations that are made of the fields of a validated request, and their names. -/
theorem constructFieldsFromJson_of_validated {api : List FieldApi} {fields : List FieldJson}
    (hvalued : ∀ field ∈ fields, field.value.isSome)
    (hknown : ∀ field ∈ fields, (apiField api field.name).isSome)
    (hstoring : ∀ field ∈ fields, Storing field) :
    ∃ plaintext encrypted, constructFieldsFromJson (addConfigurationKeysToDeviceJson fields api) =
        .ok (plaintext, encrypted) ∧
      storedNames plaintext = plaintextNames api fields ∧
      storedNames encrypted = encryptedNames api fields := by
  -- for relations that are not empty, along the loop
  suffices hloop : ∀ before : List DeviceField × List DeviceField, ∃ plaintext encrypted,
      (addConfigurationKeysToDeviceJson fields api).foldlM
          (fun (fields : List DeviceField × List DeviceField) field => do
            let deviceField ← DeviceField.fromJson field
            pure (if field.isEncrypted then (fields.1, fields.2 ++ [deviceField])
              else (fields.1 ++ [deviceField], fields.2))) before =
        (.ok (before.1 ++ plaintext, before.2 ++ encrypted) : Except Exn _) ∧
      storedNames plaintext = plaintextNames api fields ∧
      storedNames encrypted = encryptedNames api fields by
    obtain ⟨plaintext, encrypted, hresult, hnames⟩ := hloop ([], [])
    exact ⟨plaintext, encrypted, hresult, hnames⟩
  induction fields with
  | nil =>
    rintro ⟨plaintext, encrypted⟩
    refine ⟨[], [], ?_, rfl, rfl⟩
    rw [List.append_nil, List.append_nil]
    rfl
  | cons field fields ih =>
    intro before
    obtain ⟨hvalue, hvalued⟩ := List.forall_mem_cons.mp hvalued
    obtain ⟨hfield, hknown⟩ := List.forall_mem_cons.mp hknown
    obtain ⟨hstores, hstoring⟩ := List.forall_mem_cons.mp hstoring
    obtain ⟨deviceField, hfromJson, hname⟩ := fromJson_of_known hvalue hfield hstores
    have hstored : (addConfigurationKeysToField (deviceFieldsApiDict api) field).isEncrypted =
        storedEncrypted api field := rfl
    unfold addConfigurationKeysToDeviceJson at ih ⊢
    rw [List.map_cons, List.foldlM_cons, hfromJson, hstored]
    simp only [plaintextNames, encryptedNames, fieldNames, List.filter_cons] at ih ⊢
    cases hmark : storedEncrypted api field with
    | false =>
      obtain ⟨plaintext, encrypted, hresult, hplaintext, hencrypted⟩ :=
        ih hvalued hknown hstoring (before.1 ++ [deviceField], before.2)
      refine ⟨deviceField :: plaintext, encrypted, ?_, ?_, ?_⟩
      · rw [List.append_cons]
        exact hresult
      · simp only [Bool.not_false, if_true, List.map_cons, ← hplaintext, ← hname]
        rfl
      · simpa using hencrypted
    | true =>
      obtain ⟨plaintext, encrypted, hresult, hplaintext, hencrypted⟩ :=
        ih hvalued hknown hstoring (before.1, before.2 ++ [deviceField])
      refine ⟨plaintext, deviceField :: encrypted, ?_, ?_, ?_⟩
      · rw [List.append_cons before.2]
        exact hresult
      · simpa using hplaintext
      · simp only [if_true, List.map_cons, ← hencrypted, ← hname]
        rfl

/-- When relations are made of the fields of a request, they can be stored. -/
theorem storing_of_constructFieldsFromJson {api : List FieldApi} {fields : List FieldJson}
    {result : List DeviceField × List DeviceField}
    (h : constructFieldsFromJson (addConfigurationKeysToDeviceJson fields api) = .ok result) :
    ∀ field ∈ fields, Storing field := by
  intro field hfield
  obtain ⟨before, after, hturn⟩ := Except.ok_of_mem_foldlM h
    (List.mem_map_of_mem (f := addConfigurationKeysToField (deviceFieldsApiDict api)) hfield)
  obtain ⟨deviceField, hfromJson, -⟩ := Except.bind_eq_ok.mp hturn
  exact storing_of_fromJson hfromJson

/-! ## The endpoints -/

section

variable (lib : Libraries) (apis : DeviceApis)

/-- A request to create a device is accepted, with its app, its fields and the API they are
validated by. -/
structure Creates (db : DeviceDb) (json : DeviceJson) (name deviceType app : String)
    (fields : List FieldJson) (api : List FieldApi) : Prop where
  named : json.name = some name
  isNew : (db.devices.any fun row => row.2.name = name) = false
  listed : json.fields = some fields
  ofApp : json.appName = some app
  ofType : json.type = some deviceType
  validated : ∃ values, fieldValues fields = .ok values ∧
    validatedApi lib apis app deviceType (some values) true = .ok api
  appStored : app ∈ db.apps
  storing : ∀ field ∈ fields, Storing field

/-- A request to change a device is accepted, with its app and the API it is validated by. -/
structure Updates (db : DeviceDb) (json : DeviceJson) (validateRequired : Bool) (deviceId : ℤ)
    (device : Device) (app : String) (api : List FieldApi) : Prop where
  ofId : json.id = some deviceId
  deviceStored : db.devices.get? deviceId = some device
  ofApp : json.appName = some app
  validated : ∃ values, fieldValuesIfGiven json.fields = .ok values ∧
    validatedApi lib apis app (json.type.getD device.type) values validateRequired = .ok api
  storing : ∀ fields, json.fields = some fields → ∀ field ∈ fields, Storing field

variable {lib apis}

/-- A validation that passes has found the API and checked every value. -/
theorem validatedApi_ok {app deviceType : String} {fields : List FieldJson}
    {values : OrderedDict String PyVal} {validateRequired : Bool} {api : List FieldApi}
    (hvalues : fieldValues fields = .ok values)
    (h : validatedApi lib apis app deviceType (some values) validateRequired = .ok api) :
    getAppDeviceApi apis app deviceType = .ok api ∧ Validated api validateRequired fields := by
  obtain ⟨fieldsApi, hget, hrest⟩ := Except.bind_eq_ok.mp h
  obtain ⟨result, hvalidate, hpure⟩ := Except.bind_eq_ok.mp hrest
  cases hpure
  exact ⟨hget, validated_of_ok hvalues hvalidate⟩

/-- Answering an exception leaves the tables. -/
theorem answerException_state (operation app deviceType : String) (exception : Exn)
    (db : DeviceDb) :
    finalState (answerException operation app deviceType exception db) = db := by
  unfold answerException
  cases crudDeviceErrorHandler operation app deviceType exception with
  | none => rfl
  | some response => rfl

/-- A field that is present is given. -/
theorem demand_of_some {α : Type} {field : Option α} {value : α} (h : field = some value) :
    demand field = .ok value := by
  rw [h]
  rfl

/-- An outcome without an exception leaves the tables. -/
theorem lift_of_ok {α : Type} {x : Except Exn α} {value : α} (h : x = .ok value) (db : DeviceDb) :
    (lift x : DeviceServing α) db = .ok value db := by
  rw [h]
  rfl

/-- The tables with one device stored. -/
def storeDevice (deviceId : ℤ) (device : Device) (db : DeviceDb) : DeviceDb :=
  { db with devices := db.devices.set deviceId device }

/-- The device an accepted request creates. -/
theorem createDevice_of_creates {db : DeviceDb} {json : DeviceJson}
    {name deviceType app : String} {fields : List FieldJson} {api : List FieldApi}
    (h : Creates lib apis db json name deviceType app fields api) :
    ∃ description plaintext encrypted,
      finalState (createDevice lib apis json db) =
        storeDevice (OrderedDict.nextId db.devices)
          { name := name, type := deviceType, description := description,
            plaintextFields := plaintext, encryptedFields := encrypted, app := some app } db ∧
      storedNames plaintext = plaintextNames api fields ∧
      storedNames encrypted = encryptedNames api fields := by
  obtain ⟨values, hvalues, hvalidated⟩ := h.validated
  obtain ⟨_, hchecked⟩ := validatedApi_ok hvalues hvalidated
  obtain ⟨plaintext, encrypted, hfields, hplaintext, hencrypted⟩ :=
    constructFieldsFromJson_of_validated hchecked.valued hchecked.known h.storing
  refine ⟨json.description.getD "", plaintext, encrypted, ?_, hplaintext, hencrypted⟩
  have htaken : (db.devices.any fun row => row.2.app = some app ∧ row.2.name = name) = false := by
    rw [List.any_eq_false]
    intro row hrow htaken
    have hnew := List.any_eq_false.mp h.isNew row hrow
    exact hnew (decide_eq_true (of_decide_eq_true htaken).2)
  have hdevice : Device.fromJson { json with
      fields := some (addConfigurationKeysToDeviceJson fields api) } =
      .ok { name := name, type := deviceType, description := json.description.getD "",
            plaintextFields := plaintext, encryptedFields := encrypted, app := none } := by
    refine Except.bind_eq_ok.mpr ⟨_, rfl, Except.bind_eq_ok.mpr ⟨_, hfields, ?_⟩⟩
    exact Except.bind_eq_ok.mpr ⟨_, demand_of_some h.named,
      Except.bind_eq_ok.mpr ⟨_, demand_of_some h.ofType, rfl⟩⟩
  unfold createDevice
  rw [bind_of_ok (get_apply db), bind_of_ok (lift_of_ok (demand_of_some h.named) db), h.isNew]
  rw [if_neg Bool.false_ne_true, bind_of_ok (lift_of_ok (demand_of_some h.listed) db),
    bind_of_ok (lift_of_ok hvalues db), bind_of_ok (lift_of_ok (demand_of_some h.ofApp) db),
    bind_of_ok (lift_of_ok (demand_of_some h.ofType) db), hvalidated]
  dsimp only
  rw [if_neg (not_not.mpr h.appStored), bind_of_ok (lift_of_ok hdevice db)]
  dsimp only
  rw [htaken]
  rfl

/-- What is given was present. -/
theorem demand_eq_ok {α : Type} {field : Option α} {value : α} (h : demand field = .ok value) :
    field = some value := by
  cases field with
  | none => cases h
  | some other =>
    cases h
    rfl

/-- What follows a computation that may raise leaves the tables as they are. -/
theorem state_bind_lift {α β : Type} {x : Except Exn α} {f : α → DeviceServing β} {db : DeviceDb}
    (h : ∀ value, x = .ok value → finalState (f value db) = db) :
    finalState ((lift x >>= f) db) = db := by
  cases hx : x with
  | error e => rfl
  | ok value => exact h value hx

/-- A request to create a device that is not accepted stores nothing. -/
theorem createDevice_of_not_creates {db : DeviceDb} {json : DeviceJson}
    (h : ∀ name deviceType app fields api,
      ¬Creates lib apis db json name deviceType app fields api) :
    finalState (createDevice lib apis json db) = db := by
  unfold createDevice
  rw [bind_of_ok (get_apply db)]
  refine state_bind_lift fun name hname => ?_
  split
  · rfl
  rename_i hnew
  refine state_bind_lift fun fields hfields => ?_
  refine state_bind_lift fun values hvalues => ?_
  refine state_bind_lift fun app happ => ?_
  refine state_bind_lift fun deviceType htype => ?_
  cases hvalidated : validatedApi lib apis app deviceType (some values) true with
  | error e => exact answerException_state "create" app deviceType e db
  | ok api =>
    by_cases hstored : app ∈ db.apps
    · dsimp only
      rw [if_neg (not_not.mpr hstored)]
      refine state_bind_lift fun device hdevice => ?_
      obtain ⟨given, hgiven, hdevice⟩ := Except.bind_eq_ok.mp hdevice
      obtain ⟨relations, hrelations, -⟩ := Except.bind_eq_ok.mp hdevice
      rw [← Except.ok.inj hgiven] at hrelations
      exact absurd ⟨demand_eq_ok hname, Bool.eq_false_iff.mpr hnew, demand_eq_ok hfields,
        demand_eq_ok happ, demand_eq_ok htype, ⟨values, hvalues, hvalidated⟩, hstored,
        storing_of_constructFieldsFromJson hrelations⟩ (h name deviceType app fields api)
    · dsimp only
      rw [if_pos hstored]
      rfl

/-- What a request leaves of a device and puts in its place. -/
structure Updated (validated : List FieldApi) (completeObject : Bool) (json : DeviceJson)
    (device updated : Device) : Prop where
  ofType : updated.type = json.type.getD device.type
  ofApp : updated.app = device.app
  unlisted : json.fields = none → updated.plaintextFields = device.plaintextFields ∧
    updated.encryptedFields = device.encryptedFields
  listed : ∀ fields, json.fields = some fields →
    storedNames updated.plaintextFields =
        keptNames completeObject device.plaintextFields (plaintextNames validated fields) ++
          plaintextNames validated fields ∧
      storedNames updated.encryptedFields =
        keptNames completeObject device.encryptedFields (encryptedNames validated fields) ++
          encryptedNames validated fields

/-- Merged fields are those not updated and then the updated ones. -/
theorem storedNames_mergedFields (stored updated : List DeviceField) :
    storedNames (mergedFields stored updated) =
      (storedNames stored).filter (· ∉ storedNames updated) ++ storedNames updated := by
  unfold mergedFields storedNames
  rw [List.map_append, List.filter_map]
  rfl

/-- Updating a device from checked fields merges them by their kinds. -/
theorem updateFromJson_of_validated {api : List FieldApi} {json : DeviceJson}
    (completeObject : Bool) (device : Device)
    (hvalued : ∀ fields, json.fields = some fields → ∀ field ∈ fields, field.value.isSome)
    (hknown : ∀ fields, json.fields = some fields →
      ∀ field ∈ fields, (apiField api field.name).isSome)
    (hstoring : ∀ fields, json.fields = some fields → ∀ field ∈ fields, Storing field) :
    ∃ updated, device.updateFromJson { json with
        fields := json.fields.map (addConfigurationKeysToDeviceJson · api) } completeObject =
          .ok updated ∧
      Updated api completeObject json device updated := by
  cases hfields : json.fields with
  | none =>
    refine ⟨_, rfl, rfl, rfl, fun _ => ⟨rfl, rfl⟩, fun fields h => ?_⟩
    rw [hfields] at h
    cases h
  | some fields =>
    obtain ⟨plaintext, encrypted, hconstruct, hplaintext, hencrypted⟩ :=
      constructFieldsFromJson_of_validated (hvalued fields hfields) (hknown fields hfields)
        (hstoring fields hfields)
    cases completeObject with
    | true =>
      refine ⟨_, Except.bind_eq_ok.mpr ⟨_, hconstruct, rfl⟩, rfl, rfl, ?_, ?_⟩
      · intro h
        rw [hfields] at h
        cases h
      · intro others h
        obtain rfl : fields = others := Option.some.inj (hfields.symm.trans h)
        exact ⟨hplaintext, hencrypted⟩
    | false =>
      refine ⟨_, Except.bind_eq_ok.mpr ⟨_, hconstruct, rfl⟩, rfl, rfl, ?_, ?_⟩
      · intro h
        rw [hfields] at h
        cases h
      · intro others h
        obtain rfl : fields = others := Option.some.inj (hfields.symm.trans h)
        refine ⟨?_, ?_⟩
        · exact (storedNames_mergedFields _ plaintext).trans (by rw [hplaintext]; rfl)
        · exact (storedNames_mergedFields _ encrypted).trans (by rw [hencrypted]; rfl)

/-- The view of a PUT or a PATCH. -/
def serveUpdate (lib : Libraries) (apis : DeviceApis) (completeObject : Bool) (json : DeviceJson) :
    DeviceServing Response :=
  withDevice json fun deviceId device => updateDeviceBy lib apis deviceId device json completeObject

/-- An update that goes through has found the API and checked every value. -/
theorem Updates.checked {db : DeviceDb} {json : DeviceJson} {validateRequired : Bool}
    {deviceId : ℤ} {device : Device} {app : String} {api : List FieldApi}
    (h : Updates lib apis db json validateRequired deviceId device app api) :
    getAppDeviceApi apis app (json.type.getD device.type) = .ok api ∧
      ∀ fields, json.fields = some fields → Validated api validateRequired fields := by
  obtain ⟨values, hvalues, hvalidated⟩ := h.validated
  cases hfields : json.fields with
  | none =>
    rw [hfields] at hvalues
    cases hvalues
    obtain ⟨fieldsApi, hget, hpure⟩ := Except.bind_eq_ok.mp hvalidated
    cases hpure
    exact ⟨hget, fun fields h => by cases h⟩
  | some fields =>
    rw [hfields] at hvalues
    obtain ⟨given, hgiven, hpure⟩ := Except.bind_eq_ok.mp hvalues
    cases hpure
    obtain ⟨hget, hchecked⟩ := validatedApi_ok hgiven hvalidated
    refine ⟨hget, fun others h => ?_⟩
    obtain rfl : fields = others := Option.some.inj h
    exact hchecked

/-- What an accepted request to change a device stores. -/
theorem serveUpdate_of_updates {db : DeviceDb} {json : DeviceJson} {completeObject : Bool}
    {deviceId : ℤ} {device : Device} {app : String} {api : List FieldApi}
    (h : Updates lib apis db json completeObject deviceId device app api) :
    ∃ updated, finalState (serveUpdate lib apis completeObject json db) =
        storeDevice deviceId updated db ∧ Updated api completeObject json device updated := by
  obtain ⟨_, hchecked⟩ := h.checked
  obtain ⟨updated, hupdate, hupdated⟩ := updateFromJson_of_validated completeObject device
    (fun fields hfields => (hchecked fields hfields).valued)
    (fun fields hfields => (hchecked fields hfields).known) h.storing
  refine ⟨updated, ?_, hupdated⟩
  unfold serveUpdate withDevice
  rw [bind_of_ok (lift_of_ok (demand_of_some h.ofId) db), bind_of_ok (get_apply db),
    h.deviceStored]
  dsimp only
  unfold updateDeviceBy
  obtain ⟨values, hvalues, hvalidated⟩ := h.validated
  rw [bind_of_ok (lift_of_ok hvalues db), bind_of_ok (lift_of_ok (demand_of_some h.ofApp) db)]
  dsimp only
  rw [hvalidated]
  dsimp only
  rw [bind_of_ok (lift_of_ok hupdate db)]
  rfl

/-- A request to change a device that is not accepted leaves it. -/
theorem serveUpdate_of_not_updates {db : DeviceDb} {json : DeviceJson} {completeObject : Bool}
    (h : ∀ deviceId device app api,
      ¬Updates lib apis db json completeObject deviceId device app api) :
    finalState (serveUpdate lib apis completeObject json db) = db := by
  unfold serveUpdate withDevice
  refine state_bind_lift fun deviceId hid => ?_
  rw [bind_of_ok (get_apply db)]
  cases hdevice : db.devices.get? deviceId with
  | none => rfl
  | some device =>
    dsimp only
    unfold updateDeviceBy
    refine state_bind_lift fun values hvalues => ?_
    refine state_bind_lift fun app happ => ?_
    dsimp only
    cases hvalidated : validatedApi lib apis app (json.type.getD device.type) values
        completeObject with
    | error e => exact answerException_state "update" app _ e db
    | ok api =>
      dsimp only
      refine state_bind_lift fun updated hupdated => ?_
      refine absurd ⟨demand_eq_ok hid, hdevice, demand_eq_ok happ, ⟨values, hvalues, hvalidated⟩,
        fun fields hfields => ?_⟩ (h deviceId device app api)
      rw [hfields] at hupdated
      obtain ⟨changed, hchanged, -⟩ := Except.bind_eq_ok.mp hupdated
      exact storing_of_constructFieldsFromJson hchanged

end

/-! ## The requests that keep the devices conforming -/

section

variable (lib : Libraries) (apis : DeviceApis)

/-- One request is served. -/
def DeviceStep (db : DeviceDb) (request : DeviceRequest) (after : DeviceDb) : Prop :=
  after = finalState (serveDevice lib apis request db)

/-- When a change of a device that is accepted for an app and validated by an API of it keeps the
device conforming. Without fields, its type stays or its fields fit the API of the new type. With
fields, they are as they have to be; if the app of the request is not that of the device, or if
the type of a device changes that keeps fields, they and the kept ones have to make up a device of
the API of its app and new type. -/
def KeepsDevice (completeObject : Bool) (device : Device) (json : DeviceJson) (app : String)
    (api : List FieldApi) : Prop :=
  let deviceType := json.type.getD device.type
  match json.fields with
  | none => deviceType = device.type ∨ FitsType apis device deviceType
  | some fields =>
    if device.app = some app ∧ (completeObject = true ∨ deviceType = device.type) then
      Listed api completeObject fields
    else ∃ ownApp ownApi, device.app = some ownApp ∧
      getAppDeviceApi apis ownApp deviceType = .ok ownApi ∧
      Combined api ownApi
        (keptNames completeObject device.plaintextFields (plaintextNames api fields))
        (keptNames completeObject device.encryptedFields (encryptedNames api fields)) fields

/-- When a request keeps the devices conforming. -/
def KeepsConforming (db : DeviceDb) : DeviceRequest → Prop
  | .create json => ∀ name deviceType app fields api,
    Creates lib apis db json name deviceType app fields api → Listed api true fields
  | .update json => ∀ deviceId device app api,
    Updates lib apis db json true deviceId device app api → KeepsDevice apis true device json app api
  | .patch json => ∀ deviceId device app api,
    Updates lib apis db json false deviceId device app api →
      KeepsDevice apis false device json app api

variable {lib apis}

/-- Storing a device keeps the table conforming exactly if the device conforms. -/
theorem allConform_storeDevice {db : DeviceDb} (h : AllConform apis db) (deviceId : ℤ)
    (device : Device) : AllConform apis (storeDevice deviceId device db) ↔ Conforms apis device := by
  constructor
  · intro hall
    exact hall (deviceId, device) (OrderedDict.mem_of_get? (OrderedDict.get?_set_self _ _ _))
  · intro hdevice row hrow
    rcases OrderedDict.mem_set hrow with rfl | hmem
    · exact hdevice
    · exact h row hmem

/-- To fit the API of a type when that API is known. -/
theorem fitsType_iff {device : Device} {deviceType app : String} {api : List FieldApi}
    (happ : device.app = some app) (hget : getAppDeviceApi apis app deviceType = .ok api) :
    FitsType apis device deviceType ↔
      FitsApi api (storedNames device.plaintextFields) (storedNames device.encryptedFields) := by
  constructor
  · rintro ⟨other, otherApi, hother, hotherGet, hfits⟩
    obtain rfl : app = other := Option.some.inj (happ.symm.trans hother)
    obtain rfl : api = otherApi := Except.ok.inj (hget.symm.trans hotherGet)
    exact hfits
  · exact fun hfits => ⟨app, api, happ, hget, hfits⟩

/-- A created device conforms exactly if the API lists its fields. -/
theorem conforms_created_iff {db : DeviceDb} {json : DeviceJson} {name deviceType app : String}
    {fields : List FieldJson} {api : List FieldApi}
    (h : Creates lib apis db json name deviceType app fields api) {device : Device}
    (htype : device.type = deviceType) (happ : device.app = some app)
    (hplaintext : storedNames device.plaintextFields = plaintextNames api fields)
    (hencrypted : storedNames device.encryptedFields = encryptedNames api fields) :
    Conforms apis device ↔ Listed api true fields := by
  obtain ⟨values, hvalues, hvalidated⟩ := h.validated
  obtain ⟨hget, hchecked⟩ := validatedApi_ok hvalues hvalidated
  rw [Conforms, htype, fitsType_iff happ hget, hplaintext, hencrypted,
    ← combined_replacing_iff hchecked]
  exact fits_append_iff api api [] [] fields

/-- A device that was conforming conforms after a change exactly when the request keeps it so. -/
theorem conforms_updated_iff {db : DeviceDb} {json : DeviceJson} {completeObject : Bool}
    {deviceId : ℤ} {device updated : Device} {app : String} {api : List FieldApi}
    (h : Updates lib apis db json completeObject deviceId device app api)
    (hupdated : Updated api completeObject json device updated) (hconforms : Conforms apis device) :
    Conforms apis updated ↔ KeepsDevice apis completeObject device json app api := by
  obtain ⟨hget, hchecked⟩ := h.checked
  unfold Conforms KeepsDevice
  rw [hupdated.ofType]
  cases hfields : json.fields with
  | none =>
    obtain ⟨hplaintext, hencrypted⟩ := hupdated.unlisted hfields
    have hsame : FitsType apis updated (json.type.getD device.type) ↔
        FitsType apis device (json.type.getD device.type) := by
      unfold FitsType
      rw [hupdated.ofApp, hplaintext, hencrypted]
    rw [hsame]
    constructor
    · exact .inr
    · rintro (htype | hfits)
      · rw [htype]
        exact hconforms
      · exact hfits
  | some fields =>
    obtain ⟨hplaintext, hencrypted⟩ := hupdated.listed fields hfields
    have hvalidated := hchecked fields hfields
    have hgeneral : FitsType apis updated (json.type.getD device.type) ↔
        ∃ ownApp ownApi, device.app = some ownApp ∧
          getAppDeviceApi apis ownApp (json.type.getD device.type) = .ok ownApi ∧
          Combined api ownApi
            (keptNames completeObject device.plaintextFields (plaintextNames api fields))
            (keptNames completeObject device.encryptedFields (encryptedNames api fields))
            fields := by
      unfold FitsType
      rw [hupdated.ofApp, hplaintext, hencrypted]
      exact exists₂_congr fun _ _ => and_congr_right fun _ => and_congr_right fun _ =>
        fits_append_iff _ _ _ _ _
    dsimp only
    split
    · rename_i hown
      obtain ⟨happ, hkind⟩ := hown
      rw [fitsType_iff (hupdated.ofApp.trans happ) hget, hplaintext, hencrypted, fits_append_iff]
      cases completeObject with
      | true => exact combined_replacing_iff hvalidated
      | false =>
        have htype : json.type.getD device.type = device.type :=
          hkind.resolve_left Bool.false_ne_true
        rw [htype] at hget
        exact combined_merging_iff ((fitsType_iff happ hget).mp hconforms) hvalidated
    · exact hgeneral

/-- A request to update keeps the table conforming exactly if it keeps its device so. -/
theorem step_update_iff {db : DeviceDb} (hall : AllConform apis db) (completeObject : Bool)
    (json : DeviceJson) :
    AllConform apis (finalState (serveUpdate lib apis completeObject json db)) ↔
      ∀ deviceId device app api, Updates lib apis db json completeObject deviceId device app api →
        KeepsDevice apis completeObject device json app api := by
  by_cases h : ∃ deviceId device app api,
      Updates lib apis db json completeObject deviceId device app api
  · obtain ⟨deviceId, device, app, api, h⟩ := h
    obtain ⟨updated, hstate, hupdated⟩ := serveUpdate_of_updates h
    have hconforms : Conforms apis device := hall _ (OrderedDict.mem_of_get? h.deviceStored)
    rw [hstate, allConform_storeDevice hall, conforms_updated_iff h hupdated hconforms]
    constructor
    · intro hkeeps otherId other otherApp otherApi hother
      -- a request is accepted in one way only
      obtain rfl : deviceId = otherId := Option.some.inj (h.ofId.symm.trans hother.ofId)
      obtain rfl : device = other := Option.some.inj (h.deviceStored.symm.trans hother.deviceStored)
      obtain rfl : app = otherApp := Option.some.inj (h.ofApp.symm.trans hother.ofApp)
      obtain rfl : api = otherApi := Except.ok.inj (h.checked.1.symm.trans hother.checked.1)
      exact hkeeps
    · exact fun hkeeps => hkeeps deviceId device app api h
  · have hnone : ∀ deviceId device app api,
        ¬Updates lib apis db json completeObject deviceId device app api :=
      fun deviceId device app api hupdates => h ⟨deviceId, device, app, api, hupdates⟩
    rw [serveUpdate_of_not_updates hnone]
    exact ⟨fun _ deviceId device app api hupdates => absurd hupdates (hnone deviceId device app api),
      fun _ => hall⟩

/-- A request to create keeps the table conforming exactly if the API lists its fields. -/
theorem step_create_iff {db : DeviceDb} (hall : AllConform apis db) (json : DeviceJson) :
    AllConform apis (finalState (createDevice lib apis json db)) ↔
      ∀ name deviceType app fields api, Creates lib apis db json name deviceType app fields api →
        Listed api true fields := by
  by_cases h : ∃ name deviceType app fields api,
      Creates lib apis db json name deviceType app fields api
  · obtain ⟨name, deviceType, app, fields, api, h⟩ := h
    obtain ⟨description, plaintext, encrypted, hstate, hplaintext, hencrypted⟩ :=
      createDevice_of_creates h
    rw [hstate, allConform_storeDevice hall]
    rw [conforms_created_iff h rfl rfl hplaintext hencrypted]
    constructor
    · intro hlisted otherName otherType otherApp otherFields otherApi hother
      obtain ⟨values, hvalues, hvalidated⟩ := h.validated
      obtain ⟨otherValues, hotherValues, hotherValidated⟩ := hother.validated
      have hget := (validatedApi_ok hvalues hvalidated).1
      have hotherGet := (validatedApi_ok hotherValues hotherValidated).1
      obtain rfl : deviceType = otherType := Option.some.inj (h.ofType.symm.trans hother.ofType)
      obtain rfl : app = otherApp := Option.some.inj (h.ofApp.symm.trans hother.ofApp)
      obtain rfl : fields = otherFields := Option.some.inj (h.listed.symm.trans hother.listed)
      obtain rfl : api = otherApi := Except.ok.inj (hget.symm.trans hotherGet)
      exact hlisted
    · exact fun hlisted => hlisted name deviceType app fields api h
  · have hnone : ∀ name deviceType app fields api,
        ¬Creates lib apis db json name deviceType app fields api :=
      fun name deviceType app fields api hcreates =>
        h ⟨name, deviceType, app, fields, api, hcreates⟩
    rw [createDevice_of_not_creates hnone]
    exact ⟨fun _ name deviceType app fields api hcreates =>
      absurd hcreates (hnone name deviceType app fields api), fun _ => hall⟩

end

/-- **The devices conform to their APIs throughout a sequence of requests exactly when each of
the requests keeps them so.** -/
theorem conform_throughout_iff (lib : Libraries) (apis : DeviceApis) (apps : List String)
    (requests : List DeviceRequest) (db : DeviceDb) :
    Always (DeviceStep lib apis) (AllConform apis) { apps, devices := [] } requests db ↔
      Run (Guarded (DeviceStep lib apis) (KeepsConforming lib apis)) { apps, devices := [] }
        requests db := by
  refine @Run.always_iff DeviceDb DeviceRequest (DeviceStep lib apis) (AllConform apis)
    (fun _ => True) (KeepsConforming lib apis) (fun _ _ _ _ _ _ => trivial) ?_ _ _ _ trivial ?_
  · rintro db request after - hall rfl
    cases request with
    | create json => exact step_create_iff hall json
    | update json => exact step_update_iff hall true json
    | patch json => exact step_update_iff hall false json
  · intro row hrow
    exact absurd hrow List.not_mem_nil

/-! ## A default that is not stored -/

/-- A device type with a port that has a default. -/
def serverApis : DeviceApis :=
  [("Ssh", [("Server", [{ name := "port", type := "integer", default := some (.int 22)
                          required := none, encrypted := none
                          schema := .dict [("name", .str "port"), ("type", .str "integer"),
                            ("default", .int 22)] }])])]

/-- A request to create a server that leaves its port to the default. -/
def serverJson : DeviceJson where
  id := none
  name := some "Server1"
  appName := some "Ssh"
  type := some "Server"
  description := none
  fields := some []

/-- The request is successful, and the port is not stored. -/
theorem default_not_stored :
    ∃ db, createDevice idleLibraries serverApis serverJson { apps := ["Ssh"], devices := [] } =
        .ok (.success 201) db ∧ ¬AllConform serverApis db := by
  refine ⟨_, rfl, ?_⟩
  intro hall
  obtain ⟨app, api, happ, hget, hfits⟩ := hall _ List.mem_cons_self
  cases happ
  cases hget
  have honce := hfits.once _ List.mem_cons_self (.inr rfl)
  cases honce

end Walkoff.Analysis
