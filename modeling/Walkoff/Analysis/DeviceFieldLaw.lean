import Walkoff.Analysis.ConversionTotality
import Walkoff.Analysis.ParameterLaw
import Walkoff.Program.Devices

/-!
# The law of `validate_device_fields`

A request for a device is refused with an `InvalidArgument` when it names a field that the API
does not have, leaves out a required field, or has a value that its field does not take; the
others are returned with the defaults of the fields they leave out.

The code parts from this at three points: a field that the API does not have ends in a
`TypeError`, so do exceptions of the conversions and of the validator that are not caught in
another one, and the key `required` counts whatever its value when an empty text is to be let
through. `deviceFieldsLaw_iff` says when none of this shows.
-/

set_option autoImplicit false

namespace Walkoff.Analysis

open Walkoff.Library Walkoff.Model Walkoff.Program

/-! ## The law -/

/-- The default of a field that is not among the names, if it has one. -/
def missingDefault (names : List String) (fieldApi : FieldApi) : Option (String × PyVal) :=
  if fieldApi.name ∈ names then none
  else fieldApi.default.map fun value => (fieldApi.name, value)

/-- The submitted dictionary, extended by the defaults of the missing fields. -/
def withDefaults (api : List FieldApi) (fields : OrderedDict String PyVal) :
    OrderedDict String PyVal :=
  fields ++ api.filterMap (missingDefault fields.keys)

/-- The schema that the values of a field are validated by. -/
def constraints (fieldApi : FieldApi) (type : PrimitiveType) : PyVal :=
  let schema := (fieldApi.schema.withoutEntry "required").withoutEntry "encrypted"
  (if type = .user ∨ type = .role then handleUserRolesValidation schema else schema).withoutEntry
    "required"

section

variable (lib : Libraries)

/-- The value converts to the type of the field and conforms to its constraints. -/
def FieldFits (fieldApi : FieldApi) (value : PyVal) : Prop :=
  ∃ type w, PrimitiveType.ofName fieldApi.type = some type ∧ makeType lib value type = .ok w ∧
    lib.draft4 (constraints fieldApi type) w = .ok none

/-- A required field is neither submitted nor given a default. -/
def Unsupplied (api : List FieldApi) (fields : OrderedDict String PyVal) : Prop :=
  ∃ fieldApi ∈ api, fieldApi.required = some true ∧ fieldApi.name ∉ fields.keys ∧
    fieldApi.default = none

/-- A value is neither empty in a field that is not required nor one that the field takes. -/
def Unacceptable (api : List FieldApi) (items : OrderedDict String PyVal) : Prop :=
  ∃ item ∈ items, ∃ fieldApi ∈ api, fieldApi.name = item.1 ∧
    ¬(fieldApi.required ≠ some true ∧ isBlank item.2 = true) ∧ ¬FieldFits lib fieldApi item.2

/-- The law refuses the request. -/
def ToBeRefused (api : List FieldApi) (fields : OrderedDict String PyVal)
    (validateRequired : Bool) : Prop :=
  (∃ name ∈ fields.keys, name ∉ api.map FieldApi.name) ∨
    (validateRequired = true ∧ Unsupplied api fields) ∨
    Unacceptable lib api (withDefaults api fields)

/-- `validate_device_fields` keeps to the law. -/
def DeviceFieldsLaw (api : List FieldApi) (fields : OrderedDict String PyVal)
    (deviceType app : String) (validateRequired : Bool) : Prop :=
  (ToBeRefused lib api fields validateRequired → ∃ message errors,
      validateDeviceFields lib api fields deviceType app validateRequired =
        .error (.invalidArgument message errors)) ∧
    (¬ToBeRefused lib api fields validateRequired →
      validateDeviceFields lib api fields deviceType app validateRequired =
        .ok (withDefaults api fields))

/-! ## When the code keeps to it -/

/-- The value is let through: it is empty and the field says nothing of `required`, or it is one
that the field takes. -/
def LetThrough (fieldApi : FieldApi) (value : PyVal) : Prop :=
  (fieldApi.required = none ∧ isBlank value = true) ∨ FieldFits lib fieldApi value

/-- The conversion raises what is not taken for an invalid value. -/
def UncaughtConversion (value : PyVal) (type : PrimitiveType) : Prop :=
  ∃ e, makeType lib value type = .error e ∧ e ≠ .valueError ∧ e ≠ .typeError ∧
    ¬Exn.IsInvalidArgument e

/-- The validator raises instead of coming to a verdict. -/
def NoVerdict (fieldApi : FieldApi) (value : PyVal) (type : PrimitiveType) : Prop :=
  ∃ w e, makeType lib value type = .ok w ∧ lib.draft4 (constraints fieldApi type) w = .error e ∧
    ¬Exn.IsInvalidArgument e

/-- Checking the value ends in an exception that is not caught. -/
def Uncaught (fieldApi : FieldApi) (value : PyVal) : Prop :=
  ¬(fieldApi.required = none ∧ isBlank value = true) ∧
    ∃ type, PrimitiveType.ofName fieldApi.type = some type ∧
      (UncaughtConversion lib value type ∨ NoVerdict lib fieldApi value type)

/-- The API has the field and lets its value through. -/
def ItemLetThrough (api : List FieldApi) (item : String × PyVal) : Prop :=
  ∃ fieldApi ∈ api, fieldApi.name = item.1 ∧ LetThrough lib fieldApi item.2

/-- The API has the field, and checking its value ends in a refusal. -/
def Refusing (api : List FieldApi) (item : String × PyVal) : Prop :=
  ∃ fieldApi ∈ api, fieldApi.name = item.1 ∧ ¬LetThrough lib fieldApi item.2 ∧
    ¬Uncaught lib fieldApi item.2

/-- In the order of the dictionary, a value is refused before one comes that the API has no field
for or whose check raises what is not caught. -/
def RefusedInTime (api : List FieldApi) : OrderedDict String PyVal → Prop
  | [] => True
  | item :: items => Refusing lib api item ∨ ItemLetThrough lib api item ∧ RefusedInTime api items

/-- An empty value of a field with `required: false` that the field does not take. -/
def EmptyOptional (api : List FieldApi) (items : OrderedDict String PyVal) : Prop :=
  ∃ item ∈ items, ∃ fieldApi ∈ api, fieldApi.name = item.1 ∧ fieldApi.required = some false ∧
    isBlank item.2 = true ∧ ¬FieldFits lib fieldApi item.2

/-- When `validate_device_fields` keeps to the law. -/
def KeepsFieldsLaw (api : List FieldApi) (fields : OrderedDict String PyVal)
    (validateRequired : Bool) : Prop :=
  (validateRequired = true ∧ Unsupplied api fields) ∨
    RefusedInTime lib api (withDefaults api fields) ∧
      (EmptyOptional lib api (withDefaults api fields) →
        ToBeRefused lib api fields validateRequired)

end

/-! ## The defaults -/

section

variable {api : List FieldApi} {fields : OrderedDict String PyVal}

/-- Filling in a default adds it at the end, if it is missing. -/
theorem fillDefault_eq (fieldApi : FieldApi) :
    fillDefault fields fieldApi = fields ++ (missingDefault fields.keys fieldApi).toList := by
  unfold fillDefault missingDefault
  by_cases h : fieldApi.name ∈ fields.keys
  · rw [if_pos h]
    cases fieldApi.default with
    | none => exact (List.append_nil fields).symm
    | some default => exact (if_pos h).trans (List.append_nil fields).symm
  · rw [if_neg h]
    cases fieldApi.default with
    | none => exact (List.append_nil fields).symm
    | some default => exact (if_neg h).trans (OrderedDict.set_of_not_mem h default)

/-- A missing default is that of its field, which has no value yet. -/
theorem fst_of_missingDefault {names : List String} {fieldApi : FieldApi} {item : String × PyVal}
    (h : missingDefault names fieldApi = some item) :
    item.1 = fieldApi.name ∧ fieldApi.name ∉ names ∧ fieldApi.default = some item.2 := by
  unfold missingDefault at h
  split at h
  · cases h
  · rename_i hname
    obtain ⟨value, hvalue, rfl⟩ := Option.map_eq_some_iff.mp h
    exact ⟨rfl, hname, hvalue⟩

/-- Other fields in between make no difference to a missing default. -/
theorem missingDefault_append {names added : List String} {fieldApi : FieldApi}
    (h : fieldApi.name ∉ added) :
    missingDefault (names ++ added) fieldApi = missingDefault names fieldApi := by
  unfold missingDefault
  by_cases hname : fieldApi.name ∈ names
  · rw [if_pos hname, if_pos (List.mem_append_left _ hname)]
  · rw [if_neg hname, if_neg (by simp [hname, h])]

/-- The loop over the API adds the defaults of the missing fields in their order. -/
theorem foldl_fillDefault (hnames : (api.map FieldApi.name).Nodup) :
    api.foldl fillDefault fields = withDefaults api fields := by
  induction api generalizing fields with
  | nil => exact (List.append_nil fields).symm
  | cons fieldApi api ih =>
    rw [List.map_cons, List.nodup_cons] at hnames
    have hrest : ∀ other ∈ api,
        missingDefault (fillDefault fields fieldApi).keys other =
          missingDefault fields.keys other := by
      intro other hother
      rw [fillDefault_eq]
      unfold OrderedDict.keys
      rw [List.map_append]
      refine missingDefault_append fun hin => ?_
      obtain ⟨item, hitem, hname⟩ := List.mem_map.mp hin
      obtain ⟨hfst, -⟩ := fst_of_missingDefault (Option.mem_toList.mp hitem)
      exact hnames.1 (List.mem_map.mpr ⟨other, hother, hname.symm.trans hfst⟩)
    rw [List.foldl_cons, ih hnames.2]
    unfold withDefaults
    rw [List.filterMap_congr hrest, fillDefault_eq, List.append_assoc]
    congr 1
    rw [List.filterMap_cons]
    cases missingDefault fields.keys fieldApi with
    | none => rfl
    | some item => rfl

/-- With the defaults come the names of the fields that have one. -/
theorem mem_keys_withDefaults (name : String) :
    name ∈ (withDefaults api fields).keys ↔
      name ∈ fields.keys ∨ ∃ fieldApi ∈ api, fieldApi.name = name ∧ fieldApi.default ≠ none := by
  unfold withDefaults OrderedDict.keys
  rw [List.map_append, List.mem_append]
  constructor
  · rintro (hfields | hdefaults)
    · exact .inl hfields
    · obtain ⟨item, hitem, rfl⟩ := List.mem_map.mp hdefaults
      obtain ⟨fieldApi, hapi, hsome⟩ := List.mem_filterMap.mp hitem
      obtain ⟨hfst, -, hdefault⟩ := fst_of_missingDefault hsome
      exact .inr ⟨fieldApi, hapi, hfst.symm, by simp [hdefault]⟩
  · rintro (hfields | ⟨fieldApi, hapi, rfl, hdefault⟩)
    · exact .inl hfields
    · by_cases hmem : fieldApi.name ∈ fields.map Prod.fst
      · exact .inl hmem
      · obtain ⟨value, hvalue⟩ := Option.ne_none_iff_exists'.mp hdefault
        refine .inr (List.mem_map.mpr ⟨(fieldApi.name, value), ?_, rfl⟩)
        refine List.mem_filterMap.mpr ⟨fieldApi, hapi, ?_⟩
        unfold missingDefault
        rw [if_neg hmem, hvalue]
        rfl

/-- Under distinct names, fields of one name are one field. -/
theorem eq_of_fieldName (hnames : (api.map FieldApi.name).Nodup) {fieldApi other : FieldApi}
    (hapi : fieldApi ∈ api) (hother : other ∈ api) (hname : fieldApi.name = other.name) :
    fieldApi = other :=
  List.inj_on_of_nodup_map hnames hapi hother hname

/-- The names that are left out after the defaults are those of the law. -/
theorem missing_iff (hnames : (api.map FieldApi.name).Nodup) :
    ((requiredInApi api).filter (· ∉ (withDefaults api fields).keys)).isEmpty = false ↔
      Unsupplied api fields := by
  rw [List.isEmpty_eq_false_iff_exists_mem]
  constructor
  · rintro ⟨name, hname⟩
    obtain ⟨hrequired, hmissing⟩ := List.mem_filter.mp hname
    obtain ⟨fieldApi, hfilter, rfl⟩ := List.mem_map.mp hrequired
    obtain ⟨hapi, htrue⟩ := List.mem_filter.mp hfilter
    have hnot : fieldApi.name ∉ (withDefaults api fields).keys := by simpa using hmissing
    rw [mem_keys_withDefaults, not_or] at hnot
    refine ⟨fieldApi, hapi, by simpa using htrue, hnot.1, ?_⟩
    by_contra hdefault
    exact hnot.2 ⟨fieldApi, hapi, rfl, hdefault⟩
  · rintro ⟨fieldApi, hapi, htrue, hname, hdefault⟩
    refine ⟨fieldApi.name, List.mem_filter.mpr ⟨?_, ?_⟩⟩
    · exact List.mem_map_of_mem (List.mem_filter.mpr ⟨hapi, by simpa using htrue⟩)
    · have hnot : fieldApi.name ∉ (withDefaults api fields).keys := by
        rw [mem_keys_withDefaults]
        rintro (hfields | ⟨other, hother, hsame, hsome⟩)
        · exact hname hfields
        · rw [eq_of_fieldName hnames hother hapi hsame] at hsome
          exact hsome hdefault
      simpa using hnot

/-- The dictionary of an API finds a field by its name. -/
theorem get?_deviceFieldsApiDict (hnames : (api.map FieldApi.name).Nodup) {name : String}
    {fieldApi : FieldApi} :
    OrderedDict.get? name (deviceFieldsApiDict api) = some fieldApi ↔
      fieldApi ∈ api ∧ fieldApi.name = name := by
  have hitems : deviceFieldsApiDict api = api.map fun field => (field.name, field) := by
    unfold deviceFieldsApiDict
    rw [OrderedDict.update_of_nodup (by simpa [OrderedDict.keys, Function.comp_def] using hnames)]
    exact List.nil_append _
  constructor
  · intro h
    have hmem := OrderedDict.mem_of_get? h
    rw [hitems] at hmem
    obtain ⟨field, hfield, heq⟩ := List.mem_map.mp hmem
    cases heq
    exact ⟨hfield, rfl⟩
  · rintro ⟨hapi, rfl⟩
    cases hget : OrderedDict.get? fieldApi.name (deviceFieldsApiDict api) with
    | none =>
      rw [OrderedDict.get?_eq_none_iff, hitems] at hget
      refine absurd ?_ hget
      unfold OrderedDict.keys
      rw [List.map_map]
      exact List.mem_map_of_mem hapi
    | some other =>
      have hmem := OrderedDict.mem_of_get? hget
      rw [hitems] at hmem
      obtain ⟨field, hfield, heq⟩ := List.mem_map.mp hmem
      obtain ⟨hname, rfl⟩ := Prod.mk.inj heq
      rw [eq_of_fieldName hnames hfield hapi hname]

end

/-! ## One field -/

section

variable {lib : Libraries} {fieldApi : FieldApi} {value : PyVal} (messagePrefix : String)

/-- A value that is not simply let through is checked as one of the type of the field. -/
theorem validateDeviceField_typed (h : ¬(fieldApi.required = none ∧ isBlank value = true))
    {type : PrimitiveType} (htype : PrimitiveType.ofName fieldApi.type = some type) :
    validateDeviceField lib fieldApi value messagePrefix =
      (validatePrimitiveParameter lib value
        ((fieldApi.schema.withoutEntry "required").withoutEntry "encrypted") type fieldApi.type
        messagePrefix fieldApi.encrypted.isSome).bind fun _ => .ok () := by
  unfold validateDeviceField
  rw [if_neg (by simpa using h), htype]
  rfl

/-- A value of a field of no primitive type cannot be converted. -/
theorem validateDeviceField_untyped (h : ¬(fieldApi.required = none ∧ isBlank value = true))
    (htype : PrimitiveType.ofName fieldApi.type = none) :
    validateDeviceField lib fieldApi value messagePrefix =
      .error (unconvertible messagePrefix value fieldApi.type) := by
  unfold validateDeviceField
  rw [if_neg (by simpa using h), htype]
  rfl

/-- A value that is let through passes its check. -/
theorem validateDeviceField_letThrough (h : LetThrough lib fieldApi value) :
    validateDeviceField lib fieldApi value messagePrefix = .ok () := by
  by_cases hblank : fieldApi.required = none ∧ isBlank value = true
  · unfold validateDeviceField
    rw [if_pos (by simpa using hblank)]
    rfl
  · obtain ⟨type, w, htype, hmake, hconforms⟩ := h.resolve_left hblank
    rw [validateDeviceField_typed messagePrefix hblank htype]
    unfold validatePrimitiveParameter
    rw [hmake]
    dsimp only
    unfold constraints at hconforms
    rw [hconforms]
    rfl

/-- A value that is not let through is refused or ends in an exception that is not caught. -/
theorem validateDeviceField_error (h : ¬LetThrough lib fieldApi value) :
    ∃ e, validateDeviceField lib fieldApi value messagePrefix = .error e ∧
      (Exn.IsInvalidArgument e ↔ ¬Uncaught lib fieldApi value) := by
  obtain ⟨hblank, hfits⟩ := not_or.mp h
  cases htype : PrimitiveType.ofName fieldApi.type with
  | none =>
    rw [validateDeviceField_untyped messagePrefix hblank htype]
    refine ⟨_, rfl, iff_of_true trivial ?_⟩
    rintro ⟨-, type, hsome, -⟩
    cases htype.symm.trans hsome
  | some type =>
    have huncaught : Uncaught lib fieldApi value ↔
        UncaughtConversion lib value type ∨ NoVerdict lib fieldApi value type := by
      constructor
      · rintro ⟨-, other, hother, hraises⟩
        cases htype.symm.trans hother
        exact hraises
      · exact fun hraises => ⟨hblank, type, htype, hraises⟩
    rw [huncaught, validateDeviceField_typed messagePrefix hblank htype]
    unfold validatePrimitiveParameter
    cases hmake : makeType lib value type with
    | error e =>
      have hverdict : ¬NoVerdict lib fieldApi value type := by
        rintro ⟨w, -, hok, -⟩
        cases hmake.symm.trans hok
      have hconversion : UncaughtConversion lib value type ↔
          e ≠ .valueError ∧ e ≠ .typeError ∧ ¬Exn.IsInvalidArgument e := by
        constructor
        · rintro ⟨other, hother, hraises⟩
          cases hmake.symm.trans hother
          exact hraises
        · exact fun hraises => ⟨e, hmake, hraises⟩
      rw [or_iff_left hverdict, hconversion]
      cases e with
      | valueError => exact ⟨_, rfl, by simp [unconvertible, Exn.IsInvalidArgument]⟩
      | typeError => exact ⟨_, rfl, by simp [unconvertible, Exn.IsInvalidArgument]⟩
      | invalidArgument message errors =>
        exact ⟨_, rfl, by simp [Exn.IsInvalidArgument]⟩
      | _ => exact ⟨_, rfl, by simp [Exn.IsInvalidArgument]⟩
    | ok w =>
      have hconversion : ¬UncaughtConversion lib value type := by
        rintro ⟨e, herror, -⟩
        cases hmake.symm.trans herror
      rw [or_iff_right hconversion]
      dsimp only
      cases hdraft : lib.draft4 (constraints fieldApi type) w with
      | error e =>
        have hverdict : NoVerdict lib fieldApi value type ↔ ¬Exn.IsInvalidArgument e := by
          constructor
          · rintro ⟨w', e', hok, herror, hraises⟩
            cases hmake.symm.trans hok
            cases hdraft.symm.trans herror
            exact hraises
          · exact fun hraises => ⟨w, e, hmake, hdraft, hraises⟩
        unfold constraints at hdraft
        rw [hdraft, hverdict]
        exact ⟨e, rfl, not_not.symm⟩
      | ok verdict =>
        have hverdict : ¬NoVerdict lib fieldApi value type := by
          rintro ⟨w', e', hok, herror, -⟩
          cases hmake.symm.trans hok
          cases hdraft.symm.trans herror
        cases verdict with
        | none => exact absurd ⟨type, w, htype, hmake, hdraft⟩ hfits
        | some exception =>
          unfold constraints at hdraft
          rw [hdraft]
          exact ⟨_, rfl, iff_of_true trivial hverdict⟩

end

/-! ## The loop -/

/-- One turn of the loop over the dictionary. -/
def checkItem (lib : Libraries) (api : List FieldApi) (messagePrefix : String)
    (item : String × PyVal) : Except Exn Unit :=
  match OrderedDict.get? item.1 (deviceFieldsApiDict api) with
  | some fieldApi => validateDeviceField lib fieldApi item.2 messagePrefix
  | none => .error .typeError

section

variable {lib : Libraries} {api : List FieldApi} (messagePrefix : String)

/-- The check of an item is that of the field of its name. -/
theorem checkItem_of_mem (hnames : (api.map FieldApi.name).Nodup) {fieldApi : FieldApi}
    (hapi : fieldApi ∈ api) (value : PyVal) :
    checkItem lib api messagePrefix (fieldApi.name, value) =
      validateDeviceField lib fieldApi value messagePrefix := by
  unfold checkItem
  rw [(get?_deviceFieldsApiDict hnames).mpr ⟨hapi, rfl⟩]

/-- An item that is let through passes its check. -/
theorem checkItem_of_letThrough (hnames : (api.map FieldApi.name).Nodup) {item : String × PyVal}
    (h : ItemLetThrough lib api item) : checkItem lib api messagePrefix item = .ok () := by
  obtain ⟨name, value⟩ := item
  obtain ⟨fieldApi, hapi, rfl, hthrough⟩ := h
  rw [checkItem_of_mem messagePrefix hnames hapi]
  exact validateDeviceField_letThrough messagePrefix hthrough

/-- An item that is let through is not refused. -/
theorem not_refusing_of_letThrough (hnames : (api.map FieldApi.name).Nodup) {item : String × PyVal}
    (h : ItemLetThrough lib api item) : ¬Refusing lib api item := by
  obtain ⟨fieldApi, hapi, hname, hthrough⟩ := h
  rintro ⟨other, hother, hsame, hnot, -⟩
  rw [eq_of_fieldName hnames hother hapi (hsame.trans hname.symm)] at hnot
  exact hnot hthrough

/-- An item that is not let through raises, `InvalidArgument` exactly if it is refused. -/
theorem checkItem_error (hnames : (api.map FieldApi.name).Nodup) {item : String × PyVal}
    (h : ¬ItemLetThrough lib api item) :
    ∃ e, checkItem lib api messagePrefix item = .error e ∧
      (Exn.IsInvalidArgument e ↔ Refusing lib api item) := by
  obtain ⟨name, value⟩ := item
  by_cases hknown : ∃ fieldApi ∈ api, fieldApi.name = name
  · obtain ⟨fieldApi, hapi, rfl⟩ := hknown
    have hnot : ¬LetThrough lib fieldApi value := fun hthrough =>
      h ⟨fieldApi, hapi, rfl, hthrough⟩
    obtain ⟨e, he, hinvalid⟩ := validateDeviceField_error messagePrefix hnot
    refine ⟨e, (checkItem_of_mem messagePrefix hnames hapi value).trans he, hinvalid.trans ?_⟩
    constructor
    · exact fun hcaught => ⟨fieldApi, hapi, rfl, hnot, hcaught⟩
    · rintro ⟨other, hother, hsame, -, hcaught⟩
      rwa [eq_of_fieldName hnames hother hapi hsame] at hcaught
  · refine ⟨.typeError, ?_, iff_of_false id ?_⟩
    · unfold checkItem
      cases hget : OrderedDict.get? name (deviceFieldsApiDict api) with
      | none => rfl
      | some fieldApi => exact absurd ⟨fieldApi, (get?_deviceFieldsApiDict hnames).mp hget⟩ hknown
    · rintro ⟨fieldApi, hapi, hname, -⟩
      exact hknown ⟨fieldApi, hapi, hname⟩

variable {items : OrderedDict String PyVal}

/-- The items are checked one after another. -/
theorem forM_checkItem_cons (item : String × PyVal) :
    (item :: items).forM (checkItem lib api messagePrefix) =
      (checkItem lib api messagePrefix item).bind fun _ =>
        items.forM (checkItem lib api messagePrefix) :=
  rfl

/-- Items that are all let through pass the check. -/
theorem forM_checkItem_ok (hnames : (api.map FieldApi.name).Nodup)
    (h : ∀ item ∈ items, ItemLetThrough lib api item) :
    items.forM (checkItem lib api messagePrefix) = .ok () := by
  induction items with
  | nil => rfl
  | cons item items ih =>
    rw [forM_checkItem_cons,
      checkItem_of_letThrough messagePrefix hnames (h item List.mem_cons_self)]
    exact ih fun other hother => h other (List.mem_cons_of_mem _ hother)

/-- The loop raises at the first item that is not let through. -/
theorem forM_checkItem_error (hnames : (api.map FieldApi.name).Nodup)
    (h : ¬∀ item ∈ items, ItemLetThrough lib api item) :
    ∃ e, items.forM (checkItem lib api messagePrefix) = .error e ∧
      (Exn.IsInvalidArgument e ↔ RefusedInTime lib api items) := by
  induction items with
  | nil => exact absurd (fun _ hmem => absurd hmem List.not_mem_nil) h
  | cons item items ih =>
    rw [forM_checkItem_cons]
    unfold RefusedInTime
    by_cases hitem : ItemLetThrough lib api item
    · rw [checkItem_of_letThrough messagePrefix hnames hitem,
        or_iff_right (not_refusing_of_letThrough hnames hitem), and_iff_right hitem]
      refine ih fun hall => h ?_
      rintro other (_ | ⟨_, hother⟩)
      · exact hitem
      · exact hall other hother
    · obtain ⟨e, he, hinvalid⟩ := checkItem_error messagePrefix hnames hitem
      refine ⟨e, ?_, hinvalid.trans ?_⟩
      · rw [he]
        rfl
      · rw [or_iff_left fun hin => hitem hin.1]

/-- Where all is let through, nothing comes too early. -/
theorem refusedInTime_of_letThrough (h : ∀ item ∈ items, ItemLetThrough lib api item) :
    RefusedInTime lib api items := by
  induction items with
  | nil => trivial
  | cons item items ih =>
    exact .inr ⟨h item List.mem_cons_self,
      ih fun other hother => h other (List.mem_cons_of_mem _ hother)⟩

/-- Where not all is let through but refused in time, something is refused. -/
theorem exists_refusing (hrefused : RefusedInTime lib api items)
    (h : ¬∀ item ∈ items, ItemLetThrough lib api item) : ∃ item ∈ items, Refusing lib api item := by
  induction items with
  | nil => exact absurd (fun _ hmem => absurd hmem List.not_mem_nil) h
  | cons item items ih =>
    rcases hrefused with hitem | ⟨hitem, hrest⟩
    · exact ⟨item, List.mem_cons_self, hitem⟩
    · have hnot : ¬∀ other ∈ items, ItemLetThrough lib api other := by
        intro hall
        apply h
        rintro other (_ | ⟨_, hother⟩)
        · exact hitem
        · exact hall other hother
      obtain ⟨other, hother, hrefusing⟩ := ih hrest hnot
      exact ⟨other, List.mem_cons_of_mem _ hother, hrefusing⟩

end

/-! ## The whole check -/

section

variable {lib : Libraries} {api : List FieldApi} {fields : OrderedDict String PyVal}
  (deviceType app : String) {validateRequired : Bool}

/-- A required field without a value is refused with `InvalidArgument`. -/
theorem validateDeviceFields_unsupplied (hnames : (api.map FieldApi.name).Nodup)
    (h : validateRequired = true ∧ Unsupplied api fields) :
    ∃ message errors, validateDeviceFields lib api fields deviceType app validateRequired =
      .error (.invalidArgument message errors) := by
  have hmissing := (missing_iff hnames).mpr h.2
  unfold validateDeviceFields
  dsimp only
  rw [foldl_fillDefault hnames, hmissing, h.1]
  exact ⟨_, _, rfl⟩

/-- Where the required fields have values, the items with the defaults are checked. -/
theorem validateDeviceFields_supplied (hnames : (api.map FieldApi.name).Nodup)
    (h : ¬(validateRequired = true ∧ Unsupplied api fields)) :
    validateDeviceFields lib api fields deviceType app validateRequired =
      ((withDefaults api fields).forM (checkItem lib api
        ("Device type " ++ deviceType ++ " for app " ++ app))).bind fun _ =>
          .ok (withDefaults api fields) := by
  unfold validateDeviceFields
  dsimp only
  rw [foldl_fillDefault hnames]
  have hgoes : (validateRequired && !((requiredInApi api).filter
      (· ∉ (withDefaults api fields).keys)).isEmpty) = false := by
    rw [Bool.and_eq_false_iff]
    by_cases hrequired : validateRequired = true
    · have hsupplied : ¬Unsupplied api fields := fun hmissing => h ⟨hrequired, hmissing⟩
      rw [← missing_iff hnames, Bool.not_eq_false] at hsupplied
      exact .inr (by rw [hsupplied]; rfl)
    · exact .inl (Bool.eq_false_of_not_eq_true hrequired)
  rw [hgoes]
  rfl

/-- A request whose items are all let through is not one to be refused. -/
theorem not_toBeRefused_of_letThrough (hnames : (api.map FieldApi.name).Nodup)
    (hsupplied : ¬(validateRequired = true ∧ Unsupplied api fields))
    (h : ∀ item ∈ withDefaults api fields, ItemLetThrough lib api item) :
    ¬ToBeRefused lib api fields validateRequired := by
  rintro (⟨name, hname, hunknown⟩ | hmissing | ⟨item, hitem, fieldApi, hapi, hname, hempty, hfits⟩)
  · obtain ⟨item, hitem, rfl⟩ := List.mem_map.mp hname
    obtain ⟨fieldApi, hapi, hsame, -⟩ := h item (List.mem_append_left _ hitem)
    exact hunknown (List.mem_map.mpr ⟨fieldApi, hapi, hsame⟩)
  · exact hsupplied hmissing
  · obtain ⟨other, hother, hsame, hthrough⟩ := h item hitem
    rw [eq_of_fieldName hnames hother hapi (hsame.trans hname.symm)] at hthrough
    rcases hthrough with ⟨hnone, hblank⟩ | hfit
    · exact hempty ⟨by simp [hnone], hblank⟩
    · exact hfits hfit

/-- Items that are all let through have no empty value in a field that refuses it. -/
theorem not_emptyOptional_of_letThrough (hnames : (api.map FieldApi.name).Nodup)
    {items : OrderedDict String PyVal} (h : ∀ item ∈ items, ItemLetThrough lib api item) :
    ¬EmptyOptional lib api items := by
  rintro ⟨item, hitem, fieldApi, hapi, hname, hfalse, -, hfits⟩
  obtain ⟨other, hother, hsame, hthrough⟩ := h item hitem
  rw [eq_of_fieldName hnames hother hapi (hsame.trans hname.symm)] at hthrough
  rcases hthrough with ⟨hnone, -⟩ | hfit
  · cases hfalse.symm.trans hnone
  · exact hfits hfit

/-- A value that is refused is one that the law refuses, or an empty one of an optional field. -/
theorem unacceptable_or_emptyOptional {items : OrderedDict String PyVal}
    {item : String × PyVal} (hitem : item ∈ items) (h : Refusing lib api item) :
    Unacceptable lib api items ∨ EmptyOptional lib api items := by
  obtain ⟨fieldApi, hapi, hname, hnot, -⟩ := h
  obtain ⟨hthrough, hfits⟩ := not_or.mp hnot
  by_cases hempty : fieldApi.required ≠ some true ∧ isBlank item.2 = true
  · refine .inr ⟨item, hitem, fieldApi, hapi, hname, ?_, hempty.2, hfits⟩
    cases hrequired : fieldApi.required with
    | none => exact absurd ⟨hrequired, hempty.2⟩ hthrough
    | some required =>
      cases required with
      | true => exact absurd hrequired hempty.1
      | false => rfl
  · exact .inl ⟨item, hitem, fieldApi, hapi, hname, hempty, hfits⟩

end

/-- **`validate_device_fields` keeps to the law exactly when** a required field is left out, or a
value is refused before one comes whose name or check ends in another exception, and no empty
value of a field with `required: false` is all there is to refuse. -/
theorem deviceFieldsLaw_iff (lib : Libraries) (api : List FieldApi)
    (hnames : (api.map FieldApi.name).Nodup) (fields : OrderedDict String PyVal)
    (deviceType app : String) (validateRequired : Bool) :
    DeviceFieldsLaw lib api fields deviceType app validateRequired ↔
      KeepsFieldsLaw lib api fields validateRequired := by
  by_cases hmissing : validateRequired = true ∧ Unsupplied api fields
  · refine iff_of_true ⟨fun _ => validateDeviceFields_unsupplied deviceType app hnames hmissing,
      fun hnot => absurd (.inr (.inl hmissing)) hnot⟩ (.inl hmissing)
  have hresult : validateDeviceFields lib api fields deviceType app validateRequired = _ :=
    validateDeviceFields_supplied deviceType app hnames hmissing
  have hkeeps : KeepsFieldsLaw lib api fields validateRequired ↔
      RefusedInTime lib api (withDefaults api fields) ∧
        (EmptyOptional lib api (withDefaults api fields) →
          ToBeRefused lib api fields validateRequired) := or_iff_right hmissing
  rw [hkeeps]
  by_cases hall : ∀ item ∈ withDefaults api fields, ItemLetThrough lib api item
  · rw [forM_checkItem_ok _ hnames hall] at hresult
    have hnot := not_toBeRefused_of_letThrough hnames hmissing hall
    exact iff_of_true ⟨fun hrefused => absurd hrefused hnot, fun _ => hresult⟩
      ⟨refusedInTime_of_letThrough hall,
        fun hempty => absurd hempty (not_emptyOptional_of_letThrough hnames hall)⟩
  · obtain ⟨e, he, hinvalid⟩ := forM_checkItem_error
      ("Device type " ++ deviceType ++ " for app " ++ app) hnames hall
    rw [he] at hresult
    constructor
    · rintro ⟨hrefused, hreturned⟩
      by_cases hlaw : ToBeRefused lib api fields validateRequired
      · obtain ⟨message, errors, herror⟩ := hrefused hlaw
        cases hresult.symm.trans herror
        exact ⟨hinvalid.mp trivial, fun _ => hlaw⟩
      · cases hresult.symm.trans (hreturned hlaw)
    · rintro ⟨hintime, hempty⟩
      have hlaw : ToBeRefused lib api fields validateRequired := by
        obtain ⟨item, hitem, hrefusing⟩ := exists_refusing hintime hall
        rcases unacceptable_or_emptyOptional hitem hrefusing with hvalue | hblank
        · exact .inr (.inr hvalue)
        · exact hempty hblank
      refine ⟨fun _ => ?_, fun hnot => absurd hlaw hnot⟩
      have hargument := hinvalid.mpr hintime
      cases e with
      | invalidArgument message errors => exact ⟨message, errors, hresult⟩
      | _ => exact hargument.elim

/-- The API of a device with a port. -/
def portApi : List FieldApi :=
  [{ name := "port", type := "integer", default := none, required := some true, encrypted := none
     schema := .dict [("name", .str "port"), ("type", .str "integer"), ("required", .bool true)] }]

/-- A port that is submitted as a number is accepted. -/
theorem deviceFieldsLaw_iff_port :
    DeviceFieldsLaw integerLibraries portApi [("port", .int 8080)] "Router" "Net" true := by
  refine (deviceFieldsLaw_iff integerLibraries portApi (by decide) _ "Router" "Net" true).mpr
    (.inr ⟨.inr ⟨?_, trivial⟩, ?_⟩)
  · exact ⟨_, List.mem_cons_self, rfl, .inr ⟨.integer, .int 8080, rfl, rfl, rfl⟩⟩
  · rintro ⟨item, hitem, fieldApi, -, -, -, hblank, -⟩
    cases List.mem_singleton.mp hitem
    cases hblank

/-- A field that the API does not have ends in a `TypeError`. -/
theorem unknown_field_not_refused :
    ¬DeviceFieldsLaw integerLibraries portApi [("port", .int 8080), ("ssl", .bool true)] "Router"
      "Net" true := by
  rintro ⟨hrefused, -⟩
  have hlaw : ToBeRefused integerLibraries portApi [("port", .int 8080), ("ssl", .bool true)]
      true := .inl ⟨"ssl", by decide, by decide⟩
  obtain ⟨message, errors, herror⟩ := hrefused hlaw
  cases herror

end Walkoff.Analysis
