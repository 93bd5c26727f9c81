import Walkoff.Analysis.DeviceConformance
import Walkoff.Analysis.StoredDeviceValues
import Walkoff.Library.Relational
import Walkoff.Program.DeviceEndpoints

/-!
# Secrets of devices

Two clients send requests to the device endpoints that differ in the values of encrypted fields
only, and in none that is accepted in the one case and refused in the other. Then they get the
same answers: what is stored differs in the encrypted values only, and no view writes one of
these.
-/

set_option autoImplicit false

namespace Walkoff.Analysis

open Walkoff.Library Walkoff.Model Walkoff.Program

/-! ## What may differ -/

/-- An exception without its message. -/
def withoutMessage : Exn → Exn
  | .invalidArgument _ _ => .invalidArgument "" []
  | e => e

/-- Exceptions that the endpoints answer alike. -/
def SameKind (e e' : Exn) : Prop :=
  withoutMessage e = withoutMessage e'

/-- Only of an invalid argument the message may differ. -/
theorem SameKind.cases {e e' : Exn} (h : SameKind e e') :
    e = e' ∨ ∃ message errors message' errors', e = .invalidArgument message errors ∧
      e' = .invalidArgument message' errors' := by
  cases e with
  | invalidArgument message errors =>
    cases e' with
    | invalidArgument message' errors' => exact .inr ⟨_, _, _, _, rfl, rfl⟩
    | _ => cases h
  | _ =>
    cases e' with
    | invalidArgument message' errors' => cases h
    | _ => exact .inl h

/-- Both values are valid for the field, or both are invalid. -/
def JudgedAlike (lib : Libraries) (fieldApi : FieldApi) (value value' : PyVal) : Prop :=
  ∀ messagePrefix, AlikeResults (fun _ _ => True) SameKind
    (validateDeviceField lib fieldApi value messagePrefix)
    (validateDeviceField lib fieldApi value' messagePrefix)

/-- Fields of two requests that are the same, or encrypted with values that are judged alike and
have texts that can be encoded. -/
inductive AlikeField (lib : Libraries) (api : List FieldApi) : FieldJson → FieldJson → Prop where
  | same (field : FieldJson) : AlikeField lib api field field
  | secret (field : FieldJson) (value value' : PyVal)
      (hencrypted : storedEncrypted api field = true)
      (hencodable : value.encodable = true) (hencodable' : value'.encodable = true)
      (hjudged : ∀ fieldApi, apiField api field.name = some fieldApi →
        JudgedAlike lib fieldApi value value') :
      AlikeField lib api { field with value := some value } { field with value := some value' }

/-- Bodies of two requests with alike fields. -/
inductive AlikeJson (lib : Libraries) (api : List FieldApi) : DeviceJson → DeviceJson → Prop where
  | mk (json : DeviceJson) {fields fields' : Option (List FieldJson)}
      (h : Option.Rel (List.Forall₂ (AlikeField lib api)) fields fields') :
      AlikeJson lib api { json with fields } { json with fields := fields' }

/-- The fields of the API that a body is configured by. -/
def configuredBy (apis : DeviceApis) (json : DeviceJson) (storedType : Option String) :
    List FieldApi :=
  match json.appName, json.type.or storedType with
  | some app, some deviceType => (getAppDeviceApi apis app deviceType).toOption.getD []
  | _, _ => []

/-- The type of the device that a body is about. -/
def typeStored (db : DeviceDb) (json : DeviceJson) : Option String :=
  (json.id.bind fun deviceId => db.devices.get? deviceId).map Device.type

/-- Requests of two clients that differ in secrets only. -/
inductive AlikeOps (lib : Libraries) (apis : DeviceApis) (db : DeviceDb) :
    DeviceOp → DeviceOp → Prop where
  | create {json json' : DeviceJson} (h : AlikeJson lib (configuredBy apis json none) json json') :
      AlikeOps lib apis db (.create json) (.create json')
  | update {json json' : DeviceJson}
      (h : AlikeJson lib (configuredBy apis json (typeStored db json)) json json') :
      AlikeOps lib apis db (.update json) (.update json')
  | patch {json json' : DeviceJson}
      (h : AlikeJson lib (configuredBy apis json (typeStored db json)) json json') :
      AlikeOps lib apis db (.patch json) (.patch json')
  | readAll (page : ℤ) : AlikeOps lib apis db (.readAll page) (.readAll page)
  | read (deviceId : ℤ) (mode : Option String) :
      AlikeOps lib apis db (.read deviceId mode) (.read deviceId mode)
  | delete (deviceId : ℤ) : AlikeOps lib apis db (.delete deviceId) (.delete deviceId)

/-- The requests of two clients, from first to last. The types of stored devices are those of the
first client. -/
inductive AlikeRuns (lib : Libraries) (box : SecretBox) (apis : DeviceApis) (itemsPerPage : ℕ) :
    DeviceDb → List DeviceOp → List DeviceOp → Prop where
  | nil (db : DeviceDb) : AlikeRuns lib box apis itemsPerPage db [] []
  | cons {db : DeviceDb} {op op' : DeviceOp} {ops ops' : List DeviceOp}
      (h : AlikeOps lib apis db op op')
      (hs : AlikeRuns lib box apis itemsPerPage
        (finalState (answerDevice lib box apis itemsPerPage op db)) ops ops') :
      AlikeRuns lib box apis itemsPerPage db (op :: ops) (op' :: ops')

/-- A field without its value. -/
def withoutValue (field : DeviceField) : DeviceField :=
  { field with value := "" }

/-- A device without the values of its encrypted fields. -/
def openPart (device : Device) : Device :=
  { device with encryptedFields := device.encryptedFields.map withoutValue }

/-- Tables that differ in the values of encrypted fields only. -/
structure SameOpenly (db db' : DeviceDb) : Prop where
  apps : db.apps = db'.apps
  devices : RelatedItems (fun _ device device' => openPart device = openPart device')
    db.devices db'.devices

/-! ## Validation -/

section

variable {lib : Libraries} {api : List FieldApi}

/-- A value is judged like itself. -/
theorem JudgedAlike.refl (fieldApi : FieldApi) (value : PyVal) :
    JudgedAlike lib fieldApi value value := by
  intro messagePrefix
  exact AlikeResults.refl (P := fun _ _ => True) (E := SameKind) (fun _ => trivial)
    (fun _ => rfl) _

/-- Values of the dictionary of a request that are judged alike. -/
def AlikeValue (lib : Libraries) (api : List FieldApi) (name : String) (value value' : PyVal) :
    Prop :=
  ∀ fieldApi, apiField api name = some fieldApi → JudgedAlike lib fieldApi value value'

/-- A value is judged like itself under every name. -/
theorem AlikeValue.refl (name : String) (value : PyVal) : AlikeValue lib api name value value :=
  fun fieldApi _ => .refl fieldApi value

/-- The dictionaries of alike fields. -/
theorem fieldValues_alike {fields fields' : List FieldJson}
    (h : List.Forall₂ (AlikeField lib api) fields fields') :
    AlikeResults (RelatedItems (AlikeValue lib api)) Eq (fieldValues fields)
      (fieldValues fields') := by
  refine (AlikeResults.mapM h (Q := RelatedItem (AlikeValue lib api)) ?_).bind ?_
  · intro field field' hfield
    cases hfield with
    | same field => exact .refl (fun item => ⟨rfl, .refl _ _⟩) (fun _ => rfl) _
    | secret field value value' _ _ _ hjudged => exact .ok ⟨rfl, hjudged⟩
  · intro items items' hitems
    exact .ok (RelatedItems.update .nil hitems)

/-- Filling in the defaults keeps dictionaries alike. -/
theorem fillDefault_alike {values values' : OrderedDict String PyVal}
    (h : RelatedItems (AlikeValue lib api) values values') (fieldApi : FieldApi) :
    RelatedItems (AlikeValue lib api) (fillDefault values fieldApi)
      (fillDefault values' fieldApi) := by
  unfold fillDefault
  rw [h.keys_eq]
  cases fieldApi.default with
  | none => exact h
  | some default =>
    dsimp only
    split
    · exact h
    · exact h.set (.refl _ _)

/-- Values judged alike stay so when the defaults are filled in. -/
theorem fillDefaults_alike {values values' : OrderedDict String PyVal}
    (h : RelatedItems (AlikeValue lib api) values values') (fields : List FieldApi) :
    RelatedItems (AlikeValue lib api) (fields.foldl fillDefault values)
      (fields.foldl fillDefault values') := by
  induction fields generalizing values values' with
  | nil => exact h
  | cons fieldApi fields ih => exact ih (fillDefault_alike h fieldApi)

/-- **Alike dictionaries are validated alike.** -/
theorem validateDeviceFields_alike {values values' : OrderedDict String PyVal}
    (h : RelatedItems (AlikeValue lib api) values values') (deviceType app : String)
    (validateRequired : Bool) :
    AlikeResults (fun _ _ => True) SameKind
      (validateDeviceFields lib api values deviceType app validateRequired)
      (validateDeviceFields lib api values' deviceType app validateRequired) := by
  have hfilled := fillDefaults_alike h api
  unfold validateDeviceFields
  dsimp only
  rw [hfilled.keys_eq]
  -- what is missing shows in the keys
  split
  · exact .error rfl
  refine AlikeResults.bind (P := fun _ _ => True) ?_ fun _ _ _ => .ok trivial
  refine AlikeResults.forM hfilled fun item item' hitem => ?_
  obtain ⟨name, value⟩ := item
  obtain ⟨name', value'⟩ := item'
  obtain ⟨rfl, hvalue⟩ := hitem
  dsimp only
  cases hapi : OrderedDict.get? name (deviceFieldsApiDict api) with
  | none => exact .error rfl
  | some fieldApi => exact hvalue fieldApi hapi _

/-- The dictionaries of alike bodies. -/
theorem fieldValuesIfGiven_alike {fields fields' : Option (List FieldJson)}
    (h : Option.Rel (List.Forall₂ (AlikeField lib api)) fields fields') :
    AlikeResults (Option.Rel (RelatedItems (AlikeValue lib api))) Eq (fieldValuesIfGiven fields)
      (fieldValuesIfGiven fields') := by
  cases h with
  | none => exact .ok .none
  | some h => exact (fieldValues_alike h).bind fun _ _ hvalues => .ok (.some hvalues)

/-- The fields of alike requests are accepted by the same API or refused alike. -/
theorem validatedApi_alike {apis : DeviceApis} {app deviceType : String}
    {values values' : Option (OrderedDict String PyVal)} (validateRequired : Bool)
    (h : ∀ api, getAppDeviceApi apis app deviceType = .ok api →
      Option.Rel (RelatedItems (AlikeValue lib api)) values values') :
    AlikeResults (fun validated validated' =>
        getAppDeviceApi apis app deviceType = .ok validated ∧ validated = validated') SameKind
      (validatedApi lib apis app deviceType values validateRequired)
      (validatedApi lib apis app deviceType values' validateRequired) := by
  unfold validatedApi
  cases hget : getAppDeviceApi apis app deviceType with
  | error e => exact .error rfl
  | ok api =>
    cases h api hget with
    | none => exact .ok ⟨rfl, rfl⟩
    | some hvalues =>
      exact (validateDeviceFields_alike hvalues deviceType app validateRequired).bind
        fun _ _ _ => .ok ⟨rfl, rfl⟩

/-- What the clients are told when their requests are refused alike. -/
theorem answerException_alike {e e' : Exn} (h : SameKind e e') (operation app deviceType : String)
    {R : DeviceDb → DeviceDb → Prop} {db db' : DeviceDb} (hdb : R db db') :
    AgreeEnds R (answerException operation app deviceType e db)
      (answerException operation app deviceType e' db') := by
  rcases h.cases with rfl | ⟨message, errors, message', errors', rfl, rfl⟩
  · unfold answerException
    cases crudDeviceErrorHandler operation app deviceType e with
    | none => exact .error hdb
    | some response => exact .ok hdb
  · exact .ok hdb

/-! ## What is stored -/

/-- Whether a field is encrypted does not depend on its value. -/
theorem isEncrypted_value (deviceFieldsApi : OrderedDict String FieldApi) (field : FieldJson)
    (value : Option PyVal) :
    (addConfigurationKeysToField deviceFieldsApi { field with value }).isEncrypted =
      (addConfigurationKeysToField deviceFieldsApi field).isEncrypted := by
  unfold addConfigurationKeysToField
  dsimp only
  cases OrderedDict.get? field.name deviceFieldsApi <;> rfl

/-- Two values of a field are stored under one name and type. -/
theorem fromJson_value (deviceFieldsApi : OrderedDict String FieldApi) (field : FieldJson)
    {value value' : PyVal} (hvalue : value.encodable = true) (hvalue' : value'.encodable = true) :
    AlikeResults (fun row row' => withoutValue row = withoutValue row') Eq
      (DeviceField.fromJson
        (addConfigurationKeysToField deviceFieldsApi { field with value := some value }))
      (DeviceField.fromJson
        (addConfigurationKeysToField deviceFieldsApi { field with value := some value' })) := by
  have htext : storedText value = .ok value.toStr := if_pos hvalue
  have htext' : storedText value' = .ok value'.toStr := if_pos hvalue'
  unfold addConfigurationKeysToField DeviceField.fromJson
  dsimp only
  cases OrderedDict.get? field.name deviceFieldsApi with
  | none =>
    cases field.type with
    | none => exact .error rfl
    | some type =>
      show AlikeResults _ _ ((storedText value).bind _) ((storedText value').bind _)
      rw [htext, htext']
      exact .ok rfl
  | some fieldApi =>
    show AlikeResults _ _ ((storedText value).bind _) ((storedText value').bind _)
    rw [htext, htext']
    exact .ok rfl

/-- Relations that differ in the values of encrypted fields only. -/
def SameFields (fields fields' : List DeviceField × List DeviceField) : Prop :=
  fields.1 = fields'.1 ∧ fields.2.map withoutValue = fields'.2.map withoutValue

/-- The fields of alike requests make relations that differ in encrypted values only. -/
theorem constructFieldsFromJson_alike {fields fields' : List FieldJson}
    (h : List.Forall₂ (AlikeField lib api) fields fields') :
    AlikeResults SameFields Eq
      (constructFieldsFromJson (addConfigurationKeysToDeviceJson fields api))
      (constructFieldsFromJson (addConfigurationKeysToDeviceJson fields' api)) := by
  unfold constructFieldsFromJson addConfigurationKeysToDeviceJson
  refine AlikeResults.foldlM (P := fun field field' => ∃ given given',
    AlikeField lib api given given' ∧
      field = addConfigurationKeysToField (deviceFieldsApiDict api) given ∧
      field' = addConfigurationKeysToField (deviceFieldsApiDict api) given') ?_ ?_ ⟨rfl, rfl⟩
  · rw [List.forall₂_map_left_iff, List.forall₂_map_right_iff]
    exact h.imp fun field field' hfield => ⟨field, field', hfield, rfl, rfl⟩
  · rintro before before' _ _ ⟨hplaintext, hsecret⟩ ⟨field, field', hfield, rfl, rfl⟩
    cases hfield with
    | same field =>
      refine (AlikeResults.self _).bind ?_
      rintro row _ ⟨-, rfl⟩
      split
      · exact .ok ⟨hplaintext, by simp [hsecret]⟩
      · exact .ok ⟨by simp [hplaintext], hsecret⟩
    | secret field value value' hencrypted hvalue hvalue' _ =>
      have hmarked : ∀ value, (addConfigurationKeysToField (deviceFieldsApiDict api)
          { field with value }).isEncrypted = true := fun value =>
        (isEncrypted_value _ field value).trans hencrypted
      simp only [hmarked, if_true]
      refine (fromJson_value _ field hvalue hvalue').bind ?_
      intro row row' hrow
      exact .ok ⟨hplaintext, by simp [hsecret, hrow]⟩

end

/-! ## Devices -/

/-- Devices agree openly exactly if they differ in the values of encrypted fields only. -/
theorem openPart_eq_iff {device device' : Device} : openPart device = openPart device' ↔
    device.name = device'.name ∧ device.type = device'.type ∧
      device.description = device'.description ∧ device.app = device'.app ∧
      SameFields (device.plaintextFields, device.encryptedFields)
        (device'.plaintextFields, device'.encryptedFields) := by
  simp only [openPart, Device.mk.injEq, SameFields]
  tauto

/-- Fields are merged by their names. -/
theorem map_withoutValue_mergedFields (stored updated : List DeviceField) :
    (mergedFields stored updated).map withoutValue =
      mergedFields (stored.map withoutValue) (updated.map withoutValue) := by
  have hnames : (updated.map withoutValue).map DeviceField.name = updated.map DeviceField.name := by
    rw [List.map_map]
    rfl
  unfold mergedFields
  rw [List.map_append, List.filter_map, hnames]
  rfl

/-- Fields that agree openly are merged into fields that do. -/
theorem SameFields.merged {stored stored' updated updated' : List DeviceField × List DeviceField}
    (h : SameFields stored stored') (hupdated : SameFields updated updated') :
    SameFields (mergedFields stored.1 updated.1, mergedFields stored.2 updated.2)
      (mergedFields stored'.1 updated'.1, mergedFields stored'.2 updated'.2) := by
  refine ⟨?_, ?_⟩
  · rw [h.1, hupdated.1]
  · rw [map_withoutValue_mergedFields, map_withoutValue_mergedFields, h.2, hupdated.2]

section

variable {lib : Libraries} {api : List FieldApi}

/-- **Alike requests update a device alike.** -/
theorem updateFromJson_alike {device device' : Device} (h : openPart device = openPart device')
    (json : DeviceJson) {fields fields' : Option (List FieldJson)}
    (hfields : Option.Rel (List.Forall₂ (AlikeField lib api)) fields fields')
    (completeObject : Bool) :
    AlikeResults (fun device device' => openPart device = openPart device') Eq
      (device.updateFromJson { json with
        fields := fields.map (addConfigurationKeysToDeviceJson · api) } completeObject)
      (device'.updateFromJson { json with
        fields := fields'.map (addConfigurationKeysToDeviceJson · api) } completeObject) := by
  obtain ⟨hname, htype, hdescription, happ, hstored⟩ := openPart_eq_iff.mp h
  unfold Device.updateFromJson
  dsimp only
  rw [hname, htype, hdescription]
  cases hfields with
  | none => exact .ok (openPart_eq_iff.mpr ⟨rfl, rfl, rfl, happ, hstored⟩)
  | some hfields =>
    refine (constructFieldsFromJson_alike hfields).bind fun updated updated' hupdated => ?_
    cases completeObject with
    | true => exact .ok (openPart_eq_iff.mpr ⟨rfl, rfl, rfl, happ, hupdated⟩)
    | false => exact .ok (openPart_eq_iff.mpr ⟨rfl, rfl, rfl, happ, hstored.merged hupdated⟩)

/-- Alike requests make alike devices. -/
theorem fromJson_alike (json : DeviceJson) {fields fields' : List FieldJson}
    (hfields : List.Forall₂ (AlikeField lib api) fields fields') :
    AlikeResults (fun device device' => openPart device = openPart device') Eq
      (Device.fromJson { json with fields := some (addConfigurationKeysToDeviceJson fields api) })
      (Device.fromJson { json with
        fields := some (addConfigurationKeysToDeviceJson fields' api) }) := by
  refine (constructFieldsFromJson_alike hfields).bind fun made made' hmade => ?_
  dsimp only
  cases json.name with
  | none => exact .error rfl
  | some name =>
    cases json.type with
    | none => exact .error rfl
    | some type => exact .ok (openPart_eq_iff.mpr ⟨rfl, rfl, rfl, rfl, hmade⟩)

end


/-! ## What is shown -/

section

variable (lib : Libraries) (box : SecretBox)

/-- A device is shown without the values of its encrypted fields. -/
theorem getDeviceJsonWithAppName_openPart (id : ℤ) (device : Device) :
    getDeviceJsonWithAppName lib box id (openPart device) =
      getDeviceJsonWithAppName lib box id device := by
  have hfields : (device.encryptedFields.map withoutValue).mapM (fun field =>
        EncryptedDeviceField.asJson lib box (field.encrypted box) false) =
      device.encryptedFields.mapM fun field =>
        EncryptedDeviceField.asJson lib box (field.encrypted box) false :=
    List.mapM_map
  unfold getDeviceJsonWithAppName Device.asJson
  dsimp only [openPart]
  rw [hfields]

/-- Devices that differ in encrypted values only are shown alike. -/
theorem getDeviceJsonWithAppName_alike (id : ℤ) {device device' : Device}
    (h : openPart device = openPart device') :
    getDeviceJsonWithAppName lib box id device =
      getDeviceJsonWithAppName lib box id device' := by
  rw [← getDeviceJsonWithAppName_openPart, h, getDeviceJsonWithAppName_openPart]

end

/-! ## One request -/

section

variable {lib : Libraries} {apis : DeviceApis} {db db' : DeviceDb}

/-- The name of a device, its type and its app are not secret. -/
theorem any_alike (h : SameOpenly db db') (p : Device → Bool)
    (hp : ∀ device, p (openPart device) = p device) :
    (db.devices.any fun row => p row.2) = db'.devices.any fun row => p row.2 := by
  refine any_eq_of_related h.devices ?_
  rintro ⟨deviceId, device⟩ ⟨_, device'⟩ ⟨_, hopen⟩
  dsimp only at hopen ⊢
  rw [← hp, hopen, hp]

/-- Tables that agree openly give the same next id. -/
theorem nextId_alike (h : SameOpenly db db') :
    OrderedDict.nextId db.devices = OrderedDict.nextId db'.devices := by
  unfold OrderedDict.nextId
  rw [h.devices.keys_eq]

/-- The API by which the fields of a body are judged when the request is accepted by it. -/
theorem configuredBy_eq {json : DeviceJson} {app deviceType : String} {storedType : Option String}
    {api : List FieldApi} (happ : json.appName = some app)
    (htype : json.type.or storedType = some deviceType)
    (hapi : getAppDeviceApi apis app deviceType = .ok api) :
    configuredBy apis json storedType = api := by
  unfold configuredBy
  rw [happ, htype]
  dsimp only
  rw [hapi]
  rfl

/-- The `try` statement of a view, with what the view does after it. -/
theorem answerValidated_alike {app deviceType : String}
    {judged judged' : Except Exn (List FieldApi)} (h : SameOpenly db db') (operation : String)
    (hjudged : AlikeResults (fun api api' =>
      getAppDeviceApi apis app deviceType = .ok api ∧ api = api') SameKind judged judged')
    {view view' : List FieldApi → DeviceServing Response}
    (hview : ∀ api, getAppDeviceApi apis app deviceType = .ok api →
      AgreeEnds SameOpenly (view api db) (view' api db')) :
    AgreeEnds SameOpenly
      ((match judged with
        | .error e => answerException operation app deviceType e
        | .ok api => view api) db)
      ((match judged' with
        | .error e => answerException operation app deviceType e
        | .ok api => view' api) db') := by
  cases hjudged with
  | error he => exact answerException_alike he operation app deviceType h
  | ok hapi =>
    obtain ⟨hapi, rfl⟩ := hapi
    exact hview _ hapi

/-- **Alike requests to make a device are answered alike.** -/
theorem createDevice_alike {json json' : DeviceJson} (h : SameOpenly db db')
    (hjson : AlikeJson lib (configuredBy apis json none) json json') :
    AgreeEnds SameOpenly (createDevice lib apis json db) (createDevice lib apis json' db') := by
  obtain ⟨json, hfields⟩ := hjson
  unfold createDevice
  dsimp only
  rw [bind_of_ok (get_apply db), bind_of_ok (get_apply db')]
  refine AgreeEnds.bind_lift h (.self _) ?_
  rintro name _ ⟨-, rfl⟩
  rw [any_alike h (fun device => decide (device.name = name)) fun _ => rfl]
  split
  · exact .ok h
  cases hfields with
  | none => exact .error h
  | some hfields =>
    refine AgreeEnds.bind_lift h (.ok hfields) fun fields fields' hfields => ?_
    refine AgreeEnds.bind_lift h (fieldValues_alike hfields) fun values values' hvalues => ?_
    refine AgreeEnds.bind_lift h (.self _) ?_
    rintro app _ ⟨happ, rfl⟩
    refine AgreeEnds.bind_lift h (.self _) ?_
    rintro deviceType _ ⟨htype, rfl⟩
    have hconfigured : ∀ api, getAppDeviceApi apis app deviceType = .ok api →
        configuredBy apis json none = api := fun api hapi =>
      configuredBy_eq (demand_eq_ok happ) (by rw [demand_eq_ok htype]; rfl) hapi
    have hvalid := validatedApi_alike true fun api hapi =>
      Option.Rel.some (hconfigured api hapi ▸ hvalues)
    refine answerValidated_alike h "create" hvalid fun api hapi => ?_
    obtain rfl := hconfigured api hapi
    rw [h.apps]
    split
    · exact .ok h
    refine AgreeEnds.bind_lift h (fromJson_alike json hfields) fun device device' hopen => ?_
    obtain ⟨hname, htype, hdescription, -, hstored⟩ := openPart_eq_iff.mp hopen
    -- whether the name is taken in the app
    rw [hname, any_alike h (fun stored => decide (stored.app = some app ∧
      stored.name = device'.name)) fun _ => rfl, nextId_alike h]
    exact .ok ⟨rfl, h.devices.set (openPart_eq_iff.mpr
      ⟨rfl, htype, hdescription, rfl, hstored⟩)⟩

/-- **Alike requests to change a device are answered alike.** -/
theorem updateDeviceBy_alike {device device' : Device} {json json' : DeviceJson}
    (h : SameOpenly db db') (hopen : openPart device = openPart device')
    (hjson : AlikeJson lib (configuredBy apis json (some device.type)) json json')
    (deviceId : ℤ) (validateRequired : Bool) :
    AgreeEnds SameOpenly (updateDeviceBy lib apis deviceId device json validateRequired db)
      (updateDeviceBy lib apis deviceId device' json' validateRequired db') := by
  obtain ⟨json, hfields⟩ := hjson
  have htype : device.type = device'.type := (openPart_eq_iff.mp hopen).2.1
  unfold updateDeviceBy
  dsimp only
  refine AgreeEnds.bind_lift h (fieldValuesIfGiven_alike hfields) fun values values' hvalues => ?_
  refine AgreeEnds.bind_lift h (.self _) ?_
  rintro app _ ⟨happ, rfl⟩
  rw [← htype]
  have hconfigured : ∀ api, getAppDeviceApi apis app (json.type.getD device.type) = .ok api →
      configuredBy apis json (some device.type) = api := fun api hapi =>
    configuredBy_eq (demand_eq_ok happ) (by cases json.type <;> rfl) hapi
  have hvalid := validatedApi_alike validateRequired fun api hapi =>
    hconfigured api hapi ▸ hvalues
  refine answerValidated_alike h "update" hvalid fun api hapi => ?_
  obtain rfl := hconfigured api hapi
  refine AgreeEnds.bind_lift h (updateFromJson_alike hopen json hfields validateRequired)
    fun made made' hmade => ?_
  exact .ok ⟨h.apps, h.devices.set hmade⟩

/-- The same device for both clients, or none. -/
theorem SameOpenly.get? (h : SameOpenly db db') (deviceId : ℤ) :
    Option.Rel (fun device device' => openPart device = openPart device')
      (db.devices.get? deviceId) (db'.devices.get? deviceId) :=
  h.devices.get? deviceId

/-- Requests that are alike name the same device. -/
theorem AlikeJson.id_eq {api : List FieldApi} {json json' : DeviceJson}
    (hjson : AlikeJson lib api json json') : json.id = json'.id := by
  cases hjson
  rfl

/-- Alike bodies are about one device. -/
theorem serveUpdate_alike {json json' : DeviceJson} (h : SameOpenly db db')
    (hjson : AlikeJson lib (configuredBy apis json (typeStored db json)) json json')
    (completeObject : Bool) :
    AgreeEnds SameOpenly (serveUpdate lib apis completeObject json db)
      (serveUpdate lib apis completeObject json' db') := by
  unfold serveUpdate withDevice
  rw [← hjson.id_eq]
  refine AgreeEnds.bind_lift h (.self _) ?_
  rintro deviceId _ ⟨hdeviceId, rfl⟩
  rw [bind_of_ok (get_apply db), bind_of_ok (get_apply db')]
  have hdevice := h.get? deviceId
  cases hstored : db.devices.get? deviceId with
  | none =>
    rw [hstored] at hdevice
    generalize db'.devices.get? deviceId = stored' at hdevice
    cases hdevice
    exact .ok h
  | some device =>
    have htyped : typeStored db json = some device.type := by
      unfold typeStored
      rw [demand_eq_ok hdeviceId, Option.bind_some, hstored]
      rfl
    rw [htyped] at hjson
    rw [hstored] at hdevice
    generalize db'.devices.get? deviceId = stored' at hdevice
    cases hdevice with
    | some hopen => exact updateDeviceBy_alike h hopen hjson deviceId completeObject

/-- Requests for devices are answered with their open parts. -/
theorem withDeviceOf_alike (h : SameOpenly db db') (operation : String) (deviceId : ℤ)
    {view : Device → DeviceServing DeviceAnswer}
    (hview : ∀ device device', openPart device = openPart device' →
      AgreeEnds SameOpenly (view device db) (view device' db')) :
    AgreeEnds SameOpenly (withDeviceOf operation deviceId view db)
      (withDeviceOf operation deviceId view db') := by
  unfold withDeviceOf
  rw [bind_of_ok (get_apply db), bind_of_ok (get_apply db')]
  have hdevice := h.get? deviceId
  generalize db.devices.get? deviceId = stored, db'.devices.get? deviceId = stored' at hdevice
  cases hdevice with
  | none => exact .ok h
  | some hopen => exact hview _ _ hopen

variable (box : SecretBox)

/-- Reading a device gives the same answer on tables that agree openly. -/
theorem readDevice_alike (h : SameOpenly db db') (deviceId : ℤ) (mode : Option String) :
    AgreeEnds SameOpenly (readDevice lib box deviceId mode db)
      (readDevice lib box deviceId mode db') := by
  refine withDeviceOf_alike h "read" deviceId fun device device' hopen => ?_
  rw [getDeviceJsonWithAppName_alike lib box deviceId hopen,
    (openPart_eq_iff.mp hopen).1]
  refine AgreeEnds.bind_lift h (.self _) ?_
  rintro body _ ⟨-, rfl⟩
  split
  · exact .ok h
  · exact .ok h

/-- The same of deleting one. -/
theorem deleteDevice_alike (h : SameOpenly db db') (deviceId : ℤ) :
    AgreeEnds SameOpenly (deleteDevice deviceId db) (deleteDevice deviceId db') :=
  withDeviceOf_alike h "delete" deviceId fun _ _ _ => .ok ⟨h.apps, h.devices.pop deviceId⟩

/-- The same of the answer with a stored device. -/
theorem answerStored_alike (h : SameOpenly db db') (deviceId : ℤ) (response : Response) :
    AgreeEnds SameOpenly (answerStored lib box deviceId response db)
      (answerStored lib box deviceId response db') := by
  unfold answerStored
  cases response with
  | success status =>
    dsimp only
    rw [bind_of_ok (get_apply db), bind_of_ok (get_apply db')]
    have hdevice := h.get? deviceId
    generalize db.devices.get? deviceId = stored, db'.devices.get? deviceId = stored' at hdevice
    cases hdevice with
    | none => exact .error h
    | some hopen =>
      dsimp only
      rw [getDeviceJsonWithAppName_alike lib box deviceId hopen]
      refine AgreeEnds.bind_lift h (.self _) ?_
      rintro body _ ⟨-, rfl⟩
      exact .ok h
  | _ => exact .ok h

/-- The same of reading all devices. -/
theorem readAllDevices_alike (h : SameOpenly db db') (itemsPerPage : ℕ) (page : ℤ) :
    AgreeEnds SameOpenly (readAllDevices lib box itemsPerPage page db)
      (readAllDevices lib box itemsPerPage page db') := by
  unfold readAllDevices
  rw [bind_of_ok (get_apply db), bind_of_ok (get_apply db')]
  have hrows : List.Forall₂ (RelatedItem fun _ device device' => openPart device = openPart device')
      (pageOf db.devices page itemsPerPage) (pageOf db'.devices page itemsPerPage) :=
    List.forall₂_take _ (List.forall₂_drop _ h.devices)
  refine AgreeEnds.bind_lift h (AlikeResults.mapM hrows (Q := Eq) ?_)
    fun bodies bodies' hbodies => ?_
  · rintro ⟨deviceId, device⟩ ⟨_, device'⟩ ⟨rfl, hopen⟩
    dsimp only
    rw [getDeviceJsonWithAppName_alike lib box deviceId hopen]
    exact .refl (fun _ => rfl) (fun _ => rfl) _
  · rw [List.forall₂_eq_eq_eq] at hbodies
    rw [hbodies]
    exact .ok h

/-- PUT and PATCH are answered with the device as it is stored then. -/
theorem answerChange_alike {json json' : DeviceJson} (h : SameOpenly db db')
    (hjson : AlikeJson lib (configuredBy apis json (typeStored db json)) json json')
    (completeObject : Bool) :
    AgreeEnds SameOpenly
      ((serveUpdate lib apis completeObject json >>= fun response =>
        lift (demand json.id) >>= (answerStored lib box · response)) db)
      ((serveUpdate lib apis completeObject json' >>= fun response =>
        lift (demand json'.id) >>= (answerStored lib box · response)) db') := by
  rw [← hjson.id_eq]
  refine (serveUpdate_alike h hjson completeObject).bind fun response db db' h => ?_
  refine AgreeEnds.bind_lift h (.self _) ?_
  rintro deviceId _ ⟨-, rfl⟩
  exact answerStored_alike box h deviceId response

/-- **Alike requests are answered alike**, and leave tables that differ in secrets only. -/
theorem answerDevice_alike (h : SameOpenly db db') {op op' : DeviceOp}
    (hop : AlikeOps lib apis db op op') (itemsPerPage : ℕ) :
    AgreeEnds SameOpenly (answerDevice lib box apis itemsPerPage op db)
      (answerDevice lib box apis itemsPerPage op' db') := by
  cases hop with
  | create hjson =>
    unfold answerDevice
    dsimp only
    rw [bind_of_ok (get_apply db), bind_of_ok (get_apply db'), nextId_alike h]
    exact (createDevice_alike h hjson).bind fun response _ _ h =>
      answerStored_alike box h _ response
  | update hjson => exact answerChange_alike box h hjson true
  | patch hjson => exact answerChange_alike box h hjson false
  | readAll page => exact readAllDevices_alike box h itemsPerPage page
  | read deviceId mode => exact readDevice_alike box h deviceId mode
  | delete deviceId => exact deleteDevice_alike h deviceId

end

/-! ## Whole runs -/

/-- **Clients that send requests which differ in secrets only get the same answers.** -/
theorem secrets_not_shown {lib : Libraries} {box : SecretBox} {apis : DeviceApis}
    {itemsPerPage : ℕ} {db db' : DeviceDb} {ops ops' : List DeviceOp}
    (hops : AlikeRuns lib box apis itemsPerPage db ops ops') (h : SameOpenly db db') :
    answersOf lib box apis itemsPerPage ops db = answersOf lib box apis itemsPerPage ops' db' := by
  induction hops generalizing db' with
  | nil => rfl
  | @cons db op op' ops ops' hop _ ih =>
    have hstep := answerDevice_alike box h hop itemsPerPage
    unfold answersOf
    generalize answerDevice lib box apis itemsPerPage op db = result at ih hstep
    generalize answerDevice lib box apis itemsPerPage op' db' = result' at hstep
    cases hstep with
    | ok h => exact congrArg _ (ih h)
    | error h => exact congrArg _ (ih h)

/-! ## A password -/

/-- A device type with a password. -/
def loginApis : DeviceApis :=
  [("Ssh", [("Login", [{ name := "password", type := "string", default := none
                         required := some true, encrypted := some true
                         schema := .dict [("name", .str "password"), ("type", .str "string"),
                           ("required", .bool true), ("encrypted", .bool true)] }])])]

/-- The field of a request with a password. -/
def passwordJson (password : String) : FieldJson :=
  { name := "password", value := some (.str password), type := none, encrypted := none }

/-- A request to create a login. -/
def loginJson (password : String) : DeviceJson where
  id := none
  name := some "Login1"
  appName := some "Ssh"
  type := some "Login"
  description := none
  fields := some [passwordJson password]

/-- Two logins with their own passwords are shown alike. -/
theorem secrets_not_shown_passwords :
    let db : DeviceDb := { apps := ["Ssh"], devices := [] }
    answersOf decimalLibraries openBox loginApis 20
        [.create (loginJson "first"), .patch { loginJson "other" with id := some 1 }, .readAll 1]
        db =
      answersOf decimalLibraries openBox loginApis 20
        [.create (loginJson "second"), .patch { loginJson "last" with id := some 1 }, .readAll 1]
        db := by
  have hfields : ∀ password password' api, api = configuredBy loginApis (loginJson "") none →
      AlikeField decimalLibraries api (passwordJson password) (passwordJson password') := by
    rintro password password' _ rfl
    refine .secret (passwordJson "") _ _ rfl rfl rfl ?_
    intro fieldApi hapi
    cases hapi
    exact fun messagePrefix => .ok trivial
  refine secrets_not_shown (.cons (.create ?_) (.cons (.patch ?_) (.cons (.readAll 1) (.nil _))))
    ⟨rfl, .nil⟩
  · exact .mk (loginJson "") (.some (.cons (hfields _ _ _ rfl) .nil))
  · exact .mk { loginJson "" with id := some 1 } (.some (.cons (hfields _ _ _ rfl) .nil))

end Walkoff.Analysis
