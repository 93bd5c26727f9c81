import Walkoff.Analysis.CopyRules
import Walkoff.Program.PlaybookExport

/-!
# What an exported playbook still holds

The dumped documents are the trees whose fields are those of the schemas. An export is to take
the ids of all arguments out of them. It reads the condition of a branch under another key than
the one it tests for, and it does not look into the triggers of the actions.
-/

set_option autoImplicit false

namespace Walkoff.Analysis

open Walkoff.Program
open Walkoff.Library
open Walkoff.Model

/-! ## Documents -/

/-- What a field of a schema holds. -/
inductive FieldKind where
  | data
  | element (kind : ElementKind)
  | elements (kind : ElementKind)
  deriving DecidableEq

/-- The fields of the schemas besides the id. -/
def schemaFields : ElementKind → List (String × FieldKind)
  | .playbook => [("name", .data), ("errors", .data), ("workflows", .elements .workflow)]
  | .workflow => [("name", .data), ("start", .data), ("is_valid", .data), ("errors", .data),
      ("actions", .elements .action), ("branches", .elements .branch),
      ("environment_variables", .elements .environmentVariable)]
  | .action => [("app_name", .data), ("action_name", .data), ("name", .data), ("errors", .data),
      ("position", .data), ("device_id", .element .argument), ("arguments", .elements .argument),
      ("trigger", .element .conditionalExpression)]
  | .branch => [("source_id", .data), ("destination_id", .data), ("status", .data),
      ("priority", .data), ("errors", .data), ("condition", .element .conditionalExpression)]
  | .conditionalExpression => [("operator", .data), ("is_negated", .data), ("parent", .data),
      ("errors", .data), ("child_expressions", .elements .conditionalExpression),
      ("conditions", .elements .condition)]
  | .condition => [("app_name", .data), ("action_name", .data), ("is_negated", .data),
      ("errors", .data), ("arguments", .elements .argument), ("transforms", .elements .transform)]
  | .transform => [("app_name", .data), ("action_name", .data), ("errors", .data),
      ("arguments", .elements .argument)]
  | .environmentVariable => [("name", .data), ("value", .data), ("description", .data)]
  | .argument => [("name", .data), ("value", .data), ("reference", .data), ("selection", .data),
      ("errors", .data)]

/-- The field of a schema under a key. -/
def fieldKind (kind : ElementKind) (key : String) : Option FieldKind :=
  OrderedDict.get? key (schemaFields kind)

/-- The schema of an element. -/
def kindOf : Element → ElementKind
  | .mk kind _ _ => kind

mutual

/-- The fields of an element, and of the elements in it, are fields of their schemas. -/
def FitsSchema : Element → Prop
  | .mk kind _ fields => FieldsFit kind fields

def PartFits (kind : ElementKind) (key : String) : Part → Prop
  | .data _ | .reference _ => fieldKind kind key = some .data
  | .element e => fieldKind kind key = some (.element (kindOf e)) ∧ FitsSchema e
  | .elements es => ∃ k, fieldKind kind key = some (.elements k) ∧ AllFit k es

def AllFit (kind : ElementKind) : List Element → Prop
  | [] => True
  | e :: es => (kindOf e = kind ∧ FitsSchema e) ∧ AllFit kind es

def FieldsFit (kind : ElementKind) : List (String × Part) → Prop
  | [] => True
  | (key, part) :: fields => PartFits kind key part ∧ FieldsFit kind fields

end

/-! ## Dropping the ids of the arguments -/

mutual

/-- The element without the ids of its arguments; the fields under the keys `kept` stay as they
are. -/
def dropIds (kept : List String) : Element → Element
  | .mk kind id fields => .mk kind (if kind = .argument then none else id) (dropFieldIds kept fields)

def dropPartIds (kept : List String) : Part → Part
  | .data v => .data v
  | .reference id => .reference id
  | .element e => .element (dropIds kept e)
  | .elements es => .elements (dropListIds kept es)

def dropListIds (kept : List String) : List Element → List Element
  | [] => []
  | e :: es => dropIds kept e :: dropListIds kept es

def dropFieldIds (kept : List String) : List (String × Part) → List (String × Part)
  | [] => []
  | (key, part) :: fields =>
    (key, if key ∈ kept then part else dropPartIds kept part) :: dropFieldIds kept fields

end

mutual

/-- What the fields under a key hold, anywhere in an element. -/
def partsUnder (key : String) : Element → List Part
  | .mk _ _ fields => fieldsUnder key fields

def partUnder (key : String) : Part → List Part
  | .data _ | .reference _ => []
  | .element e => partsUnder key e
  | .elements es => listUnder key es

def listUnder (key : String) : List Element → List Part
  | [] => []
  | e :: es => partsUnder key e ++ listUnder key es

def fieldsUnder (key : String) : List (String × Part) → List Part
  | [] => []
  | (k, part) :: fields =>
    (if k = key then [part] else partUnder key part) ++ fieldsUnder key fields

end

/-- The export is right: it ends without an exception, what is left is the playbook without the
ids of its arguments, and another export changes nothing. -/
def StripsIds (playbook : Element) : Prop :=
  ∃ result, stripArgumentIds playbook.json = .ok result ∧
    result = (dropIds [] playbook).json ∧ stripArgumentIds result = .ok result

/-! ## Ids in trees -/

section Ids

variable {kept : List String}

mutual

/-- Without the ids of its arguments, an element has none of them. -/
theorem argumentIds_dropIds : ∀ e : Element, elementIds [.argument] (dropIds [] e) = []
  | .mk kind id fields => by
    rw [dropIds, elementIds, argumentIds_dropFieldIds fields, List.append_nil]
    by_cases hkind : kind = .argument
    · rw [if_pos hkind]
      split <;> rfl
    · rw [if_neg hkind, if_neg (fun h => hkind (List.mem_singleton.mp h))]

/-- The same of a part. -/
theorem argumentIds_dropPartIds : ∀ part : Part, partIds [.argument] (dropPartIds [] part) = []
  | .data _ => rfl
  | .reference _ => rfl
  | .element e => by rw [dropPartIds, partIds, argumentIds_dropIds e]
  | .elements es => by rw [dropPartIds, partIds, argumentIds_dropListIds es]

/-- The same of a list of elements. -/
theorem argumentIds_dropListIds : ∀ es : List Element, listIds [.argument] (dropListIds [] es) = []
  | [] => rfl
  | e :: es => by
    rw [dropListIds, listIds, argumentIds_dropIds e, argumentIds_dropListIds es, List.append_nil]

/-- The same of fields. -/
theorem argumentIds_dropFieldIds : ∀ fields : List (String × Part),
    fieldIds [.argument] (dropFieldIds [] fields) = []
  | [] => rfl
  | (key, part) :: fields => by
    rw [dropFieldIds, fieldIds, if_neg List.not_mem_nil, argumentIds_dropPartIds part,
      argumentIds_dropFieldIds fields, List.append_nil]

end

mutual

/-- An element without ids of arguments has none to drop. -/
theorem dropIds_eq_self : ∀ e : Element, elementIds [.argument] e = [] → dropIds kept e = e
  | .mk kind id fields, h => by
    rw [elementIds, List.append_eq_nil_iff] at h
    rw [dropIds, dropFieldIds_eq_self fields h.2]
    by_cases hkind : kind = .argument
    · have hid := h.1
      rw [if_pos (List.mem_singleton.mpr hkind), Option.toList_eq_nil_iff] at hid
      rw [if_pos hkind, hid]
    · rw [if_neg hkind]

/-- A part without ids of arguments loses nothing. -/
theorem dropPartIds_eq_self : ∀ part : Part, partIds [.argument] part = [] →
    dropPartIds kept part = part
  | .data _, _ => rfl
  | .reference _, _ => rfl
  | .element e, h => by rw [dropPartIds, dropIds_eq_self e h]
  | .elements es, h => by rw [dropPartIds, dropListIds_eq_self es h]

/-- The same of a list of elements. -/
theorem dropListIds_eq_self : ∀ es : List Element, listIds [.argument] es = [] →
    dropListIds kept es = es
  | [], _ => rfl
  | e :: es, h => by
    rw [listIds, List.append_eq_nil_iff] at h
    rw [dropListIds, dropIds_eq_self e h.1, dropListIds_eq_self es h.2]

/-- The same of fields. -/
theorem dropFieldIds_eq_self : ∀ fields : List (String × Part), fieldIds [.argument] fields = [] →
    dropFieldIds kept fields = fields
  | [], _ => rfl
  | (key, part) :: fields, h => by
    rw [fieldIds, List.append_eq_nil_iff] at h
    rw [dropFieldIds, dropPartIds_eq_self part h.1, dropFieldIds_eq_self fields h.2, ite_self]

end

mutual

/-- What is dropped in two goes is dropped in one. -/
theorem dropIds_dropIds : ∀ e : Element, dropIds [] (dropIds kept e) = dropIds [] e
  | .mk kind id fields => by
    rw [dropIds, dropIds, dropIds, dropFieldIds_dropFieldIds fields]
    split <;> rfl

/-- Dropping all ids of a part does not need some dropped before. -/
theorem dropPartIds_dropPartIds : ∀ part : Part,
    dropPartIds [] (dropPartIds kept part) = dropPartIds [] part
  | .data _ => rfl
  | .reference _ => rfl
  | .element e => by rw [dropPartIds, dropPartIds, dropPartIds, dropIds_dropIds e]
  | .elements es => by rw [dropPartIds, dropPartIds, dropPartIds, dropListIds_dropListIds es]

/-- The same of a list of elements. -/
theorem dropListIds_dropListIds : ∀ es : List Element,
    dropListIds [] (dropListIds kept es) = dropListIds [] es
  | [] => rfl
  | e :: es => by
    rw [dropListIds, dropListIds, dropListIds, dropIds_dropIds e, dropListIds_dropListIds es]

/-- The same of fields. -/
theorem dropFieldIds_dropFieldIds : ∀ fields : List (String × Part),
    dropFieldIds [] (dropFieldIds kept fields) = dropFieldIds [] fields
  | [] => rfl
  | (key, part) :: fields => by
    rw [dropFieldIds, dropFieldIds, dropFieldIds, dropFieldIds_dropFieldIds fields,
      if_neg List.not_mem_nil, if_neg List.not_mem_nil]
    by_cases hkept : key ∈ kept
    · rw [if_pos hkept]
    · rw [if_neg hkept, dropPartIds_dropPartIds part]

end

mutual

/-- The ids of arguments that are left are those under the kept key. -/
theorem argumentIds_kept (key : String) : ∀ e : Element,
    elementIds [.argument] (dropIds [key] e) =
      (partsUnder key e).flatMap (partIds [.argument])
  | .mk kind id fields => by
    rw [dropIds, elementIds, partsUnder, fieldIds_kept key fields]
    by_cases hkind : kind = .argument
    · rw [if_pos hkind, Option.toList_none, ite_self, List.nil_append]
    · rw [if_neg (fun h => hkind (List.mem_singleton.mp h)), List.nil_append]

/-- The ids left in a part are those under the key that is kept. -/
theorem partIds_kept (key : String) : ∀ part : Part,
    partIds [.argument] (dropPartIds [key] part) =
      (partUnder key part).flatMap (partIds [.argument])
  | .data _ => rfl
  | .reference _ => rfl
  | .element e => by rw [dropPartIds, partIds, partUnder, argumentIds_kept key e]
  | .elements es => by rw [dropPartIds, partIds, partUnder, listIds_kept key es]

/-- The same of a list of elements. -/
theorem listIds_kept (key : String) : ∀ es : List Element,
    listIds [.argument] (dropListIds [key] es) =
      (listUnder key es).flatMap (partIds [.argument])
  | [] => rfl
  | e :: es => by
    rw [dropListIds, listIds, listUnder, List.flatMap_append, argumentIds_kept key e,
      listIds_kept key es]

/-- The same of fields. -/
theorem fieldIds_kept (key : String) : ∀ fields : List (String × Part),
    fieldIds [.argument] (dropFieldIds [key] fields) =
      (fieldsUnder key fields).flatMap (partIds [.argument])
  | [] => rfl
  | (k, part) :: fields => by
    rw [dropFieldIds, fieldIds, fieldsUnder, List.flatMap_append, fieldIds_kept key fields]
    by_cases hkey : k = key
    · rw [if_pos (List.mem_singleton.mpr hkey), if_pos hkey, List.flatMap_singleton]
    · rw [if_neg (fun h => hkey (List.mem_singleton.mp h)), if_neg hkey, partIds_kept key part]

end

/-- The JSON of fields has as many entries. -/
theorem length_jsonFields (fields : List (String × Part)) :
    (Element.jsonFields fields).length = fields.length := by
  induction fields with
  | nil => rfl
  | cons field fields ih => exact congrArg (· + 1) ih

/-- Dropping ids drops no fields. -/
theorem length_dropFieldIds (fields : List (String × Part)) :
    (dropFieldIds kept fields).length = fields.length := by
  induction fields with
  | nil => rfl
  | cons field fields ih => exact congrArg (· + 1) ih

mutual

/-- An element whose JSON has no id of an argument to drop has none. -/
theorem argumentIds_of_json_eq : ∀ e : Element, e.json = (dropIds [] e).json →
    elementIds [.argument] e = []
  | .mk kind id fields, h => by
    have hdict : (id.map fun v => ("id", v)).toList ++ Element.jsonFields fields =
        ((if kind = .argument then none else id).map fun v => ("id", v)).toList ++
          Element.jsonFields (dropFieldIds [] fields) := by
      rw [dropIds, Element.json, Element.json] at h
      exact PyVal.dict.inj h
    have hlength := congrArg List.length hdict
    rw [List.length_append, List.length_append, length_jsonFields, length_jsonFields,
      length_dropFieldIds] at hlength
    by_cases hkind : kind = .argument
    · rw [if_pos hkind] at hdict hlength
      cases hid : id with
      | some v =>
        rw [hid] at hlength
        simp at hlength
      | none =>
        rw [hid] at hdict
        rw [elementIds, fieldIds_of_json_eq fields hdict]
        simp
    · rw [if_neg hkind] at hdict
      rw [elementIds, if_neg (fun h => hkind (List.mem_singleton.mp h)),
        fieldIds_of_json_eq fields (List.append_cancel_left hdict)]
      rfl

/-- A part whose JSON stays the same had no ids of arguments. -/
theorem partIds_of_json_eq : ∀ part : Part, part.json = (dropPartIds [] part).json →
    partIds [.argument] part = []
  | .data _, _ => rfl
  | .reference _, _ => rfl
  | .element e, h => argumentIds_of_json_eq e h
  | .elements es, h => listIds_of_json_eq es (PyVal.list.inj h)

/-- The same of a list of elements. -/
theorem listIds_of_json_eq : ∀ es : List Element,
    Element.jsonList es = Element.jsonList (dropListIds [] es) → listIds [.argument] es = []
  | [], _ => rfl
  | e :: es, h => by
    obtain ⟨he, hes⟩ := List.cons.inj h
    rw [listIds, argumentIds_of_json_eq e he, listIds_of_json_eq es hes, List.append_nil]

/-- The same of fields. -/
theorem fieldIds_of_json_eq : ∀ fields : List (String × Part),
    Element.jsonFields fields = Element.jsonFields (dropFieldIds [] fields) →
      fieldIds [.argument] fields = []
  | [], _ => rfl
  | (key, part) :: fields, h => by
    obtain ⟨hpart, hfields⟩ := List.cons.inj h
    rw [fieldIds, partIds_of_json_eq part (Prod.mk.inj hpart).2, fieldIds_of_json_eq fields hfields,
      List.append_nil]

end

end Ids

/-! ## Documents, field by field -/

section Documents

variable {kept done : List String} {kind k : ElementKind} {key : String} {part : Part}
  {fields : List (String × Part)} {es : List Element}

/-- Fields fit a schema exactly if each does. -/
theorem fieldsFit_iff : FieldsFit kind fields ↔
    ∀ field ∈ fields, PartFits kind field.1 field.2 := by
  induction fields with
  | nil => exact ⟨fun _ _ h => (by cases h), fun _ => trivial⟩
  | cons field fields ih => rw [FieldsFit, ih, List.forall_mem_cons]

/-- Elements fit exactly if each is of the kind and fits. -/
theorem allFit_iff : AllFit kind es ↔ ∀ e ∈ es, kindOf e = kind ∧ FitsSchema e := by
  induction es with
  | nil => exact ⟨fun _ _ h => (by cases h), fun _ => trivial⟩
  | cons e es ih => rw [AllFit, ih, List.forall_mem_cons]

/-- A field for elements holds elements that fit. -/
theorem partFits_elements (hkey : fieldKind kind key = some (.elements k))
    (h : PartFits kind key part) : ∃ es, part = .elements es ∧ AllFit k es := by
  cases part with
  | data _ | reference _ =>
    rw [PartFits, hkey] at h
    cases h
  | element e =>
    rw [PartFits, hkey] at h
    cases h.1
  | elements es =>
    obtain ⟨k', hk, hes⟩ := h
    rw [hkey] at hk
    cases hk
    exact ⟨es, rfl, hes⟩

/-- A field for one element holds one that fits. -/
theorem partFits_element (hkey : fieldKind kind key = some (.element k))
    (h : PartFits kind key part) : ∃ e, part = .element e ∧ kindOf e = k ∧ FitsSchema e := by
  cases part with
  | data _ | reference _ =>
    rw [PartFits, hkey] at h
    cases h
  | element e =>
    rw [PartFits, hkey] at h
    exact ⟨e, rfl, (FieldKind.element.inj (Option.some.inj h.1)).symm, h.2⟩
  | elements es =>
    obtain ⟨k', hk, -⟩ := h
    rw [hkey] at hk
    cases hk

/-- The key of a field with elements is one of the schema's. -/
theorem partFits_cases (kept : List String) (h : PartFits kind key part) :
    (dropPartIds kept part = part ∧ ∀ other, partUnder other part = []) ∨
      ∃ k, (key, .element k) ∈ schemaFields kind ∨ (key, .elements k) ∈ schemaFields kind := by
  cases part with
  | data _ | reference _ => exact .inl ⟨rfl, fun _ => rfl⟩
  | element e => exact .inr ⟨_, .inl (OrderedDict.mem_of_get? h.1)⟩
  | elements es =>
    obtain ⟨k, hk, -⟩ := h
    exact .inr ⟨k, .inr (OrderedDict.mem_of_get? hk)⟩

/-- The key of a field is one of the schema's. -/
theorem content_of_fits (h : PartFits kind key part) :
    ∃ content, fieldKind kind key = some content := by
  cases part with
  | data _ | reference _ => exact ⟨_, h⟩
  | element e => exact ⟨_, h.1⟩
  | elements es =>
    obtain ⟨k, hk, -⟩ := h
    exact ⟨_, hk⟩

/-- No field of a schema is the id. -/
theorem key_ne_id (h : PartFits kind key part) : key ≠ "id" := by
  rintro rfl
  obtain ⟨content, hcontent⟩ := content_of_fits h
  have hnone : fieldKind kind "id" = none := by cases kind <;> rfl
  rw [hnone] at hcontent
  cases hcontent

/-- The ids are dropped element by element. -/
theorem dropListIds_eq_map (es : List Element) : dropListIds kept es = es.map (dropIds kept) := by
  induction es with
  | nil => rfl
  | cons e es ih => exact congrArg (dropIds kept e :: ·) ih

/-- A loop over elements drops ids where each step does. -/
theorem eachOf_elements {f : PyVal → Except Exn PyVal}
    (h : ∀ e ∈ es, f e.json = .ok (dropIds kept e).json) :
    eachOf f (Part.elements es).json = .ok (dropPartIds kept (.elements es)).json := by
  have hes : (Element.jsonList es).mapM f = .ok (Element.jsonList (dropListIds kept es)) := by
    induction es with
    | nil => rfl
    | cons e es ih =>
      obtain ⟨he, hrest⟩ := List.forall_mem_cons.mp h
      exact Except.mapM_cons_ok he (ih hrest)
  show (do pure (PyVal.list (← (Element.jsonList es).mapM f)) : Except Exn PyVal) = _
  rw [hes]
  rfl

/-- The fields after the ids have been dropped under some keys. -/
def dropIn (kept done : List String) (fields : List (String × Part)) : List (String × Part) :=
  fields.map fun field =>
    (field.1, if field.1 ∈ done then dropPartIds kept field.2 else field.2)

/-- Under no keys, nothing is dropped. -/
theorem dropIn_nil : dropIn kept [] fields = fields := by
  unfold dropIn
  simp only [List.not_mem_nil, if_false, Prod.mk.eta, List.map_id']

/-- A step at one key drops the ids under it. -/
theorem inField_json (kind : ElementKind) (id : Option PyVal) {f : PyVal → Except Exn PyVal}
    (hid : key ≠ "id")
    (hdone : key ∉ done)
    (h : ∀ field ∈ fields, field.1 = key → f field.2.json = .ok (dropPartIds kept field.2).json) :
    inField key f (Element.mk kind id (dropIn kept done fields)).json =
      .ok (Element.mk kind id (dropIn kept (key :: done) fields)).json := by
  have hfields : (Element.jsonFields (dropIn kept done fields)).mapM (inItem key f) =
      .ok (Element.jsonFields (dropIn kept (key :: done) fields)) := by
    induction fields with
    | nil => rfl
    | cons field fields ih =>
      obtain ⟨hfield, hrest⟩ := List.forall_mem_cons.mp h
      refine Except.mapM_cons_ok ?_ (ih hrest)
      rw [inItem]
      by_cases hkey : field.1 = key
      · have hnot : field.1 ∉ done := hkey ▸ hdone
        rw [if_pos hkey, if_neg hnot, if_pos (hkey ▸ List.mem_cons_self), hfield hkey]
        rfl
      · have hcons : field.1 ∈ key :: done ↔ field.1 ∈ done := by
          simp only [List.mem_cons, hkey, false_or]
        rw [if_neg hkey, if_congr hcons rfl rfl]
        rfl
  have hhead : (id.map fun v => ("id", v)).toList.mapM (inItem key f) =
      .ok (id.map fun v => ("id", v)).toList := by
    refine Except.mapM_eq_self fun item hitem => ?_
    cases id with
    | none => cases hitem
    | some v =>
      rw [List.mem_singleton.mp hitem, inItem, if_neg (Ne.symm hid)]
      rfl
  show (do pure (PyVal.dict (← ((id.map fun v => ("id", v)).toList ++
    Element.jsonFields (dropIn kept done fields)).mapM (inItem key f))) : Except Exn PyVal) = _
  rw [List.mapM_append, hhead, hfields]
  rfl

/-- All ids are dropped when they are under the keys with elements. -/
theorem dropIn_eq (hkept : ∀ key ∈ kept, key ∉ done)
    (h : ∀ field ∈ fields, field.1 ∉ kept → field.1 ∉ done → dropPartIds kept field.2 = field.2) :
    dropIn kept done fields = dropFieldIds kept fields := by
  induction fields with
  | nil => rfl
  | cons field fields ih =>
    obtain ⟨hfield, hrest⟩ := List.forall_mem_cons.mp h
    obtain ⟨key, part⟩ := field
    rw [dropFieldIds, ← ih hrest]
    show (key, if key ∈ done then dropPartIds kept part else part) :: dropIn kept done fields = _
    by_cases hk : key ∈ kept
    · rw [if_pos hk, if_neg (hkept key hk)]
    · rw [if_neg hk]
      by_cases hd : key ∈ done
      · rw [if_pos hd]
      · rw [if_neg hd, hfield hk hd]

/-- Dropping ids keeps the kind. -/
theorem kindOf_dropIds (e : Element) : kindOf (dropIds kept e) = kindOf e := by
  cases e with
  | mk kind id fields => rfl

end Documents

/-! ## The steps of the export -/

section Steps

variable {kept : List String}

/-- A document without fields that hold elements. -/
theorem dropFieldIds_of_data {kind : ElementKind} {fields : List (String × Part)}
    (h : FieldsFit kind fields)
    (hdata : ∀ key k, (key, FieldKind.element k) ∉ schemaFields kind ∧
      (key, FieldKind.elements k) ∉ schemaFields kind) :
    dropFieldIds kept fields = fields ∧ ∀ other, fieldsUnder other fields =
      (fields.filter (·.1 = other)).map Prod.snd := by
  induction fields with
  | nil => exact ⟨rfl, fun _ => rfl⟩
  | cons field fields ih =>
    obtain ⟨key, part⟩ := field
    obtain ⟨hpart, hfields⟩ := h
    obtain ⟨hdrop, hunder⟩ := ih hfields
    rcases partFits_cases kept hpart with ⟨hsame, hnone⟩ | ⟨k, hk | hk⟩
    · refine ⟨by rw [dropFieldIds, hdrop, hsame, ite_self], fun other => ?_⟩
      rw [fieldsUnder, hunder, hnone]
      by_cases hother : key = other
      · rw [if_pos hother, List.filter_cons_of_pos (by simpa using hother)]
        rfl
      · rw [if_neg hother, List.filter_cons_of_neg (by simpa using hother)]
        rfl
    · exact absurd hk (hdata key k).1
    · exact absurd hk (hdata key k).2

/-- Popping the id of an argument drops it. -/
theorem popEntry_argument {a : Element} (hkind : kindOf a = .argument) (h : FitsSchema a) :
    popEntry "id" a.json = .ok (dropIds kept a).json := by
  obtain ⟨kind, id, fields⟩ := a
  obtain rfl : kind = .argument := hkind
  have hfields : dropFieldIds kept fields = fields :=
    (dropFieldIds_of_data h fun key k => by simp [schemaFields]).1
  have hkeys : ∀ item ∈ Element.jsonFields fields, item.1 ≠ "id" := by
    intro item hitem
    induction fields with
    | nil => cases hitem
    | cons field fields ih =>
      obtain ⟨hpart, hrest⟩ := h
      rcases List.mem_cons.mp hitem with rfl | hmem
      · exact key_ne_id hpart
      · refine ih hrest ?_ hmem
        exact (dropFieldIds_of_data hrest fun key k => by simp [schemaFields]).1
  have hpop : OrderedDict.pop "id" ((id.map fun v => ("id", v)).toList ++
      Element.jsonFields fields) = Element.jsonFields fields := by
    have hhead : (id.map fun v => ("id", v)).toList.filter (fun item => item.1 ≠ "id") = [] := by
      cases id <;> simp
    rw [OrderedDict.pop, List.filter_append, hhead, List.nil_append, List.filter_eq_self]
    intro item hitem
    simpa using hkeys item hitem
  rw [dropIds, if_pos rfl, hfields]
  show Except.ok (PyVal.dict (OrderedDict.pop "id" ((id.map fun v => ("id", v)).toList ++
    Element.jsonFields fields))) = _
  rw [hpop]
  rfl

/-- Stripping an action drops all its ids but those under its trigger. -/
theorem stripAction_json {a : Element} (hkind : kindOf a = .action) (h : FitsSchema a) :
    stripArgumentIdsFromAction a.json = .ok (dropIds ["trigger"] a).json := by
  obtain ⟨kind, id, fields⟩ := a
  obtain rfl : kind = .action := hkind
  have hfits := fieldsFit_iff.mp h
  have harguments : ∀ field ∈ fields, field.1 = "arguments" →
      eachOf (popEntry "id") field.2.json = .ok (dropPartIds ["trigger"] field.2).json := by
    intro field hfield hkey
    have hpart := hfits field hfield
    rw [hkey] at hpart
    obtain ⟨es, hes, hall⟩ := partFits_elements (k := .argument) rfl hpart
    rw [hes]
    exact eachOf_elements fun e he =>
      popEntry_argument (allFit_iff.mp hall e he).1 (allFit_iff.mp hall e he).2
  have hdevice : ∀ field ∈ fields, field.1 = "device_id" →
      popEntry "id" field.2.json = .ok (dropPartIds ["trigger"] field.2).json := by
    intro field hfield hkey
    have hpart := hfits field hfield
    rw [hkey] at hpart
    obtain ⟨e, he, hargument, hfit⟩ := partFits_element (k := .argument) rfl hpart
    rw [he]
    exact popEntry_argument hargument hfit
  have hrest : ∀ field ∈ fields, field.1 ∉ ["trigger"] → field.1 ∉ ["device_id", "arguments"] →
      dropPartIds ["trigger"] field.2 = field.2 := by
    intro field hfield htrigger hdone
    rcases partFits_cases ["trigger"] (hfits field hfield) with ⟨hsame, -⟩ | ⟨k, hk⟩
    · exact hsame
    · simp only [schemaFields, List.mem_cons, Prod.mk.injEq, List.not_mem_nil] at hk htrigger hdone
      simp_all
  have hfirst := inField_json .action id (by decide) List.not_mem_nil harguments
  have hsecond := inField_json .action id (by decide)
    (by decide : "device_id" ∉ ["arguments"]) hdevice
  rw [dropIn_nil] at hfirst
  rw [dropIn_eq (by decide) hrest] at hsecond
  show (stripArgumentIdsFromElement _ >>= fun action => inField "device_id" (popEntry "id") action) = _
  rw [stripArgumentIdsFromElement, hfirst]
  exact hsecond

/-- What an entry of an element's JSON holds. -/
theorem get?_json (key : String) (hkey : key ≠ "id") (id : Option PyVal)
    (fields : List (String × Part)) :
    OrderedDict.get? key ((id.map fun v => ("id", v)).toList ++ Element.jsonFields fields) =
      (OrderedDict.get? key fields).map Part.json := by
  have hfields : OrderedDict.get? key (Element.jsonFields fields) =
      (OrderedDict.get? key fields).map Part.json := by
    induction fields with
    | nil => rfl
    | cons field fields ih =>
      obtain ⟨k, part⟩ := field
      rw [Element.jsonFields, OrderedDict.get?, OrderedDict.get?, ih]
      split <;> rfl
  cases id with
  | none => exact hfields
  | some v =>
    show OrderedDict.get? key (("id", v) :: Element.jsonFields fields) = _
    rw [OrderedDict.get?, if_neg (Ne.symm hkey), hfields]

/-- Where `fieldsUnder` is asked for a key of the schema itself. -/
theorem get?_eq_none_of_fieldsUnder {key : String} {fields : List (String × Part)}
    (h : fieldsUnder key fields = []) : OrderedDict.get? key fields = none := by
  induction fields with
  | nil => rfl
  | cons field fields ih =>
    obtain ⟨k, part⟩ := field
    rw [fieldsUnder, List.append_eq_nil_iff] at h
    have hk : k ≠ key := fun hk => by
      rw [if_pos hk] at h
      cases h.1
    rw [OrderedDict.get?, if_neg hk]
    exact ih h.2

/-- A branch without a condition stays as it is. -/
theorem stripBranch_of_none {items : OrderedDict String PyVal}
    (h : OrderedDict.get? "condition" items = none) :
    stripArgumentIdsFromBranch (.dict items) = .ok (.dict items) := by
  rw [stripArgumentIdsFromBranch, h]
  rfl

/-- A branch with a condition raises `KeyError` at `conditional`. -/
theorem stripBranch_of_some {items : OrderedDict String PyVal} {v : PyVal}
    (h : OrderedDict.get? "condition" items = some v)
    (hconditional : OrderedDict.get? "conditional" items = none) :
    stripArgumentIdsFromBranch (.dict items) = .error .keyError := by
  rw [stripArgumentIdsFromBranch, h]
  simp only [hconditional]
  rfl

/-- A branch without a condition has data only. -/
theorem branch_of_get?_none (kept : List String) {fields : List (String × Part)} (h : FieldsFit .branch fields)
    (hget : OrderedDict.get? "condition" fields = none) :
    fieldsUnder "condition" fields = [] ∧ dropFieldIds kept fields = fields := by
  induction fields with
  | nil => exact ⟨rfl, rfl⟩
  | cons field fields ih =>
    obtain ⟨key, part⟩ := field
    have hkey : key ≠ "condition" := fun hkey => by
      rw [OrderedDict.get?, if_pos hkey] at hget
      cases hget
    rw [OrderedDict.get?, if_neg hkey] at hget
    obtain ⟨hunder, hdrop⟩ := ih h.2 hget
    rcases partFits_cases kept h.1 with ⟨hsame, hnone⟩ | ⟨k, hk⟩
    · refine ⟨?_, by rw [dropFieldIds, hdrop, hsame, ite_self]⟩
      rw [fieldsUnder, if_neg hkey, hnone, hunder]
      rfl
    · simp [schemaFields, hkey] at hk

/-- Fields that fit have no key outside their schema. -/
theorem get?_eq_none_of_fieldKind {key : String} {kind : ElementKind}
    {fields : List (String × Part)} (h : FieldsFit kind fields)
    (hkey : fieldKind kind key = none) : OrderedDict.get? key fields = none := by
  rw [OrderedDict.get?_eq_none_iff]
  intro hmem
  obtain ⟨field, hfield, rfl⟩ := List.mem_map.mp hmem
  obtain ⟨content, hcontent⟩ := content_of_fits (fieldsFit_iff.mp h field hfield)
  rw [hkey] at hcontent
  cases hcontent

/-- A branch of a document is left alone if it has no condition, and refused if it has one. -/
theorem stripBranch_json {b : Element} (hkind : kindOf b = .branch) (h : FitsSchema b) :
    stripArgumentIdsFromBranch b.json = if partsUnder "condition" b = []
      then .ok (dropIds ["trigger"] b).json else .error .keyError := by
  obtain ⟨kind, id, fields⟩ := b
  obtain rfl : kind = .branch := hkind
  have hcondition := get?_json "condition" (by decide) id fields
  cases hget : OrderedDict.get? "condition" fields with
  | none =>
    obtain ⟨hunder, hdrop⟩ := branch_of_get?_none ["trigger"] h hget
    rw [partsUnder, if_pos hunder, dropIds, if_neg (by decide), hdrop]
    rw [hget] at hcondition
    exact stripBranch_of_none hcondition
  | some part =>
    have hunder : fieldsUnder "condition" fields ≠ [] := fun hunder => by
      rw [get?_eq_none_of_fieldsUnder hunder] at hget
      cases hget
    have hconditional := get?_json "conditional" (by decide) id fields
    rw [get?_eq_none_of_fieldKind h rfl] at hconditional
    rw [hget] at hcondition
    rw [partsUnder, if_neg hunder]
    exact stripBranch_of_some hcondition hconditional

/-- Nothing is under a key in fields exactly if nothing is in each. -/
theorem fieldsUnder_eq_nil_iff {key : String} {fields : List (String × Part)} :
    fieldsUnder key fields = [] ↔
      ∀ field ∈ fields, field.1 ≠ key ∧ partUnder key field.2 = [] := by
  induction fields with
  | nil => exact ⟨fun _ _ h => (by cases h), fun _ => rfl⟩
  | cons field fields ih =>
    rw [List.forall_mem_cons, ← ih, fieldsUnder, List.append_eq_nil_iff]
    refine and_congr ?_ Iff.rfl
    by_cases hkey : field.1 = key
    · rw [if_pos hkey]
      exact ⟨fun h => (by cases h), fun h => absurd hkey h.1⟩
    · rw [if_neg hkey]
      exact ⟨fun h => ⟨hkey, h⟩, And.right⟩

/-- Nothing is under a key in a list exactly if nothing is in each element. -/
theorem listUnder_eq_nil_iff {key : String} {es : List Element} :
    listUnder key es = [] ↔ ∀ e ∈ es, partsUnder key e = [] := by
  induction es with
  | nil => exact ⟨fun _ _ h => (by cases h), fun _ => rfl⟩
  | cons e es ih => rw [List.forall_mem_cons, ← ih, listUnder, List.append_eq_nil_iff]

/-- The schemas that no branch is part of. -/
def belowBranch : ElementKind → Bool
  | .playbook | .workflow | .branch => false
  | _ => true

/-- The schema of the elements of a field. -/
def FieldKind.inner : FieldKind → Option ElementKind
  | .data => none
  | .element k | .elements k => some k

/-- Schemas below a branch have no field `condition` and lead to such schemas only. -/
theorem belowBranch_fields {kind : ElementKind} (h : belowBranch kind = true) :
    ∀ entry ∈ schemaFields kind,
      entry.1 ≠ "condition" ∧ entry.2.inner.all belowBranch = true := by
  cases kind with
  | playbook | workflow | branch => cases h
  | _ => decide

/-- A field below a branch is not the condition of one. -/
theorem key_ne_condition {kind : ElementKind} {key : String} {part : Part}
    (h : belowBranch kind = true) (hpart : PartFits kind key part) : key ≠ "condition" := by
  obtain ⟨content, hcontent⟩ := content_of_fits hpart
  exact (belowBranch_fields h _ (OrderedDict.mem_of_get? hcontent)).1

mutual

/-- Conditions of branches are under branches only. -/
theorem noCondition : ∀ e : Element, FitsSchema e → belowBranch (kindOf e) = true →
    partsUnder "condition" e = []
  | .mk _ _ fields, h, hbelow => noConditionFields fields h hbelow

/-- A part below a branch has nothing under `condition`. -/
theorem noConditionPart {kind : ElementKind} {key : String}
    (hbelow : ∀ content, (key, content) ∈ schemaFields kind →
      content.inner.all belowBranch = true) :
    ∀ part : Part, PartFits kind key part → partUnder "condition" part = []
  | .data _, _ => rfl
  | .reference _, _ => rfl
  | .element e, h => noCondition e h.2 (hbelow _ (OrderedDict.mem_of_get? h.1))
  | .elements es, h => by
    obtain ⟨k, hk, hes⟩ := h
    exact noConditionList es hes (hbelow _ (OrderedDict.mem_of_get? hk))

/-- The same of a list of elements. -/
theorem noConditionList {kind : ElementKind} : ∀ es : List Element, AllFit kind es →
    belowBranch kind = true → listUnder "condition" es = []
  | [], _, _ => rfl
  | e :: es, h, hbelow => by
    rw [listUnder, noCondition e h.1.2 (by rw [h.1.1]; exact hbelow),
      noConditionList es h.2 hbelow]
    rfl

/-- The same of fields. -/
theorem noConditionFields {kind : ElementKind} : ∀ fields : List (String × Part),
    FieldsFit kind fields → belowBranch kind = true → fieldsUnder "condition" fields = []
  | [], _, _ => rfl
  | (key, part) :: fields, h, hbelow => by
    rw [fieldsUnder, if_neg (key_ne_condition hbelow h.1), noConditionPart (fun content hcontent =>
        (belowBranch_fields hbelow _ hcontent).2) part h.1, noConditionFields fields h.2 hbelow]
    rfl

end

/-- The JSON of a field is among that of its fields. -/
theorem mem_jsonFields {field : String × Part} {fields : List (String × Part)}
    (h : field ∈ fields) : (field.1, field.2.json) ∈ Element.jsonFields fields := by
  induction fields with
  | nil => cases h
  | cons head fields ih =>
    rcases List.mem_cons.mp h with rfl | h
    · exact List.mem_cons_self
    · exact List.mem_cons_of_mem _ (ih h)

/-- A step at a key that ends has ended on what is there. -/
theorem inField_ok {f : PyVal → Except Exn PyVal} {kind : ElementKind} {id : Option PyVal}
    {field : String × Part} {fields : List (String × Part)} {r : PyVal}
    (hok : inField field.1 f (Element.mk kind id fields).json = .ok r) (hfield : field ∈ fields) :
    ∃ v, f field.2.json = .ok v := by
  obtain ⟨items, hitems, -⟩ := Except.bind_eq_ok.mp hok
  obtain ⟨item, hitem⟩ := Except.ok_of_mem_mapM hitems
    (List.mem_append_right _ (mem_jsonFields hfield))
  rw [inItem, if_pos rfl] at hitem
  obtain ⟨v, hv, -⟩ := Except.bind_eq_ok.mp hitem
  exact ⟨v, hv⟩

/-- The JSON of an element is among that of its list. -/
theorem mem_jsonList {e : Element} {es : List Element} (h : e ∈ es) :
    e.json ∈ Element.jsonList es := by
  induction es with
  | nil => cases h
  | cons head es ih =>
    rcases List.mem_cons.mp h with rfl | h
    · exact List.mem_cons_self
    · exact List.mem_cons_of_mem _ (ih h)

/-- Where the whole list goes through, each element does. -/
theorem eachOf_ok {f : PyVal → Except Exn PyVal} {es : List Element} {r : PyVal}
    (hok : eachOf f (Part.elements es).json = .ok r) : ∀ e ∈ es, ∃ v, f e.json = .ok v := by
  obtain ⟨xs, hxs, -⟩ := Except.bind_eq_ok.mp hok
  exact fun e he => Except.ok_of_mem_mapM hxs (mem_jsonList he)

/-- The elements of the schema of environment variables have no arguments. -/
theorem dropIds_variable {e : Element} (hkind : kindOf e = .environmentVariable) (h : FitsSchema e) :
    dropIds kept e = e := by
  obtain ⟨kind, id, fields⟩ := e
  obtain rfl : kind = .environmentVariable := hkind
  rw [dropIds, (dropFieldIds_of_data h fun key k => by simp [schemaFields]).1]
  rfl

/-- The actions of a workflow are stripped of all ids but those under their triggers. -/
theorem workflow_actions (id : Option PyVal) {fields : List (String × Part)}
    (h : FieldsFit .workflow fields) :
    inField "actions" (eachOf stripArgumentIdsFromAction) (Element.mk .workflow id fields).json =
      .ok (Element.mk .workflow id (dropIn ["trigger"] ["actions"] fields)).json := by
  have hactions : ∀ field ∈ fields, field.1 = "actions" →
      eachOf stripArgumentIdsFromAction field.2.json =
        .ok (dropPartIds ["trigger"] field.2).json := by
    intro field hfield hkey
    have hpart := fieldsFit_iff.mp h field hfield
    rw [hkey] at hpart
    obtain ⟨es, hes, hall⟩ := partFits_elements (k := .action) rfl hpart
    rw [hes]
    exact eachOf_elements fun e he =>
      stripAction_json (allFit_iff.mp hall e he).1 (allFit_iff.mp hall e he).2
  have hfirst := inField_json .workflow id (by decide) List.not_mem_nil hactions
  rw [dropIn_nil] at hfirst
  exact hfirst

/-- A workflow without conditions is stripped of all ids but those under its triggers. -/
theorem stripWorkflow_json {w : Element} (hkind : kindOf w = .workflow) (h : FitsSchema w)
    (hnone : partsUnder "condition" w = []) :
    stripArgumentIdsFromWorkflow w.json = .ok (dropIds ["trigger"] w).json := by
  obtain ⟨kind, id', fields⟩ := w
  obtain rfl : kind = .workflow := hkind
  have hfits := fieldsFit_iff.mp h
  have hunder := fieldsUnder_eq_nil_iff.mp hnone
  have hbranches : ∀ field ∈ fields, field.1 = "branches" →
      eachOf stripArgumentIdsFromBranch field.2.json =
        .ok (dropPartIds ["trigger"] field.2).json := by
    intro field hfield hkey
    have hpart := hfits field hfield
    rw [hkey] at hpart
    obtain ⟨es, hes, hall⟩ := partFits_elements (k := .branch) rfl hpart
    have hlist := (hunder field hfield).2
    rw [hes] at hlist ⊢
    refine eachOf_elements fun e he => ?_
    obtain ⟨hbranch, hfit⟩ := allFit_iff.mp hall e he
    rw [stripBranch_json hbranch hfit, if_pos (listUnder_eq_nil_iff.mp hlist e he)]
  have hrest : ∀ field ∈ fields, field.1 ∉ ["trigger"] → field.1 ∉ ["branches", "actions"] →
      dropPartIds ["trigger"] field.2 = field.2 := by
    intro field hfield _ hdone
    rcases partFits_cases ["trigger"] (hfits field hfield) with ⟨hsame, -⟩ | ⟨k, hk⟩
    · exact hsame
    · have hpart := hfits field hfield
      have hkey : field.1 = "environment_variables" := by
        simp only [schemaFields, List.mem_cons, Prod.mk.injEq, List.not_mem_nil] at hk hdone
        simp_all
      rw [hkey] at hpart
      obtain ⟨es, hes, hall⟩ := partFits_elements (k := .environmentVariable) rfl hpart
      have hsame : es.map (dropIds ["trigger"]) = es.map id :=
        List.map_congr_left fun e he =>
          dropIds_variable (allFit_iff.mp hall e he).1 (allFit_iff.mp hall e he).2
      rw [hes, dropPartIds, dropListIds_eq_map, hsame, List.map_id]
  have hsecond := inField_json .workflow id' (by decide)
    (by decide : "branches" ∉ ["actions"]) hbranches
  rw [dropIn_eq (by decide) hrest] at hsecond
  show (inField "actions" (eachOf stripArgumentIdsFromAction) _ >>= fun workflow =>
    inField "branches" (eachOf stripArgumentIdsFromBranch) workflow) = _
  rw [workflow_actions id' h]
  exact hsecond

/-- A workflow that ends has no branch with a condition. -/
theorem noCondition_of_stripWorkflow {w : Element} (hkind : kindOf w = .workflow) (h : FitsSchema w)
    {r : PyVal} (hok : stripArgumentIdsFromWorkflow w.json = .ok r) :
    partsUnder "condition" w = [] := by
  obtain ⟨kind, id, fields⟩ := w
  obtain rfl : kind = .workflow := hkind
  obtain ⟨actions, hactions, hbranches⟩ := Except.bind_eq_ok.mp hok
  rw [workflow_actions id h] at hactions
  cases hactions
  refine fieldsUnder_eq_nil_iff.mpr fun field hfield => ?_
  have hpart := fieldsFit_iff.mp h field hfield
  have hcondition : field.1 ≠ "condition" := fun hkey => by
    obtain ⟨content, hcontent⟩ := content_of_fits hpart
    rw [hkey] at hcontent
    cases hcontent
  refine ⟨hcondition, ?_⟩
  by_cases hkey : field.1 = "branches"
  · rw [hkey] at hpart
    obtain ⟨es, hes, hall⟩ := partFits_elements (k := .branch) rfl hpart
    have hmem : (field.1, if field.1 ∈ ["actions"] then dropPartIds ["trigger"] field.2
        else field.2) ∈ dropIn ["trigger"] ["actions"] fields := List.mem_map_of_mem hfield
    rw [hkey, if_neg (by decide), hes] at hmem
    obtain ⟨v, hv⟩ := inField_ok hbranches hmem
    rw [hes]
    refine listUnder_eq_nil_iff.mpr fun e he => ?_
    obtain ⟨x, hx⟩ := eachOf_ok hv e he
    obtain ⟨hbranch, hfit⟩ := allFit_iff.mp hall e he
    by_contra hsome
    rw [stripBranch_json hbranch hfit, if_neg hsome] at hx
    cases hx
  · have hothers : ∀ entry ∈ schemaFields .workflow, entry.1 ≠ "branches" →
        entry.2.inner.all belowBranch = true := by decide
    exact noConditionPart (fun content hcontent => hothers _ hcontent hkey) field.2 hpart

/-- A playbook ends if no branch has a condition. -/
theorem stripPlaybook_json {e : Element} (hkind : kindOf e = .playbook) (h : FitsSchema e)
    (hnone : partsUnder "condition" e = []) :
    stripArgumentIds e.json = .ok (dropIds ["trigger"] e).json := by
  obtain ⟨kind, id, fields⟩ := e
  obtain rfl : kind = .playbook := hkind
  have hfits := fieldsFit_iff.mp h
  have hunder := fieldsUnder_eq_nil_iff.mp hnone
  have hworkflows : ∀ field ∈ fields, field.1 = "workflows" →
      eachOf stripArgumentIdsFromWorkflow field.2.json =
        .ok (dropPartIds ["trigger"] field.2).json := by
    intro field hfield hkey
    have hpart := hfits field hfield
    rw [hkey] at hpart
    obtain ⟨es, hes, hall⟩ := partFits_elements (k := .workflow) rfl hpart
    have hlist := (hunder field hfield).2
    rw [hes] at hlist ⊢
    refine eachOf_elements fun w hw => ?_
    obtain ⟨hworkflow, hfit⟩ := allFit_iff.mp hall w hw
    exact stripWorkflow_json hworkflow hfit (listUnder_eq_nil_iff.mp hlist w hw)
  have hrest : ∀ field ∈ fields, field.1 ∉ ["trigger"] → field.1 ∉ ["workflows"] →
      dropPartIds ["trigger"] field.2 = field.2 := by
    intro field hfield _ hdone
    rcases partFits_cases ["trigger"] (hfits field hfield) with ⟨hsame, -⟩ | ⟨k, hk⟩
    · exact hsame
    · simp only [schemaFields, List.mem_cons, Prod.mk.injEq, List.not_mem_nil] at hk hdone
      simp_all
  have hstep := inField_json .playbook id (by decide) List.not_mem_nil hworkflows
  rw [dropIn_nil, dropIn_eq (by decide) hrest] at hstep
  exact hstep

/-- A playbook that ends has no branch with a condition. -/
theorem noCondition_of_stripPlaybook {e : Element} (hkind : kindOf e = .playbook) (h : FitsSchema e)
    {r : PyVal} (hok : stripArgumentIds e.json = .ok r) : partsUnder "condition" e = [] := by
  obtain ⟨kind, id, fields⟩ := e
  obtain rfl : kind = .playbook := hkind
  refine fieldsUnder_eq_nil_iff.mpr fun field hfield => ?_
  have hpart := fieldsFit_iff.mp h field hfield
  have hcondition : field.1 ≠ "condition" := fun hkey => by
    obtain ⟨content, hcontent⟩ := content_of_fits hpart
    rw [hkey] at hcontent
    cases hcontent
  refine ⟨hcondition, ?_⟩
  by_cases hkey : field.1 = "workflows"
  · rw [hkey] at hpart
    obtain ⟨es, hes, hall⟩ := partFits_elements (k := .workflow) rfl hpart
    rw [stripArgumentIds, ← hkey] at hok
    obtain ⟨v, hv⟩ := inField_ok hok hfield
    rw [hes] at hv ⊢
    refine listUnder_eq_nil_iff.mpr fun w hw => ?_
    obtain ⟨x, hx⟩ := eachOf_ok hv w hw
    obtain ⟨hworkflow, hfit⟩ := allFit_iff.mp hall w hw
    exact noCondition_of_stripWorkflow hworkflow hfit hx
  · have hothers : ∀ entry ∈ schemaFields .playbook, entry.1 ≠ "workflows" →
        entry.2.inner.all belowBranch = true := by decide
    exact noConditionPart (fun content hcontent => hothers _ hcontent hkey) field.2 hpart

end Steps

/-! ## Stripped documents are documents -/

section Stripped

variable {kept : List String}

mutual

/-- Without the ids of its arguments, an element fits its schema as before. -/
theorem fits_dropIds : ∀ e : Element, FitsSchema e → FitsSchema (dropIds kept e)
  | .mk _ _ fields, h => fits_dropFieldIds fields h

/-- The same of a part. -/
theorem fits_dropPartIds {kind : ElementKind} {key : String} : ∀ part : Part,
    PartFits kind key part → PartFits kind key (dropPartIds kept part)
  | .data _, h => h
  | .reference _, h => h
  | .element e, h => ⟨by rw [kindOf_dropIds]; exact h.1, fits_dropIds e h.2⟩
  | .elements es, h => by
    obtain ⟨k, hk, hes⟩ := h
    exact ⟨k, hk, fits_dropListIds es hes⟩

/-- The same of a list of elements. -/
theorem fits_dropListIds {kind : ElementKind} : ∀ es : List Element, AllFit kind es →
    AllFit kind (dropListIds kept es)
  | [], _ => trivial
  | e :: es, h =>
    ⟨⟨(kindOf_dropIds e).trans h.1.1, fits_dropIds e h.1.2⟩, fits_dropListIds es h.2⟩

/-- The same of fields. -/
theorem fits_dropFieldIds {kind : ElementKind} : ∀ fields : List (String × Part),
    FieldsFit kind fields → FieldsFit kind (dropFieldIds kept fields)
  | [], _ => trivial
  | (key, part) :: fields, h => by
    refine ⟨?_, fits_dropFieldIds fields h.2⟩
    split
    · exact h.1
    · exact fits_dropPartIds part h.1

end

mutual

/-- Dropping ids brings nothing under a key. -/
theorem partsUnder_dropIds (key : String) : ∀ e : Element, partsUnder key e = [] →
    partsUnder key (dropIds kept e) = []
  | .mk _ _ fields, h => fieldsUnder_dropFieldIds key fields h

/-- The same of a part. -/
theorem partUnder_dropPartIds (key : String) : ∀ part : Part, partUnder key part = [] →
    partUnder key (dropPartIds kept part) = []
  | .data _, _ => rfl
  | .reference _, _ => rfl
  | .element e, h => partsUnder_dropIds key e h
  | .elements es, h => listUnder_dropListIds key es h

/-- The same of a list of elements. -/
theorem listUnder_dropListIds (key : String) : ∀ es : List Element, listUnder key es = [] →
    listUnder key (dropListIds kept es) = []
  | [], _ => rfl
  | e :: es, h => by
    rw [listUnder, List.append_eq_nil_iff] at h
    rw [dropListIds, listUnder, partsUnder_dropIds key e h.1, listUnder_dropListIds key es h.2]
    rfl

/-- The same of fields. -/
theorem fieldsUnder_dropFieldIds (key : String) : ∀ fields : List (String × Part),
    fieldsUnder key fields = [] → fieldsUnder key (dropFieldIds kept fields) = []
  | [], _ => rfl
  | (k, part) :: fields, h => by
    rw [fieldsUnder, List.append_eq_nil_iff] at h
    rw [dropFieldIds, fieldsUnder, fieldsUnder_dropFieldIds key fields h.2, List.append_nil]
    by_cases hk : k = key
    · rw [if_pos hk] at h
      cases h.1
    · rw [if_neg hk] at h ⊢
      split
      · exact h.1
      · exact partUnder_dropPartIds key part h.1

end

end Stripped

/-- **The export of a playbook is right exactly if** no branch of it has a condition, and no
trigger of an action has an argument. -/
theorem stripsIds_iff {playbook : Element} (hkind : kindOf playbook = .playbook)
    (h : FitsSchema playbook) :
    StripsIds playbook ↔ partsUnder "condition" playbook = [] ∧
      ∀ trigger ∈ partsUnder "trigger" playbook, partIds [.argument] trigger = [] := by
  rw [← List.flatMap_eq_nil_iff, ← argumentIds_kept]
  constructor
  · rintro ⟨result, hok, hresult, -⟩
    have hnone := noCondition_of_stripPlaybook hkind h hok
    rw [stripPlaybook_json hkind h hnone] at hok
    refine ⟨hnone, argumentIds_of_json_eq _ ?_⟩
    rw [dropIds_dropIds, ← hresult]
    exact Except.ok.inj hok
  · rintro ⟨hnone, hids⟩
    have hsame : dropIds ["trigger"] playbook = dropIds [] playbook := by
      rw [← dropIds_dropIds, dropIds_eq_self _ hids]
    have hagain : stripArgumentIds (dropIds [] playbook).json = .ok (dropIds [] playbook).json := by
      rw [stripPlaybook_json ((kindOf_dropIds playbook).trans hkind) (fits_dropIds playbook h)
        (partsUnder_dropIds "condition" playbook hnone),
        dropIds_eq_self _ (argumentIds_dropIds playbook)]
    exact ⟨_, by rw [stripPlaybook_json hkind h hnone, hsame], rfl, hagain⟩

/-! ## Dumped rows -/

section Rows

variable {kind k : ElementKind} {key : String}

/-- Two parts of the fields fit exactly if both do. -/
theorem fieldsFit_append {xs ys : List (String × Part)} :
    FieldsFit kind (xs ++ ys) ↔ FieldsFit kind xs ∧ FieldsFit kind ys := by
  simp only [fieldsFit_iff, List.forall_mem_append]

/-- A field of data fits where the schema has one. -/
theorem fits_dataField (h : fieldKind kind key = some .data) (v : PyVal) :
    FieldsFit kind (dataField key v) := by
  unfold dataField
  split
  · trivial
  · exact ⟨h, trivial⟩

/-- The same of a reference. -/
theorem fits_referenceField (h : fieldKind kind key = some .data) (id : Option UUID) :
    FieldsFit kind (referenceField key id) := by
  cases id with
  | none => trivial
  | some u => exact ⟨h, trivial⟩

/-- The same of an element that fits. -/
theorem fits_elementField (h : fieldKind kind key = some (.element k)) {e : Option Element}
    (he : ∀ x, e = some x → kindOf x = k ∧ FitsSchema x) : FieldsFit kind (elementField key e) := by
  cases e with
  | none => trivial
  | some x => exact ⟨⟨by rw [(he x rfl).1]; exact h, (he x rfl).2⟩, trivial⟩

/-- The same of elements that fit. -/
theorem fits_elementsField (h : fieldKind kind key = some (.elements k)) {α : Type}
    {f : α → Element} (hf : ∀ row, kindOf (f row) = k ∧ FitsSchema (f row)) (rows : List α) :
    FieldsFit kind (elementsField key (rows.map f)) := by
  unfold elementsField
  split
  · trivial
  · refine ⟨⟨k, h, allFit_iff.mpr fun e he => ?_⟩, trivial⟩
    obtain ⟨row, -, rfl⟩ := List.mem_map.mp he
    exact hf row

/-- The element of an argument fits its schema. -/
theorem fits_argument (row : ArgumentRow) :
    kindOf row.element = .argument ∧ FitsSchema row.element := by
  refine ⟨rfl, ?_⟩
  simp only [ArgumentRow.element, FitsSchema, fieldsFit_append]
  exact ⟨⟨⟨fits_dataField rfl _, fits_dataField rfl _⟩, fits_referenceField rfl _⟩,
    fits_dataField rfl _⟩

/-- The same of a transform. -/
theorem fits_transform (row : TransformRow) :
    kindOf row.element = .transform ∧ FitsSchema row.element := by
  refine ⟨rfl, ?_⟩
  simp only [TransformRow.element, FitsSchema, fieldsFit_append]
  exact ⟨⟨fits_dataField rfl _, fits_dataField rfl _⟩, fits_elementsField rfl fits_argument _⟩

/-- The same of a condition. -/
theorem fits_condition (row : ConditionRow) :
    kindOf row.element = .condition ∧ FitsSchema row.element := by
  refine ⟨rfl, ?_⟩
  simp only [ConditionRow.element, FitsSchema, fieldsFit_append]
  exact ⟨⟨⟨⟨fits_dataField rfl _, fits_dataField rfl _⟩, fits_dataField rfl _⟩,
    fits_elementsField rfl fits_argument _⟩, fits_elementsField rfl fits_transform _⟩

/-- The element of an expression is one. -/
theorem kindOf_expression (parent : Option UUID) (row : ExpressionRow) :
    kindOf (row.element parent) = .conditionalExpression := by
  cases row
  rw [ExpressionRow.element]
  rfl

mutual

/-- The element of an expression fits its schema. -/
theorem fits_expression : ∀ (row : ExpressionRow) (parent : Option UUID), FitsSchema (row.element parent)
  | .mk id operator isNegated childExpressions conditions, parent => by
    have hchildren : FieldsFit .conditionalExpression
        (elementsField "child_expressions" (ExpressionRow.elements id childExpressions)) := by
      unfold elementsField
      split
      · trivial
      · exact ⟨⟨.conditionalExpression, rfl, fits_expressions childExpressions id⟩, trivial⟩
    simp only [ExpressionRow.element, FitsSchema, fieldsFit_append]
    exact ⟨⟨⟨⟨fits_dataField rfl _, fits_dataField rfl _⟩, fits_dataField rfl _⟩, hchildren⟩,
      fits_elementsField rfl fits_condition _⟩

/-- The same of the child expressions. -/
theorem fits_expressions : ∀ (rows : List ExpressionRow) (parent : UUID),
    AllFit .conditionalExpression (ExpressionRow.elements parent rows)
  | [], _ => trivial
  | row :: rows, parent =>
    ⟨⟨kindOf_expression (some parent) row, fits_expression row (some parent)⟩,
      fits_expressions rows parent⟩

end

/-- A field of an expression fits where the schema has one. -/
theorem fits_expressionField (h : fieldKind kind key = some (.element .conditionalExpression))
    (row : Option ExpressionRow) :
    FieldsFit kind (elementField key (row.map (ExpressionRow.element none))) := by
  refine fits_elementField h fun e he => ?_
  obtain ⟨r, -, rfl⟩ := Option.map_eq_some_iff.mp he
  exact ⟨kindOf_expression none r, fits_expression r none⟩

/-- The element of an action fits its schema. -/
theorem fits_action (row : ActionRow) : kindOf row.element = .action ∧ FitsSchema row.element := by
  have hdevice : FieldsFit .action
      (elementField "device_id" (row.deviceId.map ArgumentRow.element)) := by
    refine fits_elementField rfl fun e he => ?_
    obtain ⟨r, -, rfl⟩ := Option.map_eq_some_iff.mp he
    exact fits_argument r
  refine ⟨rfl, ?_⟩
  simp only [ActionRow.element, FitsSchema, fieldsFit_append]
  exact ⟨⟨⟨⟨⟨⟨fits_dataField rfl _, fits_dataField rfl _⟩, fits_dataField rfl _⟩, hdevice⟩,
    fits_elementsField rfl fits_argument _⟩, fits_expressionField rfl _⟩, fits_dataField rfl _⟩

/-- The same of a branch. -/
theorem fits_branch (row : BranchRow) : kindOf row.element = .branch ∧ FitsSchema row.element := by
  refine ⟨rfl, ?_⟩
  simp only [BranchRow.element, FitsSchema, fieldsFit_append]
  exact ⟨⟨⟨⟨fits_referenceField rfl _, fits_referenceField rfl _⟩, fits_dataField rfl _⟩,
    fits_expressionField rfl _⟩, fits_dataField rfl _⟩

/-- The same of an environment variable. -/
theorem fits_variable (row : EnvironmentVariableRow) :
    kindOf row.element = .environmentVariable ∧ FitsSchema row.element := by
  refine ⟨rfl, ?_⟩
  simp only [EnvironmentVariableRow.element, FitsSchema, fieldsFit_append]
  exact ⟨⟨fits_dataField rfl _, fits_dataField rfl _⟩, fits_dataField rfl _⟩

/-- The same of a workflow. -/
theorem fits_workflow (row : WorkflowRow) : kindOf row.element = .workflow ∧ FitsSchema row.element := by
  refine ⟨rfl, ?_⟩
  simp only [WorkflowRow.element, FitsSchema, fieldsFit_append]
  exact ⟨⟨⟨⟨⟨fits_dataField rfl _, fits_referenceField rfl _⟩, fits_dataField rfl _⟩,
    fits_elementsField rfl fits_action _⟩, fits_elementsField rfl fits_branch _⟩,
    fits_elementsField rfl fits_variable _⟩

/-- **What the schemas dump of a playbook is a document.** -/
theorem fits_playbook (row : PlaybookRow) : FitsSchema row.element := by
  simp only [PlaybookRow.element, FitsSchema, fieldsFit_append]
  exact ⟨fits_dataField rfl _, fits_elementsField rfl fits_workflow _⟩

end Rows

def exportedArgument : ArgumentRow :=
  { id := 7, name := "x", value := .int 1, reference := none, selection := none }

def exportedAction : ActionRow :=
  { id := 1, appName := "App", actionName := "act", name := "act", deviceId := none
    arguments := [exportedArgument], trigger := none, position := none }

/-- A playbook with one workflow of one action, and with a branch to itself. -/
def exportedPlaybook (branches : List BranchRow) : PlaybookRow :=
  { id := 3, name := "playbook"
    workflows := [{ id := 2, name := "workflow", start := some 1, isValid := true
                    actions := [exportedAction], branches, environmentVariables := [] }] }

/-- A playbook with one action and an argument is stripped of its id. -/
theorem action_argument_stripped : StripsIds (exportedPlaybook []).element := by
  refine (stripsIds_iff rfl (fits_playbook _)).mpr ⟨rfl, fun trigger htrigger => ?_⟩
  cases htrigger

/-- A branch with an empty condition. -/
def conditionedBranch : BranchRow :=
  { id := 4, sourceId := 1, destinationId := 1, status := some "Success", priority := some 1
    condition := some (.mk 5 .and false [] []) }

/-- A playbook with a condition on a branch is not exported. -/
theorem conditioned_branch_refused : ¬StripsIds (exportedPlaybook [conditionedBranch]).element := by
  rintro ⟨result, hok, -⟩
  have hnone := noCondition_of_stripPlaybook rfl (fits_playbook _) hok
  cases hnone

end Walkoff.Analysis
