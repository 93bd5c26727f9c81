import Mathlib.Algebra.Order.BigOperators.Group.List
import Walkoff.Analysis.CopyRules

/-!
# Copies of workflows

`regenerate_workflow_ids` makes a copy of a workflow exactly when the workflow has an action and
no environment variables, and its actions and the conditions of its branches are clean. Its first
loop files the new ids of the actions under their old ones, and everything after that is one
rule for each action and each branch.
-/

set_option autoImplicit false

namespace Walkoff.Analysis

open Walkoff.Model Walkoff.Program
open Walkoff.Library (OrderedDict)

/-- A workflow whose elements are all valid: its start and the ends of its branches are actions
of its own. No two actions share a primary key. -/
structure ValidWorkflow extends WorkflowRow where
  start_valid : actions ≠ [] → ∃ action ∈ actions, start = some action.id
  ends_valid : ∀ branch ∈ branches,
    (∃ action ∈ actions, branch.sourceId = action.id) ∧
      ∃ action ∈ actions, branch.destinationId = action.id
  actions_nodup : (actions.map ActionRow.id).Nodup

/-- The JSON of the workflow is turned into the JSON of a copy. -/
def CopiesWell (workflow : WorkflowRow) (ids : NewIds workflow.dump) : Prop :=
  ∃ copied n copy, regenerateWorkflowIds ids.uuid4 workflow.element.items 0 = .ok copied n ∧
    copied = copy.items ∧ IsCopy workflow.element copy

/-- The workflow has an action and no environment variables, and its elements are clean. -/
structure Copyable (workflow : WorkflowRow) : Prop where
  actions_ne_nil : workflow.actions ≠ []
  environmentVariables : workflow.environmentVariables = []
  actions : ∀ action ∈ workflow.actions, ActionClean (workflow.actions.map ActionRow.id) action
  branches : ∀ branch ∈ workflow.branches, ∀ expression ∈ branch.condition,
    ExpressionClean (workflow.actions.map ActionRow.id) expression

/-! ## Ids in a tree and in its copy -/

section Ids

variable {ρ : PyVal → PyVal} {kinds : List ElementKind}

mutual

/-- A copy has as many ids as the original. -/
theorem ElementCopy.length_ids (hkinds : .argument ∉ kinds) :
    ∀ {e e' : Element}, ElementCopy ρ e e' →
      (elementIds kinds e').length = (elementIds kinds e).length
  | _, _, .element _ hfields => by
    have h := hfields.length_ids hkinds
    rw [elementIds, elementIds, List.length_append, List.length_append, h]
    split <;> rfl
  | _, _, .argument hfields => by
    have h := hfields.length_ids hkinds
    rw [elementIds, elementIds, if_neg hkinds, if_neg hkinds]
    exact h

/-- The same of fields. -/
theorem FieldsCopy.length_ids (hkinds : .argument ∉ kinds) :
    ∀ {fields fields' : List (String × Part)}, FieldsCopy ρ fields fields' →
      (fieldIds kinds fields').length = (fieldIds kinds fields).length
  | _, _, .nil => rfl
  | _, _, .cons hpart hfields => by
    have h := hpart.length_ids hkinds
    have hmore := hfields.length_ids hkinds
    rw [fieldIds, fieldIds, List.length_append, List.length_append, h, hmore]

/-- The same of a part. -/
theorem PartCopy.length_ids (hkinds : .argument ∉ kinds) :
    ∀ {part part' : Part}, PartCopy ρ part part' →
      (partIds kinds part').length = (partIds kinds part).length
  | _, _, .data _ => rfl
  | _, _, .reference _ => rfl
  | _, _, .element h => h.length_ids hkinds
  | _, _, .elements h => h.length_ids hkinds

/-- The same of a list of elements. -/
theorem ElementsCopy.length_ids (hkinds : .argument ∉ kinds) :
    ∀ {es es' : List Element}, ElementsCopy ρ es es' →
      (listIds kinds es').length = (listIds kinds es).length
  | _, _, .nil => rfl
  | _, _, .cons h hmore => by
    have hhead := h.length_ids hkinds
    have htail := hmore.length_ids hkinds
    rw [listIds, listIds, List.length_append, List.length_append, hhead, htail]

end

mutual

/-- The texts of the ids in a tree are in its JSON. -/
theorem texts_of_elementIds : ∀ {e : Element} {id : PyVal}, id ∈ elementIds kinds e →
    ∀ s ∈ texts id, s ∈ itemTexts e.items
  | .mk kind own fields, id, hid, s, hs => by
    rw [elementIds, List.mem_append] at hid
    rw [Element.items, itemTexts_append, List.mem_append]
    rcases hid with hid | hid
    · left
      have hown : id ∈ own.toList := by
        split at hid
        · exact hid
        · cases hid
      cases own with
      | none => cases hown
      | some own =>
        obtain rfl := List.mem_singleton.mp hown
        exact List.mem_append_left _ hs
    · right
      exact texts_of_fieldIds hid s hs

/-- The texts of the ids in a part are among those of its JSON. -/
theorem texts_of_partIds : ∀ {part : Part} {id : PyVal}, id ∈ partIds kinds part →
    ∀ s ∈ texts id, s ∈ texts part.json
  | .data _, _, hid, _, _ => by cases hid
  | .reference _, _, hid, _, _ => by cases hid
  | .element e, _, hid, s, hs => by
    show s ∈ texts e.json
    rw [json_eq_dict]
    exact texts_of_elementIds hid s hs
  | .elements _, _, hid, s, hs => texts_of_listIds hid s hs

/-- The same of a list of elements. -/
theorem texts_of_listIds : ∀ {es : List Element} {id : PyVal}, id ∈ listIds kinds es →
    ∀ s ∈ texts id, s ∈ listTexts (Element.jsonList es)
  | [], _, hid, _, _ => by cases hid
  | e :: es, _, hid, s, hs => by
    rw [Element.jsonList, json_eq_dict, listTexts, List.mem_append]
    rcases List.mem_append.mp hid with hid | hid
    · exact .inl (texts_of_elementIds hid s hs)
    · exact .inr (texts_of_listIds hid s hs)

/-- The same of fields. -/
theorem texts_of_fieldIds : ∀ {fields : List (String × Part)} {id : PyVal},
    id ∈ fieldIds kinds fields → ∀ s ∈ texts id, s ∈ itemTexts (Element.jsonFields fields)
  | [], _, hid, _, _ => by cases hid
  | (_, part) :: fields, _, hid, s, hs => by
    rw [Element.jsonFields, itemTexts, List.mem_append]
    rcases List.mem_append.mp hid with hid | hid
    · exact .inl (texts_of_partIds hid s hs)
    · exact .inr (texts_of_fieldIds hid s hs)

end

/-- A field of data has no ids. -/
@[simp] theorem fieldIds_dataField (key : String) (v : PyVal) :
    fieldIds kinds (dataField key v) = [] := by
  unfold dataField
  split <;> rfl

/-- A reference has no ids. -/
@[simp] theorem fieldIds_referenceField (key : String) (id : Option UUID) :
    fieldIds kinds (referenceField key id) = [] := by
  cases id <;> rfl

/-- A field of one element has the ids in it. -/
@[simp] theorem fieldIds_elementField (key : String) (e : Option Element) :
    fieldIds kinds (elementField key e) = e.elim [] (elementIds kinds) := by
  cases e with
  | none => rfl
  | some e => simp [elementField, fieldIds, partIds]

/-- A field of elements has the ids in them. -/
@[simp] theorem fieldIds_elementsField (key : String) (es : List Element) :
    fieldIds kinds (elementsField key es) = listIds kinds es := by
  cases es with
  | nil => rfl
  | cons e es => simp [elementsField, fieldIds, partIds]

/-- The ids in elements made of rows come row by row. -/
theorem listIds_map {α : Type} (f : α → Element) (rows : List α) :
    listIds kinds (rows.map f) = rows.flatMap fun row => elementIds kinds (f row) := by
  induction rows with
  | nil => rfl
  | cons row rows ih =>
    rw [List.map_cons, listIds, ih, List.flatMap_cons]

/-- An argument has no ids that can be referred to. -/
theorem referableIds_argument (row : ArgumentRow) :
    elementIds referableKinds row.element = [] := by
  rw [ArgumentRow.element, elementIds, if_neg (by decide)]
  simp [fieldIds_append]

/-- The same of arguments. -/
theorem referableIds_arguments (rows : List ArgumentRow) :
    listIds referableKinds (rows.map ArgumentRow.element) = [] := by
  simp [listIds_map, referableIds_argument]

/-- The same of a transform. -/
theorem referableIds_transform (row : TransformRow) :
    elementIds referableKinds row.element = [] := by
  rw [TransformRow.element, elementIds, if_neg (by decide)]
  simp [fieldIds_append, referableIds_arguments]

/-- The same of a condition. -/
theorem referableIds_condition (row : ConditionRow) :
    elementIds referableKinds row.element = [] := by
  rw [ConditionRow.element, elementIds, if_neg (by decide)]
  simp [fieldIds_append, listIds_map, referableIds_argument, referableIds_transform]

mutual

/-- The same of an expression. -/
theorem referableIds_expression : ∀ (row : ExpressionRow) (parent : Option UUID),
    elementIds referableKinds (row.element parent) = []
  | .mk id operator isNegated childExpressions conditions, parent => by
    have hchildren := referableIds_expressions childExpressions id
    rw [ExpressionRow.element, elementIds, if_neg (by decide)]
    simp [fieldIds_append, hchildren, listIds_map, referableIds_condition]

/-- The same of child expressions. -/
theorem referableIds_expressions : ∀ (rows : List ExpressionRow) (parent : UUID),
    listIds referableKinds (ExpressionRow.elements parent rows) = []
  | [], _ => rfl
  | row :: rows, parent => by
    have hrow := referableIds_expression row (some parent)
    have hrows := referableIds_expressions rows parent
    rw [ExpressionRow.elements, listIds, hrow, hrows]
    rfl

end

end Ids

/-- The fields of a dumped element. -/
def fieldsOf : Element → List (String × Part)
  | .mk _ _ fields => fields

/-- The same of the fields of an action. -/
theorem referableIds_action (row : ActionRow) :
    fieldIds referableKinds (fieldsOf row.element) = [] := by
  have hdevice : (row.deviceId.map ArgumentRow.element).elim [] (elementIds referableKinds) =
      [] := by
    cases row.deviceId with
    | none => rfl
    | some argument => exact referableIds_argument argument
  have htrigger : (row.trigger.map (ExpressionRow.element none)).elim []
      (elementIds referableKinds) = [] := by
    cases row.trigger with
    | none => rfl
    | some expression => exact referableIds_expression expression none
  rw [ActionRow.element, fieldsOf]
  simp only [fieldIds_append, fieldIds_dataField, fieldIds_elementField, fieldIds_elementsField,
    hdevice, htrigger, referableIds_arguments, List.append_nil]

/-! ## The first loop over the actions -/

section Actions

variable {uuid4 : ℕ → String} {mapping : ActionMapping}

/-- The results of some calls of `uuid4`. -/
def newIds (uuid4 : ℕ → String) (n count : ℕ) : List PyVal :=
  (List.range' n count).map fun k => .str (uuid4 k)

/-- The JSON of an action with its new id. -/
def renumbered (row : ActionRow) (id : PyVal) : OrderedDict String PyVal :=
  ("id", id) :: Element.jsonFields (fieldsOf row.element)

/-- The key of an action in the mapping. -/
def actionKey (row : ActionRow) : PyVal :=
  .str row.id.str

/-- Actions with distinct ids are all renumbered, each with a call of `uuid4`. -/
theorem renumberActions_ok (rows : List ActionRow) :
    ∀ (mapping : ActionMapping) (n : ℕ),
      (OrderedDict.keys mapping ++ rows.map actionKey).Nodup →
      renumberActions uuid4 (rows.map fun row => row.element.items) mapping n =
        .ok (List.zipWith renumbered rows (newIds uuid4 n rows.length),
          mapping ++ (rows.map actionKey).zip (newIds uuid4 n rows.length)) (n + rows.length) := by
  induction rows with
  | nil =>
    intro mapping n _
    simp [renumberActions, newIds]
  | cons row rows ih =>
    intro mapping n hnodup
    have hnew : actionKey row ∉ OrderedDict.keys mapping := by
      intro hmem
      exact List.disjoint_of_nodup_append hnodup hmem List.mem_cons_self
    have hset : OrderedDict.set (actionKey row) (.str (uuid4 n)) mapping =
        mapping ++ [(actionKey row, .str (uuid4 n))] :=
      OrderedDict.set_of_not_mem hnew _
    have hrest := ih (mapping ++ [(actionKey row, .str (uuid4 n))]) (n + 1) (by
      simpa [OrderedDict.keys] using hnodup)
    have hentry : entry "id" row.element.items = .ok (actionKey row) := rfl
    rw [List.map_cons, renumberActions, hentry]
    rw [Library.bind_of_ok (show Library.lift (.ok (actionKey row)) n = .ok (actionKey row) n from rfl)]
    rw [Library.bind_of_ok (show newId uuid4 n = .ok (.str (uuid4 n)) (n + 1) from rfl)]
    rw [hset, Library.bind_of_ok hrest]
    simp [newIds, List.range'_succ, Nat.add_assoc, Nat.add_comm 1]
    rfl

/-- A position is clean only if there is none. -/
theorem position_clean {position : Option PositionRow} :
    DataClean ((position.map PositionRow.json).getD .none) ↔ position = none := by
  cases position with
  | none => exact iff_of_true (.inr rfl) rfl
  | some row =>
    constructor
    · intro h
      rcases h with h | h
      · simp [skipValues, PositionRow.json] at h
      · cases h
    · intro h
      cases h

/-- The fields of an action are copied when it is clean. -/
theorem actionRule {actionIds : List UUID}
    (hmapping : ∀ u : UUID, (mapping.get? (.str u.str)).isSome ↔ u ∈ actionIds)
    (row : ActionRow) :
    FieldsRule uuid4 mapping (fieldsOf row.element) (ActionClean actionIds row) := by
  have hnames : FieldsRule uuid4 mapping
      (dataField "app_name" (.str row.appName) ++ dataField "action_name" (.str row.actionName) ++
        dataField "name" (.str row.name))
      ((DataClean (.str row.appName) ∧ DataClean (.str row.actionName)) ∧
        DataClean (.str row.name)) :=
    ((FieldsRule.data (by decide) rfl _).append (FieldsRule.data (by decide) rfl _)).append
      (FieldsRule.data (by decide) rfl _)
  have hdevice : FieldsRule uuid4 mapping
      (elementField "device_id" (row.deviceId.map ArgumentRow.element))
      (∀ argument ∈ row.deviceId, ArgumentClean actionIds argument) :=
    .element (by decide) fun argument _ => argumentRule hmapping argument
  have htrigger : FieldsRule uuid4 mapping
      (elementField "trigger" (row.trigger.map (ExpressionRow.element none)))
      (∀ expression ∈ row.trigger, ExpressionClean actionIds expression) :=
    .element (by decide) fun expression _ => expressionRule hmapping expression none
  have hposition : FieldsRule uuid4 mapping
      (dataField "position" ((row.position.map PositionRow.json).getD .none))
      (row.position = none) :=
    (FieldsRule.data (by decide) rfl _).congr position_clean
  have hrule := (((hnames.append hdevice).append (argumentsRule hmapping row.arguments)).append
    htrigger).append hposition
  apply hrule.congr
  constructor
  · rintro ⟨⟨⟨⟨-, hdevice⟩, harguments⟩, htrigger⟩, hposition⟩
    exact ⟨hdevice, harguments, htrigger, hposition⟩
  · rintro ⟨hdevice, harguments, htrigger, hposition⟩
    exact ⟨⟨⟨⟨⟨⟨dataClean_str _, dataClean_str _⟩, dataClean_str _⟩, hdevice⟩, harguments⟩,
      htrigger⟩, hposition⟩

/-- An action has no reference. -/
theorem not_reference_of_action (row : ActionRow) :
    OrderedDict.get? "reference" (Element.jsonFields (fieldsOf row.element)) = none := by
  apply Plain.get?_reference
  have hnames : Plain
      (dataField "app_name" (.str row.appName) ++ dataField "action_name" (.str row.actionName) ++
        dataField "name" (.str row.name)) :=
    ((plain_dataField (by decide) (by decide) _).append
      (plain_dataField (by decide) (by decide) _)).append
      (plain_dataField (by decide) (by decide) _)
  exact (((hnames.append (plain_elementField (by decide) (by decide) _)).append
    (plain_elementsField (by decide) (by decide) _)).append
    (plain_elementField (by decide) (by decide) _)).append
    (plain_dataField (by decide) (by decide) _)

/-- The loop over an action that has its new id already. -/
theorem regenerateIds_action {row : ActionRow} {id v : PyVal} {n m : ℕ} :
    regenerateIds uuid4 mapping false (renumbered row id) n = .ok v m ↔
      ∃ rest, regenerateFields uuid4 mapping (Element.jsonFields (fieldsOf row.element)) n =
        .ok rest m ∧ v = .dict (("id", id) :: rest) :=
  aroundFields_numbered (not_reference_of_action row)

/-- The results of some calls of `uuid4`, in any order: the first `count` from the `i`-th on, and
some between the `n`-th and the `m`-th. -/
def NumberedFrom (uuid4 : ℕ → String) (i count n m : ℕ) (ids : List PyVal) : Prop :=
  n ≤ m ∧ ∃ calls : List ℕ, ids = calls.map (fun k => .str (uuid4 k)) ∧ calls.Nodup ∧
    ∀ k ∈ calls, (i ≤ k ∧ k < i + count) ∨ (n ≤ k ∧ k < m)

/-- An id numbered before others that are numbered on makes one more. -/
theorem NumberedFrom.cons {i count n k m : ℕ} {xs ys : List PyVal}
    (hbelow : i + (count + 1) ≤ n) (hxs : NumberedWithin uuid4 n k xs)
    (hys : NumberedFrom uuid4 (i + 1) count k m ys) :
    NumberedFrom uuid4 i (count + 1) n m (.str (uuid4 i) :: xs ++ ys) := by
  obtain ⟨hnk, ks, rfl, hks, hksBound⟩ := hxs
  obtain ⟨hkm, ls, rfl, hls, hlsBound⟩ := hys
  refine ⟨hnk.trans hkm, i :: ks ++ ls, ?_, ?_, ?_⟩
  · simp
  · rw [List.cons_append]
    apply List.nodup_cons.mpr
    constructor
    · intro hi
      rcases List.mem_append.mp hi with hi | hi
      · have hiBound := hksBound i hi
        omega
      · have hiBound := hlsBound i hi
        omega
    · apply List.Nodup.append hks hls
      intro l hl hl'
      have hlBound := hksBound l hl
      have hlBound' := hlsBound l hl'
      omega
  · intro l hl
    rcases List.mem_append.mp hl with hl | hl
    · rcases List.mem_cons.mp hl with rfl | hl
      · omega
      · have hlBound := hksBound l hl
        omega
    · have hlBound := hlsBound l hl
      omega

/-- The actions are copied when they are clean. -/
theorem actions_copied {actionIds : List UUID}
    (hmapping : ∀ u : UUID, (mapping.get? (.str u.str)).isSome ↔ u ∈ actionIds)
    (rows : List ActionRow) (hclean : ∀ row ∈ rows, ActionClean actionIds row) :
    ∀ i n : ℕ, i + rows.length ≤ n → ∃ es m,
      (List.zipWith renumbered rows (newIds uuid4 i rows.length)).mapM
          (regenerateIds uuid4 mapping false) n = .ok (Element.jsonList es) m ∧
        (∀ ρ, Agrees mapping ρ → ElementsCopy ρ (rows.map ActionRow.element) es) ∧
        listIds referableKinds es = newIds uuid4 i rows.length ∧
        NumberedFrom uuid4 i rows.length n m (listIds numberedKinds es) := by
  induction rows with
  | nil =>
    intro i n _
    exact ⟨[], n, rfl, fun ρ _ => .nil, rfl, Nat.le_refl n, [], rfl, List.nodup_nil, by simp⟩
  | cons row rows ih =>
    intro i n hi
    rw [List.length_cons] at hi
    obtain ⟨fields, k, hrun, hcopy, hids⟩ :=
      (actionRule hmapping row).copies (hclean row List.mem_cons_self) n
    have hnk : n ≤ k := hids.1
    obtain ⟨es, m, hmore, hcopies, hreferable, hnumbered⟩ :=
      ih (fun other hother => hclean other (List.mem_cons_of_mem _ hother)) (i + 1) k (by omega)
    refine ⟨.mk .action (some (.str (uuid4 i))) fields :: es, m, ?_, ?_, ?_, ?_⟩
    · apply Library.mapM_cons_eq_ok.mpr
      exact ⟨_, k, _, regenerateIds_action.mpr ⟨_, hrun, rfl⟩, hmore, rfl⟩
    · intro ρ hρ
      exact .cons (.element (by decide) (hcopy ρ hρ)) (hcopies ρ hρ)
    · have hnone : fieldIds referableKinds fields = [] := by
        have hagrees : Agrees mapping fun id => (mapping.get? id).getD id := by
          intro id v hv
          simp [hv]
        have hlength : (fieldIds referableKinds fields).length =
            (fieldIds referableKinds (fieldsOf row.element)).length :=
          (hcopy _ hagrees).length_ids (by decide)
        rw [referableIds_action] at hlength
        exact List.eq_nil_of_length_eq_zero hlength
      rw [listIds, elementIds, if_pos (by decide), hnone, hreferable]
      simp [newIds, List.range'_succ]
    · rw [listIds, elementIds, if_pos (by decide)]
      exact NumberedFrom.cons (by omega) hids hnumbered

/-- Actions that come out copied are clean. -/
theorem actions_clean {actionIds : List UUID}
    (hmapping : ∀ u : UUID, (mapping.get? (.str u.str)).isSome ↔ u ∈ actionIds)
    {ρ : PyVal → PyVal} (rows : List ActionRow)
    (hfresh : ∀ k, uuid4 k ∉ listTexts (Element.jsonList (rows.map ActionRow.element))) :
    ∀ (i n m : ℕ) (es : List Element),
      (List.zipWith renumbered rows (newIds uuid4 i rows.length)).mapM
          (regenerateIds uuid4 mapping false) n = .ok (Element.jsonList es) m →
      ElementsCopy ρ (rows.map ActionRow.element) es → ∀ row ∈ rows, ActionClean actionIds row := by
  induction rows with
  | nil =>
    intro i n m es _ _ row hrow
    cases hrow
  | cons row rows ih =>
    intro i n m es hrun hcopy
    have hfresh' : ∀ k, uuid4 k ∉ itemTexts row.element.items ∧
        uuid4 k ∉ listTexts (Element.jsonList (rows.map ActionRow.element)) := by
      intro k
      have hk := hfresh k
      rw [List.map_cons, Element.jsonList, json_eq_dict, listTexts, List.mem_append] at hk
      exact not_or.mp hk
    cases hcopy with
    | cons hcopy hcopies =>
      obtain ⟨v, k, vs, hrow, hrows, heq⟩ := Library.mapM_cons_eq_ok.mp hrun
      obtain ⟨rest, hrest, rfl⟩ := regenerateIds_action.mp hrow
      obtain ⟨hhead, rfl⟩ := List.cons.inj heq
      cases hcopy with
      | element _ hfields =>
        cases hhead
        have hclean := (actionRule hmapping row).clean_of_copy
          (fun j hj => (hfresh' j).1 (List.mem_append_right _ hj)) n k _ ρ hrest hfields
        have hmore := ih (fun j => (hfresh' j).2) (i + 1) k m _ hrows hcopies
        exact List.forall_mem_cons.mpr ⟨hclean, hmore⟩

end Actions

/-! ## The loop over the branches -/

section Branches

variable {uuid4 : ℕ → String} {mapping : ActionMapping}

/-- The fields of a branch behind its two ends. -/
def behindEnds (row : BranchRow) : List (String × Part) :=
  dataField "status" (textValue row.status) ++
    elementField "condition" (row.condition.map (ExpressionRow.element none)) ++
    dataField "priority" ((row.priority.map PyVal.int).getD .none)

/-- The element of a branch has its ends first. -/
theorem branch_element (row : BranchRow) :
    row.element = .mk .branch (some (.str row.id.str))
      (("source_id", .reference (.str row.sourceId.str)) ::
        ("destination_id", .reference (.str row.destinationId.str)) :: behindEnds row) := by
  rw [BranchRow.element, behindEnds]
  simp [referenceField]

/-- What is behind the ends of a branch is copied exactly when its condition is clean. -/
theorem branchRule {actionIds : List UUID}
    (hmapping : ∀ u : UUID, (mapping.get? (.str u.str)).isSome ↔ u ∈ actionIds)
    (row : BranchRow) :
    FieldsRule uuid4 mapping (behindEnds row)
      (∀ expression ∈ row.condition, ExpressionClean actionIds expression) := by
  have hstatus : DataClean (textValue row.status) := by
    cases row.status <;> exact .inr rfl
  have hpriority : DataClean ((row.priority.map PyVal.int).getD .none) := by
    cases row.priority <;> exact .inr rfl
  have hcondition : FieldsRule uuid4 mapping
      (elementField "condition" (row.condition.map (ExpressionRow.element none)))
      (∀ expression ∈ row.condition, ExpressionClean actionIds expression) :=
    .element (by decide) fun expression _ => expressionRule hmapping expression none
  have hstatusRule : FieldsRule uuid4 mapping (dataField "status" (textValue row.status))
      (DataClean (textValue row.status)) :=
    FieldsRule.data (by decide) rfl _
  have hpriorityRule : FieldsRule uuid4 mapping
      (dataField "priority" ((row.priority.map PyVal.int).getD .none))
      (DataClean ((row.priority.map PyVal.int).getD .none)) :=
    FieldsRule.data (by decide) rfl _
  apply ((hstatusRule.append hcondition).append hpriorityRule).congr
  exact ⟨fun h => h.1.2, fun h => ⟨⟨hstatus, h⟩, hpriority⟩⟩

/-- A branch has no reference. -/
theorem not_reference_of_branch (row : BranchRow) :
    OrderedDict.get? "reference" (Element.jsonFields (behindEnds row)) = none := by
  apply Plain.get?_reference
  exact ((plain_dataField (by decide) (by decide) _).append
    (plain_elementField (by decide) (by decide) _)).append
    (plain_dataField (by decide) (by decide) _)

/-- A text is looked up in the mapping, or raises `KeyError`. -/
theorem lookUp_str (s : String) :
    mapping.lookUp (.str s) = (mapping.get? (.str s)).elim (.error .keyError) .ok := by
  rw [ActionMapping.lookUp]
  · cases mapping.get? (.str s) <;> rfl
  all_goals exact fun _ => PyVal.noConfusion

/-- One branch, with its ends among the actions. -/
theorem regenerateBranch_ok {row : BranchRow} {source destination : String}
    (hsource : mapping.get? (.str row.sourceId.str) = some (.str source))
    (hdestination : mapping.get? (.str row.destinationId.str) = some (.str destination))
    {v : PyVal} {n m : ℕ} :
    regenerateBranch uuid4 mapping row.element.items n = .ok v m ↔
      ∃ rest, regenerateFields uuid4 mapping (Element.jsonFields (behindEnds row)) (n + 1) =
          .ok rest m ∧
        v = .dict (("id", .str (uuid4 n)) :: ("source_id", .str source) ::
          ("destination_id", .str destination) :: rest) := by
  have hends : renameEnds mapping row.element.items = .ok (("id", .str row.id.str) ::
      ("source_id", .str source) :: ("destination_id", .str destination) ::
      Element.jsonFields (behindEnds row)) := by
    rw [branch_element]
    show (mapping.lookUp (.str row.sourceId.str) >>= _) = _
    rw [lookUp_str, hsource]
    show (mapping.lookUp (.str row.destinationId.str) >>= _) = _
    rw [lookUp_str, hdestination]
    rfl
  have hnone : OrderedDict.get? "reference" (("source_id", PyVal.str source) ::
      ("destination_id", .str destination) :: Element.jsonFields (behindEnds row)) = none := by
    show OrderedDict.get? "reference" (Element.jsonFields (behindEnds row)) = none
    exact not_reference_of_branch row
  unfold regenerateBranch
  rw [hends, Library.bind_of_ok (show Library.lift (.ok _) n = .ok _ n from rfl)]
  refine (aroundFields_numbered hnone).trans ?_
  constructor
  · rintro ⟨items, hitems, rfl⟩
    obtain ⟨items', hitems', rfl⟩ := regenerateFields_str.mp hitems
    obtain ⟨rest, hrest, rfl⟩ := regenerateFields_str.mp hitems'
    exact ⟨rest, hrest, rfl⟩
  · rintro ⟨rest, hrest, rfl⟩
    refine ⟨_, regenerateFields_str.mpr ⟨_, regenerateFields_str.mpr ⟨rest, hrest, rfl⟩, rfl⟩, ?_⟩
    rfl

/-- The ends of a branch are filed in the mapping, under texts. -/
def EndsFiled (mapping : ActionMapping) (row : BranchRow) : Prop :=
  (∃ source, mapping.get? (.str row.sourceId.str) = some (.str source)) ∧
    ∃ destination, mapping.get? (.str row.destinationId.str) = some (.str destination)

/-- The branches are copied when their conditions are clean. -/
theorem branches_copied {actionIds : List UUID}
    (hmapping : ∀ u : UUID, (mapping.get? (.str u.str)).isSome ↔ u ∈ actionIds)
    (rows : List BranchRow) (hends : ∀ row ∈ rows, EndsFiled mapping row)
    (hclean : ∀ row ∈ rows, ∀ expression ∈ row.condition,
      ExpressionClean actionIds expression) :
    ∀ n : ℕ, ∃ es m,
      (rows.map fun row => row.element.items).mapM (regenerateBranch uuid4 mapping) n =
          .ok (Element.jsonList es) m ∧
        (∀ ρ, Agrees mapping ρ → ElementsCopy ρ (rows.map BranchRow.element) es) ∧
        NumberedWithin uuid4 n m (listIds numberedKinds es) := by
  induction rows with
  | nil =>
    intro n
    exact ⟨[], n, rfl, fun ρ _ => .nil, .nil uuid4 n⟩
  | cons row rows ih =>
    intro n
    obtain ⟨⟨source, hsource⟩, destination, hdestination⟩ := hends row List.mem_cons_self
    obtain ⟨fields, k, hrun, hcopy, hids⟩ :=
      (branchRule hmapping row).copies (hclean row List.mem_cons_self) (n + 1)
    obtain ⟨es, m, hmore, hcopies, hnumbered⟩ :=
      ih (fun other hother => hends other (List.mem_cons_of_mem _ hother))
        (fun other hother => hclean other (List.mem_cons_of_mem _ hother)) k
    refine ⟨.mk .branch (some (.str (uuid4 n))) (("source_id", .reference (.str source)) ::
      ("destination_id", .reference (.str destination)) :: fields) :: es, m, ?_, ?_, ?_⟩
    · apply Library.mapM_cons_eq_ok.mpr
      exact ⟨_, k, _, (regenerateBranch_ok hsource hdestination).mpr ⟨_, hrun, rfl⟩, hmore, rfl⟩
    · intro ρ hρ
      rw [List.map_cons, branch_element]
      apply ElementsCopy.cons _ (hcopies ρ hρ)
      apply ElementCopy.element (by decide)
      rw [← hρ _ _ hsource, ← hρ _ _ hdestination]
      exact .cons (.reference _) (.cons (.reference _) (hcopy ρ hρ))
    · have hown : NumberedWithin uuid4 n (n + 1) [.str (uuid4 n)] :=
        ⟨Nat.le_succ n, [n], rfl, List.nodup_singleton n, by simp⟩
      rw [listIds, elementIds, if_pos (by decide)]
      exact (hown.append hids).append hnumbered

/-- Branches that come out copied have clean conditions. -/
theorem branches_clean {actionIds : List UUID}
    (hmapping : ∀ u : UUID, (mapping.get? (.str u.str)).isSome ↔ u ∈ actionIds)
    {ρ : PyVal → PyVal} (rows : List BranchRow) (hends : ∀ row ∈ rows, EndsFiled mapping row)
    (hfresh : ∀ k, uuid4 k ∉ listTexts (Element.jsonList (rows.map BranchRow.element))) :
    ∀ (n m : ℕ) (es : List Element),
      (rows.map fun row => row.element.items).mapM (regenerateBranch uuid4 mapping) n =
          .ok (Element.jsonList es) m →
      ElementsCopy ρ (rows.map BranchRow.element) es →
        ∀ row ∈ rows, ∀ expression ∈ row.condition, ExpressionClean actionIds expression := by
  induction rows with
  | nil =>
    intro n m es _ _ row hrow
    cases hrow
  | cons row rows ih =>
    intro n m es hrun hcopy
    obtain ⟨⟨source, hsource⟩, destination, hdestination⟩ := hends row List.mem_cons_self
    have hfresh' : ∀ k, uuid4 k ∉ itemTexts (Element.jsonFields (behindEnds row)) ∧
        uuid4 k ∉ listTexts (Element.jsonList (rows.map BranchRow.element)) := by
      intro k
      have hk := hfresh k
      rw [List.map_cons, Element.jsonList, listTexts, List.mem_append, branch_element] at hk
      refine ⟨fun hmem => hk (.inl ?_), fun hmem => hk (.inr hmem)⟩
      show uuid4 k ∈ texts (.str row.id.str) ++ (texts (.str row.sourceId.str) ++
        (texts (.str row.destinationId.str) ++ itemTexts (Element.jsonFields (behindEnds row))))
      simp [hmem]
    rw [List.map_cons, branch_element] at hcopy
    cases hcopy with
    | cons hcopy hcopies =>
      obtain ⟨v, k, vs, hrow, hrows, heq⟩ := Library.mapM_cons_eq_ok.mp hrun
      obtain ⟨rest, hrest, rfl⟩ := (regenerateBranch_ok hsource hdestination).mp hrow
      obtain ⟨hhead, rfl⟩ := List.cons.inj heq
      cases hcopy with
      | element _ hfields =>
        cases hfields with
        | cons hsourcePart hfields =>
          cases hfields with
          | cons hdestinationPart hfields =>
            cases hsourcePart
            cases hdestinationPart
            obtain ⟨-, hbehindId⟩ := List.cons.inj (PyVal.dict.inj hhead)
            obtain ⟨-, hbehindSource⟩ := List.cons.inj hbehindId
            obtain ⟨-, rfl⟩ := List.cons.inj hbehindSource
            have hclean := (branchRule hmapping row).clean_of_copy (fun j => (hfresh' j).1)
              (n + 1) k _ ρ hrest hfields
            have hmore := ih (fun other hother => hends other (List.mem_cons_of_mem _ hother))
              (fun j => (hfresh' j).2) k m _ hrows hcopies
            exact List.forall_mem_cons.mpr ⟨hclean, hmore⟩

end Branches

/-! ## The workflow -/

section Workflow

variable {uuid4 : ℕ → String}

/-- The JSON of a workflow with an action and a start, with some of its entries replaced. -/
def workflowItems (row : WorkflowRow) (id start : PyVal) (actions branches : List PyVal) :
    OrderedDict String PyVal :=
  ("id", id) :: ("name", .str row.name) :: ("start", start) :: ("is_valid", .bool row.isValid) ::
    ("actions", .list actions) ::
    ((if row.branches.isEmpty then [] else [("branches", .list branches)]) ++
      Element.jsonFields (elementsField "environment_variables"
        (row.environmentVariables.map EnvironmentVariableRow.element)))

/-- The elements of a list field, or none where the field is missing. -/
theorem dictionaries_elements {key : String} {items : OrderedDict String PyVal}
    {es : List Element} (h : items.get? key = some (.list (Element.jsonList es))) :
    dictionaries key items = .ok (es.map Element.items) := by
  unfold dictionaries
  rw [h]
  dsimp only
  clear h
  induction es with
  | nil => rfl
  | cons e es ih =>
    rw [Element.jsonList, json_eq_dict]
    exact Library.Except.mapM_cons_ok rfl ih

/-- The items of a workflow with actions and a start. -/
theorem workflow_items {row : WorkflowRow} (hactions : row.actions ≠ []) {start : UUID}
    (hstart : row.start = some start) :
    row.element.items = workflowItems row (.str row.id.str) (.str start.str)
      (Element.jsonList (row.actions.map ActionRow.element))
      (Element.jsonList (row.branches.map BranchRow.element)) := by
  obtain ⟨action, actions, heq⟩ := List.exists_cons_of_ne_nil hactions
  rw [WorkflowRow.element, workflowItems, hstart, heq]
  cases hbranches : row.branches with
  | nil => rfl
  | cons branch branches => rfl

/-- The branches among the items of a workflow. -/
theorem workflowItems_branches (row : WorkflowRow) (id start : PyVal) (actions : List PyVal)
    (es : List Element) (hes : es = [] ↔ row.branches = []) :
    dictionaries "branches" (workflowItems row id start actions (Element.jsonList es)) =
      .ok (es.map Element.items) := by
  cases hbranches : row.branches with
  | cons branch branches =>
    apply dictionaries_elements
    unfold workflowItems
    rw [hbranches]
    rfl
  | nil =>
    obtain rfl := hes.mpr hbranches
    have hnone : OrderedDict.get? "branches"
        (workflowItems row id start actions (Element.jsonList [])) = none := by
      show OrderedDict.get? "branches"
        ((if row.branches.isEmpty then [] else [("branches", PyVal.list [])]) ++
          Element.jsonFields (elementsField "environment_variables"
            (row.environmentVariables.map EnvironmentVariableRow.element))) = none
      rw [hbranches]
      exact OrderedDict.get?_eq_none_iff.mpr (not_mem_elementsField (by decide) _)
    unfold dictionaries
    rw [hnone]
    rfl

/-- Replacing the branches replaces no other item. -/
theorem replaceList_branches (row : WorkflowRow) (id start : PyVal)
    (actions branches branches' : List PyVal) :
    regenerateWorkflowIds.replaceList "branches" branches'
        (workflowItems row id start actions branches) =
      workflowItems row id start actions branches' := by
  cases hbranches : row.branches with
  | cons branch others =>
    unfold workflowItems
    rw [hbranches]
    rfl
  | nil =>
    have hsame : ∀ bs, workflowItems row id start actions bs = ("id", id) ::
        ("name", .str row.name) :: ("start", start) :: ("is_valid", .bool row.isValid) ::
        ("actions", .list actions) :: Element.jsonFields (elementsField "environment_variables"
          (row.environmentVariables.map EnvironmentVariableRow.element)) := by
      intro bs
      unfold workflowItems
      rw [hbranches]
      rfl
    have hnone : OrderedDict.get? "branches" (workflowItems row id start actions branches) =
        none := by
      rw [hsame]
      show OrderedDict.get? "branches" (Element.jsonFields (elementsField "environment_variables"
        (row.environmentVariables.map EnvironmentVariableRow.element))) = none
      exact OrderedDict.get?_eq_none_iff.mpr (not_mem_elementsField (by decide) _)
    unfold regenerateWorkflowIds.replaceList
    rw [hnone, hsame, hsame]
    rfl

/-- The new ids of the actions, filed under the old ones. -/
def filed (uuid4 : ℕ → String) (row : WorkflowRow) : ActionMapping :=
  (row.actions.map actionKey).zip (newIds uuid4 1 row.actions.length)

/-- The ids of the actions are filed in their order. -/
theorem filed_keys (row : WorkflowRow) :
    OrderedDict.keys (filed uuid4 row) = row.actions.map actionKey := by
  unfold OrderedDict.keys filed
  apply List.map_fst_zip
  simp [newIds]

/-- An id is filed exactly if it is one of an action. -/
theorem filed_isSome (row : WorkflowRow) (u : UUID) :
    ((filed uuid4 row).get? (.str u.str)).isSome ↔ u ∈ row.actions.map ActionRow.id := by
  rw [← OrderedDict.mem_keys_iff, filed_keys]
  constructor
  · intro h
    obtain ⟨action, haction, hkey⟩ := List.mem_map.mp h
    have hu : action.id = u := UUID.str_injective (PyVal.str.inj hkey)
    exact hu ▸ List.mem_map_of_mem haction
  · intro h
    obtain ⟨action, haction, rfl⟩ := List.mem_map.mp h
    exact List.mem_map_of_mem haction

/-- Texts are filed. -/
theorem filed_str {row : WorkflowRow} {id v : PyVal} (h : (filed uuid4 row).get? id = some v) :
    ∃ s, v = .str s := by
  have hmem : v ∈ newIds uuid4 1 row.actions.length := by
    have hpair := OrderedDict.mem_of_get? h
    exact (List.of_mem_zip hpair).2
  obtain ⟨k, -, rfl⟩ := List.mem_map.mp hmem
  exact ⟨uuid4 k, rfl⟩

/-- The id of an action is filed under its text. -/
theorem filed_of_mem {row : WorkflowRow} {u : UUID} (h : u ∈ row.actions.map ActionRow.id) :
    ∃ s, (filed uuid4 row).get? (.str u.str) = some (.str s) := by
  obtain ⟨v, hv⟩ := Option.isSome_iff_exists.mp ((filed_isSome row u).mpr h)
  obtain ⟨s, rfl⟩ := filed_str hv
  exact ⟨s, hv⟩

/-- The actions of a valid workflow have distinct ids. -/
theorem actionKeys_nodup (w : ValidWorkflow) : (w.actions.map actionKey).Nodup := by
  have hkeys : w.actions.map actionKey =
      (w.actions.map ActionRow.id).map fun u => PyVal.str u.str := by
    rw [List.map_map]
    rfl
  rw [hkeys]
  apply w.actions_nodup.map
  intro u v h
  exact UUID.str_injective (PyVal.str.inj h)

/-- The ends of the branches of a valid workflow are filed. -/
theorem endsFiled_of_valid (w : ValidWorkflow) :
    ∀ row ∈ w.branches, EndsFiled (filed uuid4 w.toWorkflowRow) row := by
  intro row hrow
  obtain ⟨⟨source, hsource, hsourceId⟩, destination, hdestination, hdestinationId⟩ :=
    w.ends_valid row hrow
  rw [EndsFiled, hsourceId, hdestinationId]
  exact ⟨filed_of_mem (List.mem_map_of_mem hsource), filed_of_mem (List.mem_map_of_mem hdestination)⟩

/-- A run over a workflow with an action: the actions, the branches, and the start. -/
theorem regenerateWorkflowIds_ok {w : ValidWorkflow} (hactions : w.actions ≠ [])
    {copied : OrderedDict String PyVal} {m : ℕ} :
    regenerateWorkflowIds uuid4 w.element.items 0 = .ok copied m ↔
      ∃ start start' actions k branches, w.start = some start ∧
        (filed uuid4 w.toWorkflowRow).get? (.str start.str) = some (.str start') ∧
        (List.zipWith renumbered w.actions (newIds uuid4 1 w.actions.length)).mapM
            (regenerateIds uuid4 (filed uuid4 w.toWorkflowRow) false) (1 + w.actions.length) =
          .ok actions k ∧
        (w.branches.map fun row => row.element.items).mapM
            (regenerateBranch uuid4 (filed uuid4 w.toWorkflowRow)) k = .ok branches m ∧
        copied = workflowItems w.toWorkflowRow (.str (uuid4 0)) (.str start') actions branches := by
  obtain ⟨action, haction, hstart⟩ := w.start_valid hactions
  obtain ⟨start', hstart'⟩ : ∃ s, (filed uuid4 w.toWorkflowRow).get? (.str action.id.str) =
      some (.str s) := filed_of_mem (List.mem_map_of_mem haction)
  have hdictionaries : ∀ id, dictionaries "actions" (workflowItems w.toWorkflowRow id
      (.str action.id.str) (Element.jsonList (w.actions.map ActionRow.element))
      (Element.jsonList (w.branches.map BranchRow.element))) =
        .ok (w.actions.map fun row => row.element.items) := by
    intro id
    rw [dictionaries_elements rfl, List.map_map]
    rfl
  have hbranches : ∀ id actions, dictionaries "branches" (workflowItems w.toWorkflowRow id
      (.str action.id.str) actions (Element.jsonList (w.branches.map BranchRow.element))) =
        .ok (w.branches.map fun row => row.element.items) := by
    intro id actions
    rw [workflowItems_branches _ _ _ _ _ List.map_eq_nil_iff, List.map_map]
    rfl
  have hrenumber := @renumberActions_ok uuid4 w.actions [] 1 (actionKeys_nodup w)
  rw [List.nil_append] at hrenumber
  have hrun : regenerateWorkflowIds uuid4 w.element.items 0 = (do
      let actions ← (List.zipWith renumbered w.actions (newIds uuid4 1 w.actions.length)).mapM
        (regenerateIds uuid4 (filed uuid4 w.toWorkflowRow) false)
      let branches ← (w.branches.map fun row => row.element.items).mapM
        (regenerateBranch uuid4 (filed uuid4 w.toWorkflowRow))
      pure (workflowItems w.toWorkflowRow (.str (uuid4 0)) (.str start') actions branches) :
        Copying (OrderedDict String PyVal)) (1 + w.actions.length) := by
    unfold regenerateWorkflowIds
    rw [Library.bind_of_ok (show newId uuid4 0 = .ok (.str (uuid4 0)) 1 from rfl),
      workflow_items hactions hstart]
    show (Library.lift (dictionaries "actions" (workflowItems w.toWorkflowRow (.str (uuid4 0))
      (.str action.id.str) _ _)) >>= _) 1 = _
    rw [hdictionaries]
    refine (Library.bind_of_ok rfl).trans ((Library.bind_of_ok hrenumber).trans ?_)
    dsimp only
    cases hruns : (List.zipWith renumbered w.actions (newIds uuid4 1 w.actions.length)).mapM
        (regenerateIds uuid4 (filed uuid4 w.toWorkflowRow) false) (1 + w.actions.length) with
    | error e n => exact (Library.bind_of_error hruns).trans (Library.bind_of_error hruns).symm
    | ok actions k =>
      refine (Library.bind_of_ok hruns).trans (Eq.trans ?_ (Library.bind_of_ok hruns).symm)
      show (Library.lift (dictionaries "branches" (workflowItems w.toWorkflowRow (.str (uuid4 0))
        (.str action.id.str) actions _)) >>= _) k = _
      rw [hbranches]
      refine (Library.bind_of_ok rfl).trans ?_
      cases hrunBranches : (w.branches.map fun row => row.element.items).mapM
          (regenerateBranch uuid4 (filed uuid4 w.toWorkflowRow)) k with
      | error e n =>
        exact (Library.bind_of_error hrunBranches).trans (Library.bind_of_error hrunBranches).symm
      | ok branches n =>
        refine (Library.bind_of_ok hrunBranches).trans
          (Eq.trans ?_ (Library.bind_of_ok hrunBranches).symm)
        have hreplace : regenerateWorkflowIds.replaceList "branches" branches
            (workflowItems w.toWorkflowRow (.str (uuid4 0)) (.str action.id.str) actions
              (Element.jsonList (w.branches.map BranchRow.element))) =
            workflowItems w.toWorkflowRow (.str (uuid4 0)) (.str action.id.str) actions branches :=
          replaceList_branches _ _ _ _ _ _
        have hlookUp : ActionMapping.lookUp (filed uuid4 w.toWorkflowRow) (.str action.id.str) =
            .ok (.str start') := by
          rw [lookUp_str, hstart']
          rfl
        show (Library.lift (do
          ActionMapping.lookUp (filed uuid4 w.toWorkflowRow)
            (← entry "start" (regenerateWorkflowIds.replaceList "branches" branches
              (workflowItems w.toWorkflowRow (.str (uuid4 0)) (.str action.id.str) actions
                (Element.jsonList (w.branches.map BranchRow.element)))))) >>= _) n = _
        rw [hreplace]
        show (Library.lift (ActionMapping.lookUp (filed uuid4 w.toWorkflowRow)
          (.str action.id.str)) >>= _) n = _
        rw [hlookUp]
        refine (Library.bind_of_ok rfl).trans ?_
        exact congrArg (fun items => EStateM.Result.ok (OrderedDict.set "start" (.str start') items) n)
          hreplace
  rw [hrun]
  constructor
  · intro h
    obtain ⟨actions, k, hruns, hrest⟩ := Library.bind_eq_ok.mp h
    obtain ⟨branches, k', hrunBranches, hresult⟩ := Library.bind_eq_ok.mp hrest
    cases hresult
    exact ⟨action.id, start', actions, k, branches, hstart, hstart', hruns, hrunBranches, rfl⟩
  · rintro ⟨start, s, actions, k, branches, hstartEq, hfiled, hruns, hrunBranches, rfl⟩
    obtain rfl : action.id = start := Option.some.inj (hstart.symm.trans hstartEq)
    obtain rfl : start' = s := PyVal.str.inj (Option.some.inj (hstart'.symm.trans hfiled))
    rw [Library.bind_of_ok hruns]
    exact Library.bind_of_ok hrunBranches

/-- Nothing is looked up in an empty mapping. -/
theorem lookUp_nil {key v : PyVal} : ActionMapping.lookUp [] key ≠ .ok v := by
  cases key <;> exact fun h => (by cases h)

/-- Without an action the lookup of the start fails. -/
theorem actions_ne_nil_of_run {row : WorkflowRow} {copied : OrderedDict String PyVal} {m : ℕ}
    (h : regenerateWorkflowIds uuid4 row.element.items 0 = .ok copied m) : row.actions ≠ [] := by
  intro hnil
  have hnone : OrderedDict.get? "actions" (OrderedDict.set "id" (.str (uuid4 0))
      row.element.items) = none := by
    apply OrderedDict.get?_eq_none_iff.mpr
    rw [OrderedDict.mem_keys_set, not_or]
    refine ⟨by decide, ?_⟩
    have hkeys : OrderedDict.keys row.element.items = "id" :: fieldKeys (fieldsOf row.element) := rfl
    rw [hkeys, WorkflowRow.element, fieldsOf, hnil, List.mem_cons, not_or]
    refine ⟨by decide, ?_⟩
    simp only [fieldKeys_append, List.mem_append, not_or]
    refine ⟨⟨⟨⟨⟨?_, ?_⟩, ?_⟩, ?_⟩, ?_⟩, ?_⟩
    · exact not_mem_dataField (by decide) _
    · cases row.start with
      | none => simp [referenceField, fieldKeys, Element.jsonFields, OrderedDict.keys]
      | some u => simp [referenceField, fieldKeys, Element.jsonFields, OrderedDict.keys]
    · exact not_mem_dataField (by decide) _
    · simp [elementsField, fieldKeys, Element.jsonFields, OrderedDict.keys]
    · exact not_mem_elementsField (by decide) _
    · exact not_mem_elementsField (by decide) _
  obtain ⟨id, n₁, hid, h⟩ := Library.bind_eq_ok.mp h
  cases hid
  obtain ⟨actions, n₂, hactions, h⟩ := Library.bind_eq_ok.mp h
  unfold dictionaries at hactions
  rw [hnone] at hactions
  cases hactions
  obtain ⟨renumberedActions, n₃, hrenumber, h⟩ := Library.bind_eq_ok.mp h
  cases hrenumber
  obtain ⟨actions, n₄, -, h⟩ := Library.bind_eq_ok.mp h
  obtain ⟨branches, n₅, -, h⟩ := Library.bind_eq_ok.mp h
  obtain ⟨branches, n₆, -, h⟩ := Library.bind_eq_ok.mp h
  obtain ⟨start, n₇, hstart, -⟩ := Library.bind_eq_ok.mp h
  cases hentry : entry "start" (regenerateWorkflowIds.replaceList "branches" branches
      (regenerateWorkflowIds.replaceList "actions" actions
        (OrderedDict.set "id" (.str (uuid4 0)) row.element.items))) with
  | error e =>
    simp only [hentry] at hstart
    cases hstart
  | ok v =>
    simp only [hentry] at hstart
    cases hlookUp : ActionMapping.lookUp [] v with
    | error e =>
      have hraise : (Library.lift (ActionMapping.lookUp [] v) : Copying PyVal) n₆ =
          .ok start n₇ := hstart
      rw [hlookUp] at hraise
      cases hraise
    | ok w => exact lookUp_nil hlookUp

/-! ## The copy as a tree -/

variable {ρ : PyVal → PyVal}

/-- A field of elements is copied by copying them. -/
theorem fieldsCopy_elementsField {key : String} {es : List Element}
    {fields : List (String × Part)} :
    FieldsCopy ρ (elementsField key es) fields ↔
      ∃ es', fields = elementsField key es' ∧ ElementsCopy ρ es es' := by
  constructor
  · intro h
    cases es with
    | nil =>
      cases h
      exact ⟨[], rfl, .nil⟩
    | cons e es =>
      cases h with
      | cons hpart hfields =>
        cases hfields
        cases hpart with
        | elements hes =>
          cases hes with
          | cons h hmore => exact ⟨_ :: _, rfl, .cons h hmore⟩
  · rintro ⟨es', rfl, hes⟩
    cases hes with
    | nil => exact .nil
    | cons h hmore => exact .cons (.elements (.cons h hmore)) .nil

/-- The fields of a workflow with a start. -/
def workflowFields (row : WorkflowRow) (start : PyVal)
    (actions branches environmentVariables : List Element) : List (String × Part) :=
  ("name", .data (.str row.name)) :: ("start", .reference start) ::
    ("is_valid", .data (.bool row.isValid)) ::
    (elementsField "actions" actions ++ elementsField "branches" branches ++
      elementsField "environment_variables" environmentVariables)

/-- The element of a workflow with a start. -/
theorem workflow_element {row : WorkflowRow} {start : UUID} (hstart : row.start = some start) :
    row.element = .mk .workflow (some (.str row.id.str))
      (workflowFields row (.str start.str) (row.actions.map ActionRow.element)
        (row.branches.map BranchRow.element)
        (row.environmentVariables.map EnvironmentVariableRow.element)) := by
  rw [WorkflowRow.element, workflowFields, hstart]
  simp [referenceField, dataField, skipValues]

/-- The copies of a workflow with a start. -/
theorem elementCopy_workflow {row : WorkflowRow} {start : UUID} (hstart : row.start = some start)
    {copy : Element} :
    ElementCopy ρ row.element copy ↔ ∃ id actions branches environmentVariables,
      copy = .mk .workflow (some id)
        (workflowFields row (ρ (.str start.str)) actions branches environmentVariables) ∧
      ElementsCopy ρ (row.actions.map ActionRow.element) actions ∧
      ElementsCopy ρ (row.branches.map BranchRow.element) branches ∧
      ElementsCopy ρ (row.environmentVariables.map EnvironmentVariableRow.element)
        environmentVariables := by
  rw [workflow_element hstart]
  constructor
  · intro h
    cases h with
    | element _ hfields =>
      cases hfields with
      | cons hname hfields =>
        cases hname
        cases hfields with
        | cons hstart hfields =>
          cases hstart
          cases hfields with
          | cons hvalid hfields =>
            cases hvalid
            obtain ⟨others, last, rfl, hfields, hlast⟩ := hfields.of_append
            obtain ⟨first, middle, rfl, hfirst, hmiddle⟩ := hfields.of_append
            obtain ⟨actions, rfl, hactions⟩ := fieldsCopy_elementsField.mp hfirst
            obtain ⟨branches, rfl, hbranches⟩ := fieldsCopy_elementsField.mp hmiddle
            obtain ⟨environment, rfl, hvariables⟩ := fieldsCopy_elementsField.mp hlast
            exact ⟨_, actions, branches, environment, rfl, hactions, hbranches, hvariables⟩
  · rintro ⟨id, actions, branches, environment, rfl, hactions, hbranches, hvariables⟩
    apply ElementCopy.element (by decide)
    refine .cons (.data _) (.cons (.reference _) (.cons (.data _) ?_))
    apply FieldsCopy.append
    · apply FieldsCopy.append
      · exact fieldsCopy_elementsField.mpr ⟨actions, rfl, hactions⟩
      · exact fieldsCopy_elementsField.mpr ⟨branches, rfl, hbranches⟩
    · exact fieldsCopy_elementsField.mpr ⟨environment, rfl, hvariables⟩

/-- The ids in the fields of a workflow are those of its actions, branches and variables. -/
theorem fieldIds_workflowFields (kinds : List ElementKind) (row : WorkflowRow) (start : PyVal)
    (actions branches environmentVariables : List Element) :
    fieldIds kinds (workflowFields row start actions branches environmentVariables) =
      listIds kinds actions ++ listIds kinds branches ++ listIds kinds environmentVariables := by
  rw [workflowFields, fieldIds, fieldIds, fieldIds]
  simp [partIds, fieldIds_append]

/-- The texts in a field of elements are theirs. -/
theorem itemTexts_elementsField (key : String) (es : List Element) :
    itemTexts (Element.jsonFields (elementsField key es)) = listTexts (Element.jsonList es) := by
  cases es with
  | nil => rfl
  | cons e es => simp [elementsField, Element.jsonFields, Part.json, itemTexts, texts]

/-- The texts of the actions and branches are texts of the dump. -/
theorem itemTexts_workflow {row : WorkflowRow} {start : UUID} (hstart : row.start = some start)
    {s : String} (h : s ∈ listTexts (Element.jsonList (row.actions.map ActionRow.element)) ∨
      s ∈ listTexts (Element.jsonList (row.branches.map BranchRow.element))) :
    s ∈ texts row.dump := by
  show s ∈ texts row.element.json
  rw [json_eq_dict, workflow_element hstart]
  show s ∈ itemTexts (("id", _) :: Element.jsonFields (workflowFields _ _ _ _ _))
  unfold workflowFields
  simp only [itemTexts, Element.jsonFields, jsonFields_append, itemTexts_append,
    itemTexts_elementsField, List.mem_append]
  tauto

/-- The JSON of a workflow's tree. -/
theorem items_workflowFields {row : WorkflowRow} {id start : PyVal} {actions branches : List Element}
    (hactions : actions ≠ []) (hbranches : branches = [] ↔ row.branches = []) :
    workflowItems row id start (Element.jsonList actions) (Element.jsonList branches) =
      (Element.mk .workflow (some id) (workflowFields row start actions branches
        (row.environmentVariables.map EnvironmentVariableRow.element))).items := by
  obtain ⟨e, es, rfl⟩ := List.exists_cons_of_ne_nil hactions
  cases hrow : row.branches with
  | nil =>
    obtain rfl := hbranches.mpr hrow
    unfold workflowItems
    rw [hrow]
    rfl
  | cons row' rows =>
    have hne : branches ≠ [] := by
      intro h
      rw [hbranches.mp h] at hrow
      cases hrow
    obtain ⟨b, bs, rfl⟩ := List.exists_cons_of_ne_nil hne
    unfold workflowItems
    rw [hrow]
    rfl

/-- A copy is empty exactly if the original is. -/
theorem ElementsCopy.eq_nil_iff {es es' : List Element} (h : ElementsCopy ρ es es') :
    es' = [] ↔ es = [] := by
  cases h <;> simp

/-- The ids of actions that can be referred to are their own. -/
theorem referableIds_actions (rows : List ActionRow) :
    listIds referableKinds (rows.map ActionRow.element) = rows.map actionKey := by
  induction rows with
  | nil => rfl
  | cons row rows ih =>
    have hrow : elementIds referableKinds row.element = [actionKey row] := by
      show (if ElementKind.action ∈ referableKinds then [actionKey row] else []) ++
        fieldIds referableKinds (fieldsOf row.element) = _
      rw [referableIds_action, if_pos (by decide)]
      rfl
    rw [List.map_cons, listIds, hrow, ih]
    rfl

/-- References to actions are renamed as the first loop files them. -/
theorem agrees_renameId {row : WorkflowRow} {start : UUID} (hstart : row.start = some start)
    {id start' : PyVal} {actions branches : List Element}
    (hactions : listIds referableKinds actions = newIds uuid4 1 row.actions.length) :
    Agrees (filed uuid4 row)
      (renameId row.element (.mk .workflow (some id) (workflowFields row start' actions branches []))) := by
  intro key v hv
  unfold renameId
  rw [workflow_element hstart, elementIds, elementIds, if_neg (by decide), if_neg (by decide),
    fieldIds_workflowFields, fieldIds_workflowFields, hactions, referableIds_actions,
    List.nil_append, List.nil_append, List.append_assoc, List.append_assoc,
    List.zip_append (by simp [newIds]), List.lookup_append]
  have hlookup : ((row.actions.map actionKey).zip (newIds uuid4 1 row.actions.length)).lookup key =
      some v := by
    rw [← OrderedDict.get?_eq_lookup]
    exact hv
  rw [hlookup]
  rfl

/-- A clean workflow is copied well. -/
theorem copiesWell_of_copyable {w : ValidWorkflow} (ids : NewIds w.dump)
    (h : Copyable w.toWorkflowRow) : CopiesWell w.toWorkflowRow ids := by
  obtain ⟨action, haction, hstart⟩ := w.start_valid h.actions_ne_nil
  obtain ⟨start', hstart'⟩ : ∃ s, (filed ids.uuid4 w.toWorkflowRow).get? (.str action.id.str) =
      some (.str s) := filed_of_mem (List.mem_map_of_mem haction)
  have hmapping := @filed_isSome ids.uuid4 w.toWorkflowRow
  obtain ⟨actions, k, hrun, hcopied, hreferable, hnumbered⟩ :=
    actions_copied hmapping w.actions h.actions 1 (1 + w.actions.length) (Nat.le_refl _)
  obtain ⟨branches, m, hrunBranches, hcopiedBranches, hnumberedBranches⟩ :=
    @branches_copied ids.uuid4 _ _ hmapping w.branches (endsFiled_of_valid w) h.branches k
  have hagrees := @agrees_renameId ids.uuid4 w.toWorkflowRow action.id hstart
    (.str (ids.uuid4 0)) (.str start') actions branches hreferable
  have hcopyActions := hcopied _ hagrees
  have hcopyBranches := hcopiedBranches _ hagrees
  have hids : ∃ calls : List ℕ, elementIds numberedKinds (.mk .workflow
      (some (.str (ids.uuid4 0)))
      (workflowFields w.toWorkflowRow (.str start') actions branches [])) =
        calls.map (fun k => .str (ids.uuid4 k)) ∧ calls.Nodup := by
    obtain ⟨hle, calls, hcalls, hnodup, hbound⟩ := hnumbered
    obtain ⟨hle', calls', hcalls', hnodup', hbound'⟩ := hnumberedBranches
    refine ⟨0 :: (calls ++ calls'), ?_, ?_⟩
    · rw [elementIds, if_pos (by decide), fieldIds_workflowFields, hcalls, hcalls']
      simp [listIds]
    · apply List.nodup_cons.mpr
      constructor
      · intro hzero
        rcases List.mem_append.mp hzero with hzero | hzero
        · have hzeroBound := hbound 0 hzero
          omega
        · have hzeroBound := hbound' 0 hzero
          omega
      · apply List.Nodup.append hnodup hnodup'
        intro c hc hc'
        have hcBound := hbound c hc
        have hcBound' := hbound' c hc'
        omega
  refine ⟨_, m, .mk .workflow (some (.str (ids.uuid4 0)))
    (workflowFields w.toWorkflowRow (.str start') actions branches []), ?_, rfl, ?_, ?_, ?_⟩
  · apply (regenerateWorkflowIds_ok h.actions_ne_nil).mpr
    refine ⟨action.id, start', _, k, _, hstart, hstart', hrun, hrunBranches, ?_⟩
    have hne : actions ≠ [] := fun hnil =>
      h.actions_ne_nil (List.map_eq_nil_iff.mp (hcopyActions.eq_nil_iff.mp hnil))
    have hbranches : branches = [] ↔ w.branches = [] :=
      hcopyBranches.eq_nil_iff.trans List.map_eq_nil_iff
    rw [items_workflowFields hne hbranches, h.environmentVariables]
    rfl
  · apply (elementCopy_workflow hstart).mpr
    refine ⟨.str (ids.uuid4 0), actions, branches, [], ?_, hcopyActions, hcopyBranches, ?_⟩
    · rw [hagrees _ _ hstart']
    · rw [h.environmentVariables]
      exact .nil
  · obtain ⟨calls, hcalls, hnodup⟩ := hids
    rw [hcalls]
    apply hnodup.map
    intro i j hij
    exact ids.injective (PyVal.str.inj hij)
  · obtain ⟨calls, hcalls, -⟩ := hids
    rw [hcalls]
    intro id hid hold
    obtain ⟨k, -, rfl⟩ := List.mem_map.mp hid
    apply ids.fresh k
    show ids.uuid4 k ∈ texts w.element.json
    rw [json_eq_dict]
    exact texts_of_elementIds hold (ids.uuid4 k) (List.mem_singleton_self _)

/-- A dumped environment variable keeps its id, so a copy with the same JSON has it too. -/
theorem elementIds_of_json_eq {e e' : Element} {id : PyVal} {fields : List (String × Part)}
    (he : e = .mk .environmentVariable (some id) fields) (hcopy : ElementCopy ρ e e')
    (hjson : e'.json = e.json) : id ∈ elementIds numberedKinds e' := by
  rw [he] at hcopy hjson
  cases hcopy with
  | @element _ _ id' _ _ _ _ =>
    obtain ⟨hid, -⟩ := List.cons.inj (PyVal.dict.inj hjson)
    obtain rfl : id' = id := (Prod.mk.inj hid).2
    exact List.mem_append_left _ (List.mem_singleton_self _)

/-- The lists in the JSON of a workflow's tree. -/
theorem parts_of_items {row : WorkflowRow} {id id' start start' : PyVal}
    {actions branches environment : List Element} {xs ys : List PyVal} (hactions : actions ≠ [])
    (hbranches : branches = [] ↔ row.branches = [])
    (h : (Element.mk .workflow (some id)
      (workflowFields row start actions branches environment)).items =
        workflowItems row id' start' xs ys) :
    Element.jsonList actions = xs ∧ (row.branches ≠ [] → Element.jsonList branches = ys) ∧
      Element.jsonFields (elementsField "environment_variables" environment) =
        Element.jsonFields (elementsField "environment_variables"
          (row.environmentVariables.map EnvironmentVariableRow.element)) := by
  obtain ⟨e, es, rfl⟩ := List.exists_cons_of_ne_nil hactions
  have hbehind : ("actions", PyVal.list (Element.jsonList (e :: es))) ::
      (Element.jsonFields (elementsField "branches" branches) ++
        Element.jsonFields (elementsField "environment_variables" environment)) =
      ("actions", .list xs) ::
        ((if row.branches.isEmpty then [] else [("branches", .list ys)]) ++
          Element.jsonFields (elementsField "environment_variables"
            (row.environmentVariables.map EnvironmentVariableRow.element))) := by
    rw [← jsonFields_append]
    exact (List.cons.inj (List.cons.inj (List.cons.inj (List.cons.inj h).2).2).2).2
  obtain ⟨hhead, htail⟩ := List.cons.inj hbehind
  refine ⟨PyVal.list.inj (Prod.mk.inj hhead).2, ?_⟩
  cases hrow : row.branches with
  | nil =>
    obtain rfl := hbranches.mpr hrow
    rw [hrow] at htail
    exact ⟨fun hne => absurd rfl hne, htail⟩
  | cons row' rows =>
    have hne : branches ≠ [] := by
      intro hnil
      rw [hbranches.mp hnil] at hrow
      cases hrow
    obtain ⟨b, bs, rfl⟩ := List.exists_cons_of_ne_nil hne
    rw [hrow] at htail
    obtain ⟨hbranch, hrest⟩ := List.cons.inj htail
    exact ⟨fun _ => PyVal.list.inj (Prod.mk.inj hbranch).2, hrest⟩

/-- A workflow that is copied well has an action, no environment variables, and clean elements. -/
theorem copyable_of_copiesWell {w : ValidWorkflow} {ids : NewIds w.dump}
    (h : CopiesWell w.toWorkflowRow ids) : Copyable w.toWorkflowRow := by
  obtain ⟨copied, m, copy, hrun, rfl, hcopy⟩ := h
  have hne := actions_ne_nil_of_run hrun
  obtain ⟨start, start', actions, k, branches, hstart, hstart', hrunActions, hrunBranches, hitems⟩ :=
    (regenerateWorkflowIds_ok hne).mp hrun
  obtain ⟨id, actions', branches', environment, hcopyEq, hactions, hbranches, hcopied⟩ :=
    (elementCopy_workflow hstart).mp hcopy.copied
  have hne' : actions' ≠ [] := fun hnil =>
    hne (List.map_eq_nil_iff.mp (hactions.eq_nil_iff.mp hnil))
  have hmapping := @filed_isSome ids.uuid4 w.toWorkflowRow
  rw [hcopyEq] at hitems
  obtain ⟨hactionsEq, hbranchesEq, henvironment⟩ :=
    parts_of_items hne' (hbranches.eq_nil_iff.trans List.map_eq_nil_iff) hitems
  have hvalid := @endsFiled_of_valid ids.uuid4 w
  refine ⟨hne, ?_, ?_, ?_⟩
  · cases hrows : w.environmentVariables with
    | nil => rfl
    | cons row rows =>
      exfalso
      rw [hrows] at hcopied henvironment
      cases hcopied with
      | @cons _ e' _ es' hhead _ =>
        have hjson : e'.json = row.element.json := by
          have hfield := (List.cons.inj henvironment).1
          have hlist := PyVal.list.inj (Prod.mk.inj hfield).2
          exact (List.cons.inj hlist).1
        have hid : PyVal.str row.id.str ∈ elementIds numberedKinds e' :=
          elementIds_of_json_eq rfl hhead hjson
        apply hcopy.fresh (.str row.id.str)
        · rw [hcopyEq, elementIds, fieldIds_workflowFields]
          exact List.mem_append_right _ (List.mem_append_right _ (List.mem_append_left _ hid))
        · rw [workflow_element hstart, elementIds, fieldIds_workflowFields, hrows]
          apply List.mem_append_right
          apply List.mem_append_right
          apply List.mem_append_left
          exact List.mem_append_left _ (List.mem_singleton_self _)
  · apply actions_clean hmapping w.actions _ 1 _ k actions'
    · rw [hactionsEq]
      exact hrunActions
    · exact hactions
    · intro j hj
      exact ids.fresh j (itemTexts_workflow hstart (.inl hj))
  · intro row hrow
    have hrun' : (w.branches.map fun row => row.element.items).mapM
        (regenerateBranch ids.uuid4 (filed ids.uuid4 w.toWorkflowRow)) k =
          .ok (Element.jsonList branches') m := by
      rw [hbranchesEq (List.ne_nil_of_mem hrow)]
      exact hrunBranches
    have hfresh : ∀ j, ids.uuid4 j ∉
        listTexts (Element.jsonList (w.branches.map BranchRow.element)) := by
      intro j hj
      exact ids.fresh j (itemTexts_workflow hstart (.inr hj))
    exact branches_clean hmapping w.branches hvalid hfresh k m branches' hrun' hbranches row hrow

end Workflow

/-- The workflows that are copied well are those with an action, without environment variables
and with clean elements. -/
theorem copiesWell_iff (w : ValidWorkflow) (ids : NewIds w.dump) :
    CopiesWell w.toWorkflowRow ids ↔ Copyable w.toWorkflowRow :=
  ⟨copyable_of_copiesWell, copiesWell_of_copyable ids⟩

/-! ## A workflow with an environment variable -/

/-- An action without arguments. -/
def plainAction : ActionRow where
  id := 1
  appName := "HelloWorld"
  actionName := "pause"
  name := "wait"
  deviceId := none
  arguments := []
  trigger := none
  position := none

/-- A workflow with an action and an environment variable. -/
def variableWorkflow : ValidWorkflow where
  id := 2
  name := "wait"
  start := some 1
  isValid := true
  actions := [plainAction]
  branches := []
  environmentVariables := [{ id := 3, name := some "delay", value := "5", description := none }]
  start_valid _ := ⟨plainAction, List.mem_singleton_self _, rfl⟩
  ends_valid _ h := absurd h List.not_mem_nil
  actions_nodup := List.nodup_singleton _

/-- Ids that are longer than all of the texts together. -/
def longIds (json : PyVal) : NewIds json where
  uuid4 n :=
    String.ofList (List.replicate (((texts json).map fun s => s.toList.length).sum + 1 + n) 'x')
  injective := by
    intro m n h
    have hlength := congrArg (fun s => s.toList.length) h
    simpa using hlength
  fresh := by
    intro n h
    have hle := List.le_sum_of_mem (List.mem_map_of_mem (f := fun s : String => s.toList.length) h)
    rw [String.toList_ofList, List.length_replicate] at hle
    omega

/-- The copy of the workflow has the environment variable of the original. -/
theorem variable_not_copied :
    ¬ CopiesWell variableWorkflow.toWorkflowRow (longIds variableWorkflow.dump) := by
  intro h
  have hnone := (copyable_of_copiesWell h).environmentVariables
  cases hnone

end Walkoff.Analysis
