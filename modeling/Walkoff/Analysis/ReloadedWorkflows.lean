import Walkoff.Analysis.ExportedPlaybooks
import Walkoff.Program.SchemaLoading

/-!
# Loading what was dumped

`WorkflowSchema.load` of the JSON that `WorkflowSchema.dump` gives. What a dump leaves out is kept
from the row that is found, so that the same workflow comes back where it is stored; but
`remove_skip_values` goes by values, and takes an argument's value out with the empty fields. The
schemas are taken one after the other, from the arguments up: what the dump of an element holds,
and when it is loaded again.
-/

set_option autoImplicit false

namespace Walkoff.Analysis

open Walkoff.Model Walkoff.Program
open Walkoff.Library (OrderedDict)

/-! ## Workflows and the database -/

/-- The arguments of a condition and of its transforms. -/
def conditionArguments (row : ConditionRow) : List ArgumentRow :=
  row.arguments ++ row.transforms.flatMap TransformRow.arguments

mutual

/-- The arguments anywhere in an expression. -/
def expressionArguments : ExpressionRow → List ArgumentRow
  | .mk _ _ _ childExpressions conditions =>
    expressionsArguments childExpressions ++ conditions.flatMap conditionArguments

def expressionsArguments : List ExpressionRow → List ArgumentRow
  | [] => []
  | row :: rows => expressionArguments row ++ expressionsArguments rows

end

/-- The arguments of an action, that of its device and those in its trigger included. -/
def actionArguments (row : ActionRow) : List ArgumentRow :=
  row.deviceId.toList ++ row.arguments ++ row.trigger.toList.flatMap expressionArguments

/-- The arguments in the condition of a branch. -/
def branchArguments (row : BranchRow) : List ArgumentRow :=
  row.condition.toList.flatMap expressionArguments

/-- The arguments anywhere in a workflow. -/
def workflowArguments (row : WorkflowRow) : List ArgumentRow :=
  row.actions.flatMap actionArguments ++ row.branches.flatMap branchArguments

mutual

/-- A value that is made of the JSON types: no object outside them, no NaN, and no key twice. -/
def isJsonValue : PyVal → Bool
  | .nonFinite f => f ≠ .nan
  | .list vs => areJsonValues vs
  | .dict items => (items.map Prod.fst).Nodup && haveJsonValues items
  | .object _ => false
  | _ => true

def areJsonValues : List PyVal → Bool
  | [] => true
  | v :: vs => isJsonValue v && areJsonValues vs

def haveJsonValues : List (String × PyVal) → Bool
  | [] => true
  | (_, v) :: items => isJsonValue v && haveJsonValues items

end

/-- What makes an argument valid: it has a value, which is JSON, or a reference, and not both. -/
structure ValidArgument (row : ArgumentRow) : Prop where
  source : row.value.isNone = row.reference.isSome
  json : isJsonValue row.value = true

/-- The coordinates of a position are finite numbers, as in JSON. -/
def FinitePosition (row : PositionRow) : Prop :=
  ∃ m e n f, row = { x := .float m e, y := .float n f }

/-- A workflow whose elements are valid. -/
structure ValidElements (row : WorkflowRow) : Prop where
  arguments : ∀ argument ∈ workflowArguments row, ValidArgument argument
  positions : ∀ action ∈ row.actions, ∀ position ∈ action.position, FinitePosition position

/-- What is found under the id of a row is the row. -/
def Owns {α : Type} (found : Option α) (row : α) : Prop :=
  ∀ other ∈ found, other = row

/-- The database has no other rows under the ids of a transform and its arguments. -/
def OwnsTransform (stored : StoredRows) (row : TransformRow) : Prop :=
  Owns (stored.transform row.id) row ∧
    ∀ argument ∈ row.arguments, Owns (stored.argument argument.id) argument

/-- The database has no other rows under the ids of a condition and what belongs to it. -/
def OwnsCondition (stored : StoredRows) (row : ConditionRow) : Prop :=
  Owns (stored.condition row.id) row ∧
    (∀ argument ∈ row.arguments, Owns (stored.argument argument.id) argument) ∧
    ∀ transform ∈ row.transforms, OwnsTransform stored transform

mutual

/-- The database has no other rows under the ids of an expression and what is below it. -/
def OwnsExpression (stored : StoredRows) : ExpressionRow → Prop
  | .mk id operator isNegated childExpressions conditions =>
    Owns (stored.expression id) (.mk id operator isNegated childExpressions conditions) ∧
      OwnsExpressions stored childExpressions ∧
      ∀ condition ∈ conditions, OwnsCondition stored condition

def OwnsExpressions (stored : StoredRows) : List ExpressionRow → Prop
  | [] => True
  | row :: rows => OwnsExpression stored row ∧ OwnsExpressions stored rows

end

/-- The database has no other rows under the ids of an action and what belongs to it. -/
def OwnsAction (stored : StoredRows) (row : ActionRow) : Prop :=
  Owns (stored.action row.id) row ∧
    (∀ argument ∈ row.deviceId, Owns (stored.argument argument.id) argument) ∧
    (∀ argument ∈ row.arguments, Owns (stored.argument argument.id) argument) ∧
    ∀ trigger ∈ row.trigger, OwnsExpression stored trigger

/-- The database has no other rows under the ids of a branch and what belongs to it. -/
def OwnsBranch (stored : StoredRows) (row : BranchRow) : Prop :=
  Owns (stored.branch row.id) row ∧
    ∀ condition ∈ row.condition, OwnsExpression stored condition

/-- The database has the workflow as it was dumped, or some or none of its rows: what it has under
the id of an element is the row of the element. -/
structure OwnsWorkflow (stored : StoredRows) (row : WorkflowRow) : Prop where
  workflow : Owns (stored.workflow row.id) row
  actions : ∀ action ∈ row.actions, OwnsAction stored action
  branches : ∀ branch ∈ row.branches, OwnsBranch stored branch
  environmentVariables : ∀ value ∈ row.environmentVariables,
    Owns (stored.environmentVariable value.id) value

/-! ## The round trip -/

/-- An argument in which an empty selection counts as an absent one. -/
def identifySelection (row : ArgumentRow) : ArgumentRow :=
  { row with selection := if row.selection = some [] then none else row.selection }

/-- The arguments of a transform changed. -/
def mapTransform (f : ArgumentRow → ArgumentRow) (row : TransformRow) : TransformRow :=
  { row with arguments := row.arguments.map f }

/-- The arguments of a condition changed. -/
def mapCondition (f : ArgumentRow → ArgumentRow) (row : ConditionRow) : ConditionRow :=
  { row with
    arguments := row.arguments.map f
    transforms := row.transforms.map (mapTransform f) }

mutual

/-- The arguments of an expression changed. -/
def mapExpression (f : ArgumentRow → ArgumentRow) : ExpressionRow → ExpressionRow
  | .mk id operator isNegated childExpressions conditions =>
    .mk id operator isNegated (mapExpressions f childExpressions)
      (conditions.map (mapCondition f))

def mapExpressions (f : ArgumentRow → ArgumentRow) : List ExpressionRow → List ExpressionRow
  | [] => []
  | row :: rows => mapExpression f row :: mapExpressions f rows

end

/-- The arguments of an action changed. -/
def mapAction (f : ArgumentRow → ArgumentRow) (row : ActionRow) : ActionRow :=
  { row with
    deviceId := row.deviceId.map f
    arguments := row.arguments.map f
    trigger := row.trigger.map (mapExpression f) }

/-- The arguments of a branch changed. -/
def mapBranch (f : ArgumentRow → ArgumentRow) (row : BranchRow) : BranchRow :=
  { row with condition := row.condition.map (mapExpression f) }

/-- The arguments of a workflow changed. -/
def mapWorkflow (f : ArgumentRow → ArgumentRow) (row : WorkflowRow) : WorkflowRow :=
  { row with
    actions := row.actions.map (mapAction f)
    branches := row.branches.map (mapBranch f) }

/-- Loading what `dump` gives of a workflow raises nothing and yields the same workflow, where an
absent and an empty selection count as the same. -/
def RoundTrips (types : FieldTypes) (stored : StoredRows) (row : WorkflowRow) : Prop :=
  ∃ loaded, WorkflowSchema.load types stored row.dump = some loaded ∧
    mapWorkflow identifySelection loaded = mapWorkflow identifySelection row

/-- What is documented of the types of fields: each reads what it has dumped. -/
structure ReadsDumped (types : FieldTypes) : Prop where
  integer : ∀ i, types.integer (.int i) = some i
  uuid : ∀ u : UUID, types.uuid (.str u.str) = some u
  string : ∀ s, types.string (.str s) = some s
  boolean : ∀ b, types.boolean (.bool b) = some b
  float : ∀ m e, types.float (.float m e) = some (.float m e)

/-! ## The condition -/

/-- The id of an expression. -/
def expressionId : ExpressionRow → UUID
  | .mk id _ _ _ _ => id

mutual

/-- The ids of the child expressions of an expression, at any depth. -/
def childIds : ExpressionRow → List UUID
  | .mk _ _ _ childExpressions _ => idsBelow childExpressions

def idsBelow : List ExpressionRow → List UUID
  | [] => []
  | row :: rows => expressionId row :: childIds row ++ idsBelow rows

end

/-- The ids of the child expressions anywhere in a workflow. -/
def workflowChildIds (row : WorkflowRow) : List UUID :=
  (row.actions.filterMap ActionRow.trigger ++ row.branches.filterMap BranchRow.condition).flatMap
    childIds

/-- An argument that can be loaded again. -/
structure ReloadableArgument (stored : StoredRows) (row : ArgumentRow) : Prop where
  found : (stored.argument row.id).isSome
  name : row.name.length ≤ 255
  value : row.value ≠ .list [] ∧ row.value ≠ .list [.dict []]
  selection : ∀ vs ∈ row.selection, PyVal.none ∉ vs

/-- An environment variable that can be loaded again. -/
structure ReloadableVariable (row : EnvironmentVariableRow) : Prop where
  name : ∀ name ∈ row.name, name.length ≤ 80
  value : row.value.length ≤ 80
  description : ∀ description ∈ row.description, description.length ≤ 255

/-- A workflow that is stored and whose dump can be loaded. -/
structure LoadableWorkflow (stored : StoredRows) (row : WorkflowRow) : Prop where
  found : (stored.workflow row.id).isSome
  children : ∀ id ∈ workflowChildIds row, (stored.expression id).isSome
  name : row.name.length ≤ 80
  arguments : ∀ argument ∈ workflowArguments row, ReloadableArgument stored argument
  actions : ∀ action ∈ row.actions, action.name.length ≤ 80
  branches : ∀ branch ∈ row.branches, ∀ status ∈ branch.status, status.length ≤ 80
  environmentVariables : ∀ value ∈ row.environmentVariables, ReloadableVariable value

/-- A workflow that can be loaded again: no branch gets a default of the constructor. -/
structure ReloadableWorkflow (stored : StoredRows) (row : WorkflowRow) : Prop
    extends LoadableWorkflow stored row where
  defaults : ∀ branch ∈ row.branches,
    (stored.branch branch.id).isSome ∨ branch.status.isSome ∧ branch.priority.isSome

/-! ## What a dump holds -/

section Dumps

/-- A value, if `remove_skip_values` leaves it in. -/
def kept (v : PyVal) : Option PyVal :=
  if v ∈ skipValues then none else some v

/-- The JSON of elements, if there are any. -/
def keptElements (es : List Element) : Option PyVal :=
  if es = [] then none else some (.list (Element.jsonList es))

/-- A text is never taken out. -/
@[simp] theorem kept_str (s : String) : kept (.str s) = some (.str s) :=
  if_neg (by simp [skipValues])

/-- A truth value is never taken out. -/
@[simp] theorem kept_bool (b : Bool) : kept (.bool b) = some (.bool b) :=
  if_neg (by simp [skipValues])

/-- A dictionary is never taken out. -/
@[simp] theorem kept_dict (items : List (String × PyVal)) :
    kept (.dict items) = some (.dict items) :=
  if_neg (by simp [skipValues])

/-- A null is taken out. -/
@[simp] theorem kept_none : kept .none = none :=
  if_pos (by simp [skipValues])

/-- A text that is missing is taken out. -/
@[simp] theorem kept_textValue (s : Option String) : kept (textValue s) = s.map PyVal.str := by
  cases s with
  | none => exact kept_none
  | some s => exact kept_str s

/-- An integer that is missing is taken out. -/
@[simp] theorem kept_integer (i : Option ℤ) :
    kept ((i.map PyVal.int).getD .none) = i.map PyVal.int := by
  cases i with
  | none => exact kept_none
  | some i => exact if_neg (by simp [skipValues])

/-- A position that is missing is taken out. -/
@[simp] theorem kept_position (p : Option PositionRow) :
    kept ((p.map PositionRow.json).getD .none) = p.map PositionRow.json := by
  cases p with
  | none => exact kept_none
  | some p => exact kept_dict _

/-- What the JSON of some fields has under a key. -/
def entry (key : String) (fields : List (String × Part)) : Option PyVal :=
  (OrderedDict.get? key fields).map Part.json

/-- An entry of two lists of fields. -/
theorem entry_append (key : String) (xs ys : List (String × Part)) :
    entry key (xs ++ ys) = (entry key xs).or (entry key ys) := by
  induction xs with
  | nil => rfl
  | cons field xs ih =>
    obtain ⟨k, part⟩ := field
    unfold entry at ih ⊢
    rw [List.cons_append, OrderedDict.get?, OrderedDict.get?]
    split
    · rfl
    · exact ih

/-- The entry of a field with data. -/
theorem entry_dataField (key k : String) (v : PyVal) :
    entry key (dataField k v) = if k = key then kept v else none := by
  unfold entry dataField kept
  by_cases hv : v ∈ skipValues
  · simp [hv]
  · by_cases hk : k = key <;> simp [hv, hk, OrderedDict.get?, Part.json]

/-- The entry of a field with a reference. -/
theorem entry_referenceField (key k : String) (id : Option UUID) :
    entry key (referenceField k id) =
      if k = key then id.map (fun u => PyVal.str u.str) else none := by
  unfold entry referenceField
  cases id with
  | none => simp
  | some u => by_cases hk : k = key <;> simp [hk, OrderedDict.get?, Part.json]

/-- The entry of a nested field. -/
theorem entry_elementField (key k : String) (e : Option Element) :
    entry key (elementField k e) = if k = key then e.map Element.json else none := by
  unfold entry elementField
  cases e with
  | none => simp
  | some e => by_cases hk : k = key <;> simp [hk, OrderedDict.get?, Part.json]

/-- The entry of a nested field with many elements. -/
theorem entry_elementsField (key k : String) (es : List Element) :
    entry key (elementsField k es) = if k = key then keptElements es else none := by
  unfold entry elementsField keptElements
  cases es with
  | nil => simp
  | cons e es => by_cases hk : k = key <;> simp [hk, OrderedDict.get?, Part.json]

/-- The JSON of an element with an id. -/
theorem json_mk (kind : ElementKind) (id : PyVal) (fields : List (String × Part)) :
    (Element.mk kind (some id) fields).json = .dict (("id", id) :: Element.jsonFields fields) := by
  rw [Element.json]
  rfl

/-- The id in the JSON of an element. -/
theorem get?_id (id : PyVal) (items : List (String × PyVal)) :
    OrderedDict.get? "id" (("id", id) :: items) = some id :=
  rfl

/-- Another entry of the JSON of an element. -/
theorem get?_field {key : String} (hkey : key ≠ "id") (id : PyVal)
    (fields : List (String × Part)) :
    OrderedDict.get? key (("id", id) :: Element.jsonFields fields) = entry key fields :=
  get?_json key hkey (some id) fields

/-- What the dump of an argument holds. -/
theorem argument_dumped (row : ArgumentRow) :
    ∃ items, row.element.json = .dict items ∧
      OrderedDict.get? "id" items = some (.int row.id) ∧
      OrderedDict.get? "name" items = some (.str row.name) ∧
      OrderedDict.get? "value" items = kept row.value ∧
      OrderedDict.get? "reference" items = row.reference.map (fun u => .str u.str) ∧
      OrderedDict.get? "selection" items = kept ((row.selection.map PyVal.list).getD .none) := by
  refine ⟨_, json_mk _ _ _, get?_id _ _, ?_⟩
  rw [get?_field (by decide), get?_field (by decide), get?_field (by decide),
    get?_field (by decide)]
  simp [entry_append, entry_dataField, entry_referenceField]

/-- What the dump of a transform holds. -/
theorem transform_dumped (row : TransformRow) :
    ∃ items, row.element.json = .dict items ∧
      OrderedDict.get? "id" items = some (.str row.id.str) ∧
      OrderedDict.get? "app_name" items = some (.str row.appName) ∧
      OrderedDict.get? "action_name" items = some (.str row.actionName) ∧
      OrderedDict.get? "arguments" items =
        keptElements (row.arguments.map ArgumentRow.element) := by
  refine ⟨_, json_mk _ _ _, get?_id _ _, ?_⟩
  rw [get?_field (by decide), get?_field (by decide), get?_field (by decide)]
  simp [entry_append, entry_dataField, entry_elementsField]

/-- What the dump of a condition holds. -/
theorem condition_dumped (row : ConditionRow) :
    ∃ items, row.element.json = .dict items ∧
      OrderedDict.get? "id" items = some (.str row.id.str) ∧
      OrderedDict.get? "app_name" items = some (.str row.appName) ∧
      OrderedDict.get? "action_name" items = some (.str row.actionName) ∧
      OrderedDict.get? "is_negated" items = some (.bool row.isNegated) ∧
      OrderedDict.get? "arguments" items =
        keptElements (row.arguments.map ArgumentRow.element) ∧
      OrderedDict.get? "transforms" items =
        keptElements (row.transforms.map TransformRow.element) := by
  refine ⟨_, json_mk _ _ _, get?_id _ _, ?_⟩
  rw [get?_field (by decide), get?_field (by decide), get?_field (by decide),
    get?_field (by decide), get?_field (by decide)]
  simp [entry_append, entry_dataField, entry_elementsField]

/-- What the dump of an expression holds. -/
theorem expression_dumped (parent : Option UUID) (id : UUID) (operator : Operator)
    (isNegated : Bool) (childExpressions : List ExpressionRow) (conditions : List ConditionRow) :
    ∃ items, ((ExpressionRow.mk id operator isNegated childExpressions conditions).element
          parent).json = .dict items ∧
      OrderedDict.get? "id" items = some (.str id.str) ∧
      OrderedDict.get? "operator" items = some (.str (operatorText operator)) ∧
      OrderedDict.get? "is_negated" items = some (.bool isNegated) ∧
      OrderedDict.get? "parent" items = parent.map (fun u => .str u.str) ∧
      OrderedDict.get? "child_expressions" items =
        keptElements (ExpressionRow.elements id childExpressions) ∧
      OrderedDict.get? "conditions" items =
        keptElements (conditions.map ConditionRow.element) := by
  rw [ExpressionRow.element]
  refine ⟨_, json_mk _ _ _, get?_id _ _, ?_⟩
  rw [get?_field (by decide), get?_field (by decide), get?_field (by decide),
    get?_field (by decide), get?_field (by decide)]
  simp [entry_append, entry_dataField, entry_elementsField]
  rfl

/-- What the dump of an action holds. -/
theorem action_dumped (row : ActionRow) :
    ∃ items, row.element.json = .dict items ∧
      OrderedDict.get? "id" items = some (.str row.id.str) ∧
      OrderedDict.get? "app_name" items = some (.str row.appName) ∧
      OrderedDict.get? "action_name" items = some (.str row.actionName) ∧
      OrderedDict.get? "name" items = some (.str row.name) ∧
      OrderedDict.get? "device_id" items =
        row.deviceId.map (Element.json ∘ ArgumentRow.element) ∧
      OrderedDict.get? "arguments" items =
        keptElements (row.arguments.map ArgumentRow.element) ∧
      OrderedDict.get? "trigger" items =
        row.trigger.map (Element.json ∘ ExpressionRow.element none) ∧
      OrderedDict.get? "position" items = row.position.map PositionRow.json := by
  refine ⟨_, json_mk _ _ _, get?_id _ _, ?_⟩
  rw [get?_field (by decide), get?_field (by decide), get?_field (by decide),
    get?_field (by decide), get?_field (by decide), get?_field (by decide),
    get?_field (by decide)]
  simp [entry_append, entry_dataField, entry_elementField, entry_elementsField]

/-- What the dump of a branch holds. -/
theorem branch_dumped (row : BranchRow) :
    ∃ items, row.element.json = .dict items ∧
      OrderedDict.get? "id" items = some (.str row.id.str) ∧
      OrderedDict.get? "source_id" items = some (.str row.sourceId.str) ∧
      OrderedDict.get? "destination_id" items = some (.str row.destinationId.str) ∧
      OrderedDict.get? "status" items = row.status.map PyVal.str ∧
      OrderedDict.get? "condition" items =
        row.condition.map (Element.json ∘ ExpressionRow.element none) ∧
      OrderedDict.get? "priority" items = row.priority.map PyVal.int := by
  refine ⟨_, json_mk _ _ _, get?_id _ _, ?_⟩
  rw [get?_field (by decide), get?_field (by decide), get?_field (by decide),
    get?_field (by decide), get?_field (by decide)]
  simp [entry_append, entry_dataField, entry_elementField, entry_referenceField]

/-- What the dump of an environment variable holds. -/
theorem environmentVariable_dumped (row : EnvironmentVariableRow) :
    ∃ items, row.element.json = .dict items ∧
      OrderedDict.get? "id" items = some (.str row.id.str) ∧
      OrderedDict.get? "name" items = row.name.map PyVal.str ∧
      OrderedDict.get? "value" items = some (.str row.value) ∧
      OrderedDict.get? "description" items = row.description.map PyVal.str := by
  refine ⟨_, json_mk _ _ _, get?_id _ _, ?_⟩
  rw [get?_field (by decide), get?_field (by decide), get?_field (by decide)]
  simp [entry_append, entry_dataField]

/-- What the dump of a workflow holds. -/
theorem workflow_dumped (row : WorkflowRow) :
    ∃ items, row.dump = .dict items ∧
      OrderedDict.get? "id" items = some (.str row.id.str) ∧
      OrderedDict.get? "name" items = some (.str row.name) ∧
      OrderedDict.get? "start" items = row.start.map (fun u => .str u.str) ∧
      OrderedDict.get? "is_valid" items = some (.bool row.isValid) ∧
      OrderedDict.get? "actions" items = keptElements (row.actions.map ActionRow.element) ∧
      OrderedDict.get? "branches" items = keptElements (row.branches.map BranchRow.element) ∧
      OrderedDict.get? "environment_variables" items =
        keptElements (row.environmentVariables.map EnvironmentVariableRow.element) := by
  refine ⟨_, json_mk _ _ _, get?_id _ _, ?_⟩
  rw [get?_field (by decide), get?_field (by decide), get?_field (by decide),
    get?_field (by decide), get?_field (by decide), get?_field (by decide)]
  simp [entry_append, entry_dataField, entry_elementsField, entry_referenceField]

end Dumps

/-! ## Loading what was dumped -/

section Loading

/-- Elements under a key that is left out if there are none. -/
def present {α : Type} (xs : List α) : Option (List α) :=
  if xs.isEmpty then none else some xs

/-- What is left out is kept from the row, which has no such elements either. -/
@[simp] theorem present_getD {α : Type} (xs : List α) : (present xs).getD xs = xs := by
  cases xs <;> rfl

/-- What is left out of a row that is found, where it has no such elements, and changed elements. -/
theorem present_map_getD {α : Type} (f : α → α) (xs : List α) :
    (present (xs.map f)).getD xs = xs.map f := by
  cases xs <;> rfl

/-- What is left out of a new row is empty. -/
@[simp] theorem present_getD_nil {α : Type} (xs : List α) : (present xs).getD [] = xs := by
  cases xs <;> rfl

/-- The JSON of elements, one by one. -/
theorem jsonList_eq_map (es : List Element) : Element.jsonList es = es.map Element.json := by
  induction es with
  | nil => rfl
  | cons e es ih => rw [Element.jsonList, ih, List.map_cons]

variable {α : Type} {load : PyVal → Option α} {Fine : α → Prop}

/-- A list is loaded exactly if each of its members is. -/
theorem mapM_load_iff {json : α → PyVal} {made : α → α} {xs : List α}
    (hload : ∀ x ∈ xs, ∀ y, load (json x) = some y ↔ Fine x ∧ y = made x) (ys : List α) :
    (xs.map json).mapM load = some ys ↔ (∀ x ∈ xs, Fine x) ∧ ys = xs.map made := by
  induction xs generalizing ys with
  | nil => simp [eq_comm]
  | cons x xs ih =>
    have ih := ih fun x' hx' => hload x' (List.mem_cons_of_mem x hx')
    have hhead := hload x List.mem_cons_self
    simp only [List.map_cons, List.mapM_cons, Option.bind_eq_bind, Option.bind_eq_some_iff,
      List.forall_mem_cons]
    constructor
    · rintro ⟨y, hy, zs, hzs, hys⟩
      obtain ⟨hfine, rfl⟩ := (hhead y).mp hy
      obtain ⟨hall, rfl⟩ := (ih zs).mp hzs
      exact ⟨⟨hfine, hall⟩, (Option.some.inj hys).symm⟩
    · rintro ⟨⟨hfine, hall⟩, rfl⟩
      exact ⟨made x, (hhead _).mpr ⟨hfine, rfl⟩, xs.map made, (ih _).mpr ⟨hall, rfl⟩, rfl⟩

/-- A nested field with many elements is loaded exactly if each of them is. -/
theorem nestedField_made_iff {element : α → Element} {made : α → α} {xs : List α}
    (hload : ∀ x ∈ xs, ∀ y, load (element x).json = some y ↔ Fine x ∧ y = made x)
    {key : String} {items : OrderedDict String PyVal}
    (hentry : OrderedDict.get? key items = keptElements (xs.map element))
    (ys : Option (List α)) :
    optionalField (nestedField load) key items = some ys ↔
      (∀ x ∈ xs, Fine x) ∧ ys = present (xs.map made) := by
  rw [optionalField, hentry]
  cases xs with
  | nil => simp [keptElements, present, eq_comm]
  | cons x xs =>
    rw [keptElements, if_neg (by simp), jsonList_eq_map, List.map_map]
    show Option.map some (((x :: xs).map (Element.json ∘ element)).mapM load) = some ys ↔ _
    rw [Option.map_eq_some_iff]
    constructor
    · rintro ⟨zs, hzs, rfl⟩
      obtain ⟨hall, rfl⟩ := (mapM_load_iff hload zs).mp hzs
      exact ⟨hall, rfl⟩
    · rintro ⟨hall, rfl⟩
      exact ⟨_, (mapM_load_iff hload _).mpr ⟨hall, rfl⟩, rfl⟩

/-- The same where each element is loaded as it was. -/
theorem nestedField_iff {element : α → Element} {xs : List α}
    (hload : ∀ x ∈ xs, ∀ y, load (element x).json = some y ↔ Fine x ∧ y = x)
    {key : String} {items : OrderedDict String PyVal}
    (hentry : OrderedDict.get? key items = keptElements (xs.map element))
    (ys : Option (List α)) :
    optionalField (nestedField load) key items = some ys ↔
      (∀ x ∈ xs, Fine x) ∧ ys = present xs := by
  have hload' : ∀ x ∈ xs, ∀ y, load (element x).json = some y ↔ Fine x ∧ y = id x := hload
  have h := nestedField_made_iff hload' hentry ys
  rwa [List.map_id] at h

/-- A field that may be left out is loaded exactly if what it holds is. -/
theorem optionalField_iff {json : α → PyVal} {o : Option α}
    (hload : ∀ x ∈ o, ∀ y, load (json x) = some y ↔ Fine x ∧ y = x)
    {key : String} {items : OrderedDict String PyVal}
    (hentry : OrderedDict.get? key items = o.map json) (y : Option α) :
    optionalField load key items = some y ↔ (∀ x ∈ o, Fine x) ∧ y = o := by
  rw [optionalField, hentry]
  cases o with
  | none => simp [eq_comm]
  | some x =>
    show Option.map some (load (json x)) = some y ↔ _
    rw [Option.map_eq_some_iff]
    constructor
    · rintro ⟨z, hz, rfl⟩
      obtain ⟨hfine, rfl⟩ := (hload x rfl z).mp hz
      exact ⟨by simpa using hfine, rfl⟩
    · rintro ⟨hall, rfl⟩
      exact ⟨x, (hload x rfl x).mpr ⟨hall x rfl, rfl⟩, rfl⟩

/-- A field that may be left out is loaded as it was if its values always are. -/
theorem optionalField_eq {json : α → PyVal} {o : Option α} (hload : ∀ x, load (json x) = some x)
    {key : String} {items : OrderedDict String PyVal}
    (hentry : OrderedDict.get? key items = o.map json) :
    optionalField load key items = some o := by
  rw [optionalField, hentry]
  cases o with
  | none => rfl
  | some x =>
    show Option.map some (load (json x)) = some (some x)
    rw [hload, Option.map_some]

/-- The field of a column reads the texts that fit it. -/
theorem column_iff {types : FieldTypes} (htypes : ReadsDumped types) (width : ℕ) (s t : String) :
    types.column width (.str s) = some t ↔ s.length ≤ width ∧ t = s := by
  rw [FieldTypes.column, htypes.string, Option.filter_some]
  by_cases h : s.length ≤ width <;> simp [h, eq_comm]

/-- A list of raw values is read exactly if none of them is null. -/
theorem rawListField_iff (vs ws : List PyVal) :
    rawListField (.list vs) = some ws ↔ PyVal.none ∉ vs ∧ ws = vs := by
  have hraw : ∀ v ∈ vs, ∀ w, rawField (id v) = some w ↔ v ≠ .none ∧ w = id v := by
    intro v _ w
    cases v <;> simp [rawField, eq_comm]
  have h := mapM_load_iff hraw ws
  rw [List.map_id] at h
  rw [rawListField, h]
  simp only [ne_eq, and_congr_left_iff]
  intro _
  exact ⟨fun hall hmem => hall _ hmem rfl, fun hnot v hv hnone => hnot (hnone ▸ hv)⟩

end Loading

/-! ## Equality of JSON -/

mutual

/-- A JSON value is equal to itself. -/
theorem pyEq_self : ∀ v : PyVal, isJsonValue v = true → pyEq v v = true
  | .none, _ => by simp [pyEq]
  | .bool b, _ => by simp [pyEq, numberOf]
  | .int i, _ => by simp [pyEq, numberOf]
  | .float m e, _ => by simp [pyEq, numberOf]
  | .nonFinite f, hjson => by simpa [pyEq, isJsonValue] using hjson
  | .str s, _ => by simp [pyEq]
  | .surrogates codePoints, _ => by simp [pyEq]
  | .object _, hjson => by simp [isJsonValue] at hjson
  | .list vs, hjson => by
    rw [isJsonValue] at hjson
    simpa [pyEq] using pyEqList_self vs hjson
  | .dict items, hjson => by
    rw [isJsonValue, Bool.and_eq_true] at hjson
    have hkeys : (OrderedDict.keys items).Nodup := of_decide_eq_true hjson.1
    have hitems := pyEqItems_self items hjson.2 items fun key v hmem =>
      OrderedDict.get?_of_mem hkeys hmem
    simpa [pyEq] using hitems

/-- A list of JSON values is equal to itself. -/
theorem pyEqList_self : ∀ vs : List PyVal, areJsonValues vs = true → pyEqList vs vs = true
  | [], _ => rfl
  | v :: vs, hjson => by
    rw [areJsonValues, Bool.and_eq_true] at hjson
    rw [pyEqList, pyEq_self v hjson.1, pyEqList_self vs hjson.2]
    rfl

/-- Items that are JSON values are equal to those that a dictionary has under their keys. -/
theorem pyEqItems_self : ∀ items : List (String × PyVal), haveJsonValues items = true →
    ∀ others : List (String × PyVal),
    (∀ key v, (key, v) ∈ items → OrderedDict.get? key others = some v) →
    pyEqItems items others = true
  | [], _, _, _ => rfl
  | (key, v) :: items, hjson, others, hothers => by
    rw [haveJsonValues, Bool.and_eq_true] at hjson
    have hrest := pyEqItems_self items hjson.2 others fun k w hmem =>
      hothers k w (List.mem_cons_of_mem _ hmem)
    rw [pyEqItems, hothers key v List.mem_cons_self, hrest]
    simpa using pyEq_self v hjson.1

end

/-! ## One schema after the other -/

section Schemas

variable {types : FieldTypes} {stored : StoredRows}

/-- A row that is found is the one that was dumped. -/
theorem eq_of_owns {α : Type} {found : Option α} {row other : α} (h : Owns found row)
    (hother : found = some other) : other = row :=
  h other hother

/-- The value and the reference of a valid argument that is found stay as they are. -/
theorem updateValueReference_self {row : ArgumentRow} (hvalid : ValidArgument row)
    {value : Option PyVal} (hvalue : value = if row.value = .none then none else some row.value) :
    row.updateValueReference value row.reference = row := by
  subst hvalue
  have hself := pyEq_self row.value hvalid.json
  have hsource := hvalid.source
  obtain ⟨id, name, value, reference, selection⟩ := row
  cases reference with
  | none =>
    by_cases hv : value = .none
    · simp [hv, ArgumentRow.updateValueReference]
    · have hfilter : (some value).filter (fun v => !pyEq value v || (none : Option UUID).isSome) =
          none := by
        rw [Option.filter_some, if_neg]
        simpa using hself
      simp only [if_neg hv, ArgumentRow.updateValueReference, hfilter]
  | some u =>
    have hv : value = .none := by
      cases value <;> simp_all [PyVal.isNone]
    subst hv
    simp [ArgumentRow.updateValueReference]

/-- The value that a dump holds of an argument, if it can be loaded again. -/
theorem kept_value {v : PyVal} (hv : v ≠ .list [] ∧ v ≠ .list [.dict []]) :
    kept v = if v = .none then none else some v := by
  unfold kept skipValues
  by_cases hnone : v = .none <;> simp [hnone, hv.1, hv.2]

/-- A selection that `remove_skip_values` leaves in. -/
def keptSelection (selection : Option (List PyVal)) : Option (List PyVal) :=
  selection.filter fun vs => vs ≠ [] ∧ vs ≠ [.dict []]

/-- The selection in a dump. -/
theorem kept_selection (selection : Option (List PyVal)) :
    kept ((selection.map PyVal.list).getD .none) = (keptSelection selection).map PyVal.list := by
  cases selection with
  | none => exact kept_none
  | some vs =>
    show kept (.list vs) = _
    unfold kept skipValues keptSelection
    rw [Option.filter_some]
    by_cases hnil : vs = []
    · simp [hnil]
    · by_cases hdict : vs = [.dict []] <;> simp [hnil, hdict]

/-- What is taken out of a dump holds no null. -/
theorem keptSelection_forall {selection : Option (List PyVal)} :
    (∀ vs ∈ keptSelection selection, PyVal.none ∉ vs) ↔ ∀ vs ∈ selection, PyVal.none ∉ vs := by
  cases selection with
  | none => simp [keptSelection]
  | some vs =>
    unfold keptSelection
    rw [Option.filter_some]
    by_cases hnil : vs = []
    · simp [hnil]
    · by_cases hdict : vs = [.dict []] <;> simp [hnil, hdict]

/-- A selection that is left out is kept from the row. -/
theorem keptSelection_or (selection : Option (List PyVal)) :
    (keptSelection selection).or selection = selection := by
  cases selection with
  | none => rfl
  | some vs =>
    unfold keptSelection
    rw [Option.filter_some]
    split <;> rfl

/-- The value of an argument is in its dump, or else the reference, exactly if the value is none
that is taken out. -/
theorem kept_isSome_ne_iff {row : ArgumentRow} (hvalid : ValidArgument row) :
    (kept row.value).isSome ≠ row.reference.isSome ↔
      row.value ≠ .list [] ∧ row.value ≠ .list [.dict []] := by
  rw [← hvalid.source]
  unfold kept skipValues
  by_cases hnone : row.value = .none
  · simp [hnone, PyVal.isNone]
  · have hnot : row.value.isNone = false := by
      cases hv : row.value <;> simp_all [PyVal.isNone]
    by_cases hnil : row.value = .list []
    · simp [hnil, PyVal.isNone]
    · by_cases hdict : row.value = .list [.dict []]
      · simp [hdict, PyVal.isNone]
      · simp [hnone, hnil, hdict, hnot]

/-- An argument is loaded exactly if it is stored and can be loaded. -/
theorem argument_load_iff (htypes : ReadsDumped types) {row : ArgumentRow}
    (hvalid : ValidArgument row) (howns : Owns (stored.argument row.id) row) (y : ArgumentRow) :
    ArgumentSchema.load types stored row.element.json = some y ↔
      ReloadableArgument stored row ∧ y = row := by
  obtain ⟨items, hjson, hid, hname, hvalue, href, hsel⟩ := argument_dumped row
  have hreference : optionalField types.uuid "reference" items = some row.reference :=
    optionalField_eq htypes.uuid href
  have hvalue' : optionalField rawField "value" items = some (kept row.value) := by
    have hraw (v w : PyVal) : rawField (id v) = some w ↔ v ≠ .none ∧ w = v := by
      cases v <;> simp [rawField, eq_comm]
    have hentry : OrderedDict.get? "value" items = (kept row.value).map id := by
      rw [hvalue, Option.map_id]
      rfl
    refine (optionalField_iff (fun v _ w => hraw v w) hentry _).mpr ⟨?_, rfl⟩
    rintro v hv rfl
    unfold kept at hv
    split at hv
    · cases hv
    · rename_i hnot
      exact hnot (by simp [Option.some.inj hv, skipValues])
  have hselection (sel : Option (List PyVal)) :
      optionalField rawListField "selection" items = some sel ↔
        (∀ vs ∈ row.selection, PyVal.none ∉ vs) ∧ sel = keptSelection row.selection := by
    rw [kept_selection] at hsel
    rw [← keptSelection_forall]
    exact optionalField_iff (fun vs _ ws => rawListField_iff vs ws) hsel sel
  have hmake (hfine : row.value ≠ .list [] ∧ row.value ≠ .list [.dict []]) :
      ArgumentSchema.makeInstance stored row.id row.name (kept row.value) row.reference
        (keptSelection row.selection) = some y ↔
          (stored.argument row.id).isSome ∧ y = row := by
    rw [ArgumentSchema.makeInstance]
    cases hfound : stored.argument row.id with
    | none => simp
    | some existing =>
      obtain rfl := eq_of_owns howns hfound
      simp [updateValueReference_self hvalid (kept_value hfine), keptSelection_or, eq_comm]
  rw [hjson]
  simp only [ArgumentSchema.load, requiredField, hid, hname, Option.bind_some, htypes.integer,
    Option.bind_eq_bind, hreference, hvalue', Option.bind_eq_some_iff, column_iff htypes,
    hselection]
  constructor
  · rintro ⟨_, ⟨hlength, rfl⟩, _, ⟨hnulls, rfl⟩, hload⟩
    split at hload
    · cases hload
    · rename_i hne
      have hfine := (kept_isSome_ne_iff hvalid).mp hne
      obtain ⟨hfound, rfl⟩ := (hmake hfine).mp hload
      exact ⟨⟨hfound, hlength, hfine, hnulls⟩, rfl⟩
  · rintro ⟨⟨hfound, hlength, hfine, hnulls⟩, rfl⟩
    refine ⟨_, ⟨hlength, rfl⟩, _, ⟨hnulls, rfl⟩, ?_⟩
    rw [if_neg ((kept_isSome_ne_iff hvalid).mpr hfine)]
    exact (hmake hfine).mpr ⟨hfound, rfl⟩

/-- Arguments are loaded exactly if each of them can be. -/
theorem arguments_load_iff (htypes : ReadsDumped types) {rows : List ArgumentRow}
    (hvalid : ∀ row ∈ rows, ValidArgument row)
    (howns : ∀ row ∈ rows, Owns (stored.argument row.id) row)
    {items : OrderedDict String PyVal}
    (hentry : OrderedDict.get? "arguments" items = keptElements (rows.map ArgumentRow.element))
    (ys : Option (List ArgumentRow)) :
    optionalField (nestedField (ArgumentSchema.load types stored)) "arguments" items = some ys ↔
      (∀ row ∈ rows, ReloadableArgument stored row) ∧ ys = present rows :=
  nestedField_iff (fun row hrow y => argument_load_iff htypes (hvalid row hrow)
    (howns row hrow) y) hentry ys

/-- A transform is loaded exactly if its arguments can be. -/
theorem transform_load_iff (htypes : ReadsDumped types) {row : TransformRow}
    (hvalid : ∀ argument ∈ row.arguments, ValidArgument argument)
    (howns : OwnsTransform stored row) (y : TransformRow) :
    TransformSchema.load types stored row.element.json = some y ↔
      (∀ argument ∈ row.arguments, ReloadableArgument stored argument) ∧ y = row := by
  obtain ⟨items, hjson, hid, happ, haction, harguments⟩ := transform_dumped row
  have hmake : TransformSchema.makeInstance stored row.id row.appName row.actionName
      (present row.arguments) = row := by
    rw [TransformSchema.makeInstance]
    cases hfound : stored.transform row.id with
    | none => simp only [present_getD_nil]
    | some existing =>
      obtain rfl := eq_of_owns howns.1 hfound
      simp only [present_getD]
  rw [hjson]
  simp only [TransformSchema.load, requiredField, hid, happ, haction, Option.bind_some,
    htypes.uuid, htypes.string, Option.bind_eq_bind, Option.bind_eq_some_iff,
    arguments_load_iff htypes hvalid howns.2 harguments]
  constructor
  · rintro ⟨_, ⟨hfine, rfl⟩, hy⟩
    exact ⟨hfine, hmake ▸ (Option.some.inj hy).symm⟩
  · rintro ⟨hfine, rfl⟩
    exact ⟨_, ⟨hfine, rfl⟩, congrArg some hmake⟩

/-- A condition is loaded exactly if the arguments in it can be. -/
theorem condition_load_iff (htypes : ReadsDumped types) {row : ConditionRow}
    (hvalid : ∀ argument ∈ conditionArguments row, ValidArgument argument)
    (howns : OwnsCondition stored row) (y : ConditionRow) :
    ConditionSchema.load types stored row.element.json = some y ↔
      (∀ argument ∈ conditionArguments row, ReloadableArgument stored argument) ∧ y = row := by
  obtain ⟨items, hjson, hid, happ, haction, hnegated, harguments, htransforms⟩ :=
    condition_dumped row
  obtain ⟨hrow, hownsArguments, hownsTransforms⟩ := howns
  have hargumentsIff := arguments_load_iff htypes
    (fun argument hmem => hvalid argument (List.mem_append_left _ hmem)) hownsArguments harguments
  have htransformsIff := nestedField_iff (fun transform hmem y => transform_load_iff htypes
    (fun argument hin => hvalid argument (List.mem_append_right _
      (List.mem_flatMap.mpr ⟨transform, hmem, hin⟩)))
    (hownsTransforms transform hmem) y) htransforms
  have hmake : ConditionSchema.makeInstance stored row.id row.appName row.actionName
      row.isNegated (present row.arguments) (present row.transforms) = row := by
    rw [ConditionSchema.makeInstance]
    cases hfound : stored.condition row.id with
    | none => simp only [present_getD_nil]
    | some existing =>
      obtain rfl := eq_of_owns hrow hfound
      simp only [present_getD]
  rw [hjson]
  simp only [ConditionSchema.load, requiredField, hid, happ, haction, hnegated, Option.bind_some,
    htypes.uuid, htypes.string, htypes.boolean, Option.bind_eq_bind, Option.bind_eq_some_iff,
    hargumentsIff, htransformsIff]
  simp only [conditionArguments, List.forall_mem_append, List.forall_mem_flatMap]
  constructor
  · rintro ⟨_, ⟨hfine, rfl⟩, _, ⟨hfine', rfl⟩, hy⟩
    exact ⟨⟨hfine, hfine'⟩, hmake ▸ (Option.some.inj hy).symm⟩
  · rintro ⟨⟨hfine, hfine'⟩, rfl⟩
    exact ⟨_, ⟨hfine, rfl⟩, _, ⟨hfine', rfl⟩, congrArg some hmake⟩

/-- The arguments of expressions, one expression after the other. -/
theorem expressionsArguments_eq (rows : List ExpressionRow) :
    expressionsArguments rows = rows.flatMap expressionArguments := by
  induction rows with
  | nil => rfl
  | cons row rows ih => rw [expressionsArguments, ih, List.flatMap_cons]

/-- The dumps of child expressions. -/
theorem expressionElements_eq (parent : UUID) (rows : List ExpressionRow) :
    ExpressionRow.elements parent rows = rows.map (ExpressionRow.element (some parent)) := by
  induction rows with
  | nil => rfl
  | cons row rows ih => rw [ExpressionRow.elements, ih, List.map_cons]

/-- Expressions are loaded one by one. -/
theorem loadEach_eq (vs : List PyVal) :
    ConditionalExpressionSchema.loadEach types stored vs =
      vs.mapM (ConditionalExpressionSchema.load types stored) := by
  induction vs with
  | nil => rfl
  | cons v vs ih => rw [ConditionalExpressionSchema.loadEach, ih, List.mapM_cons]

/-- The child expressions are a nested field that may be left out. -/
theorem loadChildExpressions_eq (items : List (String × PyVal)) :
    ConditionalExpressionSchema.loadChildExpressions types stored items =
      optionalField (nestedField (ConditionalExpressionSchema.load types stored))
        "child_expressions" items := by
  induction items with
  | nil => rfl
  | cons item items ih =>
    obtain ⟨key, v⟩ := item
    rw [ConditionalExpressionSchema.loadChildExpressions, optionalField, OrderedDict.get?]
    by_cases hkey : key = "child_expressions"
    · rw [if_pos hkey, if_pos hkey]
      show Option.map some _ = Option.map some _
      cases v <;> simp only [ConditionalExpressionSchema.loadNested, nestedField, loadEach_eq]
    · rw [if_neg hkey, if_neg hkey, ih]
      rfl

/-- The text of an operator reads as the operator. -/
theorem readOperator_operatorText (operator : Operator) :
    readOperator (operatorText operator) = some operator := by
  cases operator <;> rfl

/-- An expression that can be loaded again under its parent: it is stored unless it has none, its
child expressions are stored, and its arguments can be loaded. -/
structure ReloadableExpression (stored : StoredRows) (parent : Option UUID)
    (row : ExpressionRow) : Prop where
  found : parent.isSome → (stored.expression (expressionId row)).isSome
  children : ∀ id ∈ childIds row, (stored.expression id).isSome
  arguments : ∀ argument ∈ expressionArguments row, ReloadableArgument stored argument

/-- Child expressions can all be loaded exactly if they are stored and what is below them can be. -/
theorem reloadable_children_iff (parent : UUID) (rows : List ExpressionRow) :
    (∀ row ∈ rows, ReloadableExpression stored (some parent) row) ↔
      (∀ id ∈ idsBelow rows, (stored.expression id).isSome) ∧
        ∀ argument ∈ expressionsArguments rows, ReloadableArgument stored argument := by
  induction rows with
  | nil => simp [idsBelow, expressionsArguments]
  | cons row rows ih =>
    rw [List.forall_mem_cons, ih, idsBelow, expressionsArguments]
    simp only [List.cons_append, List.forall_mem_cons, List.forall_mem_append]
    constructor
    · rintro ⟨⟨hfound, hchildren, harguments⟩, hids, hrest⟩
      exact ⟨⟨hfound rfl, hchildren, hids⟩, harguments, hrest⟩
    · rintro ⟨⟨hfound, hchildren, hids⟩, harguments, hrest⟩
      exact ⟨⟨fun _ => hfound, hchildren, harguments⟩, hids, hrest⟩

/-- `make_instance` of the parts of an expression gives the expression, if it may be made. -/
theorem makeInstance_expression {parent : Option UUID} {id : UUID} {operator : Operator}
    {isNegated : Bool} {childExpressions : List ExpressionRow} {conditions : List ConditionRow}
    (howns : Owns (stored.expression id)
      (.mk id operator isNegated childExpressions conditions)) (y : ExpressionRow) :
    ConditionalExpressionSchema.makeInstance stored id operator isNegated parent
        (present childExpressions) (present conditions) = some y ↔
      (parent.isSome → (stored.expression id).isSome) ∧
        y = .mk id operator isNegated childExpressions conditions := by
  rw [ConditionalExpressionSchema.makeInstance]
  cases hfound : stored.expression id with
  | none => cases parent <;> simp [eq_comm]
  | some existing =>
    obtain rfl := eq_of_owns howns hfound
    simp only [present_getD, Option.some.injEq, Option.isSome_some, implies_true, true_and]
    exact eq_comm

mutual

/-- An expression is loaded exactly if it can be. -/
theorem expression_load_iff (htypes : ReadsDumped types) :
    ∀ (row : ExpressionRow) (parent : Option UUID),
      (∀ argument ∈ expressionArguments row, ValidArgument argument) →
      OwnsExpression stored row → ∀ y : ExpressionRow,
      (ConditionalExpressionSchema.load types stored (row.element parent).json = some y ↔
        ReloadableExpression stored parent row ∧ y = row)
  | .mk id operator isNegated childExpressions conditions, parent, hvalid, howns, y => by
    obtain ⟨items, hjson, hid, hoperator, hnegated, hparent, hchildren, hconditions⟩ :=
      expression_dumped parent id operator isNegated childExpressions conditions
    rw [OwnsExpression] at howns
    obtain ⟨hrow, hownsChildren, hownsConditions⟩ := howns
    rw [expressionArguments, List.forall_mem_append] at hvalid
    have hchildrenIff (ys : Option (List ExpressionRow)) :
        optionalField (nestedField (ConditionalExpressionSchema.load types stored))
          "child_expressions" items = some ys ↔
            ((∀ id ∈ idsBelow childExpressions, (stored.expression id).isSome) ∧
              ∀ argument ∈ expressionsArguments childExpressions,
                ReloadableArgument stored argument) ∧ ys = present childExpressions := by
      rw [← reloadable_children_iff id]
      exact nestedField_iff
        (expressions_load_iff htypes childExpressions (some id) hvalid.1 hownsChildren)
        (by rw [hchildren, expressionElements_eq]) ys
    have hconditionsIff := nestedField_iff (fun condition hmem y => condition_load_iff htypes
      (fun argument hin => hvalid.2 argument (List.mem_flatMap.mpr ⟨condition, hmem, hin⟩))
      (hownsConditions condition hmem) y) hconditions
    have hparentRead : optionalField types.uuid "parent" items = some parent :=
      optionalField_eq htypes.uuid hparent
    rw [hjson]
    simp only [ConditionalExpressionSchema.load, requiredField, hid, hoperator, hnegated,
      Option.bind_some, htypes.uuid, htypes.boolean, FieldTypes.operator, htypes.string,
      readOperator_operatorText, hparentRead, loadChildExpressions_eq, Option.bind_eq_bind,
      Option.bind_eq_some_iff, hchildrenIff, hconditionsIff]
    rw [← List.forall_mem_flatMap]
    constructor
    · rintro ⟨_, ⟨⟨hids, hbelow⟩, rfl⟩, _, ⟨hfine, rfl⟩, hy⟩
      obtain ⟨hfound, rfl⟩ := (makeInstance_expression hrow y).mp hy
      refine ⟨⟨hfound, hids, ?_⟩, rfl⟩
      rw [expressionArguments, List.forall_mem_append]
      exact ⟨hbelow, hfine⟩
    · rintro ⟨⟨hfound, hids, harguments⟩, rfl⟩
      rw [expressionArguments, List.forall_mem_append] at harguments
      exact ⟨_, ⟨⟨hids, harguments.1⟩, rfl⟩, _, ⟨harguments.2, rfl⟩,
        (makeInstance_expression hrow _).mpr ⟨hfound, rfl⟩⟩

/-- Each of some expressions is loaded exactly if it can be. -/
theorem expressions_load_iff (htypes : ReadsDumped types) :
    ∀ (rows : List ExpressionRow) (parent : Option UUID),
      (∀ argument ∈ expressionsArguments rows, ValidArgument argument) →
      OwnsExpressions stored rows → ∀ row ∈ rows, ∀ y : ExpressionRow,
      (ConditionalExpressionSchema.load types stored (row.element parent).json = some y ↔
        ReloadableExpression stored parent row ∧ y = row)
  | [], _, _, _, row, hrow, _ => absurd hrow List.not_mem_nil
  | first :: rows, parent, hvalid, howns, row, hrow, y => by
    rw [expressionsArguments, List.forall_mem_append] at hvalid
    rw [OwnsExpressions] at howns
    cases List.mem_cons.mp hrow with
    | inl hfirst =>
      rw [hfirst]
      exact expression_load_iff htypes first parent hvalid.1 howns.1 y
    | inr hlater =>
      exact expressions_load_iff htypes rows parent hvalid.2 howns.2 row hlater y

end

/-- A finite position is read as it is. -/
theorem position_load_iff (htypes : ReadsDumped types) {row : PositionRow}
    (hfinite : FinitePosition row) (y : PositionRow) :
    PositionSchema.load types row.json = some y ↔ True ∧ y = row := by
  obtain ⟨m, e, n, f, rfl⟩ := hfinite
  simp [PositionRow.json, PositionSchema.load, requiredField, OrderedDict.get?, htypes.float,
    eq_comm]

/-- An expression without a parent that may be missing, under its key. -/
theorem optionalExpression_iff (htypes : ReadsDumped types) {expression : Option ExpressionRow}
    (hvalid : ∀ argument ∈ expression.toList.flatMap expressionArguments, ValidArgument argument)
    (howns : ∀ row ∈ expression, OwnsExpression stored row) {key : String}
    {items : OrderedDict String PyVal}
    (hentry : OrderedDict.get? key items =
      expression.map (Element.json ∘ ExpressionRow.element none)) (y : Option ExpressionRow) :
    optionalField (ConditionalExpressionSchema.load types stored) key items = some y ↔
      ((∀ id ∈ expression.toList.flatMap childIds, (stored.expression id).isSome) ∧
        ∀ argument ∈ expression.toList.flatMap expressionArguments,
          ReloadableArgument stored argument) ∧ y = expression := by
  simp only [List.forall_mem_flatMap, Option.mem_toList] at hvalid ⊢
  rw [optionalField_iff (fun row hrow y => expression_load_iff htypes row none
    (hvalid row hrow) (howns row hrow) y) hentry y, and_congr_left_iff]
  intro _
  constructor
  · intro hfine
    exact ⟨fun row hrow => (hfine row hrow).children, fun row hrow => (hfine row hrow).arguments⟩
  · rintro ⟨hchildren, harguments⟩ row hrow
    exact ⟨nofun, hchildren row hrow, harguments row hrow⟩

/-- An action that can be loaded again. -/
structure ReloadableAction (stored : StoredRows) (row : ActionRow) : Prop where
  name : row.name.length ≤ 80
  children : ∀ id ∈ row.trigger.toList.flatMap childIds, (stored.expression id).isSome
  arguments : ∀ argument ∈ actionArguments row, ReloadableArgument stored argument

/-- An action is loaded exactly if it can be. -/
theorem action_load_iff (htypes : ReadsDumped types) {row : ActionRow}
    (hvalid : ∀ argument ∈ actionArguments row, ValidArgument argument)
    (hfinite : ∀ position ∈ row.position, FinitePosition position)
    (howns : OwnsAction stored row) (y : ActionRow) :
    ActionSchema.load types stored row.element.json = some y ↔
      ReloadableAction stored row ∧ y = row := by
  obtain ⟨items, hjson, hid, happ, haction, hname, hdevice, harguments, htrigger, hposition⟩ :=
    action_dumped row
  obtain ⟨hrow, hownsDevice, hownsArguments, hownsTrigger⟩ := howns
  unfold actionArguments at hvalid
  simp only [List.forall_mem_append, Option.mem_toList] at hvalid
  obtain ⟨⟨hdeviceValid, hargumentsValid⟩, htriggerValid⟩ := hvalid
  have hdeviceIff := optionalField_iff (fun argument hmem y => argument_load_iff htypes
    (hdeviceValid argument hmem) (hownsDevice argument hmem) y) hdevice
  have hargumentsIff := arguments_load_iff htypes hargumentsValid hownsArguments harguments
  have htriggerIff := optionalExpression_iff htypes htriggerValid hownsTrigger htrigger
  have hpositionRead : optionalField (PositionSchema.load types) "position" items =
      some row.position :=
    (optionalField_iff (fun position hmem y => position_load_iff htypes (hfinite position hmem) y)
      hposition _).mpr ⟨fun _ _ => trivial, rfl⟩
  have hmake : ActionSchema.makeInstance stored row.id row.appName row.actionName row.name
      row.deviceId (present row.arguments) row.trigger row.position = row := by
    rw [ActionSchema.makeInstance]
    cases hfound : stored.action row.id with
    | none => simp only [present_getD_nil]
    | some existing =>
      obtain rfl := eq_of_owns hrow hfound
      simp only [present_getD, Option.or_self]
  rw [hjson]
  simp only [ActionSchema.load, requiredField, hid, happ, haction, hname, Option.bind_some,
    htypes.uuid, htypes.string, Option.bind_eq_bind, Option.bind_eq_some_iff, column_iff htypes,
    hdeviceIff, hargumentsIff, htriggerIff, hpositionRead]
  constructor
  · rintro ⟨_, ⟨hlength, rfl⟩, _, ⟨hfine, rfl⟩, _, ⟨hfine', rfl⟩, _, ⟨⟨hchildren, hbelow⟩, rfl⟩, hy⟩
    refine ⟨⟨hlength, hchildren, ?_⟩, hmake ▸ (Option.some.inj hy).symm⟩
    unfold actionArguments
    simp only [List.forall_mem_append, Option.mem_toList]
    exact ⟨⟨hfine, hfine'⟩, hbelow⟩
  · rintro ⟨⟨hlength, hchildren, hfine⟩, rfl⟩
    unfold actionArguments at hfine
    simp only [List.forall_mem_append, Option.mem_toList] at hfine
    exact ⟨_, ⟨hlength, rfl⟩, _, ⟨hfine.1.1, rfl⟩, _, ⟨hfine.1.2, rfl⟩,
      _, ⟨⟨hchildren, hfine.2⟩, rfl⟩, congrArg some hmake⟩

/-- A branch as it is made of its dump: a new one gets the defaults of the constructor. -/
def withBranchDefaults (stored : StoredRows) (row : BranchRow) : BranchRow :=
  if (stored.branch row.id).isSome then row
  else { row with
    status := some (row.status.getD "Success")
    priority := some (row.priority.getD 999) }

/-- A branch is loaded exactly if its status fits and its condition can be loaded. -/
theorem branch_load_iff (htypes : ReadsDumped types) {row : BranchRow}
    (hvalid : ∀ argument ∈ branchArguments row, ValidArgument argument)
    (howns : OwnsBranch stored row) (y : BranchRow) :
    BranchSchema.load types stored row.element.json = some y ↔
      ((∀ status ∈ row.status, status.length ≤ 80) ∧
        (∀ id ∈ row.condition.toList.flatMap childIds, (stored.expression id).isSome) ∧
        ∀ argument ∈ branchArguments row, ReloadableArgument stored argument) ∧
      y = withBranchDefaults stored row := by
  obtain ⟨items, hjson, hid, hsource, hdestination, hstatus, hcondition, hpriority⟩ :=
    branch_dumped row
  have hstatusIff := optionalField_iff (fun s _ t => column_iff htypes 80 s t) hstatus
  have hconditionIff := optionalExpression_iff htypes hvalid howns.2 hcondition
  have hpriorityRead : optionalField types.integer "priority" items = some row.priority :=
    optionalField_eq htypes.integer hpriority
  have hmake : BranchSchema.makeInstance stored row.id row.sourceId row.destinationId row.status
      row.condition row.priority = withBranchDefaults stored row := by
    rw [BranchSchema.makeInstance, withBranchDefaults]
    cases hfound : stored.branch row.id with
    | none => rfl
    | some existing =>
      obtain rfl := eq_of_owns howns.1 hfound
      simp only [Option.or_self, Option.isSome_some, if_true]
  rw [hjson]
  simp only [BranchSchema.load, requiredField, hid, hsource, hdestination, Option.bind_some,
    htypes.uuid, Option.bind_eq_bind, Option.bind_eq_some_iff, hstatusIff, hconditionIff,
    hpriorityRead]
  constructor
  · rintro ⟨_, ⟨hfits, rfl⟩, _, ⟨⟨hchildren, hfine⟩, rfl⟩, hy⟩
    exact ⟨⟨hfits, hchildren, hfine⟩, hmake ▸ (Option.some.inj hy).symm⟩
  · rintro ⟨⟨hfits, hchildren, hfine⟩, rfl⟩
    exact ⟨_, ⟨hfits, rfl⟩, _, ⟨⟨hchildren, hfine⟩, rfl⟩, congrArg some hmake⟩

/-- An environment variable is loaded exactly if it can be. -/
theorem environmentVariable_load_iff (htypes : ReadsDumped types) {row : EnvironmentVariableRow}
    (howns : Owns (stored.environmentVariable row.id) row) (y : EnvironmentVariableRow) :
    EnvironmentVariableSchema.load types stored row.element.json = some y ↔
      ReloadableVariable row ∧ y = row := by
  obtain ⟨items, hjson, hid, hname, hvalue, hdescription⟩ := environmentVariable_dumped row
  have hnameIff := optionalField_iff (fun s _ t => column_iff htypes 80 s t) hname
  have hdescriptionIff := optionalField_iff (fun s _ t => column_iff htypes 255 s t) hdescription
  have hmake : EnvironmentVariableSchema.makeInstance stored row.id row.name row.value
      row.description = row := by
    rw [EnvironmentVariableSchema.makeInstance]
    cases hfound : stored.environmentVariable row.id with
    | none => rfl
    | some existing =>
      obtain rfl := eq_of_owns howns hfound
      simp only [Option.or_self]
  rw [hjson]
  simp only [EnvironmentVariableSchema.load, requiredField, hid, hvalue, Option.bind_some,
    htypes.uuid, Option.bind_eq_bind, Option.bind_eq_some_iff, hnameIff, hdescriptionIff,
    column_iff htypes]
  constructor
  · rintro ⟨_, ⟨hfits, rfl⟩, _, ⟨hfits', rfl⟩, _, ⟨hfits'', rfl⟩, hy⟩
    exact ⟨⟨hfits, hfits', hfits''⟩, hmake ▸ (Option.some.inj hy).symm⟩
  · rintro ⟨⟨hfits, hfits', hfits''⟩, rfl⟩
    exact ⟨_, ⟨hfits, rfl⟩, _, ⟨hfits', rfl⟩, _, ⟨hfits'', rfl⟩, congrArg some hmake⟩

/-- The child expressions of a workflow are those of its triggers and of its conditions. -/
theorem forall_workflowChildIds {P : UUID → Prop} {row : WorkflowRow} :
    (∀ id ∈ workflowChildIds row, P id) ↔
      (∀ action ∈ row.actions, ∀ id ∈ action.trigger.toList.flatMap childIds, P id) ∧
        ∀ branch ∈ row.branches, ∀ id ∈ branch.condition.toList.flatMap childIds, P id := by
  unfold workflowChildIds
  simp only [List.forall_mem_flatMap, List.forall_mem_append, List.mem_filterMap,
    Option.mem_toList]
  constructor
  · rintro ⟨hactions, hbranches⟩
    exact ⟨fun action hmem e he => hactions e ⟨action, hmem, he⟩,
      fun branch hmem e he => hbranches e ⟨branch, hmem, he⟩⟩
  · rintro ⟨hactions, hbranches⟩
    exact ⟨fun e ⟨action, hmem, he⟩ => hactions action hmem e he,
      fun e ⟨branch, hmem, he⟩ => hbranches branch hmem e he⟩

/-- What is loaded of the dump of a workflow is the workflow, but for the defaults of branches. -/
theorem workflow_load_iff (htypes : ReadsDumped types) {row : WorkflowRow}
    (hvalid : ValidElements row) (howns : OwnsWorkflow stored row) (y : WorkflowRow) :
    WorkflowSchema.load types stored row.dump = some y ↔
      LoadableWorkflow stored row ∧
        y = { row with branches := row.branches.map (withBranchDefaults stored) } := by
  obtain ⟨items, hjson, hid, hname, hstart, hisValid, hactions, hbranches, hvariables⟩ :=
    workflow_dumped row
  have hvalidArguments := hvalid.arguments
  unfold workflowArguments at hvalidArguments
  rw [List.forall_mem_append, List.forall_mem_flatMap, List.forall_mem_flatMap] at hvalidArguments
  have hactionsIff := nestedField_iff (fun action hmem y => action_load_iff htypes
    (hvalidArguments.1 action hmem) (hvalid.positions action hmem) (howns.actions action hmem) y)
    hactions
  have hbranchesIff := nestedField_made_iff (fun branch hmem y => branch_load_iff htypes
    (hvalidArguments.2 branch hmem) (howns.branches branch hmem) y) hbranches
  have hvariablesIff := nestedField_iff (fun value hmem y => environmentVariable_load_iff htypes
    (howns.environmentVariables value hmem) y) hvariables
  have hstartRead : optionalField types.uuid "start" items = some row.start :=
    optionalField_eq htypes.uuid hstart
  have hmake : WorkflowSchema.makeInstance stored row.id row.name row.start row.isValid
      (present row.actions) (present (row.branches.map (withBranchDefaults stored)))
      (present row.environmentVariables) = some y ↔ (stored.workflow row.id).isSome ∧
        y = { row with branches := row.branches.map (withBranchDefaults stored) } := by
    rw [WorkflowSchema.makeInstance]
    cases hfound : stored.workflow row.id with
    | none => simp
    | some existing =>
      obtain rfl := eq_of_owns howns.workflow hfound
      simp only [present_getD, present_map_getD, Option.or_self, Option.some.injEq,
        Option.isSome_some, true_and]
      exact eq_comm
  rw [hjson]
  simp only [WorkflowSchema.load, requiredField, hid, hname, hisValid, Option.bind_some,
    htypes.uuid, htypes.boolean, Option.bind_eq_bind, Option.bind_eq_some_iff, column_iff htypes,
    hstartRead, hactionsIff, hbranchesIff, hvariablesIff]
  constructor
  · rintro ⟨_, ⟨hlength, rfl⟩, _, ⟨hfine, rfl⟩, _, ⟨hfine', rfl⟩, _, ⟨hfits, rfl⟩, hy⟩
    obtain ⟨hfound, rfl⟩ := hmake.mp hy
    refine ⟨⟨hfound, forall_workflowChildIds.mpr ⟨fun action hmem => (hfine action hmem).children,
      fun branch hmem => (hfine' branch hmem).2.1⟩, hlength, ?_,
      fun action hmem => (hfine action hmem).name, fun branch hmem => (hfine' branch hmem).1,
      hfits⟩, rfl⟩
    unfold workflowArguments
    rw [List.forall_mem_append, List.forall_mem_flatMap, List.forall_mem_flatMap]
    exact ⟨fun action hmem => (hfine action hmem).arguments,
      fun branch hmem => (hfine' branch hmem).2.2⟩
  · rintro ⟨hfine, rfl⟩
    have harguments := hfine.arguments
    unfold workflowArguments at harguments
    rw [List.forall_mem_append, List.forall_mem_flatMap, List.forall_mem_flatMap] at harguments
    obtain ⟨hactionIds, hbranchIds⟩ := forall_workflowChildIds.mp hfine.children
    exact ⟨_, ⟨hfine.name, rfl⟩,
      _, ⟨fun action hmem => ⟨hfine.actions action hmem, hactionIds action hmem,
        harguments.1 action hmem⟩, rfl⟩,
      _, ⟨fun branch hmem => ⟨hfine.branches branch hmem, hbranchIds branch hmem,
        harguments.2 branch hmem⟩, rfl⟩,
      _, ⟨hfine.environmentVariables, rfl⟩, hmake.mpr ⟨hfine.found, rfl⟩⟩

/-- The defaults change nothing in a branch exactly if it is stored or has what they stand for. -/
theorem withBranchDefaults_same_iff (row : BranchRow) :
    mapBranch identifySelection (withBranchDefaults stored row) = mapBranch identifySelection row ↔
      (stored.branch row.id).isSome ∨ row.status.isSome ∧ row.priority.isSome := by
  unfold withBranchDefaults
  obtain ⟨id, sourceId, destinationId, status, condition, priority⟩ := row
  by_cases hfound : (stored.branch id).isSome
  · simp [hfound]
  · cases status <;> cases priority <;> simp [hfound, mapBranch]

end Schemas

/-! ## Loading what was dumped -/

/-- The field types on the values that a dump holds. -/
def plainTypes : FieldTypes where
  integer
    | .int i => some i
    | _ => none
  uuid
    | .str s => UUID.parse s
    | _ => none
  string
    | .str s => some s
    | _ => none
  boolean
    | .bool b => some b
    | _ => none
  float
    | .float m e => some (.float m e)
    | .int i => some (.float i 0)
    | _ => none

/-- They read what they have dumped. -/
theorem plainTypes_readsDumped : ReadsDumped plainTypes where
  integer _ := rfl
  uuid u := by simp only [plainTypes, UUID.parse_str]
  string _ := rfl
  boolean _ := rfl
  float _ _ := rfl

/-- A workflow with an argument that is an empty list. -/
def emptyListArgument : ArgumentRow :=
  { id := 1, name := "data", value := .list [], reference := none, selection := none }

/-- Its only action. -/
def emptyListAction : ActionRow :=
  { id := 2, appName := "Utilities", actionName := "echo array", name := "echo", deviceId := none
    arguments := [emptyListArgument], trigger := none, position := none }

/-- The workflow. -/
def emptyListWorkflow : WorkflowRow :=
  { id := 1, name := "lists", start := some 2, isValid := true, actions := [emptyListAction]
    branches := [], environmentVariables := [] }

/-- The database with this workflow. -/
def emptyListRows : StoredRows :=
  { argument := fun id => if id = 1 then some emptyListArgument else none
    transform := fun _ => none
    condition := fun _ => none
    expression := fun _ => none
    action := fun id => if id = 2 then some emptyListAction else none
    branch := fun _ => none
    environmentVariable := fun _ => none
    workflow := fun id => if id = 1 then some emptyListWorkflow else none }

/-- The database has a row as it was dumped. -/
theorem owns_of_eq {α : Type} {found : Option α} {row : α} (h : found = some row) :
    Owns found row :=
  fun _ hother => Option.some.inj (hother.symm.trans h)

/-- A valid argument that is an empty list: the workflow cannot be loaded where it is stored. -/
theorem empty_list_not_reloaded :
    ValidElements emptyListWorkflow ∧ OwnsWorkflow emptyListRows emptyListWorkflow ∧
      emptyListRows.workflow emptyListWorkflow.id = some emptyListWorkflow ∧
      ¬ RoundTrips plainTypes emptyListRows emptyListWorkflow := by
  have hvalid : ValidElements emptyListWorkflow := by
    refine ⟨fun argument hmem => ?_, fun action hmem => ?_⟩
    · obtain rfl : argument = emptyListArgument := by
        simpa [workflowArguments, actionArguments, emptyListWorkflow, emptyListAction] using hmem
      exact ⟨rfl, rfl⟩
    · obtain rfl : action = emptyListAction := by simpa [emptyListWorkflow] using hmem
      exact nofun
  have howns : OwnsWorkflow emptyListRows emptyListWorkflow := by
    refine ⟨owns_of_eq rfl, fun action hmem => ?_, nofun, nofun⟩
    obtain rfl : action = emptyListAction := by simpa [emptyListWorkflow] using hmem
    refine ⟨owns_of_eq rfl, nofun, fun argument hmem => ?_, nofun⟩
    obtain rfl : argument = emptyListArgument := by simpa [emptyListAction] using hmem
    exact owns_of_eq rfl
  refine ⟨hvalid, howns, rfl, fun ⟨loaded, hload, _⟩ => ?_⟩
  have hfine := ((workflow_load_iff plainTypes_readsDumped hvalid howns loaded).mp hload).1
  exact (hfine.arguments emptyListArgument (by
    simp [workflowArguments, actionArguments, emptyListWorkflow, emptyListAction])).value.1 rfl

/-- **What is dumped can be loaded again exactly if the workflow, its arguments and its child
expressions are stored**, no value is one that `remove_skip_values` takes out, no selection holds
a null, all texts fit their columns, and no branch that is not stored gets a default. -/
theorem roundTrips_iff {types : FieldTypes} (htypes : ReadsDumped types) {stored : StoredRows}
    {row : WorkflowRow} (hvalid : ValidElements row) (howns : OwnsWorkflow stored row) :
    RoundTrips types stored row ↔ ReloadableWorkflow stored row := by
  unfold RoundTrips
  simp only [workflow_load_iff htypes hvalid howns]
  constructor
  · rintro ⟨_, ⟨hload, rfl⟩, hsame⟩
    have hbranches := congrArg WorkflowRow.branches hsame
    simp only [mapWorkflow, List.map_map, List.map_inj_left, Function.comp_apply,
      withBranchDefaults_same_iff] at hbranches
    exact ⟨hload, hbranches⟩
  · intro hfine
    refine ⟨_, ⟨hfine.toLoadableWorkflow, rfl⟩, ?_⟩
    have hbranches :
        (row.branches.map (withBranchDefaults stored)).map (mapBranch identifySelection) =
          row.branches.map (mapBranch identifySelection) := by
      simp only [List.map_map, List.map_inj_left, Function.comp_apply, withBranchDefaults_same_iff]
      exact hfine.defaults
    simp only [mapWorkflow, hbranches]

/-- The argument with the id of the device. -/
def tableDevice : ArgumentRow :=
  { id := 1, name := "__device__", value := .int 7, reference := none, selection := none }

/-- An argument with nested containers that are empty. -/
def tableArgument : ArgumentRow :=
  { id := 2, name := "table", value := .list [.list [], .dict [("rows", .list [])]]
    reference := none, selection := some [] }

/-- An argument that selects from the result of the first action. -/
def rowArgument : ArgumentRow :=
  { id := 3, name := "row", value := .none, reference := some 2
    selection := some [.str "rows", .int 0] }

/-- The argument of a condition. -/
def flagArgument : ArgumentRow :=
  { id := 4, name := "flag", value := .bool false, reference := none, selection := none }

/-- The argument of a transform. -/
def limitArgument : ArgumentRow :=
  { id := 5, name := "limit", value := .int 0, reference := none, selection := none }

/-- A transform. -/
def lengthTransform : TransformRow :=
  { id := 31, appName := "Utilities", actionName := "length", arguments := [limitArgument] }

/-- A condition with a transform. -/
def lengthCondition : ConditionRow :=
  { id := 21, appName := "Utilities", actionName := "mod1_flag2", isNegated := true
    arguments := [flagArgument], transforms := [lengthTransform] }

/-- The expression below the trigger. -/
def innerExpression : ExpressionRow :=
  .mk 12 .or false [] [lengthCondition]

/-- The trigger, with an expression below it. -/
def outerExpression : ExpressionRow :=
  .mk 11 .and true [innerExpression] []

/-- The first action. -/
def tableAction : ActionRow :=
  { id := 2, appName := "Tables", actionName := "make", name := "make"
    deviceId := some tableDevice, arguments := [tableArgument], trigger := some outerExpression
    position := some { x := .float 15 1, y := .float (-3) 0 } }

/-- The second action. -/
def selectAction : ActionRow :=
  { id := 3, appName := "Tables", actionName := "show", name := "show", deviceId := none
    arguments := [rowArgument], trigger := none, position := none }

/-- The branch between them. -/
def tableBranch : BranchRow :=
  { id := 4, sourceId := 2, destinationId := 3, status := some "Success", condition := none
    priority := none }

/-- A variable of the workflow. -/
def tableVariable : EnvironmentVariableRow :=
  { id := 5, name := none, value := "", description := some "the table" }

/-- A workflow with all of these. -/
def tableWorkflow : WorkflowRow :=
  { id := 1, name := "tables", start := some 2, isValid := true
    actions := [tableAction, selectAction], branches := [tableBranch]
    environmentVariables := [tableVariable] }

/-- A database with the workflow, but without the transform and the variable. -/
def tableRows : StoredRows :=
  { argument := fun id => (workflowArguments tableWorkflow).find? (·.id = id)
    transform := fun _ => none
    condition := fun id => if id = 21 then some lengthCondition else none
    expression := fun id =>
      if id = 11 then some outerExpression else if id = 12 then some innerExpression else none
    action := fun id => tableWorkflow.actions.find? (·.id = id)
    branch := fun id => tableWorkflow.branches.find? (·.id = id)
    environmentVariable := fun _ => none
    workflow := fun id => if id = 1 then some tableWorkflow else none }

/-- The arguments of the example. -/
theorem tableWorkflow_arguments : workflowArguments tableWorkflow =
    [tableDevice, tableArgument, flagArgument, limitArgument, rowArgument] :=
  rfl

/-- The workflow of the example is valid. -/
theorem tableWorkflow_valid : ValidElements tableWorkflow := by
  constructor
  · rw [tableWorkflow_arguments]
    simp only [List.forall_mem_cons]
    exact ⟨⟨rfl, rfl⟩, ⟨rfl, rfl⟩, ⟨rfl, rfl⟩, ⟨rfl, rfl⟩, ⟨rfl, rfl⟩,
      nofun⟩
  · simp only [tableWorkflow, List.forall_mem_cons]
    refine ⟨fun position hmem => ?_, nofun, nofun⟩
    obtain rfl := Option.some.inj hmem
    exact ⟨15, 1, -3, 0, rfl⟩

/-- The database of the example has no other rows under the ids of the workflow. -/
theorem tableWorkflow_owned : OwnsWorkflow tableRows tableWorkflow := by
  have hcondition : OwnsCondition tableRows lengthCondition := by
    refine ⟨owns_of_eq rfl, ?_, ?_⟩
    · simp only [lengthCondition, List.forall_mem_cons]
      exact ⟨owns_of_eq rfl, nofun⟩
    · simp only [lengthCondition, List.forall_mem_cons]
      refine ⟨⟨nofun, ?_⟩, nofun⟩
      simp only [lengthTransform, List.forall_mem_cons]
      exact ⟨owns_of_eq rfl, nofun⟩
  have htrigger : OwnsExpression tableRows outerExpression := by
    refine ⟨owns_of_eq rfl, ⟨⟨owns_of_eq rfl, trivial, ?_⟩, trivial⟩, nofun⟩
    simp only [List.forall_mem_cons]
    exact ⟨hcondition, nofun⟩
  have htable : OwnsAction tableRows tableAction := by
    refine ⟨owns_of_eq rfl, ?_, ?_, ?_⟩
    · rintro _ ⟨⟩
      exact owns_of_eq rfl
    · simp only [tableAction, List.forall_mem_cons]
      exact ⟨owns_of_eq rfl, nofun⟩
    · rintro _ ⟨⟩
      exact htrigger
  have hselect : OwnsAction tableRows selectAction := by
    refine ⟨owns_of_eq rfl, nofun, ?_, nofun⟩
    simp only [selectAction, List.forall_mem_cons]
    exact ⟨owns_of_eq rfl, nofun⟩
  constructor
  · exact owns_of_eq rfl
  · simp only [tableWorkflow, List.forall_mem_cons]
    exact ⟨htable, hselect, nofun⟩
  · simp only [tableWorkflow, List.forall_mem_cons]
    exact ⟨⟨owns_of_eq rfl, nofun⟩, nofun⟩
  · exact nofun

/-- The workflow of the example can be loaded again. -/
theorem tableWorkflow_reloadable : ReloadableWorkflow tableRows tableWorkflow := by
  refine ⟨⟨rfl, ?_, by decide, ?_, ?_, ?_, ?_⟩, ?_⟩
  · have hchildren : workflowChildIds tableWorkflow = [12] := rfl
    rw [hchildren, List.forall_mem_cons]
    exact ⟨rfl, nofun⟩
  · rw [tableWorkflow_arguments]
    simp only [List.forall_mem_cons]
    exact ⟨⟨rfl, by decide, by decide, nofun⟩,
      ⟨rfl, by decide, by decide, by simp [tableArgument]⟩,
      ⟨rfl, by decide, by decide, nofun⟩, ⟨rfl, by decide, by decide, nofun⟩,
      ⟨rfl, by decide, by decide, by simp [rowArgument]⟩, nofun⟩
  · simp only [tableWorkflow, List.forall_mem_cons]
    exact ⟨by decide, by decide, nofun⟩
  · simp only [tableWorkflow, List.forall_mem_cons]
    refine ⟨?_, nofun⟩
    rintro _ ⟨⟩
    decide
  · simp only [tableWorkflow, List.forall_mem_cons]
    refine ⟨⟨nofun, by decide, ?_⟩, nofun⟩
    rintro _ ⟨⟩
    decide
  · simp only [tableWorkflow, List.forall_mem_cons]
    exact ⟨Or.inl rfl, nofun⟩

/-- A workflow with a trigger, a transform and empty containers within a value is loaded again. -/
theorem tables_reloaded : RoundTrips plainTypes tableRows tableWorkflow :=
  (roundTrips_iff plainTypes_readsDumped tableWorkflow_valid tableWorkflow_owned).mpr
    tableWorkflow_reloadable

end Walkoff.Analysis
