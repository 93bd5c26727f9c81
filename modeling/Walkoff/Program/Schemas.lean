import Walkoff.Library.OrderedDict
import Walkoff.Model.Workflow

/-!
# The JSON of a workflow

The rows of a stored workflow whose elements are all valid, so that none has errors, and what
the schemas dump of them. A dumped element is kept as a tree that says what each of its fields
is: data, a reference to another element, or elements of its own. Its JSON forgets that.
-/

set_option autoImplicit false

namespace Walkoff.Program

open Walkoff.Model
open Walkoff.Library (OrderedDict)

/-! ## Rows -/

/-- A row of `argument`. -/
structure ArgumentRow where
  id : ℤ
  name : String
  value : PyVal
  reference : Option UUID
  selection : Option (List PyVal)

/-- A row of `transform` with its arguments. -/
structure TransformRow where
  id : UUID
  appName : String
  actionName : String
  arguments : List ArgumentRow

/-- A row of `condition` with its arguments and transforms. -/
structure ConditionRow where
  id : UUID
  appName : String
  actionName : String
  isNegated : Bool
  arguments : List ArgumentRow
  transforms : List TransformRow

/-- A row of `conditional_expression` with what is below it. -/
inductive ExpressionRow where
  | mk (id : UUID) (operator : Operator) (isNegated : Bool)
      (childExpressions : List ExpressionRow) (conditions : List ConditionRow)

/-- A row of `position`. -/
structure PositionRow where
  x : PyVal
  y : PyVal

/-- A row of `action` with what belongs to it. -/
structure ActionRow where
  id : UUID
  appName : String
  actionName : String
  name : String
  deviceId : Option ArgumentRow
  arguments : List ArgumentRow
  trigger : Option ExpressionRow
  position : Option PositionRow

/-- A row of `branch` with its condition. -/
structure BranchRow where
  id : UUID
  sourceId : UUID
  destinationId : UUID
  status : Option String
  condition : Option ExpressionRow
  priority : Option ℤ

/-- A row of `environment_variable`. -/
structure EnvironmentVariableRow where
  id : UUID
  name : Option String
  value : String
  description : Option String

/-- A row of `workflow` with what belongs to it. -/
structure WorkflowRow where
  id : UUID
  name : String
  start : Option UUID
  isValid : Bool
  actions : List ActionRow
  branches : List BranchRow
  environmentVariables : List EnvironmentVariableRow

/-! ## Dumped elements -/

/-- The tables of the elements. -/
inductive ElementKind where
  | playbook
  | workflow
  | action
  | branch
  | conditionalExpression
  | condition
  | transform
  | environmentVariable
  | argument
  deriving DecidableEq, Repr

mutual

/-- A dumped element: its id, if it has one, and its other fields. -/
inductive Element where
  | mk (kind : ElementKind) (id : Option PyVal) (fields : List (String × Part))

/-- What a field of a dumped element holds. -/
inductive Part where
  | data (v : PyVal)
  | reference (id : PyVal)
  | element (e : Element)
  | elements (es : List Element)

end

mutual

/-- The JSON of an element. -/
def Element.json : Element → PyVal
  | .mk _ id fields => .dict ((id.map fun v => ("id", v)).toList ++ Element.jsonFields fields)

def Part.json : Part → PyVal
  | .data v => v
  | .reference id => id
  | .element e => e.json
  | .elements es => .list (Element.jsonList es)

def Element.jsonList : List Element → List PyVal
  | [] => []
  | e :: es => e.json :: Element.jsonList es

def Element.jsonFields : List (String × Part) → List (String × PyVal)
  | [] => []
  | (key, part) :: fields => (key, part.json) :: Element.jsonFields fields

end

/-! ## Dumping -/

/-- `__skipvalues`. -/
def skipValues : List PyVal :=
  [.none, .list [], .list [.dict []]]

/-- A field with data that `remove_skip_values` leaves in. -/
def dataField (key : String) (v : PyVal) : List (String × Part) :=
  if v ∈ skipValues then [] else [(key, .data v)]

/-- A field with an id of another element. -/
def referenceField (key : String) (id : Option UUID) : List (String × Part) :=
  (id.map fun u => (key, Part.reference (.str u.str))).toList

/-- A nested field. -/
def elementField (key : String) (e : Option Element) : List (String × Part) :=
  (e.map fun e => (key, Part.element e)).toList

/-- A nested field with many elements. -/
def elementsField (key : String) (es : List Element) : List (String × Part) :=
  if es.isEmpty then [] else [(key, .elements es)]

/-- A text column that can be `NULL`. -/
def textValue (s : Option String) : PyVal :=
  (s.map PyVal.str).getD .none

/-- The text of an operator. -/
def operatorText : Operator → String
  | .and => "and"
  | .or => "or"
  | .xor => "xor"

/-- `ArgumentSchema`. -/
def ArgumentRow.element (row : ArgumentRow) : Element :=
  .mk .argument (some (.int row.id))
    (dataField "name" (.str row.name) ++ dataField "value" row.value ++
      referenceField "reference" row.reference ++
      dataField "selection" ((row.selection.map PyVal.list).getD .none))

/-- `TransformSchema`. -/
def TransformRow.element (row : TransformRow) : Element :=
  .mk .transform (some (.str row.id.str))
    (dataField "app_name" (.str row.appName) ++ dataField "action_name" (.str row.actionName) ++
      elementsField "arguments" (row.arguments.map ArgumentRow.element))

/-- `ConditionSchema`. -/
def ConditionRow.element (row : ConditionRow) : Element :=
  .mk .condition (some (.str row.id.str))
    (dataField "app_name" (.str row.appName) ++ dataField "action_name" (.str row.actionName) ++
      dataField "is_negated" (.bool row.isNegated) ++
      elementsField "arguments" (row.arguments.map ArgumentRow.element) ++
      elementsField "transforms" (row.transforms.map TransformRow.element))

mutual

/-- `ConditionalExpressionSchema`. The schema means to leave the parent out, but names the option
`excludes`, so a child expression has the id of its parent. -/
def ExpressionRow.element (parent : Option UUID) : ExpressionRow → Element
  | .mk id operator isNegated childExpressions conditions =>
    .mk .conditionalExpression (some (.str id.str))
      (dataField "operator" (.str (operatorText operator)) ++ dataField "is_negated" (.bool isNegated) ++
        dataField "parent" (textValue (parent.map UUID.str)) ++
        elementsField "child_expressions" (ExpressionRow.elements id childExpressions) ++
        elementsField "conditions" (conditions.map ConditionRow.element))

def ExpressionRow.elements (parent : UUID) : List ExpressionRow → List Element
  | [] => []
  | row :: rows => row.element (some parent) :: ExpressionRow.elements parent rows

end

/-- `PositionSchema`. -/
def PositionRow.json (row : PositionRow) : PyVal :=
  .dict [("x", row.x), ("y", row.y)]

/-- `ActionSchema`. -/
def ActionRow.element (row : ActionRow) : Element :=
  .mk .action (some (.str row.id.str))
    (dataField "app_name" (.str row.appName) ++ dataField "action_name" (.str row.actionName) ++
      dataField "name" (.str row.name) ++
      elementField "device_id" (row.deviceId.map ArgumentRow.element) ++
      elementsField "arguments" (row.arguments.map ArgumentRow.element) ++
      elementField "trigger" (row.trigger.map (ExpressionRow.element none)) ++
      dataField "position" ((row.position.map PositionRow.json).getD .none))

/-- `BranchSchema`. -/
def BranchRow.element (row : BranchRow) : Element :=
  .mk .branch (some (.str row.id.str))
    (referenceField "source_id" (some row.sourceId) ++
      referenceField "destination_id" (some row.destinationId) ++
      dataField "status" (textValue row.status) ++
      elementField "condition" (row.condition.map (ExpressionRow.element none)) ++
      dataField "priority" ((row.priority.map PyVal.int).getD .none))

/-- `EnvironmentVariableSchema`. -/
def EnvironmentVariableRow.element (row : EnvironmentVariableRow) : Element :=
  .mk .environmentVariable (some (.str row.id.str))
    (dataField "name" (textValue row.name) ++ dataField "value" (.str row.value) ++
      dataField "description" (textValue row.description))

/-- `WorkflowSchema`. -/
def WorkflowRow.element (row : WorkflowRow) : Element :=
  .mk .workflow (some (.str row.id.str))
    (dataField "name" (.str row.name) ++ referenceField "start" row.start ++
      dataField "is_valid" (.bool row.isValid) ++
      elementsField "actions" (row.actions.map ActionRow.element) ++
      elementsField "branches" (row.branches.map BranchRow.element) ++
      elementsField "environment_variables"
        (row.environmentVariables.map EnvironmentVariableRow.element))

/-- `WorkflowSchema.dump`. -/
def WorkflowRow.dump (row : WorkflowRow) : PyVal :=
  row.element.json

/-- A row of `playbook` with its workflows. -/
structure PlaybookRow where
  id : UUID
  name : String
  workflows : List WorkflowRow

/-- `PlaybookSchema`. -/
def PlaybookRow.element (row : PlaybookRow) : Element :=
  .mk .playbook (some (.str row.id.str))
    (dataField "name" (.str row.name) ++
      elementsField "workflows" (row.workflows.map WorkflowRow.element))

/-- The entries of an element's JSON. -/
def Element.items : Element → OrderedDict String PyVal
  | .mk _ id fields => (id.map fun v => ("id", v)).toList ++ Element.jsonFields fields

end Walkoff.Program
