import Walkoff.Model.PyEquality
import Walkoff.Program.Schemas

/-!
# Loading the JSON of a workflow

`WorkflowSchema.load`, for JSON as `dump` gives it: its elements are valid, so that none has
errors, they have their ids, and no key holds a null. The fields of an element are deserialized
first, those that are nested by a load of their own; then the schema is validated, and
`make_instance` changes the row that has the id of the element or, where there is none, calls the
constructor. `none` is a load that raises, be it a `ValidationError` or the `TypeError` of a
constructor. A constructor also calls `validate`, which finds nothing in a valid element.
-/

set_option autoImplicit false

namespace Walkoff.Program

open Walkoff.Model
open Walkoff.Library (OrderedDict)

/-! ## Fields -/

/-- `deserialize` of the types of fields that the schema library has; `none` is its
`ValidationError`. -/
structure FieldTypes where
  integer : PyVal → Option ℤ
  uuid : PyVal → Option UUID
  string : PyVal → Option String
  boolean : PyVal → Option Bool
  float : PyVal → Option PyVal

/-- A field that the JSON has to have. -/
def requiredField {α : Type} (read : PyVal → Option α) (key : String)
    (items : OrderedDict String PyVal) : Option α :=
  (OrderedDict.get? key items).bind read

/-- A field that may be left out. -/
def optionalField {α : Type} (read : PyVal → Option α) (key : String)
    (items : OrderedDict String PyVal) : Option (Option α) :=
  match OrderedDict.get? key items with
  | none => some none
  | some v => (read v).map some

/-- `fields.Raw()`: everything but a null. -/
def rawField : PyVal → Option PyVal
  | .none => none
  | v => some v

/-- `fields.List(fields.Raw())`. -/
def rawListField : PyVal → Option (List PyVal)
  | .list vs => vs.mapM rawField
  | _ => none

/-- `fields.Nested` with `many=True`. -/
def nestedField {α : Type} (load : PyVal → Option α) : PyVal → Option (List α)
  | .list vs => vs.mapM load
  | _ => none

/-- The operator a text stands for; `OneOf`. -/
def readOperator : String → Option Operator
  | "and" => some .and
  | "or" => some .or
  | "xor" => some .xor
  | _ => none

namespace FieldTypes

variable (types : FieldTypes)

/-- The field of a `String` column: a text no longer than the column allows. -/
def column (width : ℕ) (v : PyVal) : Option String :=
  (types.string v).filter (·.length ≤ width)

/-- The field of an `Enum` column. -/
def operator (v : PyVal) : Option Operator :=
  (types.string v).bind readOperator

end FieldTypes

/-! ## The rows a load finds -/

/-- `get_instance`: the rows of the database by their ids. -/
structure StoredRows where
  argument : ℤ → Option ArgumentRow
  transform : UUID → Option TransformRow
  condition : UUID → Option ConditionRow
  expression : UUID → Option ExpressionRow
  action : UUID → Option ActionRow
  branch : UUID → Option BranchRow
  environmentVariable : UUID → Option EnvironmentVariableRow
  workflow : UUID → Option WorkflowRow

/-! ## The schemas -/

/-- `update_value_reference`. -/
def ArgumentRow.updateValueReference (self : ArgumentRow) (value : Option PyVal)
    (reference : Option UUID) : ArgumentRow :=
  match value.filter fun v => !pyEq self.value v || self.reference.isSome with
  | some v => { self with value := v, reference := none, selection := some [] }
  | none =>
    match reference with
    | some u => { self with reference := some u, value := .none }
    | none => self

section

variable (types : FieldTypes) (stored : StoredRows)

namespace ArgumentSchema

/-- `make_instance`: the constructor takes no id. -/
def makeInstance (id : ℤ) (name : String) (value : Option PyVal) (reference : Option UUID)
    (selection : Option (List PyVal)) : Option ArgumentRow :=
  match stored.argument id with
  | some existing =>
    let updated := existing.updateValueReference value reference
    some { updated with id, name, selection := selection.or updated.selection }
  | none => none

/-- Loading, with `validate_argument`: there is a value or a reference, and not both. -/
def load : PyVal → Option ArgumentRow
  | .dict items => do
    let id ← requiredField types.integer "id" items
    let name ← requiredField (types.column 255) "name" items
    let value ← optionalField rawField "value" items
    let reference ← optionalField types.uuid "reference" items
    let selection ← optionalField rawListField "selection" items
    if value.isSome = reference.isSome then none
    else makeInstance stored id name value reference selection
  | _ => none

end ArgumentSchema

namespace TransformSchema

/-- `make_instance`. -/
def makeInstance (id : UUID) (appName actionName : String)
    (arguments : Option (List ArgumentRow)) : TransformRow :=
  match stored.transform id with
  | some existing => { id, appName, actionName, arguments := arguments.getD existing.arguments }
  | none => { id, appName, actionName, arguments := arguments.getD [] }

/-- Loading. -/
def load : PyVal → Option TransformRow
  | .dict items => do
    let id ← requiredField types.uuid "id" items
    let appName ← requiredField types.string "app_name" items
    let actionName ← requiredField types.string "action_name" items
    let arguments ← optionalField (nestedField (ArgumentSchema.load types stored)) "arguments" items
    pure (makeInstance stored id appName actionName arguments)
  | _ => none

end TransformSchema

namespace ConditionSchema

/-- `make_instance`. -/
def makeInstance (id : UUID) (appName actionName : String) (isNegated : Bool)
    (arguments : Option (List ArgumentRow)) (transforms : Option (List TransformRow)) :
    ConditionRow :=
  match stored.condition id with
  | some existing =>
    { id, appName, actionName, isNegated
      arguments := arguments.getD existing.arguments
      transforms := transforms.getD existing.transforms }
  | none =>
    { id, appName, actionName, isNegated
      arguments := arguments.getD []
      transforms := transforms.getD [] }

/-- Loading. -/
def load : PyVal → Option ConditionRow
  | .dict items => do
    let id ← requiredField types.uuid "id" items
    let appName ← requiredField types.string "app_name" items
    let actionName ← requiredField types.string "action_name" items
    let isNegated ← requiredField types.boolean "is_negated" items
    let arguments ← optionalField (nestedField (ArgumentSchema.load types stored)) "arguments" items
    let transforms ←
      optionalField (nestedField (TransformSchema.load types stored)) "transforms" items
    pure (makeInstance stored id appName actionName isNegated arguments transforms)
  | _ => none

end ConditionSchema

namespace ConditionalExpressionSchema

/-- `make_instance`: the constructor takes no parent. The parent of an expression that is found is
the one it is loaded for. -/
def makeInstance (id : UUID) (operator : Operator) (isNegated : Bool) (parent : Option UUID)
    (childExpressions : Option (List ExpressionRow)) (conditions : Option (List ConditionRow)) :
    Option ExpressionRow :=
  match stored.expression id with
  | some (.mk _ _ _ oldChildren oldConditions) =>
    some (.mk id operator isNegated (childExpressions.getD oldChildren)
      (conditions.getD oldConditions))
  | none =>
    if parent.isSome then none
    else some (.mk id operator isNegated (childExpressions.getD []) (conditions.getD []))

mutual

/-- Loading. -/
def load : PyVal → Option ExpressionRow
  | .dict items => do
    let id ← requiredField types.uuid "id" items
    let operator ← requiredField types.operator "operator" items
    let isNegated ← requiredField types.boolean "is_negated" items
    let parent ← optionalField types.uuid "parent" items
    let childExpressions ← loadChildExpressions items
    let conditions ←
      optionalField (nestedField (ConditionSchema.load types stored)) "conditions" items
    makeInstance stored id operator isNegated parent childExpressions conditions
  | _ => none

/-- `fields.Nested('self', many=True)`, which may be left out. -/
def loadChildExpressions : List (String × PyVal) → Option (Option (List ExpressionRow))
  | [] => some none
  | (key, v) :: items =>
    if key = "child_expressions" then (loadNested v).map some else loadChildExpressions items

def loadNested : PyVal → Option (List ExpressionRow)
  | .list vs => loadEach vs
  | _ => none

def loadEach : List PyVal → Option (List ExpressionRow)
  | [] => some []
  | v :: vs => do
    let row ← load v
    let rows ← loadEach vs
    pure (row :: rows)

end

end ConditionalExpressionSchema

/-- `PositionSchema` leaves the id out, so that every position is a new one. -/
def PositionSchema.load : PyVal → Option PositionRow
  | .dict items => do
    let x ← requiredField types.float "x" items
    let y ← requiredField types.float "y" items
    pure { x, y }
  | _ => none

namespace ActionSchema

/-- `make_instance`. -/
def makeInstance (id : UUID) (appName actionName name : String) (deviceId : Option ArgumentRow)
    (arguments : Option (List ArgumentRow)) (trigger : Option ExpressionRow)
    (position : Option PositionRow) : ActionRow :=
  match stored.action id with
  | some existing =>
    { id, appName, actionName, name
      deviceId := deviceId.or existing.deviceId
      arguments := arguments.getD existing.arguments
      trigger := trigger.or existing.trigger
      position := position.or existing.position }
  | none =>
    { id, appName, actionName, name, deviceId, trigger, position
      arguments := arguments.getD [] }

/-- Loading. -/
def load : PyVal → Option ActionRow
  | .dict items => do
    let id ← requiredField types.uuid "id" items
    let appName ← requiredField types.string "app_name" items
    let actionName ← requiredField types.string "action_name" items
    let name ← requiredField (types.column 80) "name" items
    let deviceId ← optionalField (ArgumentSchema.load types stored) "device_id" items
    let arguments ← optionalField (nestedField (ArgumentSchema.load types stored)) "arguments" items
    let trigger ← optionalField (ConditionalExpressionSchema.load types stored) "trigger" items
    let position ← optionalField (PositionSchema.load types) "position" items
    pure (makeInstance stored id appName actionName name deviceId arguments trigger position)
  | _ => none

end ActionSchema

namespace BranchSchema

/-- `make_instance`; the constructor has defaults of its own. -/
def makeInstance (id sourceId destinationId : UUID) (status : Option String)
    (condition : Option ExpressionRow) (priority : Option ℤ) : BranchRow :=
  match stored.branch id with
  | some existing =>
    { id, sourceId, destinationId
      status := status.or existing.status
      condition := condition.or existing.condition
      priority := priority.or existing.priority }
  | none =>
    { id, sourceId, destinationId, condition
      status := some (status.getD "Success")
      priority := some (priority.getD 999) }

/-- Loading. -/
def load : PyVal → Option BranchRow
  | .dict items => do
    let id ← requiredField types.uuid "id" items
    let sourceId ← requiredField types.uuid "source_id" items
    let destinationId ← requiredField types.uuid "destination_id" items
    let status ← optionalField (types.column 80) "status" items
    let condition ← optionalField (ConditionalExpressionSchema.load types stored) "condition" items
    let priority ← optionalField types.integer "priority" items
    pure (makeInstance stored id sourceId destinationId status condition priority)
  | _ => none

end BranchSchema

namespace EnvironmentVariableSchema

/-- `make_instance`. -/
def makeInstance (id : UUID) (name : Option String) (value : String)
    (description : Option String) : EnvironmentVariableRow :=
  match stored.environmentVariable id with
  | some existing =>
    { id, value
      name := name.or existing.name
      description := description.or existing.description }
  | none => { id, name, value, description }

/-- Loading. -/
def load : PyVal → Option EnvironmentVariableRow
  | .dict items => do
    let id ← requiredField types.uuid "id" items
    let name ← optionalField (types.column 80) "name" items
    let value ← requiredField (types.column 80) "value" items
    let description ← optionalField (types.column 255) "description" items
    pure (makeInstance stored id name value description)
  | _ => none

end EnvironmentVariableSchema

namespace WorkflowSchema

/-- `make_instance`: the constructor does not take `is_valid`. -/
def makeInstance (id : UUID) (name : String) (start : Option UUID) (isValid : Bool)
    (actions : Option (List ActionRow)) (branches : Option (List BranchRow))
    (environmentVariables : Option (List EnvironmentVariableRow)) : Option WorkflowRow :=
  match stored.workflow id with
  | some existing => some
    { id, name, isValid
      start := start.or existing.start
      actions := actions.getD existing.actions
      branches := branches.getD existing.branches
      environmentVariables := environmentVariables.getD existing.environmentVariables }
  | none => none

/-- `WorkflowSchema.load`. -/
def load : PyVal → Option WorkflowRow
  | .dict items => do
    let id ← requiredField types.uuid "id" items
    let name ← requiredField (types.column 80) "name" items
    let start ← optionalField types.uuid "start" items
    let isValid ← requiredField types.boolean "is_valid" items
    let actions ← optionalField (nestedField (ActionSchema.load types stored)) "actions" items
    let branches ← optionalField (nestedField (BranchSchema.load types stored)) "branches" items
    let environmentVariables ← optionalField
      (nestedField (EnvironmentVariableSchema.load types stored)) "environment_variables" items
    makeInstance stored id name start isValid actions branches environmentVariables
  | _ => none

end WorkflowSchema

end

end Walkoff.Program
