import Walkoff.Model.AppApi

/-!
# Workflows

The elements of a stored workflow, with the fields the execution reads.
-/

set_option autoImplicit false

namespace Walkoff.Model

/-- A transform applied to the data before a condition sees it. `errors` are those found when the
workflow was last validated; they are stored with it. -/
structure Transform where
  id : UUID
  appName : String
  actionName : String
  arguments : List Argument
  errors : List String := []
  deriving Repr

/-- A condition: a function of an app on the data, possibly negated. -/
structure Condition where
  id : UUID
  appName : String
  actionName : String
  isNegated : Bool
  arguments : List Argument
  transforms : List Transform
  errors : List String := []
  deriving Repr

/-- `valid_operators`. -/
inductive Operator where
  | and
  | or
  | xor
  deriving DecidableEq, Repr

/-- A tree of conditions. -/
inductive ConditionalExpression where
  | mk (id : UUID) (operator : Operator) (isNegated : Bool)
      (childExpressions : List ConditionalExpression) (conditions : List Condition)
  deriving Repr

/-- The id of an expression's root. -/
def ConditionalExpression.id : ConditionalExpression → UUID
  | .mk id _ _ _ _ => id

/-- An action: the app function to call, on which device and with which arguments, and the
trigger it waits for. -/
structure Action where
  id : UUID
  appName : String
  actionName : String
  name : String
  deviceId : Option Argument
  arguments : List Argument
  trigger : Option ConditionalExpression
  errors : List String := []
  deriving Repr

/-- A branch from one action to another, taken on a status and possibly a condition. -/
structure Branch where
  id : UUID
  sourceId : UUID
  destinationId : UUID
  status : Option String
  condition : Option ConditionalExpression
  priority : ℤ
  deriving Repr

/-- A variable filed in the accumulator under its id. -/
structure EnvironmentVariable where
  id : UUID
  value : PyVal
  deriving Repr

/-- A stored workflow. -/
structure Workflow where
  id : UUID
  name : String
  start : Option UUID
  isValid : Bool
  actions : List Action
  branches : List Branch
  environmentVariables : List EnvironmentVariable
  deriving Repr

/-- `Workflow.get_branches_by_action_id`, in the order of the branch list. -/
def Workflow.getBranchesByActionId (self : Workflow) (id : UUID) : List Branch :=
  self.branches.filter (·.sourceId = id)

/-- What an app function returned. A missing status is filled in from the API. -/
structure ActionResult where
  result : PyVal
  status : Option String
  deriving Repr

namespace ActionResult

/-- `as_json`'s `result` entry: the text of a result that `json.dumps` refuses with a
`TypeError`; any other exception escapes. -/
def jsonResult (self : ActionResult) : Except Exn PyVal :=
  match self.result.dumps with
  | .ok _ => pure self.result
  | .error .typeError => pure (.str self.result.toStr)
  | .error e => throw e

/-- `as_json`. -/
def asJson (self : ActionResult) : Except Exn PyVal := do
  let result ← self.jsonResult
  pure (.dict [("result", result), ("status", (self.status.map PyVal.str).getD .none)])

/-- `set_default_status`. -/
def setDefaultStatus (apis : AppApis) (app action : String) (self : ActionResult) :
    Except Exn ActionResult :=
  match self.status with
  | some _ => pure self
  | none => do pure { self with status := some (← apis.getAppActionDefaultReturn app action) }

end ActionResult

end Walkoff.Model
