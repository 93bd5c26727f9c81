import Walkoff.Program.Schemas

/-!
# Exporting a playbook

`strip_argument_ids` and its helpers, which take the ids of the arguments out of the JSON of a
playbook before it is sent as a file. They change the dictionaries in place; here they return
what is left of them.
-/

set_option autoImplicit false

namespace Walkoff.Program

open Walkoff.Library (OrderedDict)
open Walkoff.Model

/-- `d.pop(key, None)`. -/
def popEntry (key : String) : PyVal → Except Exn PyVal
  | .dict items => pure (.dict (OrderedDict.pop key items))
  | _ => throw .attributeError

/-- A `for` loop over the members of a list. -/
def eachOf (f : PyVal → Except Exn PyVal) : PyVal → Except Exn PyVal
  | .list xs => do pure (.list (← xs.mapM f))
  | _ => throw .typeError

/-- What a step does to an entry, if it is under the key. -/
def inItem (key : String) (f : PyVal → Except Exn PyVal) (item : String × PyVal) :
    Except Exn (String × PyVal) :=
  if item.1 = key then do pure (item.1, ← f item.2) else pure item

/-- `f` of the entry under a key; where there is none, nothing is done. -/
def inField (key : String) (f : PyVal → Except Exn PyVal) : PyVal → Except Exn PyVal
  | .dict items => do pure (.dict (← items.mapM (inItem key f)))
  | _ => throw .attributeError

/-- `strip_argument_ids_from_element`. -/
def stripArgumentIdsFromElement : PyVal → Except Exn PyVal :=
  inField "arguments" (eachOf (popEntry "id"))

/-- The loop body over the conditions of `strip_argument_ids_from_conditional`. -/
def stripArgumentIdsFromCondition (condition : PyVal) : Except Exn PyVal := do
  let condition ← stripArgumentIdsFromElement condition
  inField "transforms" (eachOf stripArgumentIdsFromElement) condition

mutual

/-- `strip_argument_ids_from_conditional`: the child expressions first, then the conditions. -/
def stripArgumentIdsFromConditional : PyVal → Except Exn PyVal
  | .dict items => do
    let items ← stripChildExpressions items
    inField "conditions" (eachOf stripArgumentIdsFromCondition) (.dict items)
  | _ => throw .attributeError

def stripChildExpressions : List (String × PyVal) → Except Exn (List (String × PyVal))
  | [] => pure []
  | (key, v) :: items => do
    let v ← (if key = "child_expressions" then stripConditionals v else pure v)
    let items ← stripChildExpressions items
    pure ((key, v) :: items)

def stripConditionals : PyVal → Except Exn PyVal
  | .list xs => do pure (.list (← stripEachConditional xs))
  | _ => throw .typeError

def stripEachConditional : List PyVal → Except Exn (List PyVal)
  | [] => pure []
  | x :: xs => do
    let x ← stripArgumentIdsFromConditional x
    let xs ← stripEachConditional xs
    pure (x :: xs)

end

/-- The loop body over the actions of `strip_argument_ids`, which does not look at the trigger. -/
def stripArgumentIdsFromAction (action : PyVal) : Except Exn PyVal := do
  let action ← stripArgumentIdsFromElement action
  inField "device_id" (popEntry "id") action

/-- The loop body over the branches of `strip_argument_ids`: the condition is tested for under
`condition` and taken from `conditional`. -/
def stripArgumentIdsFromBranch : PyVal → Except Exn PyVal
  | .dict items =>
    match OrderedDict.get? "condition" items with
    | none => pure (.dict items)
    | some _ => match OrderedDict.get? "conditional" items with
      | none => throw .keyError
      | some conditional => do
        let conditional ← stripArgumentIdsFromConditional conditional
        pure (.dict (OrderedDict.set "conditional" conditional items))
  | _ => throw .typeError

/-- The loop body over the workflows of `strip_argument_ids`. -/
def stripArgumentIdsFromWorkflow (workflow : PyVal) : Except Exn PyVal := do
  let workflow ← inField "actions" (eachOf stripArgumentIdsFromAction) workflow
  inField "branches" (eachOf stripArgumentIdsFromBranch) workflow

/-- `strip_argument_ids`. -/
def stripArgumentIds : PyVal → Except Exn PyVal :=
  inField "workflows" (eachOf stripArgumentIdsFromWorkflow)

end Walkoff.Program
