import Walkoff.Library.Effect
import Walkoff.Program.Schemas

/-!
# Copying the JSON of a workflow

`regenerate_workflow_ids` gives the workflow and its actions new ids, and then walks through the
JSON of the actions and branches: `regenerate_ids` knows the elements by the names of the keys
only. The `n`-th call of `uuid4` returns the `n`-th text of a supply.
-/

set_option autoImplicit false

namespace Walkoff.Program

open Walkoff.Model
open Walkoff.Library (OrderedDict)

/-- Code that calls `uuid4`: the state counts the calls. -/
abbrev Copying := EStateM Exn ℕ

/-- `str(uuid4())`. -/
def newId (uuid4 : ℕ → String) : Copying PyVal := fun n =>
  .ok (.str (uuid4 n)) (n + 1)

/-- A new id, if `regenerate_id` asks for one. -/
def newIdIf (uuid4 : ℕ → String) (regenerateId : Bool) : Copying (Option PyVal) :=
  if regenerateId then some <$> newId uuid4 else pure none

/-- The new ids of the actions under their old ones. -/
abbrev ActionMapping : Type := OrderedDict PyVal PyVal

/-- `action_mapping[key]`. -/
def ActionMapping.lookUp (mapping : ActionMapping) (key : PyVal) : Except Exn PyVal :=
  match key with
  | .list _ | .dict _ => throw .typeError
  | key => match mapping.get? key with
    | some v => pure v
    | none => throw .keyError

/-- The reference of an element after it has been looked up; an empty one is left to the loop. -/
def newReference (mapping : ActionMapping) (items : OrderedDict String PyVal) :
    Copying (Option PyVal) :=
  match items.get? "reference" with
  | none => pure none
  | some reference =>
    if reference.truthy then some <$> Library.lift (mapping.lookUp reference)
    else pure none

/-- The entries that are set before the loop over the fields. -/
def setEntries (id : Option PyVal) (isArguments : Bool) (reference : Option PyVal)
    (items : OrderedDict String PyVal) : OrderedDict String PyVal :=
  let items := match id with
    | some id => items.set "id" id
    | none => items
  let items := if isArguments then items.pop "id" else items
  match reference with
  | some reference => items.set "reference" reference
  | none => items

/-- What `regenerate_ids` does around its loop over the fields. The loop leaves the id alone,
which is a text by then, and so is a reference that has been looked up. -/
def aroundFields (uuid4 : ℕ → String) (mapping : ActionMapping) (regenerateId isArguments : Bool)
    (items : OrderedDict String PyVal) (loop : Copying (OrderedDict String PyVal)) :
    Copying PyVal := do
  let id ← newIdIf uuid4 regenerateId
  let reference ← newReference mapping items
  let items ← loop
  pure (.dict (setEntries id isArguments reference items))

/-- `is_arguments` of what a field holds. -/
def isArgumentsField (field : String) : Bool :=
  field = "arguments" || field = "device_id"

mutual

/-- The loop of `regenerate_ids` over the fields. -/
def regenerateFields (uuid4 : ℕ → String) (mapping : ActionMapping) :
    List (String × PyVal) → Copying (List (String × PyVal))
  | [] => pure []
  | (field, value) :: items => do
    let value ← regenerateField uuid4 mapping field value
    let items ← regenerateFields uuid4 mapping items
    pure ((field, value) :: items)

/-- One round of the loop: `regenerate_ids` of a dictionary. -/
def regenerateField (uuid4 : ℕ → String) (mapping : ActionMapping) (field : String) :
    PyVal → Copying PyVal
  | .list xs =>
    if field = "id" then pure (.list xs)
    else .list <$> regenerateIdsOfList uuid4 mapping (isArgumentsField field) xs
  | .dict items =>
    if field = "id" then pure (.dict items)
    else aroundFields uuid4 mapping true (isArgumentsField field) items
      (regenerateFields uuid4 mapping items)
  | v => pure v

/-- `__regenerate_ids_of_list`: `regenerate_ids` of every dictionary in the list. -/
def regenerateIdsOfList (uuid4 : ℕ → String) (mapping : ActionMapping) (isArguments : Bool) :
    List PyVal → Copying (List PyVal)
  | [] => pure []
  | x :: xs => do
    let x ← match x with
      | .dict items =>
        aroundFields uuid4 mapping true isArguments items (regenerateFields uuid4 mapping items)
      | x => pure x
    let xs ← regenerateIdsOfList uuid4 mapping isArguments xs
    pure (x :: xs)

end

/-- `regenerate_ids` of an element. -/
def regenerateIds (uuid4 : ℕ → String) (mapping : ActionMapping) (regenerateId : Bool)
    (items : OrderedDict String PyVal) : Copying PyVal :=
  aroundFields uuid4 mapping regenerateId false items (regenerateFields uuid4 mapping items)

/-! ## Workflows -/

/-- An entry that has to be there. -/
def entry (key : String) (items : OrderedDict String PyVal) : Except Exn PyVal :=
  match items.get? key with
  | some v => pure v
  | none => throw .keyError

/-- The elements of a list of dictionaries; `get` of a missing list gives none. -/
def dictionaries (key : String) (items : OrderedDict String PyVal) :
    Except Exn (List (OrderedDict String PyVal)) :=
  match items.get? key with
  | none => pure []
  | some (.list xs) => xs.mapM fun
    | .dict items => pure items
    | _ => throw .typeError
  | some _ => throw .typeError

/-- The first loop over the actions: a new id for each, filed under the old one. -/
def renumberActions (uuid4 : ℕ → String) :
    List (OrderedDict String PyVal) → ActionMapping →
      Copying (List (OrderedDict String PyVal) × ActionMapping)
  | [], mapping => pure ([], mapping)
  | action :: actions, mapping => do
    let prevId ← Library.lift (entry "id" action)
    let id ← newId uuid4
    let (actions, mapping) ← renumberActions uuid4 actions (mapping.set prevId id)
    pure (action.set "id" id :: actions, mapping)

/-- The ends of a branch under their new ids. -/
def renameEnds (mapping : ActionMapping) (branch : OrderedDict String PyVal) :
    Except Exn (OrderedDict String PyVal) := do
  let sourceId ← mapping.lookUp (← entry "source_id" branch)
  let branch := branch.set "source_id" sourceId
  let destinationId ← mapping.lookUp (← entry "destination_id" branch)
  pure (branch.set "destination_id" destinationId)

/-- One round of the loop over the branches. -/
def regenerateBranch (uuid4 : ℕ → String) (mapping : ActionMapping)
    (branch : OrderedDict String PyVal) : Copying PyVal := do
  let branch ← Library.lift (renameEnds mapping branch)
  regenerateIds uuid4 mapping true branch

/-- `regenerate_workflow_ids`. -/
def regenerateWorkflowIds (uuid4 : ℕ → String) (workflow : OrderedDict String PyVal) :
    Copying (OrderedDict String PyVal) := do
  let workflow := workflow.set "id" (← newId uuid4)
  let actions ← Library.lift (dictionaries "actions" workflow)
  let (actions, mapping) ← renumberActions uuid4 actions []
  let actions ← actions.mapM (regenerateIds uuid4 mapping false)
  let workflow := replaceList "actions" actions workflow
  let branches ← Library.lift (dictionaries "branches" workflow)
  let branches ← branches.mapM (regenerateBranch uuid4 mapping)
  let workflow := replaceList "branches" branches workflow
  let start ← Library.lift (do mapping.lookUp (← entry "start" workflow))
  pure (workflow.set "start" start)
where
  -- The elements are changed in place, so a list that is not there stays away.
  replaceList (key : String) (elements : List PyVal) (workflow : OrderedDict String PyVal) :
      OrderedDict String PyVal :=
    if (workflow.get? key).isSome then workflow.set key (.list elements) else workflow

end Walkoff.Program
