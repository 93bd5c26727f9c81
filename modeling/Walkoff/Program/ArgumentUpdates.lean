import Walkoff.Model.Argument
import Walkoff.Model.PyEquality

/-!
# Updating an argument

What happens to the object of an argument after it has been constructed: it is validated before
its row is updated, loaded again from the database, and changed by
`ArgumentSchema.make_instance` for the JSON of a request.
-/

set_option autoImplicit false

namespace Walkoff.Program

open Walkoff.Model
open Walkoff.Model.Argument (referenceTruthy)

/-- The JSON of an argument as the fields of the schema deserialize it; `none` stands for a key
that is absent. -/
structure ArgumentRequest where
  name : String
  value : Option PyVal
  reference : Option Key
  selection : Option (List PyVal)
  errors : Option (List String)

/-- `validate_argument`. -/
def ArgumentRequest.validateArgument (data : ArgumentRequest) : Bool :=
  let hasValue := data.value.isSome
  let hasReference := referenceTruthy data.reference
  !((!hasValue && !hasReference) || (hasValue && hasReference))

/-- The JSON is accepted: the field `value` does not take a null. -/
def ArgumentRequest.Accepted (data : ArgumentRequest) : Prop :=
  data.validateArgument = true ∧ data.value ≠ some .none

/-- `Argument.validate`. -/
def validateArgumentObject (self : Argument) : Argument :=
  if self.value.isNone && !referenceTruthy self.reference then
    { self with errors :=
      ["Input " ++ self.name ++ " must have either value or reference. Input has neither"] }
  else if !self.value.isNone && referenceTruthy self.reference then
    { self with errors := [], reference := none }
  else { self with errors := [] }

/-- A list of scalars after the trip through its column: a text with commas between the items. -/
def reloadSelection : PyVal → PyVal
  | .list xs =>
    if ",".intercalate (xs.map PyVal.toStr) = "" then .list []
    else .list (xs.map fun x => .str x.toStr)
  | v => v

/-- A reference after the trip through its column, if it can be stored. -/
def reloadReference (readUuid : String → Option UUID) : Option Key → Option (Option Key)
  | none => some none
  | some (.uuid u) => some (some (.uuid u))
  | some (.text s) => (readUuid s).map fun u => some (.uuid u)

/-- The argument as it is loaded from the database, with `init_on_load`. -/
def reloadArgument (readUuid : String → Option UUID) (self : Argument) : Option Argument :=
  (reloadReference readUuid self.reference).map fun reference => {
    self with
    reference
    selection := reloadSelection self.selection
    isReference := self.value.isNone }

/-- `update_value_reference`. -/
def updateValueReference (self : Argument) (value : PyVal) (reference : Option Key) : Argument :=
  if !value.isNone && (!pyEq self.value value || referenceTruthy self.reference) then
    { self with value, reference := none, selection := .list [] }
  else if referenceTruthy reference then
    { self with reference, value := .none, isReference := true }
  else self

/-- `ArgumentSchema.make_instance` for an argument that is found. -/
def makeArgumentInstance (self : Argument) (data : ArgumentRequest) : Argument :=
  let self := updateValueReference self (data.value.getD .none) data.reference
  { self with
    name := data.name
    selection := (data.selection.map PyVal.list).getD self.selection
    errors := data.errors.getD self.errors }

/-- What happens to an argument. -/
inductive ArgumentEvent where
  | reload
  | validate
  | update (data : ArgumentRequest)

/-- An argument and, until it is loaded again, the JSON it was updated with. -/
structure EditedArgument where
  argument : Argument
  last : Option ArgumentRequest

/-- One thing that happens to an argument. -/
def ArgumentStep (readUuid : String → Option UUID) (state : EditedArgument) :
    ArgumentEvent → EditedArgument → Prop
  | .reload, state' => ∃ argument, reloadArgument readUuid state.argument = some argument ∧
      state' = { argument, last := none }
  | .validate, state' => state' = { state with argument := validateArgumentObject state.argument }
  | .update data, state' => data.Accepted ∧
      state' = { argument := makeArgumentInstance state.argument data, last := some data }

end Walkoff.Program
