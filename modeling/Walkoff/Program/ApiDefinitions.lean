import Walkoff.Library.OrderedDict
import Walkoff.Model.Validator

/-!
# The definitions of an API file

`walkoff.appgateway.validator.validate_definitions` and what it reads of a definition. A
`Definition` keeps the members of `allOf`, or else the properties it requires and defines; a
`$ref` is replaced by what it points to.
-/

set_option autoImplicit false

namespace Walkoff.Program

open Walkoff.Library Walkoff.Model

/-- A definition or a reference to one. -/
inductive Definition where
  | ref (target : String)
  | allOf (members : List Definition)
  | plain (required properties : List String)
  deriving Repr

/-- Every reference inside the definition points to one of the targets. -/
inductive Definition.Resolves (targets : OrderedDict String Definition) : Definition → Prop
  | ref {target : String} (h : target ∈ targets.keys) : Resolves targets (.ref target)
  | allOf {members : List Definition} (h : ∀ member ∈ members, Resolves targets member) :
      Resolves targets (.allOf members)
  | plain (required properties : List String) : Resolves targets (.plain required properties)

/-- The definitions of a file that `validate_spec_json` has accepted, and what the references in
it point to: each of them resolves. -/
structure ApiDefinitions where
  definitions : OrderedDict String Definition
  targets : OrderedDict String Definition
  resolved : ∀ item ∈ definitions ++ targets, item.2.Resolves targets

/-- A reference that does not resolve. -/
def refResolutionError : Exn :=
  .raised "RefResolutionError"

/-- A loop over definitions, which ends at the first exception. -/
def eachDefinition (validate : Definition → Option (Except Exn Unit)) :
    List Definition → Option (Except Exn Unit)
  | [] => some (.ok ())
  | definition :: definitions =>
    match validate definition with
    | some (.ok ()) => eachDefinition validate definitions
    | result => result

/-- `validate_definition` with the dereferencing it starts with; `none` when the calls nest deeper
than the given depth. -/
def validateDefinition (spec : ApiDefinitions) : ℕ → Definition → Option (Except Exn Unit)
  | 0, _ => none
  | depth + 1, definition =>
    match definition with
    | .ref target =>
      match OrderedDict.get? target spec.targets with
      | some definition => validateDefinition spec depth definition
      | none => some (.error refResolutionError)
    | .allOf members => eachDefinition (validateDefinition spec depth) members
    | .plain required properties =>
      if required.all (· ∈ properties) then some (.ok ()) else some (.error invalidApi)

/-- `validate_definitions`. -/
def validateDefinitions (spec : ApiDefinitions) (depth : ℕ) : Option (Except Exn Unit) :=
  eachDefinition (validateDefinition spec depth) (spec.definitions.map Prod.snd)

end Walkoff.Program
