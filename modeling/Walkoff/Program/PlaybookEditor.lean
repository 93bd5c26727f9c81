import Walkoff.Model.JsNumber
import Walkoff.Model.PyVal

/-!
# The playbook editor

`setupGraph` of `playbook.component.ts` turns the selection lists of action arguments into texts;
`_sanitizeArgumentsForSave` turns them back into lists when the workflow is saved.
-/

set_option autoImplicit false

namespace Walkoff.Program

open Walkoff.Model

/-- A whole number that is not negative: a double, as all numbers of the editor are. -/
structure Index where
  value : ℕ
  isDouble : JsNumber.ofRat value = .finite value

/-- An element of a selection list that the server has sent. -/
inductive SelectionItem where
  | key (text : String)
  | index (n : Index)

/-- An element of a selection list to be saved. -/
inductive Selector where
  | text (s : String)
  | number (x : JsNumber)
  deriving DecidableEq, Repr

/-- The same element in a list to be saved. -/
def SelectionItem.selector : SelectionItem → Selector
  | key text => .text text
  | index n => .number (.finite n.value)

/-- `String(item)`. -/
def SelectionItem.toText : SelectionItem → List Char
  | key text => text.toList
  | index n => JsNumber.toText n.value

/-- `argument.selection` in the editor. -/
inductive EditorSelection where
  | items (xs : List SelectionItem)
  | text (cs : List Char)

/-- An argument in the editor. A key that is `none` is undefined. -/
structure EditorArgument where
  name : String
  value : Option PyVal
  reference : Option String
  selection : Option EditorSelection
  errors : List String

/-- An action of the workflow in the editor. -/
structure EditorAction where
  arguments : List EditorArgument

/-- The workflow in the editor. -/
structure EditorWorkflow where
  actions : Option (List EditorAction)

/-- An argument that is sent to the server. -/
structure SavedArgument where
  name : String
  value : Option PyVal
  reference : Option String
  selection : Option (List Selector)
  deriving DecidableEq, Repr

/-! ## Loading -/

/-- What `setupGraph` does to an argument. -/
def loadArgument (argument : EditorArgument) : EditorArgument :=
  match argument.selection with
  | some (.items xs) =>
    { argument with
      selection := some (.text (List.intercalate ['.'] (xs.map SelectionItem.toText))) }
  | _ => argument

/-- `setupGraph`. -/
def setupGraph (workflow : EditorWorkflow) : EditorWorkflow where
  actions := some ((workflow.actions.getD []).map fun action =>
    { arguments := action.arguments.map loadArgument })

/-! ## Saving -/

/-- `!reference` is false: the reference is there and not empty. -/
def isReferenced (reference : Option String) : Bool :=
  reference.any (· ≠ "")

/-- One part of a selection: a valid number is converted to a number. -/
def selectorOf (part : List Char) : Selector :=
  match JsNumber.ofText part with
  | some x => .number x
  | none => .text (String.ofList part)

/-- A selection text, split into what the server expects. -/
def splitSelection (selection : List Char) : List Selector :=
  let parts := (JsNumber.trim selection).splitOn '.'
  if parts.head? = some [] then [] else parts.map selectorOf

/-- `argument.selection` of an argument with a reference. -/
def savedSelection : Option EditorSelection → List Selector
  | none => []
  | some (.text cs) => splitSelection cs
  | some (.items xs) => xs.map SelectionItem.selector

/-- What `_sanitizeArgumentsForSave` makes of an argument; `none` when it is blank. -/
def sanitizeArgument (argument : EditorArgument) : Option SavedArgument :=
  let value := match argument.value with
    | some (.str s) => some (.str (String.ofList (JsNumber.trim s.toList)))
    | value => value
  let noValue := match value with
    | none | some .none => true
    | some (.str s) => s = ""
    | some _ => false
  if noValue && argument.reference = some "" then none
  else some {
    name := argument.name
    value := if isReferenced argument.reference then none else value
    reference := if argument.reference = some "" then none else argument.reference
    selection := if isReferenced argument.reference then
        some (savedSelection argument.selection) else none }

/-- `_sanitizeArgumentsForSave`. -/
def sanitizeArgumentsForSave (arguments : List EditorArgument) : List SavedArgument :=
  arguments.filterMap sanitizeArgument

/-- The arguments of the actions that `saveWorkflow` sends. -/
def saveWorkflow (workflow : EditorWorkflow) : List (List SavedArgument) :=
  (workflow.actions.getD []).map fun action => sanitizeArgumentsForSave action.arguments

end Walkoff.Program
