import Walkoff.Model.World

/-!
# App functions

The decorator `action` makes a function of an app return an `ActionResult` whatever it
returns or raises.
-/

set_option autoImplicit false

namespace Walkoff.Program

open Walkoff.Model
open Walkoff.Library (OrderedDict)

/-- An exception raised by an app function: the name of its class and its text. -/
structure AppException where
  className : String
  text : String
  deriving Repr

/-- `format_exception_message`. -/
def formatExceptionMessage (exception : AppException) : String :=
  if exception.text ≠ "" then exception.className ++ ": " ++ exception.text
  else exception.className

/-- What an app function returns: a tuple with a result and a status, a tuple that
`ActionResult(*result)` refuses with a `TypeError`, or anything else. -/
inductive Returned where
  | value (result : PyVal)
  | tuple (result : PyVal) (status : Option String)
  | otherTuple (typeError : String)
  deriving Repr

/-- `format_result`. -/
def formatResult : Returned → Except AppException ActionResult
  | .value result => .ok { result, status := none }
  | .tuple result status => .ok { result, status }
  | .otherTuple typeError => .error { className := "TypeError", text := typeError }

/-- `ActionResult.from_exception`. -/
def fromException (exception : AppException) (status : String) : ActionResult :=
  { result := .str ("error: " ++ formatExceptionMessage exception), status := some status }

variable {σ : Type}

/-- A function of an app, on its arguments and app instance. -/
abbrev AppFunction (σ : Type) :=
  OrderedDict String PyVal → Option InstanceKey → σ → Except AppException Returned × σ

/-- The decorator `action`. -/
def decorated (func : AppFunction σ) (arguments : OrderedDict String PyVal)
    (instanceKey : Option InstanceKey) (behaviour : σ) : ActionResult × σ :=
  match func arguments instanceKey behaviour with
  | (.ok returned, behaviour) =>
    match formatResult returned with
    | .ok result => (result, behaviour)
    | .error exception => (fromException exception "UnhandledException", behaviour)
  | (.error exception, behaviour) => (fromException exception "UnhandledException", behaviour)

/-- Apps whose action functions are decorated. -/
def withDecorated (env : Env σ) (func : Action → AppFunction σ) : Env σ :=
  { env with appFunction := fun action arguments instanceKey behaviour =>
      let (result, behaviour) := decorated (func action) arguments instanceKey behaviour
      (.ok result, behaviour) }

end Walkoff.Program
