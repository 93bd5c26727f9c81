import Walkoff.Program.RequestCodec

/-!
# The endpoint that executes a workflow

`execute_workflow` of `workflowqueue.py` builds `Argument` and `EnvironmentVariable`
objects from the body of a request and refuses arguments that are in error.
-/

set_option autoImplicit false

namespace Walkoff.Program

open Walkoff.Model

/-- An argument in the body of a request: a reference is a text, a selection a list. -/
structure ArgumentData where
  name : String
  value : PyVal
  reference : Option String
  selection : Option (List PyVal)
  deriving Repr

/-- `Argument(**arg)`. -/
def ArgumentData.argument (arg : ArgumentData) : Argument :=
  Argument.init arg.name arg.value (arg.reference.map Key.text)
    ((arg.selection.map PyVal.list).getD .none)

/-- An environment variable in the body of a request: its value is a text. -/
structure VariableData where
  id : UUID
  value : String
  deriving Repr

/-- `EnvironmentVariable(**env_var)`. -/
def VariableData.environmentVariable (envVar : VariableData) : EnvironmentVariable :=
  { id := envVar.id, value := .str envVar.value }

/-- The message of the problem for an argument in error. -/
def argumentProblem (argument : Argument) : String :=
  "Errors in argument " ++ argument.name ++ ": " ++
    (PyVal.list (argument.errors.map PyVal.str)).toStr

/-- The arguments of a request, or the detail of the problem it is answered with. -/
def argumentObjects (args : List ArgumentData) : Except String (List Argument) :=
  let arguments := args.map ArgumentData.argument
  let errors := (arguments.filter (!·.errors.isEmpty)).map argumentProblem
  if errors.isEmpty then pure arguments
  else throw ("Some arguments are invalid. Reason: " ++
    (PyVal.list (errors.map PyVal.str)).toStr)

end Walkoff.Program
