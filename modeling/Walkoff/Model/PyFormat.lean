import Mathlib.Data.List.Basic

/-!
# `str.format` with one argument

Double braces stand for a brace and empty ones for the argument. Any other field, a second empty one
and a brace that stands alone raise: a field that has a number or a name does not go together with
an empty one.
-/

set_option autoImplicit false

namespace Walkoff.Model.PyFormat

/-- The rest of a template that has an empty field somewhere, with the text of the argument;
`filled` says that the field has been. `none` is an exception. -/
def formatFrom (value : List Char) : Bool → List Char → Option (List Char)
  | _, [] => some []
  | filled, '\x7b' :: '\x7b' :: cs => ('\x7b' :: ·) <$> formatFrom value filled cs
  | filled, '\x7b' :: '\x7d' :: cs =>
    if filled then none else (value ++ ·) <$> formatFrom value true cs
  | _, '\x7b' :: _ => none
  | filled, '\x7d' :: '\x7d' :: cs => ('\x7d' :: ·) <$> formatFrom value filled cs
  | _, '\x7d' :: _ => none
  | filled, c :: cs => (c :: ·) <$> formatFrom value filled cs

/-- `template.format(value)`. -/
def format (template value : String) : Option String :=
  (formatFrom value.toList false template.toList).map String.ofList

end Walkoff.Model.PyFormat
