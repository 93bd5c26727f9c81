import Walkoff.Model.PyVal

/-!
# `repr` and `str` of every value

`PyVal.repr` is for strings that are printed as they are; here every character of a string is
written as Python writes it. Which characters count as printable is a table of Python's, and a
parameter.
-/

set_option autoImplicit false

namespace Walkoff.Model.PyRepr

variable (printable : Char → Bool)

/-- A character that is written with `\x` or `\U`. -/
def hexEscaped (c : Char) : Bool :=
  if c = '\t' ∨ c = '\n' ∨ c = '\r' then false
  else if c.toNat < 32 ∨ c.toNat = 127 then true
  else if c.toNat < 127 ∨ printable c then false
  else c.toNat < 256 || 65536 ≤ c.toNat

/-- A character of a string with this quote. -/
def reprChar (quote c : Char) : List Char :=
  if c = quote ∨ c = '\\' then ['\\', c]
  else if c = '\t' then ['\\', 't']
  else if c = '\n' then ['\\', 'n']
  else if c = '\r' then ['\\', 'r']
  else if hexEscaped printable c then
    if c.toNat < 256 then '\\' :: 'x' :: UUID.hexDigits 2 c.toNat
    else '\\' :: 'U' :: UUID.hexDigits 8 c.toNat
  else if c.toNat < 127 ∨ printable c then [c]
  else '\\' :: 'u' :: UUID.hexDigits 4 c.toNat

/-- The quote of a string: the single one, unless only that one occurs in it. -/
def quoteOf (s : String) : Char :=
  if '\'' ∈ s.toList ∧ '"' ∉ s.toList then '"' else '\''

/-- A code point of a string with this quote. Surrogates do not print. -/
def reprCodePoint (quote : Char) (u : ℕ) : List Char :=
  if PyVal.isSurrogate u then PyVal.unicodeEscape u else reprChar printable quote (Char.ofNat u)

/-- `repr` of a string with lone surrogates. -/
def reprCodePoints (codePoints : List ℕ) : String :=
  let quote := if '\''.toNat ∈ codePoints ∧ '"'.toNat ∉ codePoints then '"' else '\''
  String.ofList (quote :: (codePoints.flatMap (reprCodePoint printable quote) ++ [quote]))

/-- `repr` of a string. -/
def reprStr (s : String) : String :=
  String.ofList (quoteOf s :: (s.toList.flatMap (reprChar printable (quoteOf s)) ++ [quoteOf s]))

mutual

/-- `repr(v)`. -/
def repr : PyVal → String
  | .none => "None"
  | .bool b => if b then "True" else "False"
  | .int i => toString i
  | .float m e => PyVal.floatRepr m e
  | .nonFinite f => f.repr
  | .str s => reprStr printable s
  | .surrogates codePoints => reprCodePoints printable codePoints
  | .list xs => "[" ++ ", ".intercalate (reprList xs) ++ "]"
  | .dict items => "\x7b" ++ ", ".intercalate (reprItems items) ++ "\x7d"
  | .object o => o.text

def reprList : List PyVal → List String
  | [] => []
  | x :: xs => repr x :: reprList xs

def reprItems : List (String × PyVal) → List String
  | [] => []
  | (k, x) :: items => (reprStr printable k ++ ": " ++ repr x) :: reprItems items

end

/-- `str(v)`, and `'{}'.format(v)`; lone surrogates are replaced. -/
def str : PyVal → String
  | .str s => s
  | .surrogates codePoints => PyVal.replaced codePoints
  | v => repr printable v

/-- `str(v)` as a text of Python, with its lone surrogates. -/
def text : PyVal → PyVal
  | .surrogates codePoints => .surrogates codePoints
  | v => .str (str printable v)

end Walkoff.Model.PyRepr
