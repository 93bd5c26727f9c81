import Mathlib.Data.List.Basic
import Mathlib.Order.Basic
import Walkoff.Model.Uuid

/-!
# Python values, exceptions and `json.dumps`

Results of app functions, argument values and accumulator entries are arbitrary Python
objects. `PyVal` keeps the JSON types apart and lumps every other object into `object`,
with the three things the code can find out about one: its `str`, how `json.dumps` fails
on it, and whether `pickle.dumps` accepts it.
-/

set_option autoImplicit false

namespace Walkoff.Model

/-- The exceptions the modelled code raises or lets through. -/
inductive Exn where
  | invalidArgument (message : String) (errors : List String)
  | keyError
  | valueError
  | typeError
  | indexError
  | attributeError
  | unknownApp (app : String)
  | unknownAppAction (app actionName : String)
  | picklingError
  | integrityError
  /-- Any exception of an app function, a condition or a third-party library. -/
  | raised (name : String)
  deriving DecidableEq, Repr

/-- `OverflowError`. -/
def overflowError : Exn :=
  .raised "OverflowError"

/-- A Python object outside the JSON types. -/
structure PyObject where
  text : String
  /-- What `json.dumps` raises: `TypeError` for an unknown type, `ValueError` for a
  container that holds itself. -/
  dumpsRaises : Exn
  picklable : Bool
  deriving DecidableEq, Repr

/-- The floats that are no decimals. -/
inductive NonFinite where
  | inf
  | negInf
  | nan
  deriving DecidableEq, Repr

/-- How `json.dumps` writes a float that is no decimal. -/
def NonFinite.jsonText : NonFinite → String
  | .inf => "Infinity"
  | .negInf => "-Infinity"
  | .nan => "NaN"

/-- `repr` of a float that is no decimal. -/
def NonFinite.repr : NonFinite → String
  | .inf => "inf"
  | .negInf => "-inf"
  | .nan => "nan"

/-- A Python value. `float m e` is the finite decimal `m · 10⁻ᵉ`; a `surrogates` is a text with a
lone surrogate, by its code points; dictionaries have text keys, in insertion order. -/
inductive PyVal where
  | none
  | bool (b : Bool)
  | int (i : ℤ)
  | float (m : ℤ) (e : ℕ)
  | nonFinite (f : NonFinite)
  | str (s : String)
  | surrogates (codePoints : List ℕ)
  | list (xs : List PyVal)
  | dict (items : List (String × PyVal))
  | object (o : PyObject)
  deriving Repr

namespace PyVal

/-- `bool(v)`. -/
def truthy : PyVal → Bool
  | none => false
  | bool b => b
  | int i => i != 0
  | float m _ => m != 0
  | nonFinite _ => true
  | str s => s != ""
  | surrogates codePoints => !codePoints.isEmpty
  | list xs => !xs.isEmpty
  | dict items => !items.isEmpty
  | object _ => true

/-- `v is None`. -/
def isNone : PyVal → Bool
  | none => true
  | _ => false

/-! ## Equality -/

mutual

/-- Structural equality. -/
def beq : PyVal → PyVal → Bool
  | none, none => true
  | bool a, bool b => a == b
  | int i, int j => i == j
  | float m e, float m' e' => m == m' && e == e'
  | nonFinite f, nonFinite g => decide (f = g)
  | str s, str t => s == t
  | surrogates us, surrogates vs => us == vs
  | list xs, list ys => beqList xs ys
  | dict xs, dict ys => beqItems xs ys
  | object o, object p => decide (o = p)
  | _, _ => false

def beqList : List PyVal → List PyVal → Bool
  | [], [] => true
  | x :: xs, y :: ys => beq x y && beqList xs ys
  | _, _ => false

def beqItems : List (String × PyVal) → List (String × PyVal) → Bool
  | [], [] => true
  | (k, x) :: xs, (l, y) :: ys => k == l && beq x y && beqItems xs ys
  | _, _ => false

end

mutual

/-- The test for equality decides it. -/
theorem beq_iff : ∀ a b : PyVal, beq a b = true ↔ a = b
  | none, b => by cases b <;> simp [beq]
  | bool _, b => by cases b <;> simp [beq]
  | int _, b => by cases b <;> simp [beq]
  | float _ _, b => by cases b <;> simp [beq]
  | nonFinite _, b => by cases b <;> simp [beq]
  | str _, b => by cases b <;> simp [beq]
  | surrogates _, b => by cases b <;> simp [beq]
  | list xs, b => by cases b <;> simp [beq, beqList_iff xs]
  | dict xs, b => by cases b <;> simp [beq, beqItems_iff xs]
  | object _, b => by cases b <;> simp [beq]

/-- The same of lists. -/
theorem beqList_iff : ∀ xs ys : List PyVal, beqList xs ys = true ↔ xs = ys
  | [], ys => by cases ys <;> simp [beqList]
  | x :: xs, [] => by simp [beqList]
  | x :: xs, y :: ys => by simp [beqList, beq_iff x y, beqList_iff xs ys]

/-- The same of the items of dictionaries. -/
theorem beqItems_iff : ∀ xs ys : List (String × PyVal), beqItems xs ys = true ↔ xs = ys
  | [], ys => by cases ys <;> simp [beqItems]
  | (k, x) :: xs, [] => by simp [beqItems]
  | (k, x) :: xs, (l, y) :: ys => by
    simp [beqItems, beq_iff x y, beqItems_iff xs ys, and_assoc]

end

instance : DecidableEq PyVal := fun a b =>
  decidable_of_iff (beq a b = true) (beq_iff a b)

/-! ## Text and JSON -/

/-- The text of a number tells which one it is. -/
theorem natRepr_injective {m n : ℕ} (h : m.repr.toList = n.repr.toList) : m = n := by
  rw [Nat.toList_repr, Nat.toList_repr] at h
  have hdigits := congrArg (fun cs => Nat.ofDigitChars 10 cs 0) h
  simpa [Nat.ofDigitChars_ten_toDigits] using hdigits

/-- The two low-order groups of four hexadecimal digits of a `\u` escape. -/
def unicodeEscape (n : ℕ) : List Char :=
  '\\' :: 'u' :: UUID.hexDigits 4 n

/-- One character inside a JSON string (`ensure_ascii`). -/
def escapeChar (c : Char) : List Char :=
  if c = '"' then ['\\', '"']
  else if c = '\\' then ['\\', '\\']
  else if c = '\n' then ['\\', 'n']
  else if c = '\r' then ['\\', 'r']
  else if c = '\t' then ['\\', 't']
  else if c = '\x08' then ['\\', 'b']
  else if c = '\x0c' then ['\\', 'f']
  else if ' ' ≤ c ∧ c ≤ '~' then [c]
  else if c.toNat < 65536 then unicodeEscape c.toNat
  else unicodeEscape (55296 + (c.toNat - 65536) / 1024) ++
    unicodeEscape (56320 + (c.toNat - 65536) % 1024)

/-- A JSON string literal. -/
def quote (s : String) : String :=
  String.ofList ('"' :: s.toList.flatMap escapeChar ++ ['"'])

/-- Half of a surrogate pair. -/
def isSurrogate (codePoint : ℕ) : Bool :=
  55296 ≤ codePoint && codePoint < 57344

/-- A JSON string literal with lone surrogates. -/
def quoteCodePoints (codePoints : List ℕ) : String :=
  String.ofList ('"' :: codePoints.flatMap (fun u =>
    if isSurrogate u then unicodeEscape u else escapeChar (Char.ofNat u)) ++ ['"'])

/-- A text that prints, with U+FFFD for lone surrogates. -/
def replaced (codePoints : List ℕ) : String :=
  String.ofList (codePoints.map fun u => Char.ofNat (if isSurrogate u then 65533 else u))

/-- `repr` of a float that prints without an exponent. -/
def floatRepr (m : ℤ) (e : ℕ) : String :=
  let digits := (toString m.natAbs).toList
  let padded := List.replicate (e + 1 - digits.length) '0' ++ digits
  let whole := padded.take (padded.length - e)
  let fraction := padded.drop (padded.length - e)
  String.ofList ((if m < 0 then ['-'] else []) ++ whole ++ '.' ::
    (if fraction.isEmpty then ['0'] else fraction))

mutual

/-- `json.dumps(v)`, with the separators `', '` and `': '`. -/
def dumps : PyVal → Except Exn String
  | none => pure "null"
  | bool b => pure (if b then "true" else "false")
  | int i => pure (toString i)
  | float m e => pure (floatRepr m e)
  | nonFinite f => pure f.jsonText
  | str s => pure (quote s)
  | surrogates codePoints => pure (quoteCodePoints codePoints)
  | list xs => do pure ("[" ++ ", ".intercalate (← dumpsList xs) ++ "]")
  | dict items => do pure ("\x7b" ++ ", ".intercalate (← dumpsItems items) ++ "\x7d")
  | object o => throw o.dumpsRaises

def dumpsList : List PyVal → Except Exn (List String)
  | [] => pure []
  | x :: xs => do
    let text ← dumps x
    pure (text :: (← dumpsList xs))

def dumpsItems : List (String × PyVal) → Except Exn (List String)
  | [] => pure []
  | (k, x) :: items => do
    let text ← dumps x
    pure ((quote k ++ ": " ++ text) :: (← dumpsItems items))

end

mutual

/-- `repr(v)` for values whose strings are printable. -/
def repr : PyVal → String
  | none => "None"
  | bool b => if b then "True" else "False"
  | int i => toString i
  | float m e => floatRepr m e
  | nonFinite f => f.repr
  | str s => "'" ++ s ++ "'"
  | surrogates codePoints => "'" ++ replaced codePoints ++ "'"
  | list xs => "[" ++ ", ".intercalate (reprList xs) ++ "]"
  | dict items => "\x7b" ++ ", ".intercalate (reprItems items) ++ "\x7d"
  | object o => o.text

def reprList : List PyVal → List String
  | [] => []
  | x :: xs => repr x :: reprList xs

def reprItems : List (String × PyVal) → List String
  | [] => []
  | (k, x) :: items => ("'" ++ k ++ "': " ++ repr x) :: reprItems items

end

/-- `str(v)`: a string prints itself, everything else its `repr`. -/
def toStr : PyVal → String
  | str s => s
  | surrogates codePoints => replaced codePoints
  | v => repr v

/-- Whether UTF-8 can encode `str(v)`. -/
def encodable : PyVal → Bool
  | surrogates _ => false
  | _ => true

mutual

/-- Whether `pickle.dumps(v)` succeeds. -/
def picklable : PyVal → Bool
  | list xs => picklableList xs
  | dict items => picklableItems items
  | object o => o.picklable
  | _ => true

def picklableList : List PyVal → Bool
  | [] => true
  | x :: xs => picklable x && picklableList xs

def picklableItems : List (String × PyVal) → Bool
  | [] => true
  | (_, x) :: items => picklable x && picklableItems items

end

end PyVal

end Walkoff.Model
