import Walkoff.Model.Accumulator

/-!
# Arguments

An argument holds a value, or a reference to an accumulator entry with a selection of
fields to follow from it. `getValue` is what every action, device lookup, condition and
transform resolves its arguments with.
-/

set_option autoImplicit false

namespace Walkoff.Model

/-- The code points of the zeros of all scripts with decimal digits; the other nine follow. -/
def decimalZeros : List ℕ :=
  [0x30, 0x660, 0x6F0, 0x7C0, 0x966, 0x9E6, 0xA66, 0xAE6, 0xB66, 0xBE6, 0xC66, 0xCE6, 0xD66,
   0xDE6, 0xE50, 0xED0, 0xF20, 0x1040, 0x1090, 0x17E0, 0x1810, 0x1946, 0x19D0, 0x1A80, 0x1A90,
   0x1B50, 0x1BB0, 0x1C40, 0x1C50, 0xA620, 0xA8D0, 0xA900, 0xA9D0, 0xA9F0, 0xAA50, 0xABF0,
   0xFF10, 0x104A0, 0x10D30, 0x11066, 0x110F0, 0x11136, 0x111D0, 0x112F0, 0x11450, 0x114D0,
   0x11650, 0x116C0, 0x11730, 0x118E0, 0x11950, 0x11C50, 0x11D50, 0x11DA0, 0x16A60, 0x16AC0,
   0x16B50, 0x1D7CE, 0x1D7D8, 0x1D7E2, 0x1D7EC, 0x1D7F6, 0x1E140, 0x1E2F0, 0x1E950, 0x1FBF0]

/-- The code points that count as spaces around a number. -/
def spaces : List ℕ :=
  [0x9, 0xA, 0xB, 0xC, 0xD, 0x20, 0x85, 0xA0, 0x1680, 0x2000, 0x2001, 0x2002, 0x2003, 0x2004,
   0x2005, 0x2006, 0x2007, 0x2008, 0x2009, 0x200A, 0x2028, 0x2029, 0x202F, 0x205F, 0x3000]

/-- The value of a decimal digit. -/
def digitValue (c : Char) : Option ℕ :=
  (decimalZeros.find? fun first => first ≤ c.toNat ∧ c.toNat < first + 10).map (c.toNat - ·)

/-- The rest of a decimal number, in which single underscores may stand before digits. -/
def moreDigits (n : ℕ) : List Char → Option ℕ
  | [] => some n
  | '_' :: c :: cs => (digitValue c).bind fun d => moreDigits (10 * n + d) cs
  | c :: cs => (digitValue c).bind fun d => moreDigits (10 * n + d) cs

/-- A decimal number without a sign. -/
def decimalNumber : List Char → Option ℕ
  | [] => none
  | c :: cs => (digitValue c).bind fun d => moreDigits d cs

/-- `int(s)` of a text: spaces around it are dropped, and there may be a sign. -/
def parseInt (s : String) : Option ℤ :=
  let trimmed := (s.toList.dropWhile (spaces.contains ·.toNat)).reverse.dropWhile
    (spaces.contains ·.toNat)
  match trimmed.reverse with
  | '-' :: cs => (decimalNumber cs).map fun n => -(n : ℤ)
  | '+' :: cs => (decimalNumber cs).map Int.ofNat
  | cs => (decimalNumber cs).map Int.ofNat

/-- `int(v)`: the integer a value converts to. -/
def pyInt : PyVal → Except Exn ℤ
  | .int i => pure i
  | .bool b => pure (if b then 1 else 0)
  | .float m e => pure (m.tdiv (10 ^ e))
  | .str s =>
    match parseInt s with
    | some i => pure i
    | none => throw .valueError
  | .nonFinite .nan | .surrogates _ => throw .valueError
  | .nonFinite _ => throw overflowError
  | _ => throw .typeError

/-- An argument of an action, a condition or a transform. -/
structure Argument where
  name : String
  value : PyVal
  reference : Option Key
  /-- `None` or a list; a text after the trip through a protobuf message. -/
  selection : PyVal
  isReference : Bool
  errors : List String
  deriving Repr, DecidableEq

namespace Argument

/-- `self.reference` as a truth value: the empty text counts as no reference. -/
def referenceTruthy : Option Key → Bool
  | none => false
  | some (.uuid _) => true
  | some (.text s) => s != ""

/-- `Argument.__init__` followed by `validate`: a value wins over a reference, and an
argument with neither is marked in error. -/
def init (name : String) (value : PyVal) (reference : Option Key) (selection : PyVal) : Argument :=
  let neither := value.isNone && !referenceTruthy reference
  let both := !value.isNone && referenceTruthy reference
  { name, value, selection
    reference := if both then none else reference
    isReference := value.isNone
    errors := if neither then
      ["Input " ++ name ++ " must have either value or reference. Input has neither"] else [] }

/-- `str(self.reference)`. -/
def referenceText : Option Key → String
  | none => "None"
  | some key => key.str

/-- `_get_action_from_reference`. -/
def getActionFromReference (self : Argument) (accumulator : Accumulator) : Except Exn PyVal :=
  match self.reference.bind accumulator.getItem with
  | some output => pure output
  | none => throw (.invalidArgument
      ("Referenced action " ++ referenceText self.reference ++ " has not been executed") [])

/-- `_get_next_selection`: a member of an object, or an element of a list. Dictionary keys
are texts, so a selector of another hashable type is a missing key. -/
def getNextSelection (input selection : PyVal) : Except Exn PyVal :=
  match input with
  | .dict items =>
    match selection with
    | .str s => match items.lookup s with
      | some v => pure v
      | none => throw .keyError
    | .list _ => throw .typeError
    | .dict _ => throw .typeError
    | _ => throw .keyError
  | .list xs => do
    let i ← pyInt selection
    let index := if i < 0 then i + xs.length else i
    if index < 0 then throw .indexError
    else match xs[index.toNat]? with
      | some v => pure v
      | none => throw .indexError
  | _ => throw .valueError

/-- The items a `for` loop over the selection visits: a text is visited character by
character. -/
def selectionItems : PyVal → Except Exn (List PyVal)
  | .list xs => pure xs
  | .str s => pure (s.toList.map fun c => .str (String.ofList [c]))
  | .surrogates codePoints => pure (codePoints.map fun u =>
      if PyVal.isSurrogate u then .surrogates [u] else .str (String.ofList [Char.ofNat u]))
  | .dict items => pure (items.map fun item => .str item.1)
  | _ => throw .typeError

/-- `_select`: follow the selection from the stored result. -/
def select (self : Argument) (input : PyVal) : Except Exn PyVal :=
  match (selectionItems self.selection).bind fun items => items.foldlM getNextSelection input with
  | .error .keyError | .error .valueError | .error .indexError => throw (.invalidArgument
      ("Selector " ++ self.selection.toStr ++ " is invalid for reference " ++
        referenceText self.reference) [])
  | result => result

/-- `self.reference` as a value. -/
def referenceValue : Option Key → PyVal
  | none => .none
  | some (.text s) => .str s
  | some (.uuid u) => .object { text := u.str, dumpsRaises := .typeError, picklable := true }

/-- `get_value`: the value itself, or the referenced accumulator entry and its selection;
without a filled accumulator the reference itself. -/
def getValue (self : Argument) (accumulator : Accumulator) : Except Exn PyVal :=
  if !self.value.isNone then pure self.value
  else if accumulator.truthy then do
    let actionOutput ← self.getActionFromReference accumulator
    if !self.selection.truthy then pure actionOutput
    else self.select actionOutput
  else pure (referenceValue self.reference)

end Argument

end Walkoff.Model
