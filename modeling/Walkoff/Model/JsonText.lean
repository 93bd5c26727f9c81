import Walkoff.Library.OrderedDict
import Walkoff.Model.PyVal

/-!
# Reading JSON

`json.loads`: the text of a value, with white space around every token. A number with a
fraction or an exponent is kept as the decimal it denotes, unless it is beyond all floats, and a
lone surrogate is read as U+FFFD.
-/

set_option autoImplicit false

namespace Walkoff.Model.JsonText

open Walkoff.Library

/-- White space between tokens. -/
def skipSpace : List Char → List Char
  | [] => []
  | c :: cs => if c = ' ' ∨ c = '\t' ∨ c = '\n' ∨ c = '\r' then skipSpace cs else c :: cs

/-! ## Strings -/

/-- The character after a backslash, other than `u`. -/
def simpleEscape (c : Char) : Option ℕ :=
  if c = '"' ∨ c = '\\' ∨ c = '/' then some c.toNat
  else if c = 'b' then some 8
  else if c = 'f' then some 12
  else if c = 'n' then some 10
  else if c = 'r' then some 13
  else if c = 't' then some 9
  else none

/-- The code units of a string, up to its closing quote, and the text behind it. -/
def readUnits : List Char → Option (List ℕ × List Char)
  | [] => none
  | c :: cs =>
    if c = '"' then some ([], cs)
    else if c = '\\' then
      match cs with
      | [] => none
      | e :: cs =>
        if e = 'u' then
          match cs with
          | h₁ :: h₂ :: h₃ :: h₄ :: cs => do
            let unit ← UUID.hexNumber [h₁, h₂, h₃, h₄] 0
            let (units, rest) ← readUnits cs
            some (unit :: units, rest)
          | _ => none
        else do
          let unit ← simpleEscape e
          let (units, rest) ← readUnits cs
          some (unit :: units, rest)
    else if c.toNat < 32 then none
    else do
      let (units, rest) ← readUnits cs
      some (c.toNat :: units, rest)

/-- The first and the second half of a surrogate pair. -/
def isHigh (unit : ℕ) : Bool :=
  55296 ≤ unit && unit < 56320

def isLow (unit : ℕ) : Bool :=
  56320 ≤ unit && unit < 57344

/-- The character of a code unit of its own. -/
def unitChar (unit : ℕ) : Char :=
  if isHigh unit || isLow unit then Char.ofNat 65533 else Char.ofNat unit

/-- The characters of the code units. -/
def decodeUnits : List ℕ → List Char
  | [] => []
  | [unit] => [unitChar unit]
  | high :: low :: units =>
    if isHigh high && isLow low then
      Char.ofNat (65536 + (high - 55296) * 1024 + (low - 56320)) :: decodeUnits units
    else unitChar high :: decodeUnits (low :: units)

/-- A string behind its opening quote. -/
def readString (cs : List Char) : Option (String × List Char) := do
  let (units, rest) ← readUnits cs
  some (String.ofList (decodeUnits units), rest)

/-! ## Numbers -/

/-- The whole part of a number: no leading zeros. -/
def readWhole : List Char → Option (List Char × List Char)
  | '0' :: cs => some (['0'], cs)
  | cs =>
    let digits := cs.takeWhile Char.isDigit
    if digits.isEmpty then none else some (digits, cs.dropWhile Char.isDigit)

/-- The digits after a point, if there is a point with digits after it. -/
def readFraction : List Char → List Char × List Char
  | '.' :: cs =>
    let digits := cs.takeWhile Char.isDigit
    if digits.isEmpty then ([], '.' :: cs) else (digits, cs.dropWhile Char.isDigit)
  | cs => ([], cs)

/-- An exponent, if there is one. -/
def readExponent : List Char → Option ℤ × List Char
  | [] => (none, [])
  | c :: cs =>
    if c = 'e' ∨ c = 'E' then
      let (sign, ds) : ℤ × List Char := match cs with
        | '-' :: ds => (-1, ds)
        | '+' :: ds => (1, ds)
        | ds => (1, ds)
      let digits := ds.takeWhile Char.isDigit
      if digits.isEmpty then (none, c :: cs)
      else (some (sign * Nat.ofDigitChars 10 digits 0), ds.dropWhile Char.isDigit)
    else (none, c :: cs)

/-- A decimal without zeros at its end. -/
def decimal (m : ℤ) : ℕ → PyVal
  | 0 => .float m 0
  | e + 1 => if m % 10 = 0 then decimal (m / 10) e else .float m (e + 1)

/-- `2 ^ 1024 - 2 ^ 970`, from which on a number is rounded to an infinity. -/
def overflowBound : ℕ :=
  (2 ^ 54 - 1) * (2 ^ 194) ^ 5

/-- The decimal `m · 10⁻ᵉ` is not beyond all floats. -/
def inRange (m : ℤ) (e : ℕ) : Bool :=
  m.natAbs < overflowBound * 10 ^ e

/-- A float that has been read. -/
def floatOf (m : ℤ) (e : ℕ) : PyVal :=
  if inRange m e then decimal m e else .nonFinite (if m < 0 then .negInf else .inf)

/-- A number without its sign, which is given. -/
def readUnsigned (sign : ℤ) (cs : List Char) : Option (PyVal × List Char) := do
  let (whole, cs) ← readWhole cs
  let (fraction, cs) := readFraction cs
  let (exponent, rest) := readExponent cs
  if fraction.isEmpty ∧ exponent.isNone then
    some (.int (sign * Nat.ofDigitChars 10 whole 0), rest)
  else
    let m : ℤ := sign * Nat.ofDigitChars 10 (whole ++ fraction) 0
    let e : ℤ := fraction.length - exponent.getD 0
    some (floatOf (m * 10 ^ (-e).toNat) e.toNat, rest)

/-- A number. -/
def readNumber : List Char → Option (PyVal × List Char)
  | '-' :: 'I' :: 'n' :: 'f' :: 'i' :: 'n' :: 'i' :: 't' :: 'y' :: rest =>
    some (.nonFinite .negInf, rest)
  | '-' :: cs => readUnsigned (-1) cs
  | cs => readUnsigned 1 cs

/-! ## Values -/

/-- Behind an opening bracket: the closing one at once, or what is read otherwise. -/
def closedOr {α : Type} (close : Char) (empty : α) (more : List Char → Option (α × List Char))
    (cs : List Char) : Option (α × List Char) :=
  match skipSpace cs with
  | [] => none
  | c :: rest => if c = close then some (empty, rest) else more (c :: rest)

mutual

/-- A value, and the text behind it. -/
def readValue : ℕ → List Char → Option (PyVal × List Char)
  | 0, _ => none
  | fuel + 1, cs => match cs with
    | '"' :: cs => do
      let (s, rest) ← readString cs
      some (.str s, rest)
    | '[' :: cs => closedOr ']' (.list []) (fun cs => do
        let (xs, rest) ← readElements fuel cs
        some (.list xs, rest)) cs
    | '\x7b' :: cs => closedOr '\x7d' (.dict []) (fun cs => do
        let (items, rest) ← readItems fuel cs
        some (.dict (OrderedDict.update [] items), rest)) cs
    | 'n' :: 'u' :: 'l' :: 'l' :: rest => some (.none, rest)
    | 't' :: 'r' :: 'u' :: 'e' :: rest => some (.bool true, rest)
    | 'f' :: 'a' :: 'l' :: 's' :: 'e' :: rest => some (.bool false, rest)
    | 'N' :: 'a' :: 'N' :: rest => some (.nonFinite .nan, rest)
    | 'I' :: 'n' :: 'f' :: 'i' :: 'n' :: 'i' :: 't' :: 'y' :: rest =>
      some (.nonFinite .inf, rest)
    | cs => readNumber cs

/-- The elements of a list, up to its closing bracket. -/
def readElements : ℕ → List Char → Option (List PyVal × List Char)
  | 0, _ => none
  | fuel + 1, cs => do
    let (x, cs) ← readValue fuel cs
    match skipSpace cs with
    | ']' :: rest => some ([x], rest)
    | ',' :: cs => do
      let (xs, rest) ← readElements fuel (skipSpace cs)
      some (x :: xs, rest)
    | _ => none

/-- The items of an object, up to its closing brace. -/
def readItems : ℕ → List Char → Option (List (String × PyVal) × List Char)
  | 0, _ => none
  | fuel + 1, cs => match cs with
    | '"' :: cs => do
      let (k, cs) ← readString cs
      match skipSpace cs with
      | ':' :: cs => do
        let (x, cs) ← readValue fuel (skipSpace cs)
        match skipSpace cs with
        | '\x7d' :: rest => some ([(k, x)], rest)
        | ',' :: cs => do
          let (items, rest) ← readItems fuel (skipSpace cs)
          some ((k, x) :: items, rest)
        | _ => none
      | _ => none
    | _ => none

end

/-- `json.loads`: `none` is the `ValueError` of a text that is not JSON. Every call of a reader
is on a shorter text, so the length of the text is fuel enough. -/
def loads (s : String) : Option PyVal :=
  match readValue (s.toList.length + 1) (skipSpace s.toList) with
  | some (v, rest) => if (skipSpace rest).isEmpty then some v else none
  | none => none

/-! ## JSON values -/

/-- A decimal without zeros at its end. -/
def shortest (m : ℤ) : ℕ → Bool
  | 0 => true
  | _ + 1 => m % 10 != 0

mutual

/-- A value that is made of the JSON types: no object outside them, no lone surrogate, no key
twice, every float with its shortest decimal. -/
def isJson : PyVal → Bool
  | .float m e => shortest m e && inRange m e
  | .list xs => isJsonList xs
  | .dict items => (items.map Prod.fst).Nodup && isJsonItems items
  | .object _ | .surrogates _ => false
  | _ => true

def isJsonList : List PyVal → Bool
  | [] => true
  | x :: xs => isJson x && isJsonList xs

def isJsonItems : List (String × PyVal) → Bool
  | [] => true
  | (_, x) :: items => isJson x && isJsonItems items

end

end Walkoff.Model.JsonText
