import Mathlib.Algebra.Order.Floor.Semiring
import Mathlib.Data.Int.Log
import Mathlib.Data.List.DropRight
import Mathlib.Data.Rat.Floor

/-!
# JavaScript numbers and their texts

`Number(text)`, with the grammar of `StringNumericLiteral` and the rounding to doubles, and
`String(n)` for the numbers that are not negative and whole, which has as few significant digits
as tell the number apart. Zero has one sign only.
-/

set_option autoImplicit false

namespace Walkoff.Model

/-- A JavaScript number other than `NaN`. -/
inductive JsNumber where
  | infinity (negative : Bool)
  | finite (value : ℚ)
  deriving DecidableEq, Repr

namespace JsNumber

/-! ## Rounding -/

/-- The nearest integer, the even one of two. -/
def roundEven (q : ℚ) : ℤ :=
  let low := ⌊q⌋
  if q - low < 1 / 2 then low
  else if 1 / 2 < q - low then low + 1
  else if low % 2 = 0 then low else low + 1

/-- The distance of the doubles around a positive number. -/
def lastPlace (q : ℚ) : ℚ :=
  2 ^ max (Int.log 2 q - 52) (-1074)

/-- The double nearest to a number. -/
def ofRat (q : ℚ) : JsNumber :=
  if q = 0 then finite 0
  else
    let rounded := roundEven (|q| / lastPlace |q|) * lastPlace |q|
    if rounded < 2 ^ 1024 then finite (if q < 0 then -rounded else rounded)
    else infinity (q < 0)

/-- The opposite number. -/
def neg : JsNumber → JsNumber
  | infinity negative => infinity !negative
  | finite value => finite (-value)

/-! ## `Number(text)` -/

/-- The code points of white space and line ends. -/
def blanks : List ℕ :=
  [0x9, 0xA, 0xB, 0xC, 0xD, 0x20, 0xA0, 0x1680, 0x2000, 0x2001, 0x2002, 0x2003, 0x2004, 0x2005,
   0x2006, 0x2007, 0x2008, 0x2009, 0x200A, 0x2028, 0x2029, 0x202F, 0x205F, 0x3000, 0xFEFF]

/-- A character that `trim` takes off. -/
def isBlankChar (c : Char) : Bool :=
  blanks.contains c.toNat

/-- `text.trim()`. -/
def trim (cs : List Char) : List Char :=
  (cs.dropWhile isBlankChar).rdropWhile isBlankChar

/-- The value of a digit of a number system, if it is one. -/
def digitIn (radix : ℕ) (c : Char) : Option ℕ :=
  let value :=
    if '0' ≤ c ∧ c ≤ '9' then some (c.toNat - '0'.toNat)
    else if 'a' ≤ c ∧ c ≤ 'z' then some (c.toNat - 'a'.toNat + 10)
    else if 'A' ≤ c ∧ c ≤ 'Z' then some (c.toNat - 'A'.toNat + 10)
    else none
  value.filter (· < radix)

/-- The number that digits stand for, after those of `n`. -/
def readDigits (radix : ℕ) (n : ℕ) : List Char → Option ℕ
  | [] => some n
  | c :: cs => (digitIn radix c).bind fun d => readDigits radix (radix * n + d) cs

/-- A number of one digit or more. -/
def natural (radix : ℕ) (cs : List Char) : Option ℕ :=
  if cs.isEmpty then none else readDigits radix 0 cs

/-- `SignedInteger`, as it stands in an exponent. -/
def signedInteger : List Char → Option ℤ
  | '+' :: cs => (natural 10 cs).map Int.ofNat
  | '-' :: cs => (natural 10 cs).map fun n => -(n : ℤ)
  | cs => (natural 10 cs).map Int.ofNat

/-- `ExponentPart`, or nothing. -/
def exponentPart : List Char → Option ℤ
  | [] => some 0
  | c :: cs => if c = 'e' ∨ c = 'E' then signedInteger cs else none

/-- `StrUnsignedDecimalLiteral`. -/
def unsignedLiteral (cs : List Char) : Option JsNumber :=
  if cs = "Infinity".toList then some (infinity false)
  else
    let whole := cs.takeWhile fun c => (digitIn 10 c).isSome
    let rest := cs.dropWhile fun c => (digitIn 10 c).isSome
    let pointed := rest.head? = some '.'
    let fraction := if pointed then rest.tail.takeWhile fun c => (digitIn 10 c).isSome else []
    let rest := if pointed then rest.tail.dropWhile fun c => (digitIn 10 c).isSome else rest
    (natural 10 (whole ++ fraction)).bind fun digits =>
      (exponentPart rest).map fun exponent =>
        ofRat (digits * 10 ^ (exponent - (fraction.length : ℤ)))

/-- `Number(text)`; `none` is `NaN`. -/
def ofText (text : List Char) : Option JsNumber :=
  match trim text with
  | [] => some (finite 0)
  | '0' :: 'x' :: cs | '0' :: 'X' :: cs => (natural 16 cs).map fun n => ofRat n
  | '0' :: 'o' :: cs | '0' :: 'O' :: cs => (natural 8 cs).map fun n => ofRat n
  | '0' :: 'b' :: cs | '0' :: 'B' :: cs => (natural 2 cs).map fun n => ofRat n
  | '+' :: cs => unsignedLiteral cs
  | '-' :: cs => (unsignedLiteral cs).map neg
  | cs => unsignedLiteral cs

/-! ## `String(n)` -/

/-- Significant digits of a number of the given order: those nearest to it, if they still round
to it. -/
def significant (n order : ℕ) : Option ℕ :=
  let low := n / 10 ^ order
  let rounds (s : ℕ) : Bool := 0 < s ∧ ofRat (s * 10 ^ order : ℕ) = finite n
  let below := n - low * 10 ^ order
  let above := (low + 1) * 10 ^ order - n
  match rounds low, rounds (low + 1) with
  | true, true =>
    some (if below < above ∨ (below = above ∧ low % 2 = 0) then low else low + 1)
  | true, false => some low
  | false, true => some (low + 1)
  | false, false => none

/-- The fewest significant digits of a number up to an order, with their order. -/
def shortest (n : ℕ) : ℕ → ℕ × ℕ
  | 0 => (n, 0)
  | order + 1 =>
    match significant n (order + 1) with
    | some s => (s, order + 1)
    | none => shortest n order

/-- `String(n)` for a number that is not negative and whole. -/
def toText (n : ℕ) : List Char :=
  let found := shortest n (Nat.toDigits 10 n).length
  let digits := Nat.toDigits 10 found.1
  let exponent := 'e' :: '+' :: Nat.toDigits 10 (digits.length + found.2 - 1)
  if digits.length + found.2 ≤ 21 then digits ++ List.replicate found.2 '0'
  else if digits.length = 1 then digits ++ exponent
  else digits.take 1 ++ '.' :: digits.drop 1 ++ exponent

end JsNumber

end Walkoff.Model
