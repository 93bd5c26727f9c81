import Walkoff.Library.OrderedDict
import Walkoff.Model.PyVal

/-!
# Python equality

`==` of Python values: numbers are compared by their value, whatever their type, truth values
are numbers, and dictionaries are compared whatever the order of their items.
-/

set_option autoImplicit false

namespace Walkoff.Model

/-- A number as a decimal `m · 10⁻ᵉ`; a truth value counts as one. -/
def numberOf : PyVal → Option (ℤ × ℕ)
  | .bool b => some (if b then 1 else 0, 0)
  | .int i => some (i, 0)
  | .float m e => some (m, e)
  | _ => none

mutual

/-- `v == w`. -/
def pyEq : PyVal → PyVal → Bool
  | .none, .none => true
  | .str s, .str t => s == t
  | .surrogates us, .surrogates vs => us == vs
  | .nonFinite f, .nonFinite g => decide (f = g ∧ f ≠ .nan)
  | .list vs, .list ws => pyEqList vs ws
  | .dict items, .dict others => items.length == others.length && pyEqItems items others
  | .object o, .object p => decide (o = p)
  | v, w =>
    match numberOf v, numberOf w with
    | some (m, e), some (n, f) => m * 10 ^ f == n * 10 ^ e
    | _, _ => false

def pyEqList : List PyVal → List PyVal → Bool
  | [], [] => true
  | v :: vs, w :: ws => pyEq v w && pyEqList vs ws
  | _, _ => false

/-- The items of a dictionary in another one, whatever their order. -/
def pyEqItems : List (String × PyVal) → List (String × PyVal) → Bool
  | [], _ => true
  | (key, v) :: items, others =>
    (match Library.OrderedDict.get? key others with
      | some w => pyEq v w
      | none => false) && pyEqItems items others

end

end Walkoff.Model
