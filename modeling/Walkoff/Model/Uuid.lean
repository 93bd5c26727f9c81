import Mathlib.Data.BitVec
import Mathlib.Tactic.Ring

/-!
# UUIDs and their text

Workflows, actions, branches and executions are named by UUIDs. The database hands them
out as `UUID` objects, requests and queued messages carry their text, and
`UUID(str(u)) = u` is what lets the two be mixed: `UUID.parse_str`.
-/

set_option autoImplicit false

namespace Walkoff.Model

/-- A `uuid.UUID`: 128 bits, compared by value. -/
abbrev UUID := BitVec 128

namespace UUID

/-- The lower-case hexadecimal digit of a number below 16. -/
def hexDigit (n : ℕ) : Char :=
  if n < 10 then Char.ofNat (48 + n) else Char.ofNat (87 + n)

/-- The `width` low hexadecimal digits of `n`, most significant first. -/
def hexDigits : ℕ → ℕ → List Char
  | 0, _ => []
  | width + 1, n => hexDigits width (n / 16) ++ [hexDigit (n % 16)]

/-- `str(u)`: 32 digits grouped 8-4-4-4-12. -/
def str (u : UUID) : String :=
  let hex := hexDigits 32 u.toNat
  String.ofList (hex.take 8 ++ '-' :: (hex.drop 8).take 4 ++ '-' :: (hex.drop 12).take 4 ++
    '-' :: (hex.drop 16).take 4 ++ '-' :: hex.drop 20)

/-- The value of one hexadecimal digit, in either case. -/
def hexValue (c : Char) : Option ℕ :=
  if '0' ≤ c ∧ c ≤ '9' then some (c.toNat - 48)
  else if 'a' ≤ c ∧ c ≤ 'f' then some (c.toNat - 87)
  else if 'A' ≤ c ∧ c ≤ 'F' then some (c.toNat - 55)
  else none

/-- `int(hex, 16)` on a string of hexadecimal digits. -/
def hexNumber : List Char → ℕ → Option ℕ
  | [], acc => some acc
  | c :: cs, acc => (hexValue c).bind fun d => hexNumber cs (16 * acc + d)

/-- `UUID(hex)`: hyphens are dropped and exactly 32 digits must remain; anything else is
the `ValueError` 'badly formed hexadecimal UUID string', here `none`. -/
def parse (s : String) : Option UUID :=
  let digits := s.toList.filter (· != '-')
  if digits.length = 32 then (hexNumber digits 0).map (BitVec.ofNat 128) else none

/-- A number is written with as many digits as asked for. -/
theorem hexDigits_length (width n : ℕ) : (hexDigits width n).length = width := by
  induction width generalizing n with
  | zero => rfl
  | succ width ih => simp [hexDigits, ih]

/-- A written digit has its value. -/
theorem hexValue_hexDigit : ∀ n < 16, hexValue (hexDigit n) = some n := by
  decide

/-- A digit is no hyphen. -/
theorem hexDigit_ne_hyphen : ∀ n < 16, hexDigit n ≠ '-' := by
  decide

/-- Digits have no hyphen. -/
theorem hexDigits_ne_hyphen (width n : ℕ) : ∀ c ∈ hexDigits width n, c ≠ '-' := by
  induction width generalizing n with
  | zero => simp [hexDigits]
  | succ width ih =>
    intro c hc
    rcases List.mem_append.mp hc with h | h
    · exact ih _ c h
    · rw [List.mem_singleton.mp h]
      exact hexDigit_ne_hyphen _ (Nat.mod_lt _ (by norm_num))

/-- Digits are read part by part. -/
theorem hexNumber_append (l r : List Char) (acc : ℕ) :
    hexNumber (l ++ r) acc = (hexNumber l acc).bind (hexNumber r) := by
  induction l generalizing acc with
  | nil => rfl
  | cons c l ih =>
    simp only [List.cons_append, hexNumber]
    cases hexValue c with
    | none => rfl
    | some d => simpa using ih _

/-- Reading back the fixed-width digits of `n` gives `n` cut to that width. -/
theorem hexNumber_hexDigits (width n acc : ℕ) :
    hexNumber (hexDigits width n) acc = some (acc * 16 ^ width + n % 16 ^ width) := by
  induction width generalizing n with
  | zero => simp [hexDigits, hexNumber, Nat.mod_one]
  | succ width ih =>
    have hdigit := hexValue_hexDigit (n % 16) (Nat.mod_lt n (by norm_num))
    have hsplit : n % 16 ^ (width + 1) = 16 * (n / 16 % 16 ^ width) + n % 16 := by
      rw [pow_succ', Nat.mod_mul]
      ring
    rw [hexDigits, hexNumber_append, ih, Option.bind_some, hexNumber, hdigit, Option.bind_some,
      hexNumber, hsplit, pow_succ]
    congr 1
    ring

/-- Dropping the hyphens of the text leaves the 32 digits. -/
theorem filter_str (u : UUID) :
    u.str.toList.filter (· != '-') = hexDigits 32 u.toNat := by
  have hne := hexDigits_ne_hyphen 32 u.toNat
  unfold str
  generalize hexDigits 32 u.toNat = hex at hne
  have hkeep : ∀ l : List Char, l ⊆ hex → l.filter (· != '-') = l := fun l hl =>
    List.filter_eq_self.mpr fun c hc => by simpa using hne c (hl hc)
  have hdrop : ∀ k, hex.drop k ⊆ hex := fun k => List.drop_subset k hex
  have htake : ∀ j k, (hex.drop k).take j ⊆ hex := fun j k =>
    List.Subset.trans (List.take_subset j _) (hdrop k)
  have hyphen : ∀ l : List Char, ('-' :: l).filter (· != '-') = l.filter (· != '-') := fun l =>
    List.filter_cons_of_neg (by simp)
  simp only [String.toList_ofList, List.filter_append, hyphen, hkeep _ (htake _ _),
    hkeep _ (hdrop _), hkeep _ (List.take_subset 8 hex)]
  have hgroup : ∀ j k, (hex.drop k).take j ++ hex.drop (k + j) = hex.drop k := fun j k => by
    rw [← List.drop_drop, List.take_append_drop]
  simp only [List.append_assoc]
  rw [hgroup 4 16, hgroup 4 12, hgroup 4 8, List.take_append_drop]

/-- **The text of a UUID names it**: `UUID(str(u))` is `u`. -/
theorem parse_str (u : UUID) : parse u.str = some u := by
  have hlt : u.toNat < 16 ^ 32 := by simpa using u.isLt
  unfold parse
  rw [filter_str]
  simp only [hexDigits_length, if_true, hexNumber_hexDigits, Nat.mod_eq_of_lt hlt, zero_mul,
    zero_add, Option.map_some, BitVec.ofNat_toNat, BitVec.setWidth_eq]

/-- No id is written as the empty text. -/
theorem str_ne_empty (u : UUID) : u.str ≠ "" := by
  intro h
  have hparse : parse "" = some u := h ▸ parse_str u
  cases hparse

/-- Ids are written differently. -/
theorem str_injective : Function.Injective str := fun u v h => by
  have : parse u.str = parse v.str := congrArg parse h
  simpa [parse_str] using this

end UUID

end Walkoff.Model
