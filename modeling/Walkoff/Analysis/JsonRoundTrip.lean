import Walkoff.Library.Effect
import Walkoff.Model.JsonText

/-!
# What `json.dumps` writes, `json.loads` reads

The reader gives back every JSON value from its text, and it never reads a text as that text
itself: a string literal is longer than its string.
-/

set_option autoImplicit false

namespace Walkoff.Analysis

open Walkoff.Model
open Walkoff.Model.JsonText
open Walkoff.Library (OrderedDict)

/-! ## Strings -/

/-- A character is no surrogate and within Unicode. -/
theorem toNat_valid (c : Char) : c.toNat < 55296 ∨ 57343 < c.toNat ∧ c.toNat < 1114112 :=
  c.valid

/-- A character is no half of a surrogate pair. -/
theorem not_surrogate (c : Char) : isHigh c.toNat = false ∧ isLow c.toNat = false := by
  have hvalid := toNat_valid c
  simp only [isHigh, isLow, Bool.and_eq_false_iff, decide_eq_false_iff_not]
  omega

/-- The code units of a character. -/
def charUnits (c : Char) : List ℕ :=
  if c.toNat < 65536 then [c.toNat]
  else [55296 + (c.toNat - 65536) / 1024, 56320 + (c.toNat - 65536) % 1024]

/-- What reading one more unit does. -/
def addUnits (units : List ℕ) (read : List ℕ × List Char) : List ℕ × List Char :=
  (units ++ read.1, read.2)

/-- Four hexadecimal digits give the number back. -/
theorem hexNumber_digits {n : ℕ} (h : n < 65536) :
    ∃ a b c d, UUID.hexDigits 4 n = [a, b, c, d] ∧ UUID.hexNumber [a, b, c, d] 0 = some n := by
  refine ⟨_, _, _, _, rfl, ?_⟩
  have hread := UUID.hexNumber_hexDigits 4 n 0
  rw [Nat.zero_mul, Nat.zero_add, Nat.mod_eq_of_lt (by simpa using h)] at hread
  exact hread

/-- An escaped unit is read back. -/
theorem readUnits_unicodeEscape {n : ℕ} (h : n < 65536) (cs : List Char) :
    readUnits (PyVal.unicodeEscape n ++ cs) = (readUnits cs).map (addUnits [n]) := by
  obtain ⟨a, b, c, d, hdigits, hnumber⟩ := hexNumber_digits h
  rw [PyVal.unicodeEscape, hdigits]
  show readUnits ('\\' :: 'u' :: a :: b :: c :: d :: cs) = _
  rw [readUnits.eq_def]
  dsimp only
  rw [if_neg (by decide), if_pos rfl, if_pos rfl, hnumber]
  cases readUnits cs <;> rfl

/-- A character that is written as it is. -/
theorem readUnits_plain {c : Char} (hquote : c ≠ '"') (hslash : c ≠ '\\') (h : 32 ≤ c.toNat)
    (cs : List Char) : readUnits (c :: cs) = (readUnits cs).map (addUnits [c.toNat]) := by
  rw [readUnits.eq_def]
  dsimp only
  rw [if_neg hquote, if_neg hslash, if_neg (by omega)]
  cases readUnits cs <;> rfl

/-- A character that is written with a backslash and a letter. -/
theorem readUnits_simpleEscape {e : Char} {n : ℕ} (he : e ≠ 'u') (h : simpleEscape e = some n)
    (cs : List Char) :
    readUnits ('\\' :: e :: cs) = (readUnits cs).map (addUnits [n]) := by
  rw [readUnits.eq_def]
  dsimp only
  rw [if_neg (by decide), if_pos rfl, if_neg he, h]
  cases readUnits cs <;> rfl

/-- An escaped character is read as its units. -/
theorem readUnits_escapeChar (c : Char) (cs : List Char) :
    readUnits (PyVal.escapeChar c ++ cs) = (readUnits cs).map (addUnits (charUnits c)) := by
  unfold PyVal.escapeChar
  by_cases hquote : c = '"'
  · subst hquote
    exact @readUnits_simpleEscape '"' 34 (by decide) (by decide) cs
  rw [if_neg hquote]
  by_cases hslash : c = '\\'
  · subst hslash
    exact @readUnits_simpleEscape '\\' 92 (by decide) (by decide) cs
  rw [if_neg hslash]
  by_cases hn : c = '\n'
  · subst hn
    exact @readUnits_simpleEscape 'n' 10 (by decide) (by decide) cs
  rw [if_neg hn]
  by_cases hr : c = '\r'
  · subst hr
    exact @readUnits_simpleEscape 'r' 13 (by decide) (by decide) cs
  rw [if_neg hr]
  by_cases ht : c = '\t'
  · subst ht
    exact @readUnits_simpleEscape 't' 9 (by decide) (by decide) cs
  rw [if_neg ht]
  by_cases hb : c = '\x08'
  · subst hb
    exact @readUnits_simpleEscape 'b' 8 (by decide) (by decide) cs
  rw [if_neg hb]
  by_cases hf : c = '\x0c'
  · subst hf
    exact @readUnits_simpleEscape 'f' 12 (by decide) (by decide) cs
  rw [if_neg hf]
  unfold charUnits
  by_cases hascii : ' ' ≤ c ∧ c ≤ '~'
  · have hle : 32 ≤ c.toNat := hascii.1
    have hge : c.toNat ≤ 126 := hascii.2
    rw [if_pos hascii, if_pos (by omega)]
    exact readUnits_plain hquote hslash hle cs
  rw [if_neg hascii]
  by_cases hbmp : c.toNat < 65536
  · rw [if_pos hbmp, if_pos hbmp]
    exact readUnits_unicodeEscape hbmp cs
  · have hvalid := toNat_valid c
    rw [if_neg hbmp, if_neg hbmp, List.append_assoc, readUnits_unicodeEscape (by omega),
      readUnits_unicodeEscape (by omega)]
    cases readUnits cs <;> rfl

/-- The units of a character decode to it. -/
theorem decodeUnits_charUnits (c : Char) (units : List ℕ) :
    decodeUnits (charUnits c ++ units) = c :: decodeUnits units := by
  unfold charUnits
  by_cases hbmp : c.toNat < 65536
  · rw [if_pos hbmp]
    obtain ⟨hhigh, hlow⟩ := not_surrogate c
    have hchar : unitChar c.toNat = c := by
      rw [unitChar, hhigh, hlow]
      exact Char.ofNat_toNat c
    cases units with
    | nil =>
      show [unitChar c.toNat] = [c]
      rw [hchar]
    | cons unit units =>
      show decodeUnits (c.toNat :: unit :: units) = _
      rw [decodeUnits, hhigh, hchar]
      rfl
  · rw [if_neg hbmp]
    have hvalid := toNat_valid c
    have hhigh : isHigh (55296 + (c.toNat - 65536) / 1024) = true := by
      simp only [isHigh, Bool.and_eq_true, decide_eq_true_eq]
      omega
    have hlow : isLow (56320 + (c.toNat - 65536) % 1024) = true := by
      simp only [isLow, Bool.and_eq_true, decide_eq_true_eq]
      omega
    show decodeUnits (_ :: _ :: units) = _
    rw [decodeUnits, hhigh, hlow, Bool.and_self, if_pos rfl]
    have hsum : 65536 + (55296 + (c.toNat - 65536) / 1024 - 55296) * 1024 +
        (56320 + (c.toNat - 65536) % 1024 - 56320) = c.toNat := by omega
    rw [hsum, Char.ofNat_toNat]

/-- A quoted text is read as the units of its characters. -/
theorem readUnits_string (cs rest : List Char) :
    readUnits (cs.flatMap PyVal.escapeChar ++ '"' :: rest) = some (cs.flatMap charUnits, rest) := by
  induction cs with
  | nil =>
    show readUnits ('"' :: rest) = some ([], rest)
    rw [readUnits.eq_def]
    dsimp only
    rw [if_pos rfl]
  | cons c cs ih =>
    rw [List.flatMap_cons, List.append_assoc, readUnits_escapeChar, ih, List.flatMap_cons]
    rfl

/-- The units of a text decode to it. -/
theorem decodeUnits_string (cs : List Char) : decodeUnits (cs.flatMap charUnits) = cs := by
  induction cs with
  | nil => rfl
  | cons c cs ih => rw [List.flatMap_cons, decodeUnits_charUnits, ih]

/-- **A string is read back from its literal.** -/
theorem readString_quote (s : String) (rest : List Char) :
    readString (s.toList.flatMap PyVal.escapeChar ++ '"' :: rest) = some (s, rest) := by
  rw [readString, readUnits_string]
  show some (String.ofList (decodeUnits (s.toList.flatMap charUnits)), rest) = _
  rw [decodeUnits_string, String.ofList_toList]

/-! ## Numbers -/

/-- The text behind a number does not go on with it. -/
def NumberEnd (rest : List Char) : Prop :=
  ∀ c ∈ rest.head?, c.isDigit = false ∧ c ≠ '.' ∧ c ≠ 'e' ∧ c ≠ 'E'

/-- The digits of a whole part: no leading zeros. -/
def WholeDigits (ds : List Char) : Prop :=
  (∀ c ∈ ds, c.isDigit = true) ∧ (ds = ['0'] ∨ ∃ d ds', ds = d :: ds' ∧ d ≠ '0')

section Numbers

variable {ds rest : List Char}

/-- The digits are taken up to the first other character. -/
theorem span_digits (hds : ∀ c ∈ ds, c.isDigit = true)
    (hrest : ∀ c ∈ rest.head?, c.isDigit = false) :
    (ds ++ rest).takeWhile Char.isDigit = ds ∧ (ds ++ rest).dropWhile Char.isDigit = rest := by
  rw [List.takeWhile_append_of_pos hds, List.dropWhile_append_of_pos hds]
  cases rest with
  | nil => simp
  | cons c rest =>
    have hc := hrest c rfl
    simp [hc]

/-- The whole part is read up to the first character that is no digit. -/
theorem readWhole_digits (h : WholeDigits ds) (hrest : ∀ c ∈ rest.head?, c.isDigit = false) :
    readWhole (ds ++ rest) = some (ds, rest) := by
  obtain ⟨hds, rfl | ⟨d, ds', rfl, hd⟩⟩ := h
  · rfl
  · obtain ⟨htake, hdrop⟩ := span_digits hds hrest
    rw [readWhole.eq_def]
    split
    · rename_i heq
      exact absurd (List.cons.inj heq).1 hd
    · rw [htake, hdrop]
      rfl

/-- Where the number ends there is no fraction. -/
theorem readFraction_end (h : NumberEnd rest) : readFraction rest = ([], rest) := by
  rw [readFraction.eq_def]
  split
  · exact absurd rfl (h '.' rfl).2.1
  · rfl

/-- Where the number ends there is no exponent. -/
theorem readExponent_end (h : NumberEnd rest) : readExponent rest = (none, rest) := by
  cases rest with
  | nil => rfl
  | cons c rest =>
    obtain ⟨-, -, he, hE⟩ := h c rfl
    rw [readExponent.eq_def]
    dsimp only
    rw [if_neg (by simp [he, hE])]

/-- A fraction is read up to the end of the number. -/
theorem readFraction_digits (hds : ∀ c ∈ ds, c.isDigit = true) (hne : ds ≠ [])
    (h : NumberEnd rest) : readFraction ('.' :: (ds ++ rest)) = (ds, rest) := by
  obtain ⟨htake, hdrop⟩ := span_digits hds fun c hc => (h c hc).1
  rw [readFraction, htake, hdrop]
  simp [hne]

/-- The digits of a number have no leading zeros. -/
theorem toDigits_head {n : ℕ} (hn : n ≠ 0) :
    ∃ d ds, Nat.toDigits 10 n = d :: ds ∧ d ≠ '0' := by
  induction n using Nat.strong_induction_on with
  | _ n ih =>
    by_cases hlt : n < 10
    · rw [Nat.toDigits_of_lt_base hlt]
      refine ⟨_, _, rfl, ?_⟩
      rw [ne_eq, Nat.digitChar_eq_zero]
      exact hn
    · rw [Nat.toDigits_of_base_le (by decide) (by omega)]
      obtain ⟨d, ds, hds, hd⟩ := ih (n / 10) (by omega) (by omega)
      rw [hds]
      exact ⟨d, _, rfl, hd⟩

/-- A number is written with digits. -/
theorem isDigit_toDigits (n : ℕ) : ∀ c ∈ Nat.toDigits 10 n, c.isDigit = true :=
  fun _ hc => Nat.isDigit_of_mem_toDigits (by decide) (by decide) hc

/-- What a number is written with is a whole part. -/
theorem wholeDigits_toDigits (n : ℕ) : WholeDigits (Nat.toDigits 10 n) := by
  refine ⟨isDigit_toDigits n, ?_⟩
  by_cases hn : n = 0
  · subst hn
    exact .inl (Nat.toDigits_zero 10)
  · exact .inr (toDigits_head hn)

/-- Written digits are read as the integer. -/
theorem readUnsigned_int (sign : ℤ) (n : ℕ) (h : NumberEnd rest) :
    readUnsigned sign (Nat.toDigits 10 n ++ rest) = some (.int (sign * n), rest) := by
  unfold readUnsigned
  rw [readWhole_digits (wholeDigits_toDigits n) fun c hc => (h c hc).1]
  simp only [Option.bind_eq_bind, Option.bind_some, readFraction_end h, readExponent_end h]
  simp [Nat.ofDigitChars_ten_toDigits]

/-- A zero at the end makes no difference. -/
theorem inRange_mul_ten (m : ℤ) (e : ℕ) : inRange (m * 10) (e + 1) = inRange m e := by
  unfold inRange
  rw [Int.natAbs_mul, pow_succ, ← mul_assoc]
  exact decide_eq_decide.mpr (Nat.mul_lt_mul_right (by decide))

/-- A decimal within the range of a double is kept. -/
theorem floatOf_of_inRange {m : ℤ} {e : ℕ} (h : inRange m e = true) : floatOf m e = decimal m e :=
  if_pos h

/-- A whole part and a fraction are read as the decimal. -/
theorem readUnsigned_float (sign : ℤ) {whole fraction : List Char} (hwhole : WholeDigits whole)
    (hfraction : ∀ c ∈ fraction, c.isDigit = true) (hne : fraction ≠ []) (h : NumberEnd rest) :
    readUnsigned sign (whole ++ '.' :: (fraction ++ rest)) =
      some (floatOf (sign * Nat.ofDigitChars 10 (whole ++ fraction) 0) fraction.length, rest) := by
  have hpoint : ∀ c ∈ ('.' :: (fraction ++ rest)).head?, c.isDigit = false := by
    rintro c hc
    cases hc
    decide
  unfold readUnsigned
  rw [readWhole_digits hwhole hpoint]
  simp only [Option.bind_eq_bind, Option.bind_some, readFraction_digits hfraction hne h,
    readExponent_end h]
  simp [hne]

/-- A number without a sign is read with the positive one. -/
theorem readNumber_unsigned {cs : List Char} (h : cs.head? ≠ some '-') :
    readNumber cs = readUnsigned 1 cs := by
  rw [readNumber.eq_def]
  split
  · exact absurd rfl h
  · exact absurd rfl h
  · rfl

/-- A number with a minus is read with the negative one. -/
theorem readNumber_signed {cs : List Char} (h : cs.head? ≠ some 'I') :
    readNumber ('-' :: cs) = readUnsigned (-1) cs := by
  rw [readNumber.eq_def]
  split
  · rename_i heq
    rw [(List.cons.inj heq).2] at h
    exact absurd rfl h
  · rename_i heq
    rw [(List.cons.inj heq).2]
  · rename_i hno
    exact absurd rfl (hno cs)

/-- A digit at the head is neither a sign nor a letter. -/
theorem head?_ne_of_digits {cs : List Char} {c : Char} (hds : ∀ c ∈ ds, c.isDigit = true)
    (hne : ds ≠ []) (hc : c.isDigit = false) : (ds ++ cs).head? ≠ some c := by
  obtain ⟨d, ds', rfl⟩ := List.exists_cons_of_ne_nil hne
  intro hhead
  have hd := hds d List.mem_cons_self
  rw [Option.some.inj hhead, hc] at hd
  cases hd

/-- **An integer is read back from its text.** -/
theorem readNumber_int (i : ℤ) (h : NumberEnd rest) :
    readNumber ((toString i).toList ++ rest) = some (.int i, rest) := by
  have hhead : ∀ (n : ℕ) (c : Char), c.isDigit = false →
      (Nat.toDigits 10 n ++ rest).head? ≠ some c := fun n c hc =>
    head?_ne_of_digits (isDigit_toDigits n) Nat.toDigits_ne_nil hc
  cases i with
  | ofNat n =>
    have htext : (toString (Int.ofNat n)).toList = Nat.toDigits 10 n := Nat.toList_repr
    rw [htext, readNumber_unsigned (hhead n '-' (by decide)), readUnsigned_int 1 n h, one_mul]
    rfl
  | negSucc n =>
    have htext : (toString (Int.negSucc n)).toList = '-' :: Nat.toDigits 10 n.succ := by
      show ("-" ++ n.succ.repr).toList = _
      rw [String.toList_append, Nat.toList_repr]
      rfl
    rw [htext, List.cons_append, readNumber_signed (hhead n.succ 'I' (by decide)),
      readUnsigned_int (-1) n.succ h, neg_one_mul]
    rfl

/-- A shortest decimal is itself. -/
theorem decimal_of_shortest {m : ℤ} {e : ℕ} (h : shortest m e = true) :
    decimal m e = .float m e := by
  cases e with
  | zero => rfl
  | succ e =>
    have hmod : m % 10 ≠ 0 := by simpa [shortest] using h
    rw [decimal, if_neg hmod]

/-- The digits of a decimal, filled up to the left of the point. -/
def paddedDigits (n e : ℕ) : List Char :=
  List.replicate (e + 1 - (Nat.toDigits 10 n).length) '0' ++ Nat.toDigits 10 n

/-- Padded digits are digits. -/
theorem isDigit_paddedDigits (n e : ℕ) : ∀ c ∈ paddedDigits n e, c.isDigit = true := by
  intro c hc
  rcases List.mem_append.mp hc with hc | hc
  · rw [(List.mem_replicate.mp hc).2]
    decide
  · exact isDigit_toDigits n c hc

/-- Padding does not change the number. -/
theorem ofDigitChars_paddedDigits (n e : ℕ) : Nat.ofDigitChars 10 (paddedDigits n e) 0 = n := by
  rw [paddedDigits, Nat.ofDigitChars_append, Nat.ofDigitChars_replicate_zero, Nat.mul_zero,
    Nat.ofDigitChars_ten_toDigits]

/-- Padded digits leave one in front of the point. -/
theorem length_paddedDigits (n e : ℕ) : e + 1 ≤ (paddedDigits n e).length := by
  rw [paddedDigits, List.length_append, List.length_replicate]
  omega

/-- The part before the point. -/
theorem wholeDigits_take (n e : ℕ) :
    WholeDigits ((paddedDigits n e).take ((paddedDigits n e).length - e)) := by
  refine ⟨fun c hc => isDigit_paddedDigits n e c (List.mem_of_mem_take hc), ?_⟩
  have hpos : 0 < (Nat.toDigits 10 n).length := Nat.length_toDigits_pos
  by_cases hlen : (Nat.toDigits 10 n).length ≤ e
  · left
    obtain ⟨k, hk⟩ : ∃ k, e + 1 - (Nat.toDigits 10 n).length = k + 1 :=
      ⟨e - (Nat.toDigits 10 n).length, by omega⟩
    have hone : (paddedDigits n e).length - e = 1 := by
      rw [paddedDigits, List.length_append, List.length_replicate]
      omega
    rw [hone, paddedDigits, hk, List.replicate_succ]
    rfl
  · have hzero : e + 1 - (Nat.toDigits 10 n).length = 0 := by omega
    have hpadded : paddedDigits n e = Nat.toDigits 10 n := by
      rw [paddedDigits, hzero]
      rfl
    rw [hpadded]
    by_cases hn : n = 0
    · left
      subst hn
      rw [Nat.toDigits_zero] at hlen ⊢
      have he : e = 0 := by simpa using hlen
      rw [he]
      rfl
    · right
      obtain ⟨d, ds, hds, hd⟩ := toDigits_head hn
      rw [hds] at hlen ⊢
      obtain ⟨k, hk⟩ : ∃ k, (d :: ds).length - e = k + 1 :=
        ⟨(d :: ds).length - e - 1, by omega⟩
      rw [hk, List.take_succ_cons]
      exact ⟨d, _, rfl, hd⟩

/-- The characters of a written float. -/
theorem toList_floatRepr (m : ℤ) (e : ℕ) :
    (PyVal.floatRepr m e).toList =
      (if m < 0 then ['-'] else []) ++
        ((paddedDigits m.natAbs e).take ((paddedDigits m.natAbs e).length - e) ++ '.' ::
          (if e = 0 then ['0']
            else (paddedDigits m.natAbs e).drop ((paddedDigits m.natAbs e).length - e))) := by
  have hdigits : (toString m.natAbs).toList = Nat.toDigits 10 m.natAbs := Nat.toList_repr
  have hlen := length_paddedDigits m.natAbs e
  have hempty : ((paddedDigits m.natAbs e).drop ((paddedDigits m.natAbs e).length - e)).isEmpty =
      true ↔ e = 0 := by
    rw [List.isEmpty_iff, List.drop_eq_nil_iff]
    omega
  unfold PyVal.floatRepr
  rw [hdigits]
  show (String.ofList ((if m < 0 then ['-'] else []) ++
    (paddedDigits m.natAbs e).take ((paddedDigits m.natAbs e).length - e) ++ '.' ::
      (if ((paddedDigits m.natAbs e).drop ((paddedDigits m.natAbs e).length - e)).isEmpty
        then ['0'] else
          (paddedDigits m.natAbs e).drop ((paddedDigits m.natAbs e).length - e)))).toList = _
  rw [String.toList_ofList, List.append_assoc]
  by_cases he : e = 0
  · rw [if_pos (hempty.mpr he), if_pos he]
  · rw [if_neg (fun h => he (hempty.mp h)), if_neg he]

/-- The unsigned text of a decimal is read with the sign it is given. -/
theorem readUnsigned_decimal (sign : ℤ) (n e : ℕ) (hshort : shortest (sign * n) e = true)
    (hrange : inRange (sign * n) e = true) (h : NumberEnd rest) :
    readUnsigned sign ((paddedDigits n e).take ((paddedDigits n e).length - e) ++ '.' ::
        ((if e = 0 then ['0']
          else (paddedDigits n e).drop ((paddedDigits n e).length - e)) ++ rest)) =
      some (.float (sign * n) e, rest) := by
  have hlen := length_paddedDigits n e
  by_cases he : e = 0
  · subst he
    have hzero : ∀ c ∈ ['0'], c.isDigit = true := by
      intro c hc
      rw [List.mem_singleton.mp hc]
      rfl
    rw [if_pos rfl, readUnsigned_float sign (wholeDigits_take n 0) hzero
      (List.cons_ne_nil _ _) h]
    have htake : (paddedDigits n 0).take ((paddedDigits n 0).length - 0) = paddedDigits n 0 := by
      rw [Nat.sub_zero, List.take_length]
    have hvalue : Nat.ofDigitChars 10 (paddedDigits n 0 ++ ['0']) 0 = 10 * n := by
      rw [Nat.ofDigitChars_append, ofDigitChars_paddedDigits]
      rfl
    rw [htake, hvalue]
    have hmod : sign * ((10 * n : ℕ) : ℤ) % 10 = 0 := by
      push_cast
      rw [mul_left_comm]
      exact Int.mul_emod_right 10 _
    have hdiv : sign * ((10 * n : ℕ) : ℤ) / 10 = sign * n := by
      push_cast
      rw [mul_left_comm]
      exact Int.mul_ediv_cancel_left _ (by decide)
    have hten : sign * ((10 * n : ℕ) : ℤ) = sign * n * 10 := by
      push_cast
      ring
    have htenth : inRange (sign * ((10 * n : ℕ) : ℤ)) (0 + 1) = true := by
      rw [hten, inRange_mul_ten]
      exact hrange
    show some (floatOf _ (0 + 1), rest) = _
    rw [floatOf_of_inRange htenth, decimal, if_pos hmod, hdiv, decimal]
  · have hdrop : (paddedDigits n e).drop ((paddedDigits n e).length - e) ≠ [] := by
      rw [ne_eq, List.drop_eq_nil_iff]
      omega
    have hdigits : ∀ c ∈ (paddedDigits n e).drop ((paddedDigits n e).length - e),
        c.isDigit = true := fun c hc => isDigit_paddedDigits n e c (List.mem_of_mem_drop hc)
    rw [if_neg he, readUnsigned_float sign (wholeDigits_take n e) hdigits hdrop h,
      List.take_append_drop, ofDigitChars_paddedDigits, List.length_drop]
    have hlength : (paddedDigits n e).length - ((paddedDigits n e).length - e) = e := by omega
    rw [hlength, floatOf_of_inRange hrange, decimal_of_shortest hshort]

/-- **A decimal is read back from its text.** -/
theorem readNumber_float {m : ℤ} {e : ℕ} (hshort : shortest m e = true)
    (hrange : inRange m e = true) (h : NumberEnd rest) :
    readNumber ((PyVal.floatRepr m e).toList ++ rest) = some (.float m e, rest) := by
  have hwhole := wholeDigits_take m.natAbs e
  have hne : (paddedDigits m.natAbs e).take ((paddedDigits m.natAbs e).length - e) ≠ [] := by
    obtain ⟨-, hzero | ⟨d, ds, hds, -⟩⟩ := hwhole
    · rw [hzero]
      exact List.cons_ne_nil _ _
    · rw [hds]
      exact List.cons_ne_nil _ _
  rw [toList_floatRepr]
  by_cases hneg : m < 0
  · have hm : (-1 : ℤ) * (m.natAbs : ℕ) = m := by omega
    rw [if_pos hneg, List.append_assoc, List.singleton_append, List.append_assoc,
      List.cons_append, readNumber_signed (head?_ne_of_digits hwhole.1 hne (by decide)),
      readUnsigned_decimal (-1) m.natAbs e (by rw [hm]; exact hshort)
        (by rw [hm]; exact hrange) h, hm]
  · have hm : (1 : ℤ) * (m.natAbs : ℕ) = m := by omega
    rw [if_neg hneg, List.nil_append, List.append_assoc, List.cons_append,
      readNumber_unsigned (head?_ne_of_digits hwhole.1 hne (by decide)),
      readUnsigned_decimal 1 m.natAbs e (by rw [hm]; exact hshort)
        (by rw [hm]; exact hrange) h, hm]

end Numbers

/-! ## Values -/

/-- The characters a value can start with. -/
def startsValue (c : Char) : Bool :=
  c = '"' || c = '[' || c = '\x7b' || c = 'n' || c = 't' || c = 'f' || c = 'I' || c = 'N' ||
    c = '-' || c.isDigit

/-- A character that starts a value is none that does not. -/
theorem startsValue_ne {c d : Char} (hc : startsValue c = true) (hd : startsValue d = false) :
    c ≠ d := by
  rintro rfl
  rw [hc] at hd
  cases hd

/-- What starts a value is no space. -/
theorem skipSpace_of_startsValue {c : Char} (h : startsValue c = true) (cs : List Char) :
    skipSpace (c :: cs) = c :: cs := by
  rw [skipSpace, if_neg]
  rintro (rfl | rfl | rfl | rfl) <;> revert h <;> decide

/-- The text of a number starts with a digit or the sign. -/
def startsNumber (c : Char) : Bool :=
  c = '-' || c.isDigit

/-- What starts a number is read as one. -/
theorem readValue_number {c : Char} (h : startsNumber c = true) (fuel : ℕ) (cs : List Char) :
    readValue (fuel + 1) (c :: cs) = readNumber (c :: cs) := by
  have hne : ∀ d : Char, startsNumber d = false → c ≠ d := by
    rintro d hd rfl
    rw [h] at hd
    cases hd
  rw [readValue.eq_def]
  dsimp only
  split
  all_goals first
    | rfl
    | (rename_i heq
       exact absurd (List.cons.inj heq).1 (hne _ (by decide)))

/-- The text of an integer. -/
theorem head_int (i : ℤ) : ∃ c cs, (toString i).toList = c :: cs ∧ startsNumber c = true := by
  have hnat : ∀ n : ℕ, ∃ c cs, Nat.toDigits 10 n = c :: cs ∧ startsNumber c = true := by
    intro n
    obtain ⟨d, ds, hds⟩ := List.exists_cons_of_ne_nil (@Nat.toDigits_ne_nil n 10)
    refine ⟨d, ds, hds, ?_⟩
    have hd := isDigit_toDigits n d (hds ▸ List.mem_cons_self)
    simp [startsNumber, hd]
  cases i with
  | ofNat n =>
    obtain ⟨c, cs, hcs, hc⟩ := hnat n
    exact ⟨c, cs, Nat.toList_repr.trans hcs, hc⟩
  | negSucc n =>
    refine ⟨'-', Nat.toDigits 10 n.succ, ?_, by decide⟩
    show ("-" ++ n.succ.repr).toList = _
    rw [String.toList_append, Nat.toList_repr]
    rfl

/-- The text of a decimal. -/
theorem head_float (m : ℤ) (e : ℕ) :
    ∃ c cs, (PyVal.floatRepr m e).toList = c :: cs ∧ startsNumber c = true := by
  rw [toList_floatRepr]
  by_cases hneg : m < 0
  · rw [if_pos hneg]
    exact ⟨'-', _, rfl, by decide⟩
  · rw [if_neg hneg, List.nil_append]
    obtain ⟨hdigits, hzero | ⟨d, ds, hds, -⟩⟩ := wholeDigits_take m.natAbs e
    · rw [hzero]
      exact ⟨'0', _, rfl, by decide⟩
    · rw [hds]
      have hd := hdigits d (hds ▸ List.mem_cons_self)
      exact ⟨d, _, rfl, by simp [startsNumber, hd]⟩

/-- A number is a value. -/
theorem startsValue_of_startsNumber {c : Char} (h : startsNumber c = true) :
    startsValue c = true := by
  simp only [startsNumber, Bool.or_eq_true, decide_eq_true_eq] at h
  rcases h with rfl | h
  · decide
  · simp [startsValue, h]

/-- The text of a value starts like one. -/
theorem head_dumps {v : PyVal} {text : String} (h : v.dumps = .ok text) :
    ∃ c cs, text.toList = c :: cs ∧ startsValue c = true := by
  cases v with
  | none =>
    obtain rfl := Except.ok.inj h
    exact ⟨_, _, rfl, by decide⟩
  | bool b =>
    obtain rfl := Except.ok.inj h
    cases b
    · exact ⟨_, _, rfl, by decide⟩
    · exact ⟨_, _, rfl, by decide⟩
  | int i =>
    obtain rfl := Except.ok.inj h
    obtain ⟨c, cs, hcs, hc⟩ := head_int i
    exact ⟨c, cs, hcs, startsValue_of_startsNumber hc⟩
  | float m e =>
    obtain rfl := Except.ok.inj h
    obtain ⟨c, cs, hcs, hc⟩ := head_float m e
    exact ⟨c, cs, hcs, startsValue_of_startsNumber hc⟩
  | nonFinite f =>
    obtain rfl := Except.ok.inj h
    cases f
    · exact ⟨_, _, rfl, by decide⟩
    · exact ⟨_, _, rfl, by decide⟩
    · exact ⟨_, _, rfl, by decide⟩
  | str s =>
    obtain rfl := Except.ok.inj h
    exact ⟨'"', _, String.toList_ofList, by decide⟩
  | surrogates codePoints =>
    obtain rfl := Except.ok.inj h
    exact ⟨'"', _, String.toList_ofList, by decide⟩
  | list xs =>
    rw [PyVal.dumps] at h
    obtain ⟨texts, -, htext⟩ := Library.Except.bind_eq_ok.mp h
    obtain rfl := Except.ok.inj htext
    exact ⟨'[', _, by rw [String.toList_append, String.toList_append]; rfl, by decide⟩
  | dict items =>
    rw [PyVal.dumps] at h
    obtain ⟨texts, -, htext⟩ := Library.Except.bind_eq_ok.mp h
    obtain rfl := Except.ok.inj htext
    exact ⟨'\x7b', _, by rw [String.toList_append, String.toList_append]; rfl, by decide⟩
  | object o => cases h

/-- Where a value starts, the bracket is not closed. -/
theorem closedOr_of_startsValue {α : Type} {close c : Char} (h : startsValue c = true)
    (hclose : startsValue close = false) (empty : α) (more : List Char → Option (α × List Char))
    (cs : List Char) : closedOr close empty more (c :: cs) = more (c :: cs) := by
  unfold closedOr
  rw [skipSpace_of_startsValue h]
  exact if_neg (startsValue_ne h hclose)

/-- A list that is not empty. -/
theorem readValue_list {c : Char} (h : startsValue c = true) (fuel : ℕ) (cs : List Char) :
    readValue (fuel + 1) ('[' :: c :: cs) =
      (readElements fuel (c :: cs)).map fun read => (.list read.1, read.2) := by
  rw [readValue, closedOr_of_startsValue h (by decide)]
  cases readElements fuel (c :: cs) <;> rfl

/-- A dictionary that is not empty. -/
theorem readValue_dict (fuel : ℕ) (cs : List Char) :
    readValue (fuel + 1) ('\x7b' :: '"' :: cs) =
      (readItems fuel ('"' :: cs)).map fun read =>
        (.dict (OrderedDict.update [] read.1), read.2) := by
  rw [readValue, closedOr_of_startsValue (by decide) (by decide)]
  cases readItems fuel ('"' :: cs) <;> rfl

/-- A list is written element by element. -/
theorem dumpsList_cons {x : PyVal} {xs : List PyVal} {texts : List String}
    (h : PyVal.dumpsList (x :: xs) = .ok texts) :
    ∃ text rest, texts = text :: rest ∧ x.dumps = .ok text ∧ PyVal.dumpsList xs = .ok rest := by
  rw [PyVal.dumpsList] at h
  obtain ⟨text, htext, h⟩ := Library.Except.bind_eq_ok.mp h
  obtain ⟨rest, hrest, h⟩ := Library.Except.bind_eq_ok.mp h
  exact ⟨text, rest, (Except.ok.inj h).symm, htext, hrest⟩

/-- A dictionary is written item by item. -/
theorem dumpsItems_cons {k : String} {x : PyVal} {items : List (String × PyVal)}
    {texts : List String} (h : PyVal.dumpsItems ((k, x) :: items) = .ok texts) :
    ∃ text rest, texts = (PyVal.quote k ++ ": " ++ text) :: rest ∧ x.dumps = .ok text ∧
      PyVal.dumpsItems items = .ok rest := by
  rw [PyVal.dumpsItems] at h
  obtain ⟨text, htext, h⟩ := Library.Except.bind_eq_ok.mp h
  obtain ⟨rest, hrest, h⟩ := Library.Except.bind_eq_ok.mp h
  exact ⟨text, rest, (Except.ok.inj h).symm, htext, hrest⟩

/-- The texts of elements, one after the other. -/
theorem toList_intercalate_cons (text : String) (texts : List String) (hne : texts ≠ []) :
    (", ".intercalate (text :: texts)).toList =
      text.toList ++ ',' :: ' ' :: (", ".intercalate texts).toList := by
  rw [String.intercalate_cons_of_ne_nil hne, String.toList_append, String.toList_append,
    List.append_assoc]
  rfl

/-- The characters of a written item. -/
theorem toList_item (k text : String) :
    (PyVal.quote k ++ ": " ++ text).toList =
      '"' :: (k.toList.flatMap PyVal.escapeChar ++ '"' :: ':' :: ' ' :: text.toList) := by
  rw [String.toList_append, String.toList_append, PyVal.quote, String.toList_ofList]
  simp

section Items

variable {k text : String} {x : PyVal} {c : Char} {cs : List Char} {fuel : ℕ}

/-- An item with the closing brace behind it. -/
theorem readItems_last (htext : text.toList = c :: cs) (hc : startsValue c = true)
    {rest : List Char}
    (hread : readValue fuel (text.toList ++ '\x7d' :: rest) = some (x, '\x7d' :: rest)) :
    readItems (fuel + 1) ((PyVal.quote k ++ ": " ++ text).toList ++ '\x7d' :: rest) =
      some ([(k, x)], rest) := by
  rw [toList_item, List.cons_append, List.append_assoc, List.cons_append, List.cons_append,
    List.cons_append, readItems, readString_quote]
  show (readValue fuel (skipSpace (text.toList ++ '\x7d' :: rest))).bind _ = _
  have hskip : skipSpace (text.toList ++ '\x7d' :: rest) = text.toList ++ '\x7d' :: rest := by
    rw [htext, List.cons_append, skipSpace_of_startsValue hc]
  rw [hskip, hread]
  rfl

/-- An item with another one behind it. -/
theorem readItems_more (htext : text.toList = c :: cs) (hc : startsValue c = true)
    {more : List Char}
    (hread : readValue fuel (text.toList ++ ',' :: ' ' :: more) =
      some (x, ',' :: ' ' :: more)) :
    readItems (fuel + 1) ((PyVal.quote k ++ ": " ++ text).toList ++ ',' :: ' ' :: more) =
      (readItems fuel (skipSpace more)).map fun read => ((k, x) :: read.1, read.2) := by
  rw [toList_item, List.cons_append, List.append_assoc, List.cons_append, List.cons_append,
    List.cons_append, readItems, readString_quote]
  show (readValue fuel (skipSpace (text.toList ++ ',' :: ' ' :: more))).bind _ = _
  have hskip : skipSpace (text.toList ++ ',' :: ' ' :: more) =
      text.toList ++ ',' :: ' ' :: more := by
    rw [htext, List.cons_append, skipSpace_of_startsValue hc]
  rw [hskip, hread]
  show (readItems fuel (skipSpace more)).bind _ = _
  cases readItems fuel (skipSpace more) <;> rfl

end Items

/-- Joined texts begin like the first. -/
theorem head_intercalate {text : String} {c : Char} {cs : List Char} (h : text.toList = c :: cs)
    (texts : List String) : ∃ cs', (", ".intercalate (text :: texts)).toList = c :: cs' := by
  cases texts with
  | nil => exact ⟨cs, by rw [String.intercalate_singleton, h]⟩
  | cons text' texts =>
    rw [toList_intercalate_cons _ _ (List.cons_ne_nil _ _), h]
    exact ⟨_, rfl⟩

/-- A number ends before a comma or a closing bracket. -/
theorem numberEnd_cons {c : Char} (h : c = ',' ∨ c = ']' ∨ c = '\x7d') (cs : List Char) :
    NumberEnd (c :: cs) := by
  rintro d hd
  cases hd
  rcases h with rfl | rfl | rfl <;> decide

/-- What is asked of the reader for one value. -/
def ReadsBack (v : PyVal) (text : String) : Prop :=
  ∀ (fuel : ℕ) (rest : List Char), text.toList.length ≤ fuel → NumberEnd rest →
    readValue fuel (text.toList ++ rest) = some (v, rest)

/-- It is enough to read back with some fuel left. -/
theorem readsBack_of_succ {v : PyVal} {text : String} (hne : text.toList ≠ [])
    (h : ∀ (fuel : ℕ) (rest : List Char), text.toList.length ≤ fuel + 1 → NumberEnd rest →
      readValue (fuel + 1) (text.toList ++ rest) = some (v, rest)) : ReadsBack v text := by
  intro fuel rest hfuel hrest
  cases fuel with
  | zero => exact absurd (List.length_eq_zero_iff.mp (Nat.le_zero.mp hfuel)) hne
  | succ fuel => exact h fuel rest hfuel hrest

/-- `null` reads back. -/
theorem readsBack_none : ReadsBack .none "null" := by
  apply readsBack_of_succ (by decide)
  intro fuel rest _ _
  rfl

/-- A truth value reads back. -/
theorem readsBack_bool (b : Bool) : ReadsBack (.bool b) (if b then "true" else "false") := by
  cases b with
  | true =>
    apply readsBack_of_succ (by decide)
    intro fuel rest _ _
    rfl
  | false =>
    apply readsBack_of_succ (by decide)
    intro fuel rest _ _
    rfl

/-- An integer reads back. -/
theorem readsBack_int (i : ℤ) : ReadsBack (.int i) (toString i) := by
  obtain ⟨c, cs, hcs, hc⟩ := head_int i
  apply readsBack_of_succ (by rw [hcs]; exact List.cons_ne_nil _ _)
  intro fuel rest _ hrest
  have hread := readNumber_int i hrest
  rw [hcs] at hread ⊢
  rw [List.cons_append, readValue_number hc]
  exact hread

/-- A float reads back. -/
theorem readsBack_float {m : ℤ} {e : ℕ} (h : isJson (.float m e) = true) :
    ReadsBack (.float m e) (PyVal.floatRepr m e) := by
  obtain ⟨c, cs, hcs, hc⟩ := head_float m e
  apply readsBack_of_succ (by rw [hcs]; exact List.cons_ne_nil _ _)
  intro fuel rest _ hrest
  obtain ⟨hshort, hrange⟩ := Bool.and_eq_true_iff.mp h
  have hread := readNumber_float hshort hrange hrest
  rw [hcs] at hread ⊢
  rw [List.cons_append, readValue_number hc]
  exact hread

/-- An infinity or a `NaN` reads back. -/
theorem readsBack_nonFinite (f : NonFinite) : ReadsBack (.nonFinite f) f.jsonText := by
  cases f with
  | inf =>
    apply readsBack_of_succ (by decide)
    intro fuel rest _ _
    rfl
  | negInf =>
    apply readsBack_of_succ (by decide)
    intro fuel rest _ _
    rfl
  | nan =>
    apply readsBack_of_succ (by decide)
    intro fuel rest _ _
    rfl

/-- A text reads back. -/
theorem readsBack_str (s : String) : ReadsBack (.str s) (PyVal.quote s) := by
  have htext : (PyVal.quote s).toList = '"' :: (s.toList.flatMap PyVal.escapeChar ++ ['"']) :=
    String.toList_ofList
  apply readsBack_of_succ (by rw [htext]; exact List.cons_ne_nil _ _)
  intro fuel rest _ _
  rw [htext, List.cons_append, List.append_assoc, List.singleton_append, readValue,
    readString_quote]
  rfl

/-- The elements are read back up to the closing bracket. -/
def ElementsReadBack (xs : List PyVal) (texts : List String) : Prop :=
  ∀ (fuel : ℕ) (rest : List Char), (", ".intercalate texts).toList.length + 1 ≤ fuel →
    readElements fuel ((", ".intercalate texts).toList ++ ']' :: rest) = some (xs, rest)

/-- The items are read back up to the closing brace. -/
def ItemsReadBack (items : List (String × PyVal)) (texts : List String) : Prop :=
  ∀ (fuel : ℕ) (rest : List Char), (", ".intercalate texts).toList.length + 1 ≤ fuel →
    readItems fuel ((", ".intercalate texts).toList ++ '\x7d' :: rest) = some (items, rest)

/-- The characters of a text in brackets. -/
theorem toList_brackets (text : String) :
    ("[" ++ text ++ "]").toList = '[' :: (text.toList ++ [']']) := by
  rw [String.toList_append, String.toList_append]
  rfl

/-- The characters of a text in braces. -/
theorem toList_braces (text : String) :
    ("\x7b" ++ text ++ "\x7d").toList = '\x7b' :: (text.toList ++ ['\x7d']) := by
  rw [String.toList_append, String.toList_append]
  rfl

/-- A list reads back if its elements do. -/
theorem readsBack_list {x : PyVal} {xs : List PyVal} {texts : List String}
    (htexts : PyVal.dumpsList (x :: xs) = .ok texts) (h : ElementsReadBack (x :: xs) texts) :
    ReadsBack (.list (x :: xs)) ("[" ++ ", ".intercalate texts ++ "]") := by
  have htext := toList_brackets (", ".intercalate texts)
  obtain ⟨first, others, rfl, hfirst, -⟩ := dumpsList_cons htexts
  obtain ⟨c, cs, hcs, hc⟩ := head_dumps hfirst
  obtain ⟨cs', hcs'⟩ := head_intercalate hcs others
  apply readsBack_of_succ (by rw [htext]; exact List.cons_ne_nil _ _)
  intro fuel rest hfuel _
  have hread := h fuel rest (by
    rw [htext, List.length_cons, List.length_append] at hfuel
    exact Nat.le_of_succ_le_succ hfuel)
  rw [htext, List.cons_append, List.append_assoc, List.singleton_append]
  rw [hcs', List.cons_append] at hread ⊢
  rw [readValue_list hc, hread]
  rfl

/-- A dictionary with distinct keys reads back if its items do. -/
theorem readsBack_dict {k : String} {x : PyVal} {items : List (String × PyVal)}
    {texts : List String} (htexts : PyVal.dumpsItems ((k, x) :: items) = .ok texts)
    (hkeys : (((k, x) :: items).map Prod.fst).Nodup) (h : ItemsReadBack ((k, x) :: items) texts) :
    ReadsBack (.dict ((k, x) :: items)) ("\x7b" ++ ", ".intercalate texts ++ "\x7d") := by
  have htext := toList_braces (", ".intercalate texts)
  obtain ⟨first, others, rfl, -, -⟩ := dumpsItems_cons htexts
  obtain ⟨cs', hcs'⟩ := head_intercalate (toList_item k first) others
  apply readsBack_of_succ (by rw [htext]; exact List.cons_ne_nil _ _)
  intro fuel rest hfuel _
  have hread := h fuel rest (by
    rw [htext, List.length_cons, List.length_append] at hfuel
    exact Nat.le_of_succ_le_succ hfuel)
  have hupdate := @OrderedDict.update_of_nodup _ _ _ [] ((k, x) :: items) hkeys
  rw [htext, List.cons_append, List.append_assoc, List.singleton_append]
  rw [hcs', List.cons_append] at hread ⊢
  rw [readValue_dict, hread, Option.map_some, hupdate]
  rfl

/-- One element reads back up to the closing bracket. -/
theorem elementsReadBack_single {x : PyVal} {text : String} (h : ReadsBack x text) :
    ElementsReadBack [x] [text] := by
  intro fuel rest hfuel
  rw [String.intercalate_singleton] at hfuel ⊢
  obtain ⟨fuel, rfl⟩ : ∃ k, fuel = k + 1 := ⟨fuel - 1, by omega⟩
  rw [readElements, h fuel (']' :: rest) (by omega) (numberEnd_cons (by simp) _)]
  rfl

/-- An element reads back before others that do. -/
theorem elementsReadBack_cons {x y : PyVal} {xs : List PyVal} {text : String}
    {texts : List String} (h : ReadsBack x text) (htexts : PyVal.dumpsList (y :: xs) = .ok texts)
    (hmore : ElementsReadBack (y :: xs) texts) :
    ElementsReadBack (x :: y :: xs) (text :: texts) := by
  obtain ⟨text', others, rfl, htext', -⟩ := dumpsList_cons htexts
  obtain ⟨c, cs, hcs, hc⟩ := head_dumps htext'
  obtain ⟨cs', hcs'⟩ := head_intercalate hcs others
  intro fuel rest hfuel
  rw [toList_intercalate_cons _ _ (List.cons_ne_nil _ _)] at hfuel ⊢
  rw [List.length_append, List.length_cons, List.length_cons] at hfuel
  obtain ⟨fuel, rfl⟩ : ∃ k, fuel = k + 1 := ⟨fuel - 1, by omega⟩
  have hread := h fuel
    (',' :: ' ' :: ((", ".intercalate (text' :: others)).toList ++ ']' :: rest)) (by omega)
    (numberEnd_cons (by simp) _)
  have hmore := hmore fuel rest (by omega)
  rw [List.append_assoc, List.cons_append, List.cons_append, readElements, hread]
  rw [hcs', List.cons_append] at hmore ⊢
  show (readElements fuel (skipSpace (c :: (cs' ++ ']' :: rest)))).bind _ = _
  rw [skipSpace_of_startsValue hc, hmore]
  rfl

/-- One item reads back up to the closing brace. -/
theorem itemsReadBack_single {k : String} {x : PyVal} {text : String}
    (htext : x.dumps = .ok text) (h : ReadsBack x text) :
    ItemsReadBack [(k, x)] [PyVal.quote k ++ ": " ++ text] := by
  obtain ⟨c, cs, hcs, hc⟩ := head_dumps htext
  intro fuel rest hfuel
  rw [String.intercalate_singleton] at hfuel ⊢
  obtain ⟨fuel, rfl⟩ : ∃ k, fuel = k + 1 := ⟨fuel - 1, by omega⟩
  have hlen : text.toList.length ≤ fuel := by
    rw [toList_item] at hfuel
    simp only [List.length_cons, List.length_append] at hfuel
    omega
  rw [readItems_last hcs hc (h fuel ('\x7d' :: rest) hlen (numberEnd_cons (by simp) _))]

/-- An item reads back before others that do. -/
theorem itemsReadBack_cons {k l : String} {x y : PyVal} {items : List (String × PyVal)}
    {text : String} {texts : List String} (htext : x.dumps = .ok text) (h : ReadsBack x text)
    (htexts : PyVal.dumpsItems ((l, y) :: items) = .ok texts)
    (hmore : ItemsReadBack ((l, y) :: items) texts) :
    ItemsReadBack ((k, x) :: (l, y) :: items) ((PyVal.quote k ++ ": " ++ text) :: texts) := by
  obtain ⟨text', others, rfl, -, -⟩ := dumpsItems_cons htexts
  obtain ⟨c, cs, hcs, hc⟩ := head_dumps htext
  obtain ⟨cs', hcs'⟩ := head_intercalate (toList_item l text') others
  intro fuel rest hfuel
  rw [toList_intercalate_cons _ _ (List.cons_ne_nil _ _)] at hfuel ⊢
  obtain ⟨fuel, rfl⟩ : ∃ k, fuel = k + 1 := ⟨fuel - 1, by omega⟩
  have hlen : text.toList.length +
      (", ".intercalate ((PyVal.quote l ++ ": " ++ text') :: others)).toList.length + 1 ≤ fuel := by
    rw [toList_item] at hfuel
    simp only [List.length_cons, List.length_append] at hfuel
    omega
  have hread := h fuel
    (',' :: ' ' :: ((", ".intercalate ((PyVal.quote l ++ ": " ++ text') :: others)).toList ++
      '\x7d' :: rest)) (by omega) (numberEnd_cons (by simp) _)
  have hmore := hmore fuel rest (by omega)
  rw [List.append_assoc, List.cons_append, List.cons_append, readItems_more hcs hc hread]
  rw [hcs', List.cons_append] at hmore ⊢
  show (readItems fuel (skipSpace ('"' :: (cs' ++ '\x7d' :: rest)))).map _ = _
  rw [skipSpace_of_startsValue (by decide), hmore]
  rfl

/-- An element reads back before others that do, if there are any. -/
theorem elementsReadBack_step {x : PyVal} {xs : List PyVal} {text : String}
    {texts : List String} (h : ReadsBack x text) (htexts : PyVal.dumpsList xs = .ok texts)
    (hmore : xs ≠ [] → ElementsReadBack xs texts) : ElementsReadBack (x :: xs) (text :: texts) := by
  cases xs with
  | nil =>
    obtain rfl := Except.ok.inj htexts
    exact elementsReadBack_single h
  | cons y xs => exact elementsReadBack_cons h htexts (hmore (List.cons_ne_nil _ _))

/-- An item reads back before others that do, if there are any. -/
theorem itemsReadBack_step {k : String} {x : PyVal} {items : List (String × PyVal)}
    {text : String} {texts : List String} (htext : x.dumps = .ok text) (h : ReadsBack x text)
    (htexts : PyVal.dumpsItems items = .ok texts)
    (hmore : items ≠ [] → ItemsReadBack items texts) :
    ItemsReadBack ((k, x) :: items) ((PyVal.quote k ++ ": " ++ text) :: texts) := by
  cases items with
  | nil =>
    obtain rfl := Except.ok.inj htexts
    exact itemsReadBack_single htext h
  | cons item items =>
    obtain ⟨l, y⟩ := item
    exact itemsReadBack_cons htext h htexts (hmore (List.cons_ne_nil _ _))

mutual

/-- **Every value is read back from its text.** -/
theorem readsBack : ∀ (v : PyVal) (text : String), isJson v = true → v.dumps = .ok text →
    ReadsBack v text
  | .none, text, _, h => by
    obtain rfl := Except.ok.inj h
    exact readsBack_none
  | .bool b, text, _, h => by
    obtain rfl := Except.ok.inj h
    exact readsBack_bool b
  | .int i, text, _, h => by
    obtain rfl := Except.ok.inj h
    exact readsBack_int i
  | .float m e, text, hjson, h => by
    obtain rfl := Except.ok.inj h
    exact readsBack_float hjson
  | .nonFinite f, text, _, h => by
    obtain rfl := Except.ok.inj h
    exact readsBack_nonFinite f
  | .str s, text, _, h => by
    obtain rfl := Except.ok.inj h
    exact readsBack_str s
  | .list xs, text, hjson, h => by
    rw [PyVal.dumps] at h
    obtain ⟨texts, htexts, htext⟩ := Library.Except.bind_eq_ok.mp h
    obtain rfl := Except.ok.inj htext
    have hmore := elementsReadBack xs texts (by simpa [isJson] using hjson) htexts
    cases xs with
    | nil =>
      obtain rfl := Except.ok.inj htexts
      apply readsBack_of_succ (by decide)
      intro fuel rest _ _
      rfl
    | cons x xs => exact readsBack_list htexts (hmore (List.cons_ne_nil _ _))
  | .dict items, text, hjson, h => by
    rw [PyVal.dumps] at h
    obtain ⟨texts, htexts, htext⟩ := Library.Except.bind_eq_ok.mp h
    obtain rfl := Except.ok.inj htext
    obtain ⟨hkeys, hitems⟩ : (items.map Prod.fst).Nodup ∧ isJsonItems items = true := by
      simpa [isJson] using hjson
    have hmore := itemsReadBack items texts hitems htexts
    cases items with
    | nil =>
      obtain rfl := Except.ok.inj htexts
      apply readsBack_of_succ (by decide)
      intro fuel rest _ _
      rfl
    | cons item items =>
      obtain ⟨k, x⟩ := item
      exact readsBack_dict htexts hkeys (hmore (List.cons_ne_nil _ _))
  | .object o, text, hjson, _ => by cases hjson
  | .surrogates _, text, hjson, _ => by cases hjson

/-- The elements of a list of JSON read back. -/
theorem elementsReadBack : ∀ (xs : List PyVal) (texts : List String), isJsonList xs = true →
    PyVal.dumpsList xs = .ok texts → xs ≠ [] → ElementsReadBack xs texts
  | [], texts, _, _, hne => absurd rfl hne
  | x :: xs, texts, hjson, h, _ => by
    obtain ⟨text, others, rfl, htext, hothers⟩ := dumpsList_cons h
    obtain ⟨hx, hxs⟩ : isJson x = true ∧ isJsonList xs = true := by
      simpa [isJsonList] using hjson
    exact elementsReadBack_step (readsBack x text hx htext) hothers
      (elementsReadBack xs others hxs hothers)

/-- The items of a dictionary of JSON read back. -/
theorem itemsReadBack : ∀ (items : List (String × PyVal)) (texts : List String),
    isJsonItems items = true → PyVal.dumpsItems items = .ok texts → items ≠ [] →
    ItemsReadBack items texts
  | [], texts, _, _, hne => absurd rfl hne
  | (k, x) :: items, texts, hjson, h, _ => by
    obtain ⟨text, others, rfl, htext, hothers⟩ := dumpsItems_cons h
    obtain ⟨hx, hitems⟩ : isJson x = true ∧ isJsonItems items = true := by
      simpa [isJsonItems] using hjson
    exact itemsReadBack_step htext (readsBack x text hx htext) hothers
      (itemsReadBack items others hitems hothers)

end

/-! ## Whole texts -/

mutual

/-- `json.dumps` takes every value that is made of the JSON types. -/
theorem dumps_of_isJson : ∀ v : PyVal, isJson v = true → ∃ text, v.dumps = .ok text
  | .none, _ => ⟨_, rfl⟩
  | .bool _, _ => ⟨_, rfl⟩
  | .int _, _ => ⟨_, rfl⟩
  | .float _ _, _ => ⟨_, rfl⟩
  | .nonFinite _, _ => ⟨_, rfl⟩
  | .str _, _ => ⟨_, rfl⟩
  | .surrogates _, _ => ⟨_, rfl⟩
  | .list xs, h => by
    obtain ⟨texts, htexts⟩ := dumpsList_of_isJson xs (by simpa [isJson] using h)
    rw [PyVal.dumps, htexts]
    exact ⟨_, rfl⟩
  | .dict items, h => by
    have hitems : (items.map Prod.fst).Nodup ∧ isJsonItems items = true := by
      simpa [isJson] using h
    obtain ⟨texts, htexts⟩ := dumpsItems_of_isJson items hitems.2
    rw [PyVal.dumps, htexts]
    exact ⟨_, rfl⟩
  | .object _, h => by cases h

/-- A list of JSON is written. -/
theorem dumpsList_of_isJson : ∀ xs : List PyVal, isJsonList xs = true →
    ∃ texts, PyVal.dumpsList xs = .ok texts
  | [], _ => ⟨_, rfl⟩
  | x :: xs, h => by
    obtain ⟨hx, hxs⟩ : isJson x = true ∧ isJsonList xs = true := by simpa [isJsonList] using h
    obtain ⟨text, htext⟩ := dumps_of_isJson x hx
    obtain ⟨texts, htexts⟩ := dumpsList_of_isJson xs hxs
    rw [PyVal.dumpsList, htext, htexts]
    exact ⟨_, rfl⟩

/-- The items of a dictionary of JSON are written. -/
theorem dumpsItems_of_isJson : ∀ items : List (String × PyVal), isJsonItems items = true →
    ∃ texts, PyVal.dumpsItems items = .ok texts
  | [], _ => ⟨_, rfl⟩
  | (k, x) :: items, h => by
    obtain ⟨hx, hitems⟩ : isJson x = true ∧ isJsonItems items = true := by
      simpa [isJsonItems] using h
    obtain ⟨text, htext⟩ := dumps_of_isJson x hx
    obtain ⟨texts, htexts⟩ := dumpsItems_of_isJson items hitems
    rw [PyVal.dumpsItems, htext, htexts]
    exact ⟨_, rfl⟩

end

/-- **`json.loads` of what `json.dumps` wrote gives the value back.** -/
theorem loads_dumps {v : PyVal} {text : String} (hjson : isJson v = true)
    (h : v.dumps = .ok text) : loads text = some v := by
  obtain ⟨c, cs, hcs, hc⟩ := head_dumps h
  have hread := readsBack v text hjson h (text.toList.length + 1) [] (Nat.le_succ _)
    (by rintro c ⟨⟩)
  rw [List.append_nil] at hread
  unfold loads
  have hskip : skipSpace text.toList = text.toList := by
    rw [hcs, skipSpace_of_startsValue hc]
  rw [hskip, hread]
  rfl

/-- Skipping space makes the text no longer. -/
theorem length_skipSpace (cs : List Char) : (skipSpace cs).length ≤ cs.length := by
  induction cs with
  | nil => exact Nat.le_refl _
  | cons c cs ih =>
    rw [skipSpace]
    split
    · exact Nat.le_succ_of_le ih
    · exact Nat.le_refl _

/-- One unit more: the units behind it have been read. -/
theorem readUnits_more {unit : ℕ} {cs rest : List Char} {units : List ℕ}
    (h : ((readUnits cs).bind fun (units, rest) => some (unit :: units, rest)) =
      some (units, rest)) : ∃ units', readUnits cs = some (units', rest) ∧
      units.length = units'.length + 1 := by
  obtain ⟨⟨units', rest'⟩, hread, hmore⟩ := Option.bind_eq_some_iff.mp h
  cases hmore
  exact ⟨units', hread, rfl⟩

/-- A text in quotes has fewer units than it takes. -/
theorem length_readUnits {cs rest : List Char} {units : List ℕ}
    (h : readUnits cs = some (units, rest)) : units.length < cs.length := by
  induction cs using readUnits.induct generalizing units with
  | case1 =>
    rw [readUnits.eq_def] at h
    cases h
  | case2 cs =>
    rw [readUnits.eq_def] at h
    dsimp only at h
    rw [if_pos rfl] at h
    cases h
    exact Nat.succ_pos _
  | case3 hquote =>
    rw [readUnits.eq_def] at h
    cases h
  | case4 h₁ h₂ h₃ h₄ cs hquote ih =>
    rw [readUnits.eq_def] at h
    dsimp only at h
    rw [if_neg hquote, if_pos rfl, if_pos rfl] at h
    obtain ⟨unit, -, h⟩ := Option.bind_eq_some_iff.mp h
    obtain ⟨units', hread, hlen⟩ := readUnits_more h
    have hlt := ih hread
    simp only [List.length_cons]
    omega
  | case5 cs hshort hquote =>
    rw [readUnits.eq_def] at h
    dsimp only at h
    rw [if_neg hquote, if_pos rfl, if_pos rfl] at h
    split at h
    · exact absurd rfl (hshort _ _ _ _ _)
    · cases h
  | case6 e cs he hquote ih =>
    rw [readUnits.eq_def] at h
    dsimp only at h
    rw [if_neg hquote, if_pos rfl, if_neg he] at h
    obtain ⟨unit, -, h⟩ := Option.bind_eq_some_iff.mp h
    obtain ⟨units', hread, hlen⟩ := readUnits_more h
    have hlt := ih hread
    simp only [List.length_cons]
    omega
  | case7 c cs hquote hslash hlow =>
    rw [readUnits.eq_def] at h
    dsimp only at h
    rw [if_neg hquote, if_neg hslash, if_pos hlow] at h
    cases h
  | case8 c cs hquote hslash hlow ih =>
    rw [readUnits.eq_def] at h
    dsimp only at h
    rw [if_neg hquote, if_neg hslash, if_neg hlow] at h
    obtain ⟨units', hread, hlen⟩ := readUnits_more h
    have hlt := ih hread
    simp only [List.length_cons]
    omega

/-- Units decode to no more characters. -/
theorem length_decodeUnits (units : List ℕ) : (decodeUnits units).length ≤ units.length := by
  induction units using decodeUnits.induct with
  | case1 => exact Nat.le_refl _
  | case2 unit => exact Nat.le_refl _
  | case3 high low units h ih =>
    rw [decodeUnits, if_pos h]
    simp only [List.length_cons]
    omega
  | case4 high low units h ih =>
    rw [decodeUnits, if_neg h]
    simp only [List.length_cons] at ih ⊢
    omega

/-- Without the zeros at its end, a decimal is still one. -/
theorem decimal_eq_float (m : ℤ) (e : ℕ) : ∃ m' e', decimal m e = .float m' e' := by
  induction e generalizing m with
  | zero => exact ⟨m, 0, rfl⟩
  | succ e ih =>
    rw [decimal]
    split
    · exact ih _
    · exact ⟨m, e + 1, rfl⟩

/-- A number with a fraction or an exponent is read as a float. -/
theorem floatOf_cases (m : ℤ) (e : ℕ) :
    (∃ m' e', floatOf m e = .float m' e') ∨ ∃ f, floatOf m e = .nonFinite f := by
  unfold floatOf
  split
  · exact .inl (decimal_eq_float m e)
  · exact .inr ⟨_, rfl⟩

/-- A float is no text. -/
theorem floatOf_ne_str {m : ℤ} {e : ℕ} {s : String} : floatOf m e ≠ .str s := by
  rcases floatOf_cases m e with ⟨m', e', hvalue⟩ | ⟨f, hvalue⟩ <;>
    simp [hvalue]

/-- A number without its sign is read as no text. -/
theorem readUnsigned_ne_str {sign : ℤ} {cs rest : List Char} {s : String} :
    readUnsigned sign cs ≠ some (.str s, rest) := by
  intro h
  unfold readUnsigned at h
  obtain ⟨⟨whole, cs'⟩, -, h⟩ := Option.bind_eq_some_iff.mp h
  dsimp only at h
  split at h
  · cases h
  · exact floatOf_ne_str (Prod.mk.inj (Option.some.inj h)).1

/-- A number is read as no text. -/
theorem readNumber_ne_str {cs rest : List Char} {s : String} :
    readNumber cs ≠ some (.str s, rest) := by
  intro h
  rw [readNumber.eq_def] at h
  split at h
  · cases h
  · exact readUnsigned_ne_str h
  · exact readUnsigned_ne_str h

/-- What stands in brackets is read as no text. -/
theorem closedOr_ne_str {close : Char} {empty : PyVal} {s : String} {cs rest : List Char}
    {more : List Char → Option (PyVal × List Char)} (hempty : empty ≠ .str s)
    (hmore : ∀ cs, more cs ≠ some (.str s, rest)) :
    closedOr close empty more cs ≠ some (.str s, rest) := by
  intro h
  unfold closedOr at h
  split at h
  · cases h
  · split at h
    · exact hempty (Prod.mk.inj (Option.some.inj h)).1
    · exact hmore _ h

/-- Only a literal is read as a text. -/
theorem readValue_str {fuel : ℕ} {cs rest : List Char} {s : String}
    (h : readValue fuel cs = some (.str s, rest)) :
    ∃ cs', cs = '"' :: cs' ∧ readString cs' = some (s, rest) := by
  cases fuel with
  | zero => cases h
  | succ fuel =>
    rw [readValue.eq_def] at h
    dsimp only at h
    split at h
    · obtain ⟨⟨s', rest'⟩, hstring, h⟩ := Option.bind_eq_some_iff.mp h
      cases h
      exact ⟨_, rfl, hstring⟩
    · refine absurd h (closedOr_ne_str PyVal.noConfusion fun cs hmore => ?_)
      obtain ⟨⟨xs, rest'⟩, -, hmore⟩ := Option.bind_eq_some_iff.mp hmore
      cases hmore
    · refine absurd h (closedOr_ne_str PyVal.noConfusion fun cs hmore => ?_)
      obtain ⟨⟨items, rest'⟩, -, hmore⟩ := Option.bind_eq_some_iff.mp hmore
      cases hmore
    all_goals first | cases h | exact absurd h readNumber_ne_str

/-- **No text is read as itself**: a literal is longer than its text. -/
theorem loads_ne_self (s : String) : loads s ≠ some (.str s) := by
  intro h
  unfold loads at h
  cases hread : readValue (s.toList.length + 1) (skipSpace s.toList) with
  | none =>
    rw [hread] at h
    cases h
  | some read =>
    obtain ⟨v, rest⟩ := read
    rw [hread] at h
    obtain ⟨-, hv⟩ := Option.ite_none_right_eq_some.mp h
    obtain rfl := Option.some.inj hv
    obtain ⟨cs, hcs, hstring⟩ := readValue_str hread
    rw [readString] at hstring
    obtain ⟨⟨units, rest'⟩, hunits, hstring⟩ := Option.bind_eq_some_iff.mp hstring
    obtain ⟨hs, -⟩ := Prod.mk.inj (Option.some.inj hstring)
    have hlen := length_skipSpace s.toList
    have hread := length_readUnits hunits
    have hdecode := length_decodeUnits units
    have hdecoded : (decodeUnits units).length = s.toList.length := by
      rw [← hs, String.toList_ofList]
    rw [hcs, List.length_cons] at hlen
    omega

/-! ## What is read is JSON -/

/-- A value that is JSON if it can be written: all but the numbers that are no decimals. -/
def JsonIfDumps (v : PyVal) : Prop :=
  ∀ text, v.dumps = .ok text → isJson v = true

/-- Where a list is written, each element is. -/
theorem dumpsList_mem {xs : List PyVal} {texts : List String} (h : PyVal.dumpsList xs = .ok texts)
    {x : PyVal} (hx : x ∈ xs) : ∃ text, x.dumps = .ok text := by
  induction xs generalizing texts with
  | nil => cases hx
  | cons y xs ih =>
    obtain ⟨text, htext, h⟩ := Library.Except.bind_eq_ok.mp h
    obtain ⟨rest, hrest, -⟩ := Library.Except.bind_eq_ok.mp h
    rcases List.mem_cons.mp hx with rfl | hx
    · exact ⟨text, htext⟩
    · exact ih hrest hx

/-- Where a dictionary is written, each item is. -/
theorem dumpsItems_mem {items : List (String × PyVal)} {texts : List String}
    (h : PyVal.dumpsItems items = .ok texts) {item : String × PyVal} (hitem : item ∈ items) :
    ∃ text, item.2.dumps = .ok text := by
  induction items generalizing texts with
  | nil => cases hitem
  | cons other items ih =>
    obtain ⟨k, y⟩ := other
    obtain ⟨text, htext, h⟩ := Library.Except.bind_eq_ok.mp h
    obtain ⟨rest, hrest, -⟩ := Library.Except.bind_eq_ok.mp h
    rcases List.mem_cons.mp hitem with rfl | hitem
    · exact ⟨text, htext⟩
    · exact ih hrest hitem

/-- A list of JSON values is one. -/
theorem isJsonList_of_forall {xs : List PyVal} (h : ∀ x ∈ xs, isJson x = true) :
    isJsonList xs = true := by
  induction xs with
  | nil => rfl
  | cons x xs ih =>
    obtain ⟨hx, hxs⟩ := List.forall_mem_cons.mp h
    rw [isJsonList, hx, ih hxs]
    rfl

/-- Items with JSON values are items of JSON. -/
theorem isJsonItems_of_forall {items : List (String × PyVal)}
    (h : ∀ item ∈ items, isJson item.2 = true) : isJsonItems items = true := by
  induction items with
  | nil => rfl
  | cons item items ih =>
    obtain ⟨hitem, hitems⟩ := List.forall_mem_cons.mp h
    obtain ⟨k, x⟩ := item
    rw [isJsonItems, hitem, ih hitems]
    rfl

/-- A list is JSON where it can be written if its elements are. -/
theorem JsonIfDumps.list {xs : List PyVal} (h : ∀ x ∈ xs, JsonIfDumps x) :
    JsonIfDumps (.list xs) := by
  intro text htext
  obtain ⟨texts, htexts, -⟩ := Library.Except.bind_eq_ok.mp htext
  refine isJsonList_of_forall fun x hx => ?_
  obtain ⟨text, htext⟩ := dumpsList_mem htexts hx
  exact h x hx text htext

/-- The same of a dictionary with distinct keys. -/
theorem JsonIfDumps.dict {items : List (String × PyVal)} (hkeys : (items.map Prod.fst).Nodup)
    (h : ∀ item ∈ items, JsonIfDumps item.2) : JsonIfDumps (.dict items) := by
  intro text htext
  obtain ⟨texts, htexts, -⟩ := Library.Except.bind_eq_ok.mp htext
  have hitems : isJsonItems items = true := by
    refine isJsonItems_of_forall fun item hitem => ?_
    obtain ⟨text, htext⟩ := dumpsItems_mem htexts hitem
    exact h item hitem text htext
  rw [isJson, hitems, decide_eq_true hkeys]
  rfl

/-- A decimal within the range is JSON. -/
theorem isJson_decimal {m : ℤ} {e : ℕ} (h : inRange m e = true) : isJson (decimal m e) = true := by
  induction e generalizing m with
  | zero =>
    rw [decimal, isJson, h]
    rfl
  | succ e ih =>
    rw [decimal]
    split
    · rename_i hmod
      have htenth : m / 10 * 10 = m := Int.ediv_mul_cancel (Int.dvd_of_emod_eq_zero hmod)
      refine ih ?_
      rw [← inRange_mul_ten, htenth]
      exact h
    · rename_i hmod
      simp [isJson, shortest, hmod, h]

/-- The float of a decimal is JSON. -/
theorem isJson_floatOf (m : ℤ) (e : ℕ) : isJson (floatOf m e) = true := by
  unfold floatOf
  split
  · rename_i h
    exact isJson_decimal h
  · rfl

/-- Behind an opening bracket, what is read is the empty value or comes from the reader. -/
theorem closedOr_cases {α : Type} {close : Char} {empty a : α} {cs rest : List Char}
    {more : List Char → Option (α × List Char)} (h : closedOr close empty more cs = some (a, rest)) :
    a = empty ∨ ∃ cs', more cs' = some (a, rest) := by
  unfold closedOr at h
  split at h
  · cases h
  · split at h
    · cases h
      exact .inl rfl
    · exact .inr ⟨_, h⟩

/-- A property that the values the readers make have, if their parts have it. -/
structure Readable (P : PyVal → Prop) : Prop where
  none : P .none
  bool : ∀ b, P (.bool b)
  int : ∀ i, P (.int i)
  floatOf : ∀ m e, P (floatOf m e)
  nonFinite : ∀ f, P (.nonFinite f)
  str : ∀ s, P (.str s)
  list : ∀ xs, (∀ x ∈ xs, P x) → P (.list xs)
  dict : ∀ items : List (String × PyVal), (items.map Prod.fst).Nodup →
    (∀ item ∈ items, P item.2) → P (.dict items)

section

variable {P : PyVal → Prop}

/-- What is read of a number without its sign has the property. -/
theorem Readable.readUnsigned (hP : Readable P) {sign : ℤ} {cs rest : List Char} {v : PyVal}
    (h : readUnsigned sign cs = some (v, rest)) : P v := by
  unfold JsonText.readUnsigned at h
  obtain ⟨⟨whole, cs'⟩, -, h⟩ := Option.bind_eq_some_iff.mp h
  dsimp only at h
  split at h
  · cases h
    exact hP.int _
  · cases h
    exact hP.floatOf _ _

/-- What is read of a number has the property. -/
theorem Readable.readNumber (hP : Readable P) {cs rest : List Char} {v : PyVal}
    (h : readNumber cs = some (v, rest)) : P v := by
  rw [readNumber.eq_def] at h
  split at h
  · cases h
    exact hP.nonFinite _
  · exact hP.readUnsigned h
  · exact hP.readUnsigned h

/-- The induction over the readers. -/
theorem Readable.read (hP : Readable P) (fuel : ℕ) :
    (∀ cs v rest, readValue fuel cs = some (v, rest) → P v) ∧
    (∀ cs xs rest, readElements fuel cs = some (xs, rest) → ∀ x ∈ xs, P x) ∧
    (∀ cs items rest, readItems fuel cs = some (items, rest) → ∀ item ∈ items, P item.2) := by
  induction fuel with
  | zero =>
    refine ⟨fun _ _ _ h => ?_, fun _ _ _ h => ?_, fun _ _ _ h => ?_⟩
    · cases h
    · cases h
    · cases h
  | succ fuel ih =>
    obtain ⟨hvalue, helements, hitems⟩ := ih
    refine ⟨fun cs v rest h => ?_, fun cs xs rest h => ?_, fun cs items rest h => ?_⟩
    · rw [readValue.eq_def] at h
      dsimp only at h
      have hnil : (OrderedDict.keys ([] : OrderedDict String PyVal)).Nodup := List.nodup_nil
      split at h
      · obtain ⟨⟨s, rest'⟩, -, h⟩ := Option.bind_eq_some_iff.mp h
        cases h
        exact hP.str s
      · rcases closedOr_cases h with rfl | ⟨cs', hmore⟩
        · exact hP.list [] (fun _ hx => (by cases hx))
        · obtain ⟨⟨xs, rest'⟩, hxs, hmore⟩ := Option.bind_eq_some_iff.mp hmore
          cases hmore
          exact hP.list xs (helements _ _ _ hxs)
      · rcases closedOr_cases h with rfl | ⟨cs', hmore⟩
        · exact hP.dict [] hnil (fun _ hitem => (by cases hitem))
        · obtain ⟨⟨items, rest'⟩, hread, hmore⟩ := Option.bind_eq_some_iff.mp hmore
          cases hmore
          refine hP.dict _ (OrderedDict.nodup_keys_update hnil items) fun item hitem => ?_
          rcases OrderedDict.mem_update hitem with hnone | hitem
          · cases hnone
          · exact hitems _ _ _ hread item hitem
      all_goals first
        | exact hP.readNumber h
        | cases h
          first
            | exact hP.none
            | exact hP.bool _
            | exact hP.nonFinite _
    · rw [readElements.eq_def] at h
      dsimp only at h
      obtain ⟨⟨x, cs'⟩, hx, h⟩ := Option.bind_eq_some_iff.mp h
      dsimp only at h
      split at h
      · cases h
        exact List.forall_mem_singleton.mpr (hvalue _ _ _ hx)
      · obtain ⟨⟨xs', rest'⟩, hxs, h⟩ := Option.bind_eq_some_iff.mp h
        cases h
        exact List.forall_mem_cons.mpr ⟨hvalue _ _ _ hx, helements _ _ _ hxs⟩
      · cases h
    · rw [readItems.eq_def] at h
      dsimp only at h
      split at h
      · obtain ⟨⟨k, cs₁⟩, -, h⟩ := Option.bind_eq_some_iff.mp h
        dsimp only at h
        split at h
        · obtain ⟨⟨x, cs₂⟩, hx, h⟩ := Option.bind_eq_some_iff.mp h
          dsimp only at h
          split at h
          · cases h
            exact List.forall_mem_singleton.mpr (hvalue _ _ _ hx)
          · obtain ⟨⟨items', rest'⟩, hrest, h⟩ := Option.bind_eq_some_iff.mp h
            cases h
            exact List.forall_mem_cons.mpr ⟨hvalue _ _ _ hx, hitems _ _ _ hrest⟩
          · cases h
        · cases h
      · cases h

/-- What `json.loads` reads has every property the readers keep. -/
theorem Readable.loads (hP : Readable P) {s : String} {v : PyVal} (h : loads s = some v) :
    P v := by
  unfold JsonText.loads at h
  split at h
  · rename_i v' rest hread
    obtain ⟨-, hv⟩ := Option.ite_none_right_eq_some.mp h
    cases hv
    exact (hP.read _).1 _ _ _ hread
  · cases h

end

/-- What is read is JSON where it can be written. -/
theorem readable_jsonIfDumps : Readable JsonIfDumps where
  none _ _ := rfl
  bool _ _ _ := rfl
  int _ _ _ := rfl
  floatOf m e _ _ := isJson_floatOf m e
  nonFinite _ _ _ := rfl
  str _ _ _ := rfl
  list _ := JsonIfDumps.list
  dict _ := JsonIfDumps.dict

/-- **What `json.loads` reads is JSON**, if it can be written. -/
theorem jsonIfDumps_loads {s : String} {v : PyVal} (h : loads s = some v) : JsonIfDumps v :=
  readable_jsonIfDumps.loads h

end Walkoff.Analysis
