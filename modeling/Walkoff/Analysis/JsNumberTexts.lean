import Walkoff.Model.JsNumber

/-!
# Reading back the text of a JavaScript number

The text of a whole number stands for a number that rounds to it (`shortest_rounds`), and unless
it has a point, `Number` reads that number from it (`ofText_toText`).
-/

set_option autoImplicit false

namespace Walkoff.Analysis

open Walkoff.Model

/-! ## Trimming -/

/-- A trimmed text begins with no blank. -/
theorem head?_trim {cs : List Char} {c : Char} (h : (JsNumber.trim cs).head? = some c) :
    JsNumber.isBlankChar c = false := by
  have hfirst : (cs.dropWhile JsNumber.isBlankChar).head? = some c := by
    obtain ⟨rest, hrest⟩ := List.rdropWhile_prefix (p := JsNumber.isBlankChar)
      (cs.dropWhile JsNumber.isBlankChar)
    rw [← hrest]
    cases hcore : JsNumber.trim cs with
    | nil =>
      rw [hcore] at h
      cases h
    | cons d ds =>
      rw [hcore] at h
      unfold JsNumber.trim at hcore
      rw [hcore]
      exact h
  have hnot := List.head?_dropWhile_not JsNumber.isBlankChar cs
  rw [hfirst] at hnot
  simpa using hnot

/-- A trimmed text ends with no blank. -/
theorem getLast?_trim {cs : List Char} {c : Char} (h : (JsNumber.trim cs).getLast? = some c) :
    JsNumber.isBlankChar c = false := by
  have hne : JsNumber.trim cs ≠ [] := by
    intro hnil
    rw [hnil] at h
    cases h
  have hnot := List.rdropWhile_last_not JsNumber.isBlankChar
    (cs.dropWhile JsNumber.isBlankChar) hne
  have hlast : (JsNumber.trim cs).getLast hne = c :=
    (List.getLast_eq_iff_getLast?_eq_some hne).mpr h
  unfold JsNumber.trim at hlast
  rw [hlast] at hnot
  simpa using hnot

/-- A text with no blank at its ends is trimmed to itself. -/
theorem trim_eq_self {cs : List Char}
    (hfirst : ∀ c, cs.head? = some c → JsNumber.isBlankChar c = false)
    (hlast : ∀ c, cs.getLast? = some c → JsNumber.isBlankChar c = false) :
    JsNumber.trim cs = cs := by
  have hdrop : cs.dropWhile JsNumber.isBlankChar = cs := by
    cases cs with
    | nil => rfl
    | cons c cs => exact List.dropWhile_cons_of_neg (by simp [hfirst c rfl])
  unfold JsNumber.trim
  rw [hdrop, List.rdropWhile_eq_self_iff]
  intro hne
  simp [hlast _ (List.getLast?_eq_some_getLast hne)]

/-! ## Digits -/

/-- A digit lies between the first and the last. -/
theorem range_of_isDigit {c : Char} (h : c.isDigit = true) : '0' ≤ c ∧ c ≤ '9' := by
  simpa [Char.isDigit, Char.le_def] using h

/-- A digit has its value in base ten. -/
theorem digitIn_of_isDigit {c : Char} (h : c.isDigit = true) :
    JsNumber.digitIn 10 c = some (c.toNat - '0'.toNat) := by
  have hrange := range_of_isDigit h
  have hlt : c.toNat - '0'.toNat < 10 := by
    have hle : c.toNat ≤ '9'.toNat := hrange.2
    have hnine : '9'.toNat = '0'.toNat + 9 := rfl
    omega
  unfold JsNumber.digitIn
  rw [if_pos hrange, Option.filter_some, if_pos (by simpa using hlt)]

/-- All characters are decimal digits. -/
def AllDigits (cs : List Char) : Prop :=
  ∀ c ∈ cs, c.isDigit = true

/-- Texts of digits make a text of digits. -/
theorem AllDigits.append {cs ds : List Char} (h : AllDigits cs) (hd : AllDigits ds) :
    AllDigits (cs ++ ds) := by
  intro c hc
  exact (List.mem_append.mp hc).elim (h c) (hd c)

/-- A number is written with digits. -/
theorem allDigits_toDigits (n : ℕ) : AllDigits (Nat.toDigits 10 n) :=
  fun _ hc => Nat.isDigit_of_mem_toDigits (by decide) (by decide) hc

/-- Zeros are digits. -/
theorem allDigits_zeros (n : ℕ) : AllDigits (List.replicate n '0') := by
  intro c hc
  rw [List.eq_of_mem_replicate hc]
  rfl

/-- A text of digits is read as its number. -/
theorem readDigits_ten {cs : List Char} (h : AllDigits cs) (n : ℕ) :
    JsNumber.readDigits 10 n cs = some (Nat.ofDigitChars 10 cs n) := by
  induction cs generalizing n with
  | nil => rfl
  | cons c cs ih =>
    rw [JsNumber.readDigits, digitIn_of_isDigit (h c List.mem_cons_self), Option.bind_some,
      ih fun d hd => h d (List.mem_cons_of_mem _ hd), Nat.ofDigitChars_cons]

/-- The same of a whole text that is not empty. -/
theorem natural_ten {cs : List Char} (h : AllDigits cs) (hne : cs ≠ []) :
    JsNumber.natural 10 cs = some (Nat.ofDigitChars 10 cs 0) := by
  unfold JsNumber.natural
  rw [if_neg (by simpa using hne), readDigits_ten h]

/-- A digit is no blank. -/
theorem not_blank_of_isDigit {c : Char} (h : c.isDigit = true) :
    JsNumber.isBlankChar c = false := by
  have hlow : 48 ≤ c.toNat := (range_of_isDigit h).1
  have hhigh : c.toNat ≤ 57 := (range_of_isDigit h).2
  unfold JsNumber.isBlankChar JsNumber.blanks
  by_contra hblank
  simp only [Bool.not_eq_false, List.contains_eq_mem, decide_eq_true_eq, List.mem_cons,
    List.not_mem_nil, or_false] at hblank
  omega

/-! ## Reading a text of digits -/

/-- A text between two decimal digits that has no letter in second place but the `e` of an
exponent is a decimal literal. -/
theorem ofText_of_digit {c : Char} {cs : List Char} (hc : c.isDigit = true)
    (hlast : ∀ d, (c :: cs).getLast? = some d → d.isDigit = true)
    (hsecond : ∀ d, cs.head? = some d → d.isDigit = true ∨ d = 'e') :
    JsNumber.ofText (c :: cs) = JsNumber.unsignedLiteral (c :: cs) := by
  have htrim : JsNumber.trim (c :: cs) = c :: cs := by
    apply trim_eq_self
    · rintro d ⟨⟩
      exact not_blank_of_isDigit hc
    · exact fun d hd => not_blank_of_isDigit (hlast d hd)
  unfold JsNumber.ofText
  rw [htrim]
  split
  · rename_i h
    cases h
  all_goals first
    | rfl
    | (rename_i h
       cases h
       first
         | exact absurd hc (by decide)
         | exact absurd (hsecond _ rfl) (by decide))

/-- The digits are taken up to the first other character. -/
theorem takeWhile_digits {cs : List Char} (h : AllDigits cs) (rest : List Char)
    (hrest : ∀ c, rest.head? = some c → JsNumber.digitIn 10 c = none) :
    (cs ++ rest).takeWhile (fun c => (JsNumber.digitIn 10 c).isSome) = cs ∧
      (cs ++ rest).dropWhile (fun c => (JsNumber.digitIn 10 c).isSome) = rest := by
  induction cs with
  | nil =>
    cases rest with
    | nil => exact ⟨rfl, rfl⟩
    | cons c rest =>
      have hc := hrest c rfl
      simp [hc]
  | cons c cs ih =>
    have hc := digitIn_of_isDigit (h c List.mem_cons_self)
    obtain ⟨htake, hdrop⟩ := ih fun d hd => h d (List.mem_cons_of_mem _ hd)
    simp [hc, htake, hdrop]

/-- Digits with an exponent or nothing behind them. -/
theorem unsignedLiteral_digits {cs : List Char} (h : AllDigits cs) (hne : cs ≠ [])
    (rest : List Char) (hrest : ∀ c, rest.head? = some c → c = 'e') :
    JsNumber.unsignedLiteral (cs ++ rest) = (JsNumber.exponentPart rest).map fun exponent =>
      JsNumber.ofRat (Nat.ofDigitChars 10 cs 0 * 10 ^ exponent) := by
  have hhead : cs ++ rest ≠ "Infinity".toList := by
    obtain ⟨c, ds, rfl⟩ := List.exists_cons_of_ne_nil hne
    intro heq
    have hc : c = 'I' := by
      have := congrArg List.head? heq
      simpa using this
    have hdigit := h c List.mem_cons_self
    rw [hc] at hdigit
    exact absurd hdigit (by decide)
  have hsplit := takeWhile_digits h rest fun c hc => by
    rw [hrest c hc]
    decide
  have hpoint : ¬rest.head? = some '.' := by
    intro hdot
    exact absurd (hrest '.' hdot) (by decide)
  unfold JsNumber.unsignedLiteral
  rw [if_neg hhead]
  dsimp only
  rw [hsplit.1, hsplit.2, if_neg hpoint, if_neg hpoint, List.append_nil, natural_ten h hne]
  simp

/-! ## The text of a whole number -/

/-- The digits that are found round to the number. -/
theorem significant_rounds {n order s : ℕ} (h : JsNumber.significant n order = some s) :
    JsNumber.ofRat (s * 10 ^ order : ℕ) = .finite n := by
  unfold JsNumber.significant at h
  dsimp only at h
  split at h
  · rename_i hlow hhigh
    simp only [decide_eq_true_eq] at hlow hhigh
    split at h
    · cases h
      exact hlow.2
    · cases h
      exact hhigh.2
  · rename_i hlow hhigh
    cases h
    simp only [decide_eq_true_eq] at hlow
    exact hlow.2
  · rename_i hlow hhigh
    cases h
    simp only [decide_eq_true_eq] at hhigh
    exact hhigh.2
  · cases h

/-- The shortest digits of a double round to it. -/
theorem shortest_rounds {n : ℕ} (hn : JsNumber.ofRat n = .finite n) (order : ℕ) :
    JsNumber.ofRat ((JsNumber.shortest n order).1 * 10 ^ (JsNumber.shortest n order).2 : ℕ) =
      .finite n := by
  induction order with
  | zero => simpa [JsNumber.shortest] using hn
  | succ order ih =>
    unfold JsNumber.shortest
    split
    · rename_i s hs
      exact significant_rounds hs
    · exact ih

/-- The text of a number written with all its digits. -/
theorem ofText_plain {s order n : ℕ}
    (hrounds : JsNumber.ofRat (s * 10 ^ order : ℕ) = .finite n) :
    JsNumber.ofText (Nat.toDigits 10 s ++ List.replicate order '0') = some (.finite n) := by
  have hall : AllDigits (Nat.toDigits 10 s ++ List.replicate order '0') :=
    (allDigits_toDigits s).append (allDigits_zeros order)
  have hvalue : Nat.ofDigitChars 10 (Nat.toDigits 10 s ++ List.replicate order '0') 0 =
      s * 10 ^ order := by
    rw [Nat.ofDigitChars_append, Nat.ofDigitChars_ten_toDigits, Nat.ofDigitChars_replicate_zero,
      Nat.mul_comm]
  have hne : Nat.toDigits 10 s ++ List.replicate order '0' ≠ [] := by
    simp [Nat.toDigits_ne_nil]
  have hread := unsignedLiteral_digits hall hne [] (by rintro _ ⟨⟩)
  rw [List.append_nil, hvalue] at hread
  generalize Nat.toDigits 10 s ++ List.replicate order '0' = cs at hall hne hread
  obtain ⟨c, ds, rfl⟩ := List.exists_cons_of_ne_nil hne
  rw [ofText_of_digit (hall c List.mem_cons_self)
    (fun d hd => hall d (List.mem_of_getLast? hd))
    (fun d hd => .inl (hall d (List.mem_cons_of_mem _ (List.mem_of_head? hd)))), hread]
  simp only [JsNumber.exponentPart, Option.map_some, zpow_zero, mul_one]
  rw [hrounds]

/-- A text with an exponent ends with a digit. -/
theorem last_of_exponent (cs : List Char) (order : ℕ) (d : Char)
    (hd : (cs ++ 'e' :: '+' :: Nat.toDigits 10 order).getLast? = some d) : d.isDigit = true := by
  have hsuffix : cs ++ 'e' :: '+' :: Nat.toDigits 10 order =
      (cs ++ ['e', '+']) ++ Nat.toDigits 10 order := by simp
  rw [hsuffix, List.getLast?_append_of_ne_nil _ Nat.toDigits_ne_nil] at hd
  exact allDigits_toDigits order d (List.mem_of_getLast? hd)

/-- The text of a number written as one digit with an exponent. -/
theorem ofText_exponent {s order n : ℕ}
    (hrounds : JsNumber.ofRat (s * 10 ^ order : ℕ) = .finite n)
    (hlength : (Nat.toDigits 10 s).length = 1) :
    JsNumber.ofText (Nat.toDigits 10 s ++ 'e' :: '+' :: Nat.toDigits 10 order) =
      some (.finite n) := by
  have hread := unsignedLiteral_digits (allDigits_toDigits s) Nat.toDigits_ne_nil
    ('e' :: '+' :: Nat.toDigits 10 order) (by rintro _ ⟨⟩; rfl)
  have hexponent : JsNumber.exponentPart ('e' :: '+' :: Nat.toDigits 10 order) =
      some (order : ℤ) := by
    show (JsNumber.natural 10 (Nat.toDigits 10 order)).map Int.ofNat = _
    rw [natural_ten (allDigits_toDigits order) Nat.toDigits_ne_nil,
      Nat.ofDigitChars_ten_toDigits]
    rfl
  have hlast := last_of_exponent (Nat.toDigits 10 s) order
  rw [hexponent, Nat.ofDigitChars_ten_toDigits] at hread
  have hdigit := allDigits_toDigits s
  obtain ⟨c, hc⟩ := List.length_eq_one_iff.mp hlength
  rw [hc] at hread hlast hdigit ⊢
  rw [List.singleton_append] at hread hlast ⊢
  rw [ofText_of_digit (hdigit c List.mem_cons_self) hlast (by rintro _ ⟨⟩; exact .inr rfl), hread]
  simp only [Option.map_some, zpow_natCast]
  rw [← hrounds]
  push_cast
  rfl

/-- The text without a point reads back as the number. -/
theorem ofText_toText {n : ℕ} (hn : JsNumber.ofRat n = .finite n)
    (hdot : '.' ∉ JsNumber.toText n) :
    JsNumber.ofText (JsNumber.toText n) = some (.finite n) := by
  have hrounds := shortest_rounds hn (Nat.toDigits 10 n).length
  unfold JsNumber.toText at hdot ⊢
  generalize JsNumber.shortest n (Nat.toDigits 10 n).length = found at hrounds hdot ⊢
  obtain ⟨s, order⟩ := found
  dsimp only at hrounds hdot ⊢
  by_cases hplain : (Nat.toDigits 10 s).length + order ≤ 21
  · rw [if_pos hplain]
    exact ofText_plain hrounds
  rw [if_neg hplain] at hdot ⊢
  by_cases hone : (Nat.toDigits 10 s).length = 1
  · rw [if_pos hone, hone, Nat.add_sub_cancel_left]
    exact ofText_exponent hrounds hone
  · rw [if_neg hone] at hdot
    exact absurd (by simp) hdot

/-- The text begins and ends with a digit. -/
theorem toText_digits (n : ℕ) : ∃ c cs, JsNumber.toText n = c :: cs ∧ c.isDigit = true ∧
    ∀ d, (JsNumber.toText n).getLast? = some d → d.isDigit = true := by
  unfold JsNumber.toText
  generalize JsNumber.shortest n (Nat.toDigits 10 n).length = found
  obtain ⟨s, order⟩ := found
  have hdigits := allDigits_toDigits s
  have hne : Nat.toDigits 10 s ≠ [] := Nat.toDigits_ne_nil
  dsimp only
  generalize Nat.toDigits 10 s = digits at hdigits hne ⊢
  obtain ⟨c, ds, rfl⟩ := List.exists_cons_of_ne_nil hne
  have hc := hdigits c List.mem_cons_self
  split_ifs with hplain hone
  · refine ⟨c, _, List.cons_append, hc, fun d hd => ?_⟩
    exact (hdigits.append (allDigits_zeros order)) d (List.mem_of_getLast? hd)
  · exact ⟨c, _, List.cons_append, hc, fun d hd => last_of_exponent _ _ d hd⟩
  · exact ⟨c, _, rfl, hc, fun d hd => last_of_exponent _ _ d hd⟩

end Walkoff.Analysis
