import Walkoff.Model.Argument
import Walkoff.Library.Effect

/-!
# Following a selection

A selection names members of objects by key and elements of lists by index. `Follows` is
what a selection means, and `getValue` is compared with it: the code converts every
selector of a list with `int`, lets Python count negative indices from the end, and catches
three of the five exceptions a step can raise.
-/

set_option autoImplicit false

namespace Walkoff.Analysis

open Walkoff.Model Walkoff.Model.Argument Walkoff.Library

/-! ## What a selection means -/

/-- The selector is the index `n`, as an integer or as its decimal text. -/
def PlainIndex (selection : PyVal) (n : ℕ) : Prop :=
  selection = .int n ∨ selection = .str (toString n)

/-- One step: the member of an object under a key, the element of a list at an index. -/
inductive Selects : PyVal → PyVal → PyVal → Prop
  | member {items : List (String × PyVal)} {key : String} {v : PyVal}
      (h : items.lookup key = some v) : Selects (.dict items) (.str key) v
  | element {xs : List PyVal} {selection v : PyVal} {n : ℕ} (hn : PlainIndex selection n)
      (h : xs[n]? = some v) : Selects (.list xs) selection v

/-- The value reached by following all selectors. -/
def Follows : List PyVal → PyVal → PyVal → Prop
  | [], input, v => input = v
  | selection :: rest, input, v => ∃ next, Selects input selection next ∧ Follows rest next v

/-- Selection is safe: the value that the selection leads to is returned, and where it leads
to none the argument is reported as invalid. -/
def SelectionSafe (argument : Argument) (accumulator : Accumulator) (stored : PyVal)
    (items : List PyVal) : Prop :=
  (∃ v, Follows items stored v ∧ argument.getValue accumulator = .ok v) ∨
    (¬∃ v, Follows items stored v) ∧
      ∃ message, argument.getValue accumulator = .error (.invalidArgument message [])

/-! ## Where the code leaves it -/

/-- The selector is one that neither `dict.__getitem__` nor `int` takes: an unhashable key, or a
list index that is neither a number nor a text, or that is infinite. -/
def Mistyped : PyVal → PyVal → Prop
  | .dict _, .list _ | .dict _, .dict _ => True
  | .list _, .none | .list _, .list _ | .list _, .dict _ | .list _, .object _ => True
  | .list _, .nonFinite .inf | .list _, .nonFinite .negInf => True
  | _, _ => False

/-- The element Python finds at an index: a negative one counts from the end. -/
def elementAt (xs : List PyVal) (i : ℤ) : Option PyVal :=
  if 0 ≤ i then xs[i.toNat]? else if 0 ≤ i + xs.length then xs[(i + xs.length).toNat]? else none

/-- The selector is no index, and `int` makes one of it that the list has: a negative
number, a boolean, a float, or a text that is not written as `str` writes the number. -/
def Misleads (input selection v : PyVal) : Prop :=
  ∃ xs i, input = .list xs ∧ pyInt selection = .ok i ∧ (¬∃ n, PlainIndex selection n) ∧
    elementAt xs i = some v

/-- The selection ends at a missing member or element, even where `int` finds an element
that is not meant. -/
def LeadsNowhere : List PyVal → PyVal → Prop
  | [], _ => False
  | selection :: rest, input => ¬Mistyped input selection ∧
      ∀ next, Selects input selection next ∨ Misleads input selection next →
        LeadsNowhere rest next

/-- No step is mistyped, and one that is misled ends nowhere. -/
def HarmlessSelection : List PyVal → PyVal → Prop
  | [], _ => True
  | selection :: rest, input => ¬Mistyped input selection ∧
      (∀ next, Selects input selection next → HarmlessSelection rest next) ∧
      ∀ next, Misleads input selection next → LeadsNowhere rest next

/-! ## Decimal texts -/

/-- A digit has its value. -/
theorem digitValue_of_isDigit {c : Char} (h : c.isDigit) :
    digitValue c = some (c.toNat - '0'.toNat) := by
  have hc : 48 ≤ c.toNat ∧ c.toNat < 58 := by
    simp only [Char.isDigit, ge_iff_le, Bool.and_eq_true, decide_eq_true_eq] at h
    exact ⟨h.1, Nat.lt_succ_of_le h.2⟩
  have hfind : decimalZeros.find? (fun first => first ≤ c.toNat ∧ c.toNat < first + 10) =
      some 48 := List.find?_cons_of_pos (by simpa using hc)
  rw [digitValue, hfind]
  rfl

/-- Digits are read as their number. -/
theorem moreDigits_of_isDigit {cs : List Char} (h : ∀ c ∈ cs, c.isDigit) (n : ℕ) :
    moreDigits n cs = some (Nat.ofDigitChars 10 cs n) := by
  induction cs generalizing n with
  | nil => rfl
  | cons c cs ih =>
    obtain ⟨hc, hcs⟩ := List.forall_mem_cons.mp h
    have hunderscore : ∀ c' cs', c = '_' → cs = c' :: cs' → False := by
      rintro _ _ rfl
      exact absurd hc (by decide)
    rw [moreDigits.eq_3 n c cs hunderscore, digitValue_of_isDigit hc, Nat.ofDigitChars_cons]
    exact ih hcs _

/-- A written number is read back. -/
theorem decimalNumber_toDigits (n : ℕ) : decimalNumber (Nat.toDigits 10 n) = some n := by
  have hdigits : ∀ c ∈ Nat.toDigits 10 n, c.isDigit := fun c hc =>
    Nat.isDigit_of_mem_toDigits (by omega) (by omega) hc
  have hvalue := Nat.ofDigitChars_ten_toDigits (n := n)
  cases hcs : Nat.toDigits 10 n with
  | nil => exact absurd hcs Nat.toDigits_ne_nil
  | cons c cs =>
    rw [hcs] at hdigits hvalue
    obtain ⟨hc, hrest⟩ := List.forall_mem_cons.mp hdigits
    rw [decimalNumber, digitValue_of_isDigit hc]
    show moreDigits (c.toNat - '0'.toNat) cs = some n
    rw [moreDigits_of_isDigit hrest, ← hvalue, Nat.ofDigitChars_cons]
    congr 2
    omega

/-- A digit is no space. -/
theorem spaces_of_isDigit {c : Char} (h : c.isDigit) : spaces.contains c.toNat = false := by
  have hc : 48 ≤ c.toNat ∧ c.toNat < 58 := by
    simp only [Char.isDigit, ge_iff_le, Bool.and_eq_true, decide_eq_true_eq] at h
    exact ⟨h.1, Nat.lt_succ_of_le h.2⟩
  simp only [spaces, List.contains_eq_mem, decide_eq_false_iff_not, List.mem_cons,
    List.not_mem_nil, or_false]
  omega

/-- No space is dropped from digits. -/
theorem dropWhile_of_isDigit {cs : List Char} (h : ∀ c ∈ cs, c.isDigit) :
    cs.dropWhile (spaces.contains ·.toNat) = cs := by
  cases cs with
  | nil => rfl
  | cons c cs =>
    refine List.dropWhile_cons_of_neg ?_
    rw [spaces_of_isDigit (h c List.mem_cons_self)]
    exact Bool.false_ne_true

/-- `int(str(n))` is `n`. -/
theorem parseInt_toString (n : ℕ) : parseInt (toString n) = some (n : ℤ) := by
  have hdigits : ∀ c ∈ Nat.toDigits 10 n, c.isDigit := fun c hc =>
    Nat.isDigit_of_mem_toDigits (by omega) (by omega) hc
  have hlist : (toString n).toList = Nat.toDigits 10 n := Nat.toList_repr
  have htrim : (((toString n).toList.dropWhile (spaces.contains ·.toNat)).reverse.dropWhile
      (spaces.contains ·.toNat)).reverse = Nat.toDigits 10 n := by
    rw [hlist, dropWhile_of_isDigit hdigits,
      dropWhile_of_isDigit fun c hc => hdigits c (List.mem_reverse.mp hc), List.reverse_reverse]
  unfold parseInt
  simp only [htrim]
  split
  · rename_i heq
    exact absurd (hdigits '-' (by rw [heq]; exact List.mem_cons_self)) (by decide)
  · rename_i heq
    exact absurd (hdigits '+' (by rw [heq]; exact List.mem_cons_self)) (by decide)
  · rw [decimalNumber_toDigits]
    rfl

/-- A plain index is read as its number. -/
theorem pyInt_of_plainIndex {selection : PyVal} {n : ℕ} (h : PlainIndex selection n) :
    pyInt selection = .ok (n : ℤ) := by
  rcases h with rfl | rfl
  · rfl
  · rw [pyInt, parseInt_toString]
    rfl

/-! ## One step -/

/-- The exceptions that `_select` turns into an `InvalidArgument`. -/
def Caught (e : Exn) : Prop :=
  e = .keyError ∨ e = .valueError ∨ e = .indexError

/-- `xs[i]` with the element that was found, if any. -/
def found : Option PyVal → Except Exn PyVal
  | some v => .ok v
  | none => .error .indexError

/-- The exceptions that it lets through. -/
def PastSelect (e : Exn) : Prop :=
  e = .typeError ∨ e = overflowError

/-- What gets past `_select` is not caught. -/
theorem not_caught_of_pastSelect {e : Exn} (h : PastSelect e) : ¬Caught e := by
  rcases h with rfl | rfl
  · rintro (h | h | h) <;> cases h
  · rintro (h | h | h) <;> cases h

/-- A value is found exactly if there is one. -/
theorem found_eq_ok {x : Option PyVal} {v : PyVal} : found x = .ok v ↔ x = some v := by
  cases x <;> simp [found]

/-- A selector of a list is read as an index. -/
theorem getNextSelection_list (xs : List PyVal) (selection : PyVal) :
    getNextSelection (.list xs) selection =
      (pyInt selection).bind fun i => found (elementAt xs i) := by
  cases hi : pyInt selection with
  | error e =>
    rw [getNextSelection, hi]
    rfl
  | ok i =>
    simp only [getNextSelection, hi, bind, Except.bind, elementAt]
    by_cases hneg : i < 0
    · rw [if_pos hneg, if_neg (by omega : ¬0 ≤ i)]
      by_cases hback : i + xs.length < 0
      · rw [if_pos hback, if_neg (by omega)]
        rfl
      · rw [if_neg hback, if_pos (by omega)]
        cases xs[(i + xs.length).toNat]? <;> rfl
    · rw [if_neg hneg, if_neg hneg, if_pos (by omega : 0 ≤ i)]
      cases xs[i.toNat]? <;> rfl

/-- An index that is not negative counts from the front. -/
theorem elementAt_natCast (xs : List PyVal) (n : ℕ) : elementAt xs (n : ℤ) = xs[n]? := by
  rw [elementAt, if_pos (Int.natCast_nonneg n), Int.toNat_natCast]

/-- A selector of a list selects exactly if its index is one of the list. -/
theorem getNextSelection_list_ok {xs : List PyVal} {selection next : PyVal} :
    getNextSelection (.list xs) selection = .ok next ↔
      ∃ i, pyInt selection = .ok i ∧ elementAt xs i = some next := by
  rw [getNextSelection_list]
  cases hi : pyInt selection with
  | error e => exact ⟨fun h => (by cases h), fun ⟨_, h, _⟩ => (by cases h)⟩
  | ok i =>
    show found (elementAt xs i) = .ok next ↔ _
    rw [found_eq_ok]
    exact ⟨fun h => ⟨i, rfl, h⟩, fun ⟨_, h, hv⟩ => by cases h; exact hv⟩

/-- The code takes a step exactly where the selector selects or misleads. -/
theorem getNextSelection_ok_iff {input selection next : PyVal} :
    getNextSelection input selection = .ok next ↔
      Selects input selection next ∨ Misleads input selection next := by
  constructor
  · intro h
    cases input with
    | dict items =>
      cases selection with
      | str key =>
        have hv : items.lookup key = some next := by
          simp only [getNextSelection] at h
          split at h
          · rename_i v hv
            cases h
            exact hv
          · cases h
        exact .inl (.member hv)
      | _ => cases h
    | list xs =>
      obtain ⟨i, hi, hv⟩ := getNextSelection_list_ok.mp h
      by_cases hplain : ∃ n, PlainIndex selection n
      · obtain ⟨n, hn⟩ := hplain
        have hin : i = n := Except.ok.inj (hi.symm.trans (pyInt_of_plainIndex hn))
        rw [hin, elementAt_natCast] at hv
        exact .inl (.element hn hv)
      · exact .inr ⟨xs, i, rfl, hi, hplain, hv⟩
    | _ => cases h
  · rintro (h | ⟨xs, i, rfl, hi, -, hv⟩)
    · cases h with
      | member h =>
        rw [getNextSelection, h]
        rfl
      | element hn h =>
        exact getNextSelection_list_ok.mpr
          ⟨_, pyInt_of_plainIndex hn, (elementAt_natCast _ _).trans h⟩
    · exact getNextSelection_list_ok.mpr ⟨i, hi, hv⟩

/-- A selector that selects what is meant does not mislead. -/
theorem not_misleads_of_selects {input selection v w : PyVal} (h : Selects input selection v) :
    ¬Misleads input selection w := by
  rintro ⟨xs, i, rfl, -, hplain, -⟩
  cases h with
  | element hn _ => exact hplain ⟨_, hn⟩

/-- What `int` raises of a selector. -/
theorem pyInt_error_mistyped {selection : PyVal} {e : Exn} (xs : List PyVal)
    (h : pyInt selection = .error e) :
    PastSelect e ∧ Mistyped (.list xs) selection ∨
      e = .valueError ∧ ¬Mistyped (.list xs) selection := by
  cases selection with
  | bool _ | int _ | float _ _ => cases h
  | str s =>
    simp only [pyInt] at h
    split at h
    · cases h
    · cases h
      exact .inr ⟨rfl, not_false⟩
  | surrogates _ =>
    cases h
    exact .inr ⟨rfl, not_false⟩
  | nonFinite f =>
    cases f with
    | nan =>
      cases h
      exact .inr ⟨rfl, not_false⟩
    | inf | negInf =>
      cases h
      exact .inl ⟨.inr rfl, trivial⟩
  | none | list _ | dict _ | object _ =>
    cases h
    exact .inl ⟨.inl rfl, trivial⟩

/-- A selector that is an index is not mistyped for a list. -/
theorem not_mistyped_of_pyInt {selection : PyVal} {i : ℤ} (xs : List PyVal)
    (h : pyInt selection = .ok i) : ¬Mistyped (.list xs) selection := by
  cases selection with
  | none | list _ | dict _ | object _ => cases h
  | nonFinite f =>
    cases f with
    | nan => exact not_false
    | inf | negInf => cases h
  | _ => exact not_false

/-- A step raises past `_select` exactly if its selector is mistyped. -/
theorem getNextSelection_error {input selection : PyVal} {e : Exn}
    (h : getNextSelection input selection = .error e) :
    PastSelect e ∧ Mistyped input selection ∨ Caught e ∧ ¬Mistyped input selection := by
  cases input with
  | dict items =>
    cases selection with
    | list _ | dict _ =>
      cases h
      exact .inl ⟨.inl rfl, trivial⟩
    | str key =>
      simp only [getNextSelection] at h
      split at h
      · cases h
      · cases h
        exact .inr ⟨.inl rfl, not_false⟩
    | _ =>
      cases h
      exact .inr ⟨.inl rfl, not_false⟩
  | list xs =>
    rw [getNextSelection_list] at h
    cases hi : pyInt selection with
    | error e' =>
      rw [hi] at h
      cases h
      exact (pyInt_error_mistyped xs hi).imp_right fun ⟨he, htyped⟩ => ⟨.inr (.inl he), htyped⟩
    | ok i =>
      rw [hi] at h
      have hindex : e = .indexError := by
        change found (elementAt xs i) = .error e at h
        cases hv : elementAt xs i with
        | none =>
          rw [hv] at h
          cases h
          rfl
        | some v =>
          rw [hv] at h
          cases h
      exact .inr ⟨.inr (.inr hindex), not_mistyped_of_pyInt xs hi⟩
  | _ =>
    cases h
    exact .inr ⟨.inr (.inl rfl), not_false⟩

/-- A selector that selects is not mistyped. -/
theorem not_mistyped_of_ok {input selection next : PyVal}
    (h : getNextSelection input selection = .ok next) : ¬Mistyped input selection := by
  intro htyped
  rcases getNextSelection_ok_iff.mp h with hselects | ⟨xs, i, rfl, hi, -, -⟩
  · cases hselects with
    | member _ => exact htyped
    | element hn _ => rcases hn with rfl | rfl <;> exact htyped
  · exact not_mistyped_of_pyInt xs hi htyped

/-! ## The whole selection -/

/-- A step that selects goes on with its value. -/
theorem foldlM_cons_of_ok {selection input next : PyVal} (rest : List PyVal)
    (h : getNextSelection input selection = .ok next) :
    (selection :: rest).foldlM getNextSelection input = rest.foldlM getNextSelection next := by
  rw [List.foldlM_cons, h]
  rfl

/-- A step that raises ends the selection. -/
theorem foldlM_cons_of_error {selection input : PyVal} {e : Exn} (rest : List PyVal)
    (h : getNextSelection input selection = .error e) :
    (selection :: rest).foldlM getNextSelection input = .error e := by
  rw [List.foldlM_cons, h]
  rfl

/-- What a selection raises is caught or gets past. -/
theorem foldlM_error {items : List PyVal} {input : PyVal} {e : Exn}
    (h : items.foldlM getNextSelection input = .error e) : PastSelect e ∨ Caught e := by
  induction items generalizing input with
  | nil => cases h
  | cons selection rest ih =>
    cases hstep : getNextSelection input selection with
    | error e' =>
      rw [foldlM_cons_of_error rest hstep] at h
      cases h
      exact (getNextSelection_error hstep).imp And.left And.left
    | ok next =>
      rw [foldlM_cons_of_ok rest hstep] at h
      exact ih h

/-- A selection whose steps can be followed selects its value. -/
theorem foldlM_of_follows {items : List PyVal} {input v : PyVal} (h : Follows items input v) :
    items.foldlM getNextSelection input = .ok v := by
  induction items generalizing input with
  | nil =>
    cases h
    rfl
  | cons selection rest ih =>
    obtain ⟨next, hnext, hrest⟩ := h
    rw [foldlM_cons_of_ok rest (getNextSelection_ok_iff.mpr (.inl hnext))]
    exact ih hrest

/-- A selection leads nowhere exactly if it raises what is caught. -/
theorem leadsNowhere_iff {items : List PyVal} {input : PyVal} :
    LeadsNowhere items input ↔
      ∃ e, Caught e ∧ items.foldlM getNextSelection input = .error e := by
  induction items generalizing input with
  | nil => exact ⟨False.elim, fun ⟨_, _, h⟩ => by cases h⟩
  | cons selection rest ih =>
    cases hstep : getNextSelection input selection with
    | error e =>
      have hnext : ∀ next, ¬(Selects input selection next ∨ Misleads input selection next) :=
        fun next h => by rw [getNextSelection_ok_iff.mpr h] at hstep; cases hstep
      rw [foldlM_cons_of_error rest hstep]
      rcases getNextSelection_error hstep with ⟨hpast, htyped⟩ | ⟨hcaught, htyped⟩
      · refine ⟨fun h => absurd htyped h.1, fun ⟨e, he, h⟩ => ?_⟩
        cases h
        exact absurd he (not_caught_of_pastSelect hpast)
      · exact ⟨fun _ => ⟨e, hcaught, rfl⟩,
          fun _ => ⟨htyped, fun next h => absurd h (hnext next)⟩⟩
    | ok next =>
      have htyped : ¬Mistyped input selection := not_mistyped_of_ok hstep
      have honly : ∀ v, Selects input selection v ∨ Misleads input selection v → v = next :=
        fun v h => Except.ok.inj ((getNextSelection_ok_iff.mpr h).symm.trans hstep)
      rw [foldlM_cons_of_ok rest hstep, ← ih]
      constructor
      · intro h
        exact h.2 next (getNextSelection_ok_iff.mp hstep)
      · intro h
        refine ⟨htyped, fun v hv => ?_⟩
        rw [honly v hv]
        exact h

/-- The selection is harmless exactly where it leads to a value or the code ends at an
exception it catches. -/
theorem harmlessSelection_iff {items : List PyVal} {input : PyVal} :
    HarmlessSelection items input ↔ (∃ v, Follows items input v) ∨
      ∃ e, Caught e ∧ items.foldlM getNextSelection input = .error e := by
  induction items generalizing input with
  | nil => exact ⟨fun _ => .inl ⟨input, rfl⟩, fun _ => trivial⟩
  | cons selection rest ih =>
    cases hstep : getNextSelection input selection with
    | error e =>
      have hnext : ∀ next, ¬(Selects input selection next ∨ Misleads input selection next) :=
        fun next h => by rw [getNextSelection_ok_iff.mpr h] at hstep; cases hstep
      rw [foldlM_cons_of_error rest hstep]
      rcases getNextSelection_error hstep with ⟨hpast, htyped⟩ | ⟨hcaught, htyped⟩
      · refine ⟨fun h => absurd htyped h.1, ?_⟩
        rintro (⟨v, next, h, -⟩ | ⟨e, he, h⟩)
        · exact absurd (.inl h) (hnext next)
        · cases h
          exact absurd he (not_caught_of_pastSelect hpast)
      · refine ⟨fun _ => .inr ⟨e, hcaught, rfl⟩, fun _ => ⟨htyped, fun next h => ?_, fun next h => ?_⟩⟩
        · exact absurd (.inl h) (hnext next)
        · exact absurd (.inr h) (hnext next)
    | ok next =>
      have htyped : ¬Mistyped input selection := not_mistyped_of_ok hstep
      have honly : ∀ v, Selects input selection v ∨ Misleads input selection v → v = next :=
        fun v h => Except.ok.inj ((getNextSelection_ok_iff.mpr h).symm.trans hstep)
      rw [foldlM_cons_of_ok rest hstep]
      rcases getNextSelection_ok_iff.mp hstep with hselects | hmisleads
      · have hfollows :
            (∃ v, Follows (selection :: rest) input v) ↔ ∃ v, Follows rest next v :=
          ⟨fun ⟨v, w, hw, hrest⟩ => ⟨v, honly w (.inl hw) ▸ hrest⟩,
            fun ⟨v, hrest⟩ => ⟨v, next, hselects, hrest⟩⟩
        rw [hfollows, ← ih]
        refine ⟨fun h => h.2.1 next hselects,
          fun h => ⟨htyped, fun v hv => ?_, fun v hv => ?_⟩⟩
        · rw [honly v (.inl hv)]
          exact h
        · exact absurd hv (not_misleads_of_selects hselects)
      · have hselects : ∀ v, ¬Selects input selection v := fun v hv =>
          not_misleads_of_selects hv hmisleads
        rw [← leadsNowhere_iff]
        constructor
        · intro h
          exact .inr (h.2.2 next hmisleads)
        · rintro (⟨v, w, hw, -⟩ | h)
          · exact absurd hw (hselects w)
          · refine ⟨htyped, fun v hv => absurd hv (hselects v), fun v hv => ?_⟩
            rw [honly v (.inr hv)]
            exact h

/-- The value of an argument that refers to a stored result. -/
theorem getValue_of_stored {argument : Argument} {accumulator : Accumulator} {stored : PyVal}
    {items : List PyVal} (hvalue : argument.value = .none) (hfilled : accumulator.truthy)
    (hstored : argument.reference.bind accumulator.getItem = some stored)
    (hitems : argument.selection = .list items) :
    argument.getValue accumulator =
      match items.foldlM getNextSelection stored with
      | .error .keyError | .error .valueError | .error .indexError => .error (.invalidArgument
          ("Selector " ++ argument.selection.toStr ++ " is invalid for reference " ++
            referenceText argument.reference) [])
      | result => result := by
  have hoff : argument.getActionFromReference accumulator = .ok stored := by
    rw [getActionFromReference, hstored]
    rfl
  rw [getValue, hvalue, hoff, if_neg (by decide), if_pos hfilled, hitems]
  cases items with
  | nil => rfl
  | cons selection rest =>
    show argument.select stored = _
    rw [select, hitems]
    rfl

/-- Selection is safe exactly where no step of it is mistyped and a selector that is no
index, but is taken for one, leads nowhere. -/
theorem selectionSafe_iff {argument : Argument} {accumulator : Accumulator} {stored : PyVal}
    {items : List PyVal} (hvalue : argument.value = .none) (hfilled : accumulator.truthy)
    (hstored : argument.reference.bind accumulator.getItem = some stored)
    (hitems : argument.selection = .list items) :
    SelectionSafe argument accumulator stored items ↔ HarmlessSelection items stored := by
  rw [harmlessSelection_iff, SelectionSafe, getValue_of_stored hvalue hfilled hstored hitems]
  cases hfold : items.foldlM getNextSelection stored with
  | ok w =>
    constructor
    · rintro (⟨v, hv, -⟩ | ⟨-, message, h⟩)
      · exact .inl ⟨v, hv⟩
      · cases h
    · rintro (⟨v, hv⟩ | ⟨e, -, h⟩)
      · have hw : w = v := Except.ok.inj (hfold.symm.trans (foldlM_of_follows hv))
        exact .inl ⟨v, hv, by rw [hw]⟩
      · cases h
  | error e =>
    have hnone : ¬∃ v, Follows items stored v := fun ⟨v, hv⟩ => by
      rw [foldlM_of_follows hv] at hfold
      cases hfold
    rcases foldlM_error hfold with hpast | hcaught
    · constructor
      · rintro (⟨v, hv, -⟩ | ⟨-, message, h⟩)
        · exact absurd ⟨v, hv⟩ hnone
        · rcases hpast with rfl | rfl <;> cases h
      · rintro (h | ⟨e', he, h⟩)
        · exact absurd h hnone
        · cases h
          exact absurd he (not_caught_of_pastSelect hpast)
    · refine ⟨fun _ => .inr ⟨e, hcaught, rfl⟩, fun _ => .inr ⟨hnone, ?_⟩⟩
      rcases hcaught with rfl | rfl | rfl <;> exact ⟨_, rfl⟩

/-- An argument that selects from a stored list under the member `rows`. -/
def sampleSelecting (selection : List PyVal) : Argument :=
  Argument.init "table" .none (some (.uuid 1)) (.list selection)

def sampleStored : PyVal := .dict [("rows", .list [.str "first", .str "second"])]

def sampleResults : Accumulator :=
  { type := .memory, entries := [(.uuid 1, sampleStored)] }

/-- The second row of the example is selected. -/
theorem secondRow_selected :
    SelectionSafe (sampleSelecting [.str "rows", .str "1"]) sampleResults sampleStored
      [.str "rows", .str "1"] := by
  refine (selectionSafe_iff rfl rfl rfl rfl).mpr ⟨not_false, fun next hnext => ?_, ?_⟩
  · cases hnext with
    | member h =>
      cases h
      refine ⟨not_false, fun _ _ => trivial, ?_⟩
      rintro _ ⟨_, _, -, -, hplain, -⟩
      exact absurd ⟨1, .inr rfl⟩ hplain
  · rintro _ ⟨_, _, h, -, -, -⟩
    cases h

/-- The index -1 is answered with the last row. -/
theorem lastRow_selected :
    ¬SelectionSafe (sampleSelecting [.str "rows", .int (-1)]) sampleResults sampleStored
      [.str "rows", .int (-1)] := by
  rintro (⟨v, ⟨next, hfirst, last, hlast, -⟩, -⟩ | ⟨-, message, h⟩)
  · cases hfirst with
    | member h =>
      cases h
      cases hlast with
      | element hn _ => rcases hn with hn | hn <;> cases hn
  · cases h

end Walkoff.Analysis
