import Walkoff.Analysis.ReprReadings
import Walkoff.Library.EventStream

/-!
# Texts of one line

Neither `json.dumps` nor `repr` writes a line break: inside of strings it is escaped, and nothing
else holds one (`unbroken_dumps`, `unbroken_repr`).
-/

set_option autoImplicit false

namespace Walkoff.Analysis

open Walkoff.Library Walkoff.Model
open Walkoff.Library.EventStream

/-! ## Texts without line breaks -/

/-- The text is one line. -/
def Unbroken (text : String) : Prop :=
  ∀ c ∈ text.toList, isBreak c = false

/-- A test of its characters shows that a text has no line break. -/
theorem forall_of_all {cs : List Char} (h : cs.all (!isBreak ·) = true) :
    ∀ c ∈ cs, isBreak c = false := by
  simpa using h

/-- A text is unbroken if a test of its characters says so. -/
theorem unbroken_of_all {text : String} (h : text.toList.all (!isBreak ·) = true) :
    Unbroken text :=
  forall_of_all h

/-- Unbroken texts make an unbroken text. -/
theorem Unbroken.append {text rest : String} (h : Unbroken text) (hrest : Unbroken rest) :
    Unbroken (text ++ rest) := by
  intro c hc
  rw [String.toList_append, List.mem_append] at hc
  exact hc.elim (h c) (hrest c)

/-- Unbroken texts are joined to an unbroken one. -/
theorem unbroken_intercalate {texts : List String} (h : ∀ text ∈ texts, Unbroken text) :
    Unbroken (", ".intercalate texts) := by
  induction texts with
  | nil =>
    rintro c ⟨⟩
  | cons text texts ih =>
    obtain ⟨htext, htexts⟩ := List.forall_mem_cons.mp h
    cases texts with
    | nil =>
      rw [String.intercalate_singleton]
      exact htext
    | cons other texts =>
      rw [String.intercalate_cons_of_ne_nil (List.cons_ne_nil _ _)]
      have hcomma : Unbroken ", " := unbroken_of_all rfl
      exact (htext.append hcomma).append (ih htexts)

/-- No character from the space on is a line break. -/
theorem isBreak_of_toNat {c : Char} (h : 32 ≤ c.toNat) : isBreak c = false := by
  unfold isBreak
  rw [Bool.or_eq_false_iff, decide_eq_false_iff_not, decide_eq_false_iff_not]
  constructor <;> rintro rfl <;> revert h <;> decide

/-- A digit is no line break. -/
theorem isBreak_of_isDigit {c : Char} (h : c.isDigit = true) : isBreak c = false := by
  unfold isBreak
  rw [Bool.or_eq_false_iff, decide_eq_false_iff_not, decide_eq_false_iff_not]
  constructor <;> rintro rfl <;> revert h <;> decide

/-- A number is written without a line break. -/
theorem unbroken_toString (n : ℕ) : Unbroken (toString n) := by
  intro c hc
  have hdigits : (toString n).toList = Nat.toDigits 10 n := Nat.toList_repr
  rw [hdigits] at hc
  exact isBreak_of_isDigit (isDigit_toDigits n c hc)

/-- The same of an integer. -/
theorem unbroken_int (i : ℤ) : Unbroken (toString i) := by
  cases i with
  | ofNat n => exact unbroken_toString n
  | negSucc n =>
    have hminus : Unbroken "-" := unbroken_of_all rfl
    exact hminus.append (unbroken_toString n.succ)

/-- The same of a float. -/
theorem unbroken_floatRepr (m : ℤ) (e : ℕ) : Unbroken (PyVal.floatRepr m e) := by
  intro c hc
  have hdigits := fun h => isBreak_of_isDigit (isDigit_paddedDigits m.natAbs e c h)
  rw [toList_floatRepr, List.mem_append, List.mem_append, List.mem_cons] at hc
  rcases hc with hc | hc | rfl | hc
  · split_ifs at hc
    · rw [List.mem_singleton] at hc
      subst hc
      decide
    · cases hc
  · exact hdigits (List.mem_of_mem_take hc)
  · decide
  · split_ifs at hc
    · rw [List.mem_singleton] at hc
      subst hc
      decide
    · exact hdigits (List.mem_of_mem_drop hc)

/-! ## Texts of strings -/

/-- A hexadecimal digit is no line break. -/
theorem isBreak_hexDigit : ∀ n < 16, isBreak (UUID.hexDigit n) = false := by
  decide

/-- Hexadecimal digits have no line break. -/
theorem unbroken_hexDigits (width n : ℕ) : ∀ c ∈ UUID.hexDigits width n, isBreak c = false := by
  induction width generalizing n with
  | zero =>
    rintro c ⟨⟩
  | succ width ih =>
    intro c hc
    rcases List.mem_append.mp hc with hc | hc
    · exact ih _ c hc
    · rw [List.mem_singleton.mp hc]
      exact isBreak_hexDigit _ (Nat.mod_lt _ (by norm_num))

/-- An escape: a backslash, a letter and digits. -/
theorem unbroken_escape {letter : Char} (h : isBreak letter = false) (width n : ℕ) :
    ∀ c ∈ '\\' :: letter :: UUID.hexDigits width n, isBreak c = false :=
  List.forall_mem_cons.mpr ⟨by decide, List.forall_mem_cons.mpr ⟨h, unbroken_hexDigits width n⟩⟩

/-- A character is escaped without a line break. -/
theorem unbroken_escapeChar (c : Char) : ∀ d ∈ PyVal.escapeChar c, isBreak d = false := by
  have hunicode : ∀ n, ∀ d ∈ PyVal.unicodeEscape n, isBreak d = false :=
    unbroken_escape (by decide) 4
  unfold PyVal.escapeChar
  split_ifs with _ _ _ _ _ _ _ hascii
  · exact forall_of_all rfl
  · exact forall_of_all rfl
  · exact forall_of_all rfl
  · exact forall_of_all rfl
  · exact forall_of_all rfl
  · exact forall_of_all rfl
  · exact forall_of_all rfl
  · intro d hd
    rw [List.mem_singleton.mp hd]
    exact isBreak_of_toNat hascii.1
  · exact hunicode _
  · exact List.forall_mem_append.mpr ⟨hunicode _, hunicode _⟩

/-- Python writes a character without a line break. -/
theorem unbroken_reprChar (printable : Char → Bool) {quote : Char} (hquote : isBreak quote = false)
    (c : Char) : ∀ d ∈ PyRepr.reprChar printable quote c, isBreak d = false := by
  unfold PyRepr.reprChar
  split_ifs with hslash _ hn hr
  · refine List.forall_mem_cons.mpr ⟨by decide, List.forall_mem_singleton.mpr ?_⟩
    rcases hslash with rfl | rfl
    · exact hquote
    · decide
  · exact forall_of_all rfl
  · exact forall_of_all rfl
  · exact forall_of_all rfl
  · exact unbroken_escape (by decide) _ _
  · exact unbroken_escape (by decide) _ _
  · refine List.forall_mem_singleton.mpr ?_
    simp [isBreak, hn, hr]
  · exact unbroken_escape (by decide) _ _

/-- What is written piece by piece has no line break if no piece has. -/
theorem unbroken_flatMap {α : Type} {f : α → List Char} (hf : ∀ c, ∀ d ∈ f c, isBreak d = false)
    (cs : List α) : ∀ d ∈ cs.flatMap f, isBreak d = false := by
  intro d hd
  obtain ⟨c, -, hd⟩ := List.mem_flatMap.mp hd
  exact hf c d hd

/-- A string between two quotes. -/
theorem unbroken_quoted {quote : Char} (hquote : isBreak quote = false) {cs : List Char}
    (h : ∀ c ∈ cs, isBreak c = false) :
    Unbroken (String.ofList (quote :: (cs ++ [quote]))) := by
  unfold Unbroken
  rw [String.toList_ofList]
  exact List.forall_mem_cons.mpr
    ⟨hquote, List.forall_mem_append.mpr ⟨h, List.forall_mem_singleton.mpr hquote⟩⟩

/-- A quoted text has no line break. -/
theorem unbroken_quote (s : String) : Unbroken (PyVal.quote s) :=
  unbroken_quoted (by decide) (unbroken_flatMap unbroken_escapeChar s.toList)

/-- The same of quoted code points. -/
theorem unbroken_quoteCodePoints (codePoints : List ℕ) :
    Unbroken (PyVal.quoteCodePoints codePoints) := by
  refine unbroken_quoted (by decide) (unbroken_flatMap (fun u => ?_) codePoints)
  split
  · exact unbroken_escape (by decide) 4 u
  · exact unbroken_escapeChar _

/-- The same of a text as Python writes it. -/
theorem unbroken_reprStr (printable : Char → Bool) (s : String) :
    Unbroken (PyRepr.reprStr printable s) := by
  have hquote : isBreak (PyRepr.quoteOf s) = false := by
    rcases quoteOf_cases s with h | h
    · rw [h]
      decide
    · rw [h]
      decide
  exact unbroken_quoted hquote (unbroken_flatMap (unbroken_reprChar printable hquote) s.toList)

/-! ## Texts of values -/

/-- Unbroken texts in brackets are unbroken. -/
theorem unbroken_brackets {texts : List String} (h : ∀ text ∈ texts, Unbroken text) :
    Unbroken ("[" ++ ", ".intercalate texts ++ "]") := by
  have hopen : Unbroken "[" := unbroken_of_all rfl
  have hclose : Unbroken "]" := unbroken_of_all rfl
  exact (hopen.append (unbroken_intercalate h)).append hclose

/-- The same in braces. -/
theorem unbroken_braces {texts : List String} (h : ∀ text ∈ texts, Unbroken text) :
    Unbroken ("\x7b" ++ ", ".intercalate texts ++ "\x7d") := by
  have hopen : Unbroken "\x7b" := unbroken_of_all rfl
  have hclose : Unbroken "\x7d" := unbroken_of_all rfl
  exact (hopen.append (unbroken_intercalate h)).append hclose

/-- An unbroken key and value make an unbroken item. -/
theorem unbroken_item {key text : String} (hkey : Unbroken key) (h : Unbroken text) :
    Unbroken (key ++ ": " ++ text) := by
  have hcolon : Unbroken ": " := unbroken_of_all rfl
  exact (hkey.append hcolon).append h

mutual

/-- **A JSON text is one line.** -/
theorem unbroken_dumps : ∀ (v : PyVal) (text : String), v.dumps = .ok text → Unbroken text
  | .none, text, h => by
    obtain rfl := Except.ok.inj h
    exact unbroken_of_all rfl
  | .bool b, text, h => by
    obtain rfl := Except.ok.inj h
    cases b
    · exact unbroken_of_all rfl
    · exact unbroken_of_all rfl
  | .int i, text, h => by
    obtain rfl := Except.ok.inj h
    exact unbroken_int i
  | .float m e, text, h => by
    obtain rfl := Except.ok.inj h
    exact unbroken_floatRepr m e
  | .nonFinite f, text, h => by
    obtain rfl := Except.ok.inj h
    cases f <;> exact unbroken_of_all rfl
  | .str s, text, h => by
    obtain rfl := Except.ok.inj h
    exact unbroken_quote s
  | .surrogates codePoints, text, h => by
    obtain rfl := Except.ok.inj h
    exact unbroken_quoteCodePoints codePoints
  | .list xs, text, h => by
    rw [PyVal.dumps] at h
    obtain ⟨texts, htexts, htext⟩ := Except.bind_eq_ok.mp h
    obtain rfl := Except.ok.inj htext
    exact unbroken_brackets (unbroken_dumpsList xs texts htexts)
  | .dict items, text, h => by
    rw [PyVal.dumps] at h
    obtain ⟨texts, htexts, htext⟩ := Except.bind_eq_ok.mp h
    obtain rfl := Except.ok.inj htext
    exact unbroken_braces (unbroken_dumpsItems items texts htexts)
  | .object _, _, h => by cases h

/-- The elements of a list are dumped without line breaks. -/
theorem unbroken_dumpsList : ∀ (xs : List PyVal) (texts : List String),
    PyVal.dumpsList xs = .ok texts → ∀ text ∈ texts, Unbroken text
  | [], texts, h => by
    obtain rfl := Except.ok.inj h
    exact List.forall_mem_nil _
  | x :: xs, texts, h => by
    obtain ⟨text, rest, rfl, htext, hrest⟩ := dumpsList_cons h
    exact List.forall_mem_cons.mpr
      ⟨unbroken_dumps x text htext, unbroken_dumpsList xs rest hrest⟩

/-- The same of the items of a dictionary. -/
theorem unbroken_dumpsItems : ∀ (items : List (String × PyVal)) (texts : List String),
    PyVal.dumpsItems items = .ok texts → ∀ text ∈ texts, Unbroken text
  | [], texts, h => by
    obtain rfl := Except.ok.inj h
    exact List.forall_mem_nil _
  | (k, x) :: items, texts, h => by
    obtain ⟨text, rest, rfl, htext, hrest⟩ := dumpsItems_cons h
    exact List.forall_mem_cons.mpr
      ⟨unbroken_item (unbroken_quote k) (unbroken_dumps x text htext),
        unbroken_dumpsItems items rest hrest⟩

end

section

variable (printable : Char → Bool)

mutual

/-- **The `repr` of a value is one line.** -/
theorem unbroken_repr : ∀ v : PyVal, JsonText.isJson v = true →
    Unbroken (PyRepr.repr printable v)
  | .none, _ => by
    rw [PyRepr.repr]
    exact unbroken_of_all rfl
  | .bool b, _ => by
    rw [PyRepr.repr]
    cases b
    · exact unbroken_of_all rfl
    · exact unbroken_of_all rfl
  | .int i, _ => by
    rw [PyRepr.repr]
    exact unbroken_int i
  | .float m e, _ => by
    rw [PyRepr.repr]
    exact unbroken_floatRepr m e
  | .nonFinite f, _ => by
    rw [PyRepr.repr]
    cases f <;> exact unbroken_of_all rfl
  | .str s, _ => by
    rw [PyRepr.repr]
    exact unbroken_reprStr printable s
  | .list xs, h => by
    rw [PyRepr.repr]
    exact unbroken_brackets (unbroken_reprList xs (by simpa [JsonText.isJson] using h))
  | .dict items, h => by
    obtain ⟨-, hitems⟩ : (items.map Prod.fst).Nodup ∧ JsonText.isJsonItems items = true := by
      simpa [JsonText.isJson] using h
    rw [PyRepr.repr]
    exact unbroken_braces (unbroken_reprItems items hitems)
  | .object _, h => by cases h
  | .surrogates _, h => by cases h

/-- Python writes the elements of a list without line breaks. -/
theorem unbroken_reprList : ∀ xs : List PyVal, JsonText.isJsonList xs = true →
    ∀ text ∈ PyRepr.reprList printable xs, Unbroken text
  | [], _ => by
    rw [PyRepr.reprList]
    exact List.forall_mem_nil _
  | x :: xs, h => by
    obtain ⟨hx, hxs⟩ : JsonText.isJson x = true ∧ JsonText.isJsonList xs = true := by
      simpa [JsonText.isJsonList] using h
    rw [PyRepr.reprList]
    exact List.forall_mem_cons.mpr ⟨unbroken_repr x hx, unbroken_reprList xs hxs⟩

/-- The same of the items of a dictionary. -/
theorem unbroken_reprItems : ∀ items : List (String × PyVal),
    JsonText.isJsonItems items = true →
    ∀ text ∈ PyRepr.reprItems printable items, Unbroken text
  | [], _ => by
    rw [PyRepr.reprItems]
    exact List.forall_mem_nil _
  | (k, x) :: items, h => by
    obtain ⟨hx, hitems⟩ : JsonText.isJson x = true ∧ JsonText.isJsonItems items = true := by
      simpa [JsonText.isJsonItems] using h
    rw [PyRepr.reprItems]
    exact List.forall_mem_cons.mpr
      ⟨unbroken_item (unbroken_reprStr printable k) (unbroken_repr x hx),
        unbroken_reprItems items hitems⟩

end

end

end Walkoff.Analysis
