import Walkoff.Analysis.JsonRoundTrip
import Walkoff.Model.PyRepr

/-!
# Reading `repr` as JSON

The `repr` of a value is a JSON text only if it holds nothing but numbers, lists, dictionaries and
strings that Python writes between double quotes and without the escapes `\x` and `\U`. It is then
the text of that value (`loads_repr`).
-/

set_option autoImplicit false

namespace Walkoff.Analysis

open Walkoff.Model Walkoff.Model.JsonText
open Walkoff.Library (OrderedDict)

variable (printable : Char → Bool)

/-- Python writes the string as JSON does read it. -/
def legibleText (s : String) : Bool :=
  PyRepr.quoteOf s = '"' && s.toList.all fun c => !PyRepr.hexEscaped printable c

mutual

/-- Python writes the value as JSON does read it. -/
def legible : PyVal → Bool
  | .none => false
  | .bool _ => false
  | .int _ => true
  | .float _ _ => true
  | .nonFinite _ => false
  | .str s => legibleText printable s
  | .surrogates _ => false
  | .list xs => legibleList xs
  | .dict items => legibleItems items
  | .object _ => false

def legibleList : List PyVal → Bool
  | [] => true
  | x :: xs => legible x && legibleList xs

def legibleItems : List (String × PyVal) → Bool
  | [] => true
  | (k, x) :: items => legibleText printable k && (legible x && legibleItems items)

end

variable {printable}

/-! ## Strings -/

/-- A character that Python writes without a hexadecimal escape is read back. -/
theorem readUnits_reprChar {c : Char} (hquote : c ≠ '"')
    (h : PyRepr.hexEscaped printable c = false) (cs : List Char) :
    readUnits (PyRepr.reprChar printable '"' c ++ cs) =
      (readUnits cs).map (addUnits [c.toNat]) := by
  unfold PyRepr.reprChar
  by_cases hslash : c = '\\'
  · subst hslash
    exact @readUnits_simpleEscape '\\' 92 (by decide) (by decide) cs
  rw [if_neg (not_or.mpr ⟨hquote, hslash⟩)]
  by_cases ht : c = '\t'
  · subst ht
    exact @readUnits_simpleEscape 't' 9 (by decide) (by decide) cs
  rw [if_neg ht]
  by_cases hn : c = '\n'
  · subst hn
    exact @readUnits_simpleEscape 'n' 10 (by decide) (by decide) cs
  rw [if_neg hn]
  by_cases hr : c = '\r'
  · subst hr
    exact @readUnits_simpleEscape 'r' 13 (by decide) (by decide) cs
  rw [if_neg hr, h, if_neg Bool.false_ne_true]
  unfold PyRepr.hexEscaped at h
  rw [if_neg (not_or.mpr ⟨ht, not_or.mpr ⟨hn, hr⟩⟩)] at h
  split_ifs at h with hcontrol hraw
  · rw [if_pos hraw]
    exact readUnits_plain hquote hslash (by omega) cs
  · rw [if_neg hraw]
    simp only [Bool.or_eq_false_iff, decide_eq_false_iff_not] at h
    exact readUnits_unicodeEscape (by omega) cs

/-- A character with a hexadecimal escape is not read. -/
theorem readUnits_hexEscaped {c : Char} (h : PyRepr.hexEscaped printable c = true)
    (hquote : c ≠ '"') (cs : List Char) :
    readUnits (PyRepr.reprChar printable '"' c ++ cs) = none := by
  have hslash : c ≠ '\\' := by
    rintro rfl
    revert h
    cases hp : printable '\\' <;> simp [PyRepr.hexEscaped, hp]
  unfold PyRepr.reprChar
  rw [if_neg (not_or.mpr ⟨hquote, hslash⟩)]
  have hblank : ¬(c = '\t' ∨ c = '\n' ∨ c = '\r') := by
    intro hc
    unfold PyRepr.hexEscaped at h
    rw [if_pos hc] at h
    cases h
  obtain ⟨ht, hn, hr⟩ : c ≠ '\t' ∧ c ≠ '\n' ∧ c ≠ '\r' := by
    simpa [not_or] using hblank
  rw [if_neg ht, if_neg hn, if_neg hr, if_pos h]
  have hbad : ∀ e : Char, e ≠ 'u' → simpleEscape e = none → ∀ rest,
      readUnits ('\\' :: e :: rest) = none := by
    intro e he hescape rest
    rw [readUnits.eq_def]
    dsimp only
    rw [if_neg (by decide), if_pos rfl, if_neg he, hescape]
    rfl
  split_ifs
  · exact hbad 'x' (by decide) (by decide) _
  · exact hbad 'U' (by decide) (by decide) _

/-- What is between the double quotes is read to its end, or not at all. -/
theorem readUnits_repr {cs : List Char} (hquote : '"' ∉ cs) (rest : List Char) :
    readUnits (cs.flatMap (PyRepr.reprChar printable '"') ++ '"' :: rest) =
      if cs.all (fun c => !PyRepr.hexEscaped printable c) then some (cs.map Char.toNat, rest)
      else none := by
  induction cs with
  | nil =>
    show readUnits ('"' :: rest) = some ([], rest)
    rw [readUnits.eq_def]
    dsimp only
    rw [if_pos rfl]
  | cons c cs ih =>
    obtain ⟨hc, hcs⟩ := not_or.mp (List.mem_cons.not.mp hquote)
    rw [List.flatMap_cons, List.append_assoc, List.all_cons]
    cases hescaped : PyRepr.hexEscaped printable c with
    | true =>
      rw [readUnits_hexEscaped hescaped (Ne.symm hc)]
      rfl
    | false =>
      rw [readUnits_reprChar (Ne.symm hc) hescaped, ih hcs]
      simp only [Bool.not_false, Bool.true_and]
      split_ifs
      · rfl
      · rfl

/-- The characters decode to themselves. -/
theorem decodeUnits_toNat (cs : List Char) : decodeUnits (cs.map Char.toNat) = cs := by
  have hchar : ∀ c : Char, unitChar c.toNat = c := by
    intro c
    obtain ⟨hhigh, hlow⟩ := not_surrogate c
    rw [unitChar, hhigh, hlow]
    exact Char.ofNat_toNat c
  induction cs with
  | nil => rfl
  | cons c cs ih =>
    cases cs with
    | nil =>
      show [unitChar c.toNat] = [c]
      rw [hchar]
    | cons d cs =>
      obtain ⟨hhigh, -⟩ := not_surrogate c
      show decodeUnits (c.toNat :: d.toNat :: cs.map Char.toNat) = _
      rw [decodeUnits, hhigh, hchar]
      exact congrArg (List.cons c) ih

/-- The string that the reader finds, if it finds one. -/
def readAs {α : Type} (readable : Bool) (a : α) : Option α :=
  if readable then some a else none

/-- A text in double quotes is read exactly if it is legible. -/
theorem readString_repr {s : String} (h : PyRepr.quoteOf s = '"') (rest : List Char) :
    readString (s.toList.flatMap (PyRepr.reprChar printable '"') ++ '"' :: rest) =
      (readAs (legibleText printable s) s).map (·, rest) := by
  have hquote : '"' ∉ s.toList := by
    unfold PyRepr.quoteOf at h
    split_ifs at h with hcond
    · exact hcond.2
    · exact absurd h (by decide)
  rw [readString, readUnits_repr hquote]
  unfold readAs legibleText
  rw [h]
  simp only [decide_true, Bool.true_and]
  split_ifs with hall
  · show some (String.ofList (decodeUnits (s.toList.map Char.toNat)), rest) = _
    rw [decodeUnits_toNat, String.ofList_toList]
    rfl
  · rfl

/-! ## Values -/

/-- The characters a `repr` can start with: no blank and no closing bracket. -/
def startsText (c : Char) : Bool :=
  c ≠ ' ' && c ≠ '\t' && c ≠ '\n' && c ≠ '\r' && c ≠ ']' && c ≠ '\x7d'

/-- What starts a text is no space. -/
theorem skipSpace_of_startsText {c : Char} (h : startsText c = true) (cs : List Char) :
    skipSpace (c :: cs) = c :: cs := by
  rw [skipSpace, if_neg]
  rintro (rfl | rfl | rfl | rfl) <;> revert h <;> decide

/-- What starts a number starts a text. -/
theorem startsText_of_startsNumber {c : Char} (h : startsNumber c = true) :
    startsText c = true := by
  simp only [startsText, Bool.and_eq_true, decide_eq_true_eq]
  refine ⟨⟨⟨⟨⟨?_, ?_⟩, ?_⟩, ?_⟩, ?_⟩, ?_⟩ <;> rintro rfl <;> revert h <;> decide

/-- The `repr` of a string starts with its quote. -/
theorem toList_reprStr (s : String) : (PyRepr.reprStr printable s).toList =
    PyRepr.quoteOf s ::
      (s.toList.flatMap (PyRepr.reprChar printable (PyRepr.quoteOf s)) ++ [PyRepr.quoteOf s]) :=
  String.toList_ofList

/-- A text is written in double or in single quotes. -/
theorem quoteOf_cases (s : String) : PyRepr.quoteOf s = '"' ∨ PyRepr.quoteOf s = '\'' := by
  unfold PyRepr.quoteOf
  split_ifs
  · exact .inl rfl
  · exact .inr rfl

/-- Its quote starts a text. -/
theorem startsText_quoteOf (s : String) : startsText (PyRepr.quoteOf s) = true := by
  rcases quoteOf_cases s with h | h
  · rw [h]
    decide
  · rw [h]
    decide

/-- What Python writes starts a text. -/
theorem head_repr : ∀ v : PyVal, isJson v = true →
    ∃ c cs, (PyRepr.repr printable v).toList = c :: cs ∧ startsText c = true
  | .none, _ => by
    rw [PyRepr.repr]
    exact ⟨'N', _, rfl, by decide⟩
  | .bool b, _ => by
    rw [PyRepr.repr]
    cases b
    · exact ⟨'F', _, rfl, by decide⟩
    · exact ⟨'T', _, rfl, by decide⟩
  | .int i, _ => by
    rw [PyRepr.repr]
    obtain ⟨c, cs, hcs, hc⟩ := head_int i
    exact ⟨c, cs, hcs, startsText_of_startsNumber hc⟩
  | .float m e, _ => by
    rw [PyRepr.repr]
    obtain ⟨c, cs, hcs, hc⟩ := head_float m e
    exact ⟨c, cs, hcs, startsText_of_startsNumber hc⟩
  | .nonFinite f, _ => by
    rw [PyRepr.repr]
    cases f
    · exact ⟨'i', _, rfl, by decide⟩
    · exact ⟨'-', _, rfl, by decide⟩
    · exact ⟨'n', _, rfl, by decide⟩
  | .str s, _ => by
    rw [PyRepr.repr]
    exact ⟨_, _, toList_reprStr s, startsText_quoteOf s⟩
  | .list xs, _ => by
    rw [PyRepr.repr]
    exact ⟨'[', _, toList_brackets _, by decide⟩
  | .dict items, _ => by
    rw [PyRepr.repr]
    exact ⟨'\x7b', _, toList_braces _, by decide⟩

/-- What the reader does with one value: it finds it and the text behind it, or nothing. -/
def ReadsTo (o : Option PyVal) (text : String) : Prop :=
  ∀ (fuel : ℕ) (rest : List Char), text.toList.length ≤ fuel → NumberEnd rest →
    readValue fuel (text.toList ++ rest) = o.map (·, rest)

/-- The same for the elements of a list. -/
def ElementsReadAs (o : Option (List PyVal)) (texts : List String) : Prop :=
  ∀ (fuel : ℕ) (rest : List Char), (", ".intercalate texts).toList.length + 1 ≤ fuel →
    readElements fuel ((", ".intercalate texts).toList ++ ']' :: rest) = o.map (·, rest)

/-- The same for the items of a dictionary. -/
def ItemsReadAs (o : Option (List (String × PyVal))) (texts : List String) : Prop :=
  ∀ (fuel : ℕ) (rest : List Char), (", ".intercalate texts).toList.length + 1 ≤ fuel →
    readItems fuel ((", ".intercalate texts).toList ++ '\x7d' :: rest) = o.map (·, rest)

/-- What reads back is read as itself. -/
theorem ReadsTo.of_readsBack {v : PyVal} {text : String} (h : ReadsBack v text) :
    ReadsTo (some v) text :=
  h

/-- It is enough to read with some fuel left. -/
theorem readsAs_of_succ {o : Option PyVal} {text : String} {c : Char} {cs : List Char}
    (htext : text.toList = c :: cs)
    (h : ∀ (fuel : ℕ) (rest : List Char), cs.length ≤ fuel →
      readValue (fuel + 1) (c :: (cs ++ rest)) = o.map (·, rest)) : ReadsTo o text := by
  intro fuel rest hfuel _
  rw [htext, List.length_cons] at hfuel
  obtain ⟨fuel, rfl⟩ : ∃ k, fuel = k + 1 := ⟨fuel - 1, by omega⟩
  rw [htext]
  exact h fuel rest (by omega)

/-- `None` is not read. -/
theorem readsAs_none : ReadsTo none "None" :=
  readsAs_of_succ rfl fun _ _ _ => rfl

/-- `True` and `False` are not read. -/
theorem readsAs_bool (b : Bool) : ReadsTo none (if b then "True" else "False") := by
  cases b with
  | true => exact readsAs_of_succ rfl fun _ _ _ => rfl
  | false => exact readsAs_of_succ rfl fun _ _ _ => rfl

/-- `inf` and `nan` are not read. -/
theorem readsAs_nonFinite (f : NonFinite) : ReadsTo none f.repr := by
  cases f with
  | inf => exact readsAs_of_succ rfl fun _ _ _ => rfl
  | negInf => exact readsAs_of_succ rfl fun _ _ _ => rfl
  | nan => exact readsAs_of_succ rfl fun _ _ _ => rfl

/-- A text is read exactly if it is legible. -/
theorem readsAs_str (s : String) :
    ReadsTo (readAs (legibleText printable s) (.str s)) (PyRepr.reprStr printable s) := by
  refine readsAs_of_succ (toList_reprStr s) fun fuel rest _ => ?_
  rcases quoteOf_cases s with h | h
  · rw [h, List.append_assoc, List.singleton_append, readValue, readString_repr h]
    unfold readAs
    split_ifs
    · rfl
    · rfl
  · have hnot : legibleText printable s = false := by
      unfold legibleText
      rw [h]
      rfl
    rw [h, hnot]
    rfl

/-! ## Lists -/

/-- The list that the reader finds when it finds its elements. -/
def consAs {α : Type} (x : Option α) (xs : Option (List α)) : Option (List α) :=
  x.bind fun x => xs.map (x :: ·)

/-- One element is read up to the closing bracket. -/
theorem elementsReadAs_single {o : Option PyVal} {text : String} (h : ReadsTo o text) :
    ElementsReadAs (consAs o (some [])) [text] := by
  intro fuel rest hfuel
  rw [String.intercalate_singleton] at hfuel ⊢
  obtain ⟨fuel, rfl⟩ : ∃ k, fuel = k + 1 := ⟨fuel - 1, by omega⟩
  rw [readElements, h fuel (']' :: rest) (by omega) (numberEnd_cons (by simp) _)]
  cases o <;> rfl

/-- An element is read before others. -/
theorem elementsReadAs_cons {o : Option PyVal} {os : Option (List PyVal)} {text text' : String}
    {texts : List String} {c : Char} {cs : List Char} (h : ReadsTo o text)
    (htext' : text'.toList = c :: cs) (hc : startsText c = true)
    (hmore : ElementsReadAs os (text' :: texts)) :
    ElementsReadAs (consAs o os) (text :: text' :: texts) := by
  obtain ⟨cs', hcs'⟩ := head_intercalate htext' texts
  intro fuel rest hfuel
  rw [toList_intercalate_cons _ _ (List.cons_ne_nil _ _)] at hfuel ⊢
  rw [List.length_append, List.length_cons, List.length_cons] at hfuel
  obtain ⟨fuel, rfl⟩ : ∃ k, fuel = k + 1 := ⟨fuel - 1, by omega⟩
  have hread := h fuel
    (',' :: ' ' :: ((", ".intercalate (text' :: texts)).toList ++ ']' :: rest)) (by omega)
    (numberEnd_cons (by simp) _)
  have hmore := hmore fuel rest (by omega)
  rw [List.append_assoc, List.cons_append, List.cons_append, readElements, hread]
  cases o with
  | none => rfl
  | some x =>
    rw [hcs', List.cons_append] at hmore ⊢
    show (readElements fuel (skipSpace (c :: (cs' ++ ']' :: rest)))).bind _ = _
    rw [skipSpace_of_startsText hc, hmore]
    cases os <;> rfl

/-- Where a text starts, the bracket is not closed. -/
theorem closedOr_of_startsText {α : Type} {close c : Char} (h : startsText c = true)
    (hclose : startsText close = false) (empty : α) (more : List Char → Option (α × List Char))
    (cs : List Char) : closedOr close empty more (c :: cs) = more (c :: cs) := by
  unfold closedOr
  rw [skipSpace_of_startsText h]
  refine if_neg ?_
  rintro rfl
  rw [h] at hclose
  cases hclose

/-- A list is read as its elements are. -/
theorem readsAs_list {os : Option (List PyVal)} {text : String} {texts : List String} {c : Char}
    {cs : List Char} (htext : text.toList = c :: cs) (hc : startsText c = true)
    (h : ElementsReadAs os (text :: texts)) :
    ReadsTo (os.map .list) ("[" ++ ", ".intercalate (text :: texts) ++ "]") := by
  obtain ⟨cs', hcs'⟩ := head_intercalate htext texts
  refine readsAs_of_succ (toList_brackets _) fun fuel rest hfuel => ?_
  rw [List.length_append] at hfuel
  have hread := h fuel rest hfuel
  rw [List.append_assoc, List.singleton_append]
  rw [hcs', List.cons_append] at hread ⊢
  rw [readValue, closedOr_of_startsText hc (by decide), hread]
  cases os <;> rfl

/-! ## Dictionaries -/

/-- The characters of a written item. -/
theorem toList_reprItem (k text : String) : (PyRepr.reprStr printable k ++ ": " ++ text).toList =
    PyRepr.quoteOf k :: (k.toList.flatMap (PyRepr.reprChar printable (PyRepr.quoteOf k)) ++
      PyRepr.quoteOf k :: ':' :: ' ' :: text.toList) := by
  rw [String.toList_append, String.toList_append, toList_reprStr]
  simp

/-- A key that is not legible ends the reading. -/
theorem readItems_illegible {k : String} (h : legibleText printable k = false) (fuel : ℕ)
    (rest : List Char) :
    readItems fuel (PyRepr.quoteOf k ::
      (k.toList.flatMap (PyRepr.reprChar printable (PyRepr.quoteOf k)) ++
        PyRepr.quoteOf k :: rest)) = none := by
  cases fuel with
  | zero => rfl
  | succ fuel =>
    rcases quoteOf_cases k with hquote | hquote
    · rw [hquote, readItems, readString_repr hquote, h]
      rfl
    · rw [hquote]
      rfl

/-- Behind a legible key the value is read. -/
theorem readItems_legible {k : String} (h : legibleText printable k = true) (fuel : ℕ)
    {c : Char} (hc : startsText c = true) (cs : List Char) :
    readItems (fuel + 1) (PyRepr.quoteOf k ::
      (k.toList.flatMap (PyRepr.reprChar printable (PyRepr.quoteOf k)) ++
        PyRepr.quoteOf k :: ':' :: ' ' :: c :: cs)) =
      (readValue fuel (c :: cs)).bind fun read =>
        match skipSpace read.2 with
        | '\x7d' :: rest => some ([(k, read.1)], rest)
        | ',' :: cs => (readItems fuel (skipSpace cs)).bind fun items =>
          some ((k, read.1) :: items.1, items.2)
        | _ => none := by
  have hquote : PyRepr.quoteOf k = '"' := by
    unfold legibleText at h
    exact of_decide_eq_true (Bool.and_eq_true_iff.mp h).1
  rw [hquote, readItems, readString_repr hquote, h]
  show (readValue fuel (skipSpace (c :: cs))).bind _ = _
  rw [skipSpace_of_startsText hc]
  rfl

variable (printable) in
/-- The item that the reader finds when it finds its value. -/
def itemAs (k : String) (o : Option PyVal) : Option (String × PyVal) :=
  if legibleText printable k then o.map (k, ·) else none

/-- One item is read up to the closing brace. -/
theorem itemsReadAs_single {k text : String} {o : Option PyVal} {c : Char} {cs : List Char}
    (htext : text.toList = c :: cs) (hc : startsText c = true) (h : ReadsTo o text) :
    ItemsReadAs (consAs (itemAs printable k o) (some []))
      [PyRepr.reprStr printable k ++ ": " ++ text] := by
  intro fuel rest hfuel
  rw [String.intercalate_singleton, toList_reprItem] at hfuel ⊢
  simp only [List.length_cons, List.length_append] at hfuel
  rw [List.cons_append, List.append_assoc, List.cons_append, List.cons_append, List.cons_append]
  unfold itemAs
  cases hk : legibleText printable k with
  | false =>
    rw [readItems_illegible hk]
    rfl
  | true =>
    obtain ⟨fuel, rfl⟩ : ∃ k, fuel = k + 1 := ⟨fuel - 1, by omega⟩
    have hread := h fuel ('\x7d' :: rest) (by omega) (numberEnd_cons (by simp) _)
    rw [htext, List.cons_append] at hread ⊢
    rw [readItems_legible hk fuel hc, hread]
    cases o <;> rfl

/-- An item is read before others. -/
theorem itemsReadAs_cons {k l text text' : String} {o : Option PyVal}
    {os : Option (List (String × PyVal))} {texts : List String} {c : Char} {cs : List Char}
    (htext : text.toList = c :: cs) (hc : startsText c = true) (h : ReadsTo o text)
    (hmore : ItemsReadAs os ((PyRepr.reprStr printable l ++ ": " ++ text') :: texts)) :
    ItemsReadAs (consAs (itemAs printable k o) os)
      ((PyRepr.reprStr printable k ++ ": " ++ text) ::
        (PyRepr.reprStr printable l ++ ": " ++ text') :: texts) := by
  obtain ⟨cs', hcs'⟩ := head_intercalate (@toList_reprItem printable l text') texts
  intro fuel rest hfuel
  rw [toList_intercalate_cons _ _ (List.cons_ne_nil _ _), toList_reprItem] at hfuel ⊢
  simp only [List.length_cons, List.length_append] at hfuel
  rw [List.append_assoc, List.cons_append, List.append_assoc, List.cons_append, List.cons_append,
    List.cons_append, List.cons_append, List.cons_append]
  unfold itemAs
  cases hk : legibleText printable k with
  | false =>
    rw [readItems_illegible hk]
    rfl
  | true =>
    obtain ⟨fuel, rfl⟩ : ∃ k, fuel = k + 1 := ⟨fuel - 1, by omega⟩
    have hread := h fuel (',' :: ' ' :: ((", ".intercalate
      ((PyRepr.reprStr printable l ++ ": " ++ text') :: texts)).toList ++ '\x7d' :: rest))
      (by omega) (numberEnd_cons (by simp) _)
    have hmore := hmore fuel rest (by omega)
    rw [htext, List.cons_append] at hread ⊢
    rw [readItems_legible hk fuel hc, hread]
    cases o with
    | none => rfl
    | some x =>
      rw [hcs', List.cons_append] at hmore ⊢
      show (readItems fuel (skipSpace (PyRepr.quoteOf l :: (cs' ++ '\x7d' :: rest)))).bind _ = _
      rw [skipSpace_of_startsText (startsText_quoteOf l), hmore]
      cases os <;> rfl

/-- A dictionary is read as its items are. -/
theorem readsAs_dict {k text : String} {os : Option (List (String × PyVal))}
    {texts : List String}
    (h : ItemsReadAs os ((PyRepr.reprStr printable k ++ ": " ++ text) :: texts)) :
    ReadsTo (os.map fun items => .dict (OrderedDict.update [] items))
      ("\x7b" ++ ", ".intercalate ((PyRepr.reprStr printable k ++ ": " ++ text) :: texts) ++
        "\x7d") := by
  obtain ⟨cs', hcs'⟩ := head_intercalate (@toList_reprItem printable k text) texts
  refine readsAs_of_succ (toList_braces _) fun fuel rest hfuel => ?_
  rw [List.length_append] at hfuel
  have hread := h fuel rest hfuel
  rw [List.append_assoc, List.singleton_append]
  rw [hcs', List.cons_append] at hread ⊢
  rw [readValue, closedOr_of_startsText (startsText_quoteOf k) (by decide), hread]
  cases os <;> rfl

/-! ## Every value -/

/-- A list is legible if its head and its tail are. -/
theorem consAs_readAs {α : Type} (a b : Bool) (x : α) (xs : List α) :
    consAs (readAs a x) (readAs b xs) = readAs (a && b) (x :: xs) := by
  cases a <;> cases b <;> rfl

/-- An item is legible if its key and its value are. -/
theorem itemAs_readAs (k : String) (b : Bool) (x : PyVal) :
    itemAs printable k (readAs b x) = readAs (legibleText printable k && b) (k, x) := by
  unfold itemAs
  cases legibleText printable k <;> cases b <;> rfl

/-- A constructor does not change what is legible. -/
theorem map_readAs {α β : Type} (f : α → β) (b : Bool) (x : α) :
    (readAs b x).map f = readAs b (f x) := by
  cases b <;> rfl

/-- A legible element is read before others, if there are any. -/
theorem elementsReadAs_step {x : PyVal} {xs : List PyVal} (hxs : isJsonList xs = true)
    (h : ReadsTo (readAs (legible printable x) x) (PyRepr.repr printable x))
    (hmore : xs ≠ [] →
      ElementsReadAs (readAs (legibleList printable xs) xs) (PyRepr.reprList printable xs)) :
    ElementsReadAs (readAs (legibleList printable (x :: xs)) (x :: xs))
      (PyRepr.reprList printable (x :: xs)) := by
  rw [legibleList, ← consAs_readAs]
  cases xs with
  | nil => exact elementsReadAs_single h
  | cons y xs =>
    have hmore := hmore (List.cons_ne_nil _ _)
    obtain ⟨c, cs, hcs, hc⟩ := @head_repr printable y (by
      rw [isJsonList, Bool.and_eq_true] at hxs
      exact hxs.1)
    exact elementsReadAs_cons h hcs hc hmore

/-- A legible item is read before others, if there are any. -/
theorem itemsReadAs_step {k : String} {x : PyVal} {items : List (String × PyVal)}
    (hx : isJson x = true)
    (h : ReadsTo (readAs (legible printable x) x) (PyRepr.repr printable x))
    (hmore : items ≠ [] → ItemsReadAs (readAs (legibleItems printable items) items)
      (PyRepr.reprItems printable items)) :
    ItemsReadAs (readAs (legibleItems printable ((k, x) :: items)) ((k, x) :: items))
      (PyRepr.reprItems printable ((k, x) :: items)) := by
  obtain ⟨c, cs, hcs, hc⟩ := @head_repr printable x hx
  rw [legibleItems, ← Bool.and_assoc, ← consAs_readAs, ← itemAs_readAs]
  cases items with
  | nil => exact itemsReadAs_single hcs hc h
  | cons item items =>
    obtain ⟨l, y⟩ := item
    exact itemsReadAs_cons hcs hc h (hmore (List.cons_ne_nil _ _))

mutual

/-- **The reader finds a legible value in its `repr`, and nothing in any other.** -/
theorem readsAs_repr : ∀ v : PyVal, isJson v = true →
    ReadsTo (readAs (legible printable v) v) (PyRepr.repr printable v)
  | .none, _ => by
    rw [PyRepr.repr, legible]
    exact readsAs_none
  | .bool b, _ => by
    rw [PyRepr.repr, legible]
    exact readsAs_bool b
  | .int i, _ => by
    rw [PyRepr.repr, legible]
    exact .of_readsBack (readsBack_int i)
  | .float m e, hjson => by
    rw [PyRepr.repr, legible]
    exact .of_readsBack (readsBack_float hjson)
  | .nonFinite f, _ => by
    rw [PyRepr.repr, legible]
    exact readsAs_nonFinite f
  | .str s, _ => by
    rw [PyRepr.repr, legible]
    exact readsAs_str s
  | .list xs, hjson => by
    have hread := elementsReadAs_repr xs (by simpa [isJson] using hjson)
    cases xs with
    | nil =>
      rw [PyRepr.repr, legible, PyRepr.reprList, legibleList]
      exact readsAs_of_succ rfl fun _ _ _ => rfl
    | cons x xs =>
      have hx : isJson x = true := by
        simp only [isJson, isJsonList, Bool.and_eq_true] at hjson
        exact hjson.1
      obtain ⟨c, cs, hcs, hc⟩ := @head_repr printable x hx
      have hlist := readsAs_list hcs hc (hread (List.cons_ne_nil _ _))
      rw [map_readAs] at hlist
      rw [PyRepr.repr, legible, PyRepr.reprList]
      exact hlist
  | .dict items, hjson => by
    obtain ⟨hkeys, hitems⟩ : (items.map Prod.fst).Nodup ∧ isJsonItems items = true := by
      simpa [isJson] using hjson
    have hread := itemsReadAs_repr items hitems
    cases items with
    | nil =>
      rw [PyRepr.repr, legible, PyRepr.reprItems, legibleItems]
      exact readsAs_of_succ rfl fun _ _ _ => rfl
    | cons item items =>
      obtain ⟨k, x⟩ := item
      have hdict := readsAs_dict (hread (List.cons_ne_nil _ _))
      have hupdate := @OrderedDict.update_of_nodup _ _ _ [] ((k, x) :: items) hkeys
      rw [map_readAs, hupdate] at hdict
      rw [PyRepr.repr, legible, PyRepr.reprItems]
      exact hdict
  | .object _, hjson => by cases hjson

/-- The elements of a list are read exactly if they are legible. -/
theorem elementsReadAs_repr : ∀ xs : List PyVal, isJsonList xs = true → xs ≠ [] →
    ElementsReadAs (readAs (legibleList printable xs) xs) (PyRepr.reprList printable xs)
  | [], _, hne => absurd rfl hne
  | x :: xs, hjson, _ => by
    obtain ⟨hx, hxs⟩ : isJson x = true ∧ isJsonList xs = true := by
      simpa [isJsonList] using hjson
    exact elementsReadAs_step hxs (readsAs_repr x hx) (elementsReadAs_repr xs hxs)

/-- The items of a dictionary are read exactly if they are legible. -/
theorem itemsReadAs_repr : ∀ items : List (String × PyVal), isJsonItems items = true →
    items ≠ [] → ItemsReadAs (readAs (legibleItems printable items) items)
      (PyRepr.reprItems printable items)
  | [], _, hne => absurd rfl hne
  | (k, x) :: items, hjson, _ => by
    obtain ⟨hx, hitems⟩ : isJson x = true ∧ isJsonItems items = true := by
      simpa [isJsonItems] using hjson
    exact itemsReadAs_step hx (readsAs_repr x hx) (itemsReadAs_repr items hitems)

end

/-- **`json.loads` reads the `repr` of a value as that value if it is legible, and not at all
otherwise.** -/
theorem loads_repr {v : PyVal} (h : isJson v = true) :
    loads (PyRepr.repr printable v) = readAs (legible printable v) v := by
  obtain ⟨c, cs, hcs, hc⟩ := @head_repr printable v h
  have hread := readsAs_repr v h ((PyRepr.repr printable v).toList.length + 1) []
    (Nat.le_succ _) (by rintro c ⟨⟩)
  have hskip : skipSpace (PyRepr.repr printable v).toList = (PyRepr.repr printable v).toList := by
    rw [hcs, skipSpace_of_startsText hc]
  rw [List.append_nil] at hread
  unfold loads
  rw [hskip, hread]
  cases legible printable v <;> rfl

end Walkoff.Analysis
