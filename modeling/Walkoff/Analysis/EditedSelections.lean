import Walkoff.Analysis.JsNumberTexts
import Walkoff.Program.PlaybookEditor

/-!
# Selections through the playbook editor

A selection list is joined with dots when a workflow is loaded and split again when it is saved.
The list that comes back is the one that went in exactly when no element contains a dot, no key is
a JavaScript numeral and no blank stands at either end (`keepsSelections_iff`).
-/

set_option autoImplicit false

namespace Walkoff.Analysis

open Walkoff.Model Walkoff.Program

/-- The argument as it is saved without having been edited. -/
def savedArgument (argument : EditorArgument) : Option SavedArgument :=
  sanitizeArgument (loadArgument argument)

/-- What is saved of a workflow that has been loaded. -/
theorem saveWorkflow_setupGraph (workflow : EditorWorkflow) :
    saveWorkflow (setupGraph workflow) =
      (workflow.actions.getD []).map fun action => action.arguments.filterMap savedArgument := by
  unfold saveWorkflow setupGraph sanitizeArgumentsForSave
  simp only [Option.getD_some, List.map_map, List.filterMap_map, Function.comp_def]
  rfl

/-- Loading and saving keeps the selection list of every argument with a reference. -/
def KeepsSelections (workflow : EditorWorkflow) : Prop :=
  ∀ action ∈ workflow.actions.getD [], ∀ argument ∈ action.arguments, ∀ xs,
    isReferenced argument.reference = true → argument.selection = some (.items xs) →
      ∃ saved, savedArgument argument = some saved ∧
        saved.selection = some (xs.map SelectionItem.selector)

/-- A selection list that comes back as it was. -/
structure Survives (xs : List SelectionItem) : Prop where
  undotted : ∀ x ∈ xs, '.' ∉ x.toText
  noNumeral : ∀ key, .key key ∈ xs → JsNumber.ofText key.toList = none
  noBlankFirst : ∀ key, xs.head? = some (.key key) → ∀ c, key.toList.head? = some c →
    JsNumber.isBlankChar c = false
  noBlankLast : ∀ key, xs.getLast? = some (.key key) → ∀ c, key.toList.getLast? = some c →
    JsNumber.isBlankChar c = false

/-! ## Trimming -/

/-- A dot is no blank character. -/
theorem not_blank_dot : JsNumber.isBlankChar '.' = false := by
  decide

/-- Dropping blanks in front drops no dot. -/
theorem count_dropWhile (cs : List Char) :
    (cs.dropWhile JsNumber.isBlankChar).count '.' = cs.count '.' := by
  induction cs with
  | nil => rfl
  | cons c cs ih =>
    by_cases hblank : JsNumber.isBlankChar c = true
    · have hne : c ≠ '.' := by
        rintro rfl
        rw [not_blank_dot] at hblank
        cases hblank
      rw [List.dropWhile_cons_of_pos hblank, ih, List.count_cons_of_ne hne]
    · rw [List.dropWhile_cons_of_neg hblank]

/-- No dot is trimmed. -/
theorem count_trim (cs : List Char) : (JsNumber.trim cs).count '.' = cs.count '.' := by
  unfold JsNumber.trim List.rdropWhile
  rw [List.count_reverse, count_dropWhile, List.count_reverse, count_dropWhile]

/-! ## Joining and splitting -/

/-- Splitting at the dots gives one part more than there are dots. -/
theorem length_splitOn (cs : List Char) : (cs.splitOn '.').length = cs.count '.' + 1 := by
  induction cs with
  | nil => rfl
  | cons c cs ih =>
    rw [List.splitOn_cons_eq_if_modifyHead]
    by_cases hdot : c = '.'
    · subst hdot
      simp [ih]
    · simp [hdot, ih, List.count_cons_of_ne hdot]

/-- Joined with dots, texts have their own dots and one between any two. -/
theorem count_intercalate (texts : List (List Char)) (hne : texts ≠ []) :
    (List.intercalate ['.'] texts).count '.' + 1 =
      (texts.map (List.count '.')).sum + texts.length := by
  induction texts with
  | nil => exact absurd rfl hne
  | cons text texts ih =>
    cases texts with
    | nil => simp
    | cons next texts =>
      have hrest := ih (List.cons_ne_nil _ _)
      rw [List.intercalate_cons_cons, List.map_cons, List.sum_cons, List.length_cons]
      simp only [List.count_append, List.count_singleton_self]
      omega

/-- Joined texts begin with the first character of the first. -/
theorem head?_intercalate {text : List Char} (hne : text ≠ []) (texts : List (List Char)) :
    (List.intercalate ['.'] (text :: texts)).head? = text.head? := by
  obtain ⟨c, cs, rfl⟩ := List.exists_cons_of_ne_nil hne
  cases texts with
  | nil => simp
  | cons next texts => simp [List.intercalate_cons_cons]

/-- Joined texts end with the last character of the last. -/
theorem getLast?_intercalate {texts : List (List Char)} {text : List Char}
    (hlast : texts.getLast? = some text) (hne : text ≠ []) :
    (List.intercalate ['.'] texts).getLast? = text.getLast? := by
  induction texts with
  | nil => cases hlast
  | cons first texts ih =>
    cases texts with
    | nil =>
      cases hlast
      simp
    | cons next texts =>
      have hrest := ih (by simpa using hlast)
      have hjoined : List.intercalate ['.'] (next :: texts) ≠ [] := by
        intro hnil
        rw [hnil] at hrest
        exact hne (List.getLast?_eq_none_iff.mp hrest.symm)
      rw [List.intercalate_cons_cons, List.getLast?_append_of_ne_nil _ hjoined, hrest]

/-! ## Lists that survive -/

/-- The text of a selection list in the editor. -/
def joined (xs : List SelectionItem) : List Char :=
  List.intercalate ['.'] (xs.map SelectionItem.toText)

section

variable {xs : List SelectionItem}

/-- The empty text reads as the number zero. -/
theorem ofText_nil : JsNumber.ofText [] = some (.finite 0) := rfl

/-- An item that survives is no empty text. -/
theorem Survives.toText_ne_nil (h : Survives xs) {x : SelectionItem} (hx : x ∈ xs) :
    x.toText ≠ [] := by
  cases x with
  | key key =>
    intro hnil
    have hnone := h.noNumeral key hx
    rw [show key.toList = [] from hnil, ofText_nil] at hnone
    cases hnone
  | index n =>
    obtain ⟨c, cs, htext, -⟩ := toText_digits n.value
    show JsNumber.toText n.value ≠ []
    rw [htext]
    exact List.cons_ne_nil c cs

/-- An item that survives is read as its selector. -/
theorem Survives.selectorOf_toText (h : Survives xs) {x : SelectionItem} (hx : x ∈ xs) :
    selectorOf x.toText = x.selector := by
  unfold selectorOf SelectionItem.selector
  cases x with
  | key key =>
    rw [show SelectionItem.toText (.key key) = key.toList from rfl, h.noNumeral key hx]
    simp
  | index n =>
    rw [show SelectionItem.toText (.index n) = JsNumber.toText n.value from rfl,
      ofText_toText n.isDouble (h.undotted _ hx)]

/-- Neither end of the text is a blank. -/
theorem Survives.trim_joined (h : Survives xs) (hne : xs ≠ []) :
    JsNumber.trim (joined xs) = joined xs := by
  obtain ⟨x, rest, rfl⟩ := List.exists_cons_of_ne_nil hne
  apply trim_eq_self
  · intro c hc
    have hx := h.toText_ne_nil (x := x) List.mem_cons_self
    unfold joined at hc
    rw [List.map_cons, head?_intercalate hx] at hc
    cases x with
    | key key => exact h.noBlankFirst key rfl c hc
    | index n =>
      obtain ⟨d, ds, htext, hd, -⟩ := toText_digits n.value
      rw [show SelectionItem.toText (.index n) = d :: ds from htext] at hc
      cases hc
      exact not_blank_of_isDigit hd
  · intro c hc
    obtain ⟨last, hlast⟩ : ∃ last, (x :: rest).getLast? = some last :=
      ⟨_, List.getLast?_eq_some_getLast hne⟩
    have hmem : last ∈ x :: rest := List.mem_of_getLast? hlast
    unfold joined at hc
    rw [getLast?_intercalate (by rw [List.getLast?_map, hlast]; rfl)
      (h.toText_ne_nil hmem)] at hc
    cases last with
    | key key => exact h.noBlankLast key hlast c hc
    | index n =>
      obtain ⟨-, -, -, -, hdigit⟩ := toText_digits n.value
      exact not_blank_of_isDigit (hdigit c hc)

/-- A surviving list is split into its selectors. -/
theorem splitSelection_of_survives (h : Survives xs) :
    splitSelection (joined xs) = xs.map SelectionItem.selector := by
  by_cases hne : xs = []
  · subst hne
    rfl
  have hparts : (joined xs).splitOn '.' = xs.map SelectionItem.toText := by
    refine List.splitOn_intercalate '.' ?_ (by simpa using hne)
    intro text htext
    obtain ⟨x, hx, rfl⟩ := List.mem_map.mp htext
    exact h.undotted x hx
  have hfirst : ¬(xs.map SelectionItem.toText).head? = some [] := by
    obtain ⟨x, rest, rfl⟩ := List.exists_cons_of_ne_nil hne
    intro hnil
    exact h.toText_ne_nil List.mem_cons_self (Option.some.inj hnil)
  unfold splitSelection
  rw [h.trim_joined hne, hparts]
  dsimp only
  rw [if_neg hfirst, List.map_map]
  exact List.map_congr_left fun x hx => h.selectorOf_toText hx

/-! ## Lists that come back survive -/

/-- The parts that are read as the keys of a list are these keys. -/
theorem part_of_key {part : List Char} {key : String} (h : selectorOf part = .text key) :
    part = key.toList ∧ JsNumber.ofText key.toList = none := by
  unfold selectorOf at h
  split at h
  · cases h
  · rename_i hnone
    cases h
    simpa using hnone

/-- If splitting gives as many parts as there are items, no item has a dot. -/
theorem undotted_of_length {parts : List (List Char)}
    (hparts : parts = (JsNumber.trim (joined xs)).splitOn '.')
    (hlength : parts.length = xs.length) : ∀ x ∈ xs, '.' ∉ x.toText := by
  by_cases hne : xs = []
  · subst hne
    exact fun _ hx => absurd hx List.not_mem_nil
  have hcount := count_intercalate (xs.map SelectionItem.toText) (by simpa using hne)
  rw [hparts, length_splitOn, count_trim] at hlength
  unfold joined at hlength
  rw [List.length_map] at hcount
  have hsum : ((xs.map SelectionItem.toText).map (List.count '.')).sum = 0 := by omega
  intro x hx hdot
  have hmem : x.toText.count '.' ∈ (xs.map SelectionItem.toText).map (List.count '.') :=
    List.mem_map_of_mem (List.mem_map_of_mem hx)
  have hzero := List.sum_eq_zero_iff_forall_eq_nat.mp hsum _ hmem
  exact List.count_eq_zero.mp hzero hdot

/-- A list that is split into its selectors survives. -/
theorem survives_of_splitSelection
    (h : splitSelection (joined xs) = xs.map SelectionItem.selector) : Survives xs := by
  unfold splitSelection at h
  dsimp only at h
  generalize hparts : (JsNumber.trim (joined xs)).splitOn '.' = parts at h
  by_cases hfirst : parts.head? = some []
  · rw [if_pos hfirst] at h
    have hnil : xs = [] := List.map_eq_nil_iff.mp h.symm
    subst hnil
    exact ⟨nofun, nofun, nofun, nofun⟩
  rw [if_neg hfirst] at h
  have hlength : parts.length = xs.length := by
    have hmaps := congrArg List.length h
    simpa using hmaps
  have hjoined : List.intercalate ['.'] parts = JsNumber.trim (joined xs) := by
    rw [← hparts, List.intercalate_splitOn]
  refine ⟨undotted_of_length hparts.symm hlength, ?_, ?_, ?_⟩
  · intro key hkey
    have hmem : Selector.text key ∈ parts.map selectorOf := by
      rw [h]
      exact List.mem_map.mpr ⟨.key key, hkey, rfl⟩
    obtain ⟨part, -, hpart⟩ := List.mem_map.mp hmem
    exact (part_of_key hpart).2
  · intro key hkey c hc
    obtain ⟨part, rest, rfl⟩ : ∃ part rest, parts = part :: rest := by
      apply List.exists_cons_of_ne_nil
      rw [← hparts]
      exact List.splitOn_ne_nil _ _
    have hhead : some (selectorOf part) = some (.text key) := by
      have hmaps := congrArg List.head? h
      rwa [List.head?_map, List.head?_map, hkey] at hmaps
    obtain ⟨rfl, -⟩ := part_of_key (Option.some.inj hhead)
    have hpart : key.toList ≠ [] := fun hnil => hfirst (congrArg some hnil)
    apply head?_trim
    rw [← hjoined, head?_intercalate hpart, hc]
  · intro key hkey c hc
    have hlast : (parts.map selectorOf).getLast? = some (.text key) := by
      rw [h, List.getLast?_map, hkey]
      rfl
    rw [List.getLast?_map] at hlast
    obtain ⟨part, hpart, hkeyed⟩ := Option.map_eq_some_iff.mp hlast
    obtain ⟨rfl, -⟩ := part_of_key hkeyed
    have hne : key.toList ≠ [] := by
      intro hnil
      rw [hnil] at hc
      cases hc
    apply getLast?_trim
    rw [← hjoined, getLast?_intercalate hpart hne, hc]

end

/-! ## The workflow -/

/-- The selection that is saved of an argument with a reference. -/
theorem savedArgument_of_referenced {argument : EditorArgument} {xs : List SelectionItem}
    (hreference : isReferenced argument.reference = true)
    (hselection : argument.selection = some (.items xs)) :
    ∃ saved, savedArgument argument = some saved ∧
      saved.selection = some (splitSelection (joined xs)) := by
  have hload : loadArgument argument =
      { argument with selection := some (.text (joined xs)) } := by
    unfold loadArgument
    rw [hselection]
    rfl
  have hne : argument.reference ≠ some "" := by
    intro hempty
    rw [hempty] at hreference
    exact absurd hreference (by decide)
  unfold savedArgument sanitizeArgument
  rw [hload]
  dsimp only
  rw [if_neg (by simp [hne]), hreference]
  exact ⟨_, rfl, rfl⟩

/-- **Editing keeps the selections of a workflow exactly when** each selection list of an argument
with a reference survives being joined and split. -/
theorem keepsSelections_iff (workflow : EditorWorkflow) :
    KeepsSelections workflow ↔
      ∀ action ∈ workflow.actions.getD [], ∀ argument ∈ action.arguments, ∀ xs,
        isReferenced argument.reference = true → argument.selection = some (.items xs) →
          Survives xs := by
  unfold KeepsSelections
  refine forall₂_congr fun action _ => forall₂_congr fun argument _ => forall_congr' fun xs => ?_
  refine forall₂_congr fun hreference hselection => ?_
  obtain ⟨saved, hsaved, hsplit⟩ := savedArgument_of_referenced hreference hselection
  constructor
  · rintro ⟨other, hother, hkept⟩
    cases hsaved.symm.trans hother
    exact survives_of_splitSelection (Option.some.inj (hsplit.symm.trans hkept))
  · intro hsurvives
    exact ⟨saved, hsaved, hsplit.trans (congrArg some (splitSelection_of_survives hsurvives))⟩

/-- An argument that selects from the result of an action. -/
def selectingArgument (xs : List SelectionItem) : EditorArgument where
  name := "host"
  value := none
  reference := some "2f0ff2e4-4f6b-4a4d-9a0c-0b5a4a1f8d3e"
  selection := some (.items xs)
  errors := []

/-- A workflow with this argument only. -/
def selecting (xs : List SelectionItem) : EditorWorkflow where
  actions := some [{ arguments := [selectingArgument xs] }]

/-- The key of a dictionary that looks like a number comes back as a number. -/
theorem numeric_key_not_kept : ¬KeepsSelections (selecting [.key "1"]) := by
  intro h
  obtain ⟨saved, hsaved, hkept⟩ := h _ List.mem_cons_self _ List.mem_cons_self [.key "1"] rfl rfl
  have hreferenced : isReferenced (selectingArgument [.key "1"]).reference = true := rfl
  obtain ⟨other, hother, hsplit⟩ := savedArgument_of_referenced hreferenced rfl
  cases hsaved.symm.trans hother
  have hsurvives := survives_of_splitSelection (Option.some.inj (hsplit.symm.trans hkept))
  have hnone := hsurvives.noNumeral "1" List.mem_cons_self
  cases hnone

end Walkoff.Analysis
