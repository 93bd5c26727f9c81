import Walkoff.Program.CopyWorkflow

/-!
# Copies of dumped elements

What a copy of a dumped element should be: the same tree, every element under a new id of its
own, the ids of arguments left out, and every reference renamed. `regenerate_ids` goes by the
names of keys, so each kind of element has a rule that says when it is copied well: when no value
or selection in it has a dictionary, and its arguments refer to actions only.
-/

set_option autoImplicit false

namespace Walkoff.Analysis

open Walkoff.Model Walkoff.Program
open Walkoff.Library (OrderedDict)

/-! ## Copies of trees -/

mutual

/-- An element and its copy: another id, but none for an argument, and copied fields. -/
inductive ElementCopy (ρ : PyVal → PyVal) : Element → Element → Prop where
  | element {kind : ElementKind} {id id' : PyVal} {fields fields' : List (String × Part)}
      (hkind : kind ≠ .argument) (hfields : FieldsCopy ρ fields fields') :
      ElementCopy ρ (.mk kind (some id) fields) (.mk kind (some id') fields')
  | argument {id : Option PyVal} {fields fields' : List (String × Part)}
      (hfields : FieldsCopy ρ fields fields') :
      ElementCopy ρ (.mk .argument id fields) (.mk .argument none fields')

/-- The same fields, with copied parts. -/
inductive FieldsCopy (ρ : PyVal → PyVal) :
    List (String × Part) → List (String × Part) → Prop where
  | nil : FieldsCopy ρ [] []
  | cons {key : String} {part part' : Part} {fields fields' : List (String × Part)}
      (hpart : PartCopy ρ part part') (hfields : FieldsCopy ρ fields fields') :
      FieldsCopy ρ ((key, part) :: fields) ((key, part') :: fields')

/-- Data stays as it is, and a reference is renamed. -/
inductive PartCopy (ρ : PyVal → PyVal) : Part → Part → Prop where
  | data (v : PyVal) : PartCopy ρ (.data v) (.data v)
  | reference (id : PyVal) : PartCopy ρ (.reference id) (.reference (ρ id))
  | element {e e' : Element} (h : ElementCopy ρ e e') : PartCopy ρ (.element e) (.element e')
  | elements {es es' : List Element} (h : ElementsCopy ρ es es') :
      PartCopy ρ (.elements es) (.elements es')

/-- Copied one by one. -/
inductive ElementsCopy (ρ : PyVal → PyVal) : List Element → List Element → Prop where
  | nil : ElementsCopy ρ [] []
  | cons {e e' : Element} {es es' : List Element} (h : ElementCopy ρ e e')
      (hmore : ElementsCopy ρ es es') : ElementsCopy ρ (e :: es) (e' :: es')

end

mutual

/-- The ids of the elements of some kinds in a tree. -/
def elementIds (kinds : List ElementKind) : Element → List PyVal
  | .mk kind id fields =>
    (if kind ∈ kinds then id.toList else []) ++ fieldIds kinds fields

def partIds (kinds : List ElementKind) : Part → List PyVal
  | .data _ | .reference _ => []
  | .element e => elementIds kinds e
  | .elements es => listIds kinds es

def listIds (kinds : List ElementKind) : List Element → List PyVal
  | [] => []
  | e :: es => elementIds kinds e ++ listIds kinds es

def fieldIds (kinds : List ElementKind) : List (String × Part) → List PyVal
  | [] => []
  | (_, part) :: fields => partIds kinds part ++ fieldIds kinds fields

end

/-- The kinds whose ids are new in a copy. -/
def numberedKinds : List ElementKind :=
  [.workflow, .action, .branch, .conditionalExpression, .condition, .transform,
   .environmentVariable]

/-- The kinds an argument can refer to. -/
def referableKinds : List ElementKind :=
  [.action, .branch, .environmentVariable]

/-- The new id of an element that can be referred to. -/
def renameId (original copy : Element) (id : PyVal) : PyVal :=
  (((elementIds referableKinds original).zip (elementIds referableKinds copy)).lookup id).getD id

/-- A copy of an element: its ids are new and different from each other, and its references are
renamed to them. -/
structure IsCopy (original copy : Element) : Prop where
  copied : ElementCopy (renameId original copy) original copy
  distinct : (elementIds numberedKinds copy).Nodup
  fresh : ∀ id ∈ elementIds numberedKinds copy, id ∉ elementIds numberedKinds original

mutual

/-- The texts in a value. -/
def texts : PyVal → List String
  | .str s => [s]
  | .list xs => listTexts xs
  | .dict items => itemTexts items
  | _ => []

def listTexts : List PyVal → List String
  | [] => []
  | x :: xs => texts x ++ listTexts xs

def itemTexts : List (String × PyVal) → List String
  | [] => []
  | (_, x) :: items => texts x ++ itemTexts items

end

/-- Calls of `uuid4` that return a new text each time. -/
structure NewIds (json : PyVal) where
  uuid4 : ℕ → String
  injective : Function.Injective uuid4
  fresh : ∀ n, uuid4 n ∉ texts json

/-! ## When a copy succeeds -/

/-- No round of the loop changes such a value: it is no dictionary, and has none in a list. -/
def untouched : PyVal → Bool
  | .dict _ => false
  | .list xs => xs.all fun
    | .dict _ => false
    | _ => true
  | _ => true

/-- Data that is left out of the JSON, or not touched. -/
def DataClean (v : PyVal) : Prop :=
  v ∈ skipValues ∨ untouched v = true

/-- The value and the selection of an argument have no dictionaries, and its reference names an
action. -/
structure ArgumentClean (actionIds : List UUID) (row : ArgumentRow) : Prop where
  value : DataClean row.value
  selection : DataClean ((row.selection.map PyVal.list).getD .none)
  reference : ∀ id ∈ row.reference, id ∈ actionIds

def TransformClean (actionIds : List UUID) (row : TransformRow) : Prop :=
  ∀ argument ∈ row.arguments, ArgumentClean actionIds argument

def ConditionClean (actionIds : List UUID) (row : ConditionRow) : Prop :=
  (∀ argument ∈ row.arguments, ArgumentClean actionIds argument) ∧
    ∀ transform ∈ row.transforms, TransformClean actionIds transform

mutual

def ExpressionClean (actionIds : List UUID) : ExpressionRow → Prop
  | .mk _ _ _ childExpressions conditions =>
    ExpressionsClean actionIds childExpressions ∧
      ∀ condition ∈ conditions, ConditionClean actionIds condition

def ExpressionsClean (actionIds : List UUID) : List ExpressionRow → Prop
  | [] => True
  | row :: rows => ExpressionClean actionIds row ∧ ExpressionsClean actionIds rows

end

structure ActionClean (actionIds : List UUID) (row : ActionRow) : Prop where
  deviceId : ∀ argument ∈ row.deviceId, ArgumentClean actionIds argument
  arguments : ∀ argument ∈ row.arguments, ArgumentClean actionIds argument
  trigger : ∀ expression ∈ row.trigger, ExpressionClean actionIds expression
  position : row.position = none

/-! ## One round of the loop -/

section Rounds

variable {uuid4 : ℕ → String} {mapping : ActionMapping}

/-- A value without anything to renew passes as it is. -/
theorem regenerateField_of_untouched {field : String} {v : PyVal} (h : untouched v = true)
    (n : ℕ) : regenerateField uuid4 mapping field v n = .ok v n := by
  cases v with
  | dict items => cases h
  | list xs =>
    have hlist : ∀ isArguments, regenerateIdsOfList uuid4 mapping isArguments xs n = .ok xs n := by
      intro isArguments
      have hall : ∀ x ∈ xs, ∀ items, x ≠ .dict items := by
        intro x hx items heq
        have hx' := List.all_eq_true.mp h x hx
        rw [heq] at hx'
        cases hx'
      clear h
      induction xs with
      | nil => rfl
      | cons x xs ih =>
        have htail := ih fun y hy => hall y (List.mem_cons_of_mem _ hy)
        have hhead := hall x List.mem_cons_self
        rw [regenerateIdsOfList]
        · rw [Library.bind_apply]
          dsimp only [Library.pure_apply]
          rw [Library.bind_apply, htail]
          rfl
        · exact fun items heq => hhead items heq
    rw [regenerateField]
    split
    · rfl
    · rw [← bind_pure_comp, Library.bind_apply, hlist]
      rfl
  | _ => rfl

/-- A text found under a key is one of the texts of the items. -/
theorem texts_of_get? {key : String} {items : OrderedDict String PyVal} {s : String}
    (h : items.get? key = some (.str s)) : s ∈ itemTexts items := by
  induction items with
  | nil => cases h
  | cons item items ih =>
    obtain ⟨k, x⟩ := item
    rw [itemTexts, List.mem_append]
    by_cases hk : k = key
    · left
      have hx : x = .str s := by
        simpa [OrderedDict.get?, hk] using h
      rw [hx]
      exact List.mem_singleton_self s
    · right
      apply ih
      simpa [OrderedDict.get?, hk, Ne.symm hk] using h

/-- A dictionary comes out of the loop with a new id. -/
theorem aroundFields_ne {isArguments : Bool} (hargs : isArguments = false)
    {items : OrderedDict String PyVal} {loop : Copying (OrderedDict String PyVal)}
    (hfresh : ∀ n, uuid4 n ∉ itemTexts items) (n m : ℕ) :
    aroundFields uuid4 mapping true isArguments items loop n ≠ .ok (.dict items) m := by
  subst hargs
  intro h
  obtain ⟨id, n₁, hid, hrest⟩ := Library.bind_eq_ok.mp h
  obtain ⟨reference, n₂, -, hloop⟩ := Library.bind_eq_ok.mp hrest
  obtain ⟨items', n₃, -, hresult⟩ := Library.bind_eq_ok.mp hloop
  obtain rfl : id = some (.str (uuid4 n)) := by
    cases hid
    rfl
  have hset : OrderedDict.get? "id"
      (setEntries (some (.str (uuid4 n))) false reference items') = some (.str (uuid4 n)) := by
    cases reference with
    | none => exact OrderedDict.get?_set_self _ _ _
    | some r =>
      show OrderedDict.get? "id" (OrderedDict.set "reference" r
        (OrderedDict.set "id" (.str (uuid4 n)) items')) = _
      rw [OrderedDict.get?_set_of_ne (by decide)]
      exact OrderedDict.get?_set_self _ _ _
  have hsame : setEntries (some (.str (uuid4 n))) false reference items' = items := by
    injection hresult with hdict
    exact PyVal.dict.inj hdict
  rw [hsame] at hset
  exact hfresh n (texts_of_get? hset)

/-- A list comes out of the loop unchanged only if it has no dictionaries. -/
theorem all_of_regenerateIdsOfList {xs : List PyVal} (hfresh : ∀ n, uuid4 n ∉ listTexts xs)
    {n m : ℕ} (h : regenerateIdsOfList uuid4 mapping false xs n = .ok xs m) :
    ∀ x ∈ xs, ∀ items, x ≠ .dict items := by
  induction xs generalizing n with
  | nil => simp
  | cons x xs ih =>
    have hfresh' : ∀ n, uuid4 n ∉ texts x ∧ uuid4 n ∉ listTexts xs := by
      intro k
      have hk := hfresh k
      rw [listTexts, List.mem_append] at hk
      exact not_or.mp hk
    have hhead : ∀ items, x ≠ .dict items := by
      rintro items rfl
      rw [regenerateIdsOfList] at h
      obtain ⟨x', n₁, hx, hrest⟩ := Library.bind_eq_ok.mp h
      obtain ⟨xs', n₂, -, hresult⟩ := Library.bind_eq_ok.mp hrest
      injection hresult with hlist
      obtain ⟨rfl, -⟩ := List.cons.inj hlist
      exact aroundFields_ne rfl (fun k => (hfresh' k).1) n n₁ hx
    have htail : ∀ x' ∈ xs, ∀ items, x' ≠ .dict items := by
      rw [regenerateIdsOfList] at h
      · obtain ⟨x', n₁, hx, hrest⟩ := Library.bind_eq_ok.mp h
        obtain ⟨xs', n₂, hxs, hresult⟩ := Library.bind_eq_ok.mp hrest
        injection hresult with hlist hm
        obtain ⟨-, rfl⟩ := List.cons.inj hlist
        rw [hm] at hxs
        exact ih (fun k => (hfresh' k).2) hxs
      · exact fun items heq => hhead items heq
    exact List.forall_mem_cons.mpr ⟨hhead, htail⟩

/-- A value that comes out as it went in, with no fresh id in it, had nothing to renew. -/
theorem untouched_of_regenerateField {field : String} (hid : field ≠ "id")
    (hfield : isArgumentsField field = false) {v : PyVal} (hfresh : ∀ n, uuid4 n ∉ texts v)
    {n m : ℕ} (h : regenerateField uuid4 mapping field v n = .ok v m) : untouched v = true := by
  cases v with
  | dict items =>
    rw [regenerateField, if_neg hid, hfield] at h
    exact absurd h (aroundFields_ne rfl hfresh n m)
  | list xs =>
    rw [regenerateField, if_neg hid, hfield, ← bind_pure_comp] at h
    obtain ⟨xs', n₁, hxs, hresult⟩ := Library.bind_eq_ok.mp h
    obtain rfl : xs' = xs := by
      injection hresult with hlist
      exact PyVal.list.inj hlist
    have hall := all_of_regenerateIdsOfList hfresh hxs
    apply List.all_eq_true.mpr
    intro x hx
    cases x with
    | dict items => exact absurd rfl (hall _ hx items)
    | _ => rfl
  | _ => rfl

/-- The loop over the fields goes part by part. -/
theorem regenerateFields_append (xs ys : List (String × PyVal)) :
    regenerateFields uuid4 mapping (xs ++ ys) = (do
      let xs ← regenerateFields uuid4 mapping xs
      let ys ← regenerateFields uuid4 mapping ys
      pure (xs ++ ys)) := by
  induction xs with
  | nil =>
    rw [List.nil_append, regenerateFields]
    simp
  | cons item xs ih =>
    obtain ⟨key, x⟩ := item
    rw [List.cons_append, regenerateFields, ih, regenerateFields]
    simp

/-- The loop keeps the keys. -/
theorem regenerateFields_keys {xs xs' : List (String × PyVal)} {n m : ℕ}
    (h : regenerateFields uuid4 mapping xs n = .ok xs' m) :
    xs'.map Prod.fst = xs.map Prod.fst := by
  induction xs generalizing xs' n with
  | nil =>
    cases h
    rfl
  | cons item xs ih =>
    obtain ⟨key, x⟩ := item
    rw [regenerateFields] at h
    obtain ⟨x', n₁, -, hrest⟩ := Library.bind_eq_ok.mp h
    obtain ⟨ys, n₂, hys, hresult⟩ := Library.bind_eq_ok.mp hrest
    cases hresult
    rw [List.map_cons, List.map_cons, ih hys]

end Rounds

/-! ## What the loop makes of an element -/

/-- The ids are calls of `uuid4` between the `n`-th and the `m`-th, each at most once. -/
def NumberedWithin (uuid4 : ℕ → String) (n m : ℕ) (ids : List PyVal) : Prop :=
  n ≤ m ∧ ∃ calls : List ℕ, ids = calls.map (fun k => .str (uuid4 k)) ∧ calls.Nodup ∧
    ∀ k ∈ calls, n ≤ k ∧ k < m

/-- No ids take no calls. -/
theorem NumberedWithin.nil (uuid4 : ℕ → String) (n : ℕ) : NumberedWithin uuid4 n n [] :=
  ⟨Nat.le_refl n, [], rfl, List.nodup_nil, by simp⟩

/-- Ids of two stretches of calls are ids of the whole stretch. -/
theorem NumberedWithin.append {uuid4 : ℕ → String} {n m p : ℕ} {xs ys : List PyVal}
    (hxs : NumberedWithin uuid4 n m xs) (hys : NumberedWithin uuid4 m p ys) :
    NumberedWithin uuid4 n p (xs ++ ys) := by
  obtain ⟨hnm, ks, rfl, hks, hksBound⟩ := hxs
  obtain ⟨hmp, ls, rfl, hls, hlsBound⟩ := hys
  refine ⟨hnm.trans hmp, ks ++ ls, (List.map_append).symm, ?_, ?_⟩
  · apply List.Nodup.append hks hls
    intro k hk hl
    have hkBound := hksBound k hk
    have hlBound := hlsBound k hl
    omega
  · intro k hk
    rcases List.mem_append.mp hk with hk | hk
    · have hkBound := hksBound k hk
      omega
    · have hkBound := hlsBound k hk
      omega

/-- A renaming that agrees with the new ids of the actions. -/
def Agrees (mapping : ActionMapping) (ρ : PyVal → PyVal) : Prop :=
  ∀ id v, mapping.get? id = some v → ρ id = v

/-- The loop over some fields copies them exactly when they are clean. -/
structure FieldsRule (uuid4 : ℕ → String) (mapping : ActionMapping)
    (fields : List (String × Part)) (clean : Prop) : Prop where
  copies : clean → ∀ n, ∃ fields' m,
    regenerateFields uuid4 mapping (Element.jsonFields fields) n =
      .ok (Element.jsonFields fields') m ∧
    (∀ ρ, Agrees mapping ρ → FieldsCopy ρ fields fields') ∧
    NumberedWithin uuid4 n m (fieldIds numberedKinds fields')
  clean_of_copy : (∀ n, uuid4 n ∉ itemTexts (Element.jsonFields fields)) →
    ∀ n m fields' ρ, regenerateFields uuid4 mapping (Element.jsonFields fields) n =
        .ok (Element.jsonFields fields') m →
      FieldsCopy ρ fields fields' → clean

section Rules

variable {uuid4 : ℕ → String} {mapping : ActionMapping} {ρ : PyVal → PyVal}

/-- The JSON of fields comes field by field. -/
theorem jsonFields_append (xs ys : List (String × Part)) :
    Element.jsonFields (xs ++ ys) = Element.jsonFields xs ++ Element.jsonFields ys := by
  induction xs with
  | nil => rfl
  | cons field xs ih =>
    obtain ⟨key, part⟩ := field
    rw [List.cons_append, Element.jsonFields, ih]
    rfl

/-- The ids in fields come field by field. -/
theorem fieldIds_append (kinds : List ElementKind) (xs ys : List (String × Part)) :
    fieldIds kinds (xs ++ ys) = fieldIds kinds xs ++ fieldIds kinds ys := by
  induction xs with
  | nil => rfl
  | cons field xs ih =>
    obtain ⟨key, part⟩ := field
    rw [List.cons_append, fieldIds, ih, fieldIds, List.append_assoc]

/-- The texts in items come item by item. -/
theorem itemTexts_append (xs ys : List (String × PyVal)) :
    itemTexts (xs ++ ys) = itemTexts xs ++ itemTexts ys := by
  induction xs with
  | nil => rfl
  | cons item xs ih =>
    obtain ⟨key, x⟩ := item
    rw [List.cons_append, itemTexts, ih, itemTexts, List.append_assoc]

/-- Copies of two parts make a copy of the whole. -/
theorem FieldsCopy.append {xs xs' ys ys' : List (String × Part)} (hxs : FieldsCopy ρ xs xs')
    (hys : FieldsCopy ρ ys ys') : FieldsCopy ρ (xs ++ ys) (xs' ++ ys') := by
  induction xs generalizing xs' with
  | nil =>
    cases hxs
    exact hys
  | cons field xs ih =>
    cases hxs with
    | cons hpart hfields => exact .cons hpart (ih hfields)

/-- A copy of the whole falls into copies of its parts. -/
theorem FieldsCopy.of_append {xs ys zs : List (String × Part)}
    (h : FieldsCopy ρ (xs ++ ys) zs) :
    ∃ xs' ys', zs = xs' ++ ys' ∧ FieldsCopy ρ xs xs' ∧ FieldsCopy ρ ys ys' := by
  induction xs generalizing zs with
  | nil => exact ⟨[], zs, rfl, .nil, h⟩
  | cons field xs ih =>
    cases h with
    | cons hpart hfields =>
      obtain ⟨xs', ys', rfl, hxs, hys⟩ := ih hfields
      exact ⟨_ :: xs', ys', rfl, .cons hpart hxs, hys⟩

/-- A copy has the keys of the original. -/
theorem FieldsCopy.keys {xs xs' : List (String × Part)} (h : FieldsCopy ρ xs xs') :
    (Element.jsonFields xs').map Prod.fst = (Element.jsonFields xs).map Prod.fst := by
  induction xs generalizing xs' with
  | nil =>
    cases h
    rfl
  | cons field xs ih =>
    cases h with
    | cons hpart hfields =>
      rw [Element.jsonFields, Element.jsonFields, List.map_cons, List.map_cons, ih hfields]

/-- What is read of a run over two groups of fields. -/
theorem regenerateFields_append_ok {xs ys zs : List (String × PyVal)} {n m : ℕ} :
    regenerateFields uuid4 mapping (xs ++ ys) n = .ok zs m ↔
      ∃ xs' k ys', regenerateFields uuid4 mapping xs n = .ok xs' k ∧
        regenerateFields uuid4 mapping ys k = .ok ys' m ∧ zs = xs' ++ ys' := by
  rw [regenerateFields_append]
  constructor
  · intro h
    obtain ⟨xs', k, hxs, hrest⟩ := Library.bind_eq_ok.mp h
    obtain ⟨ys', m', hys, hresult⟩ := Library.bind_eq_ok.mp hrest
    cases hresult
    exact ⟨xs', k, ys', hxs, hys, rfl⟩
  · rintro ⟨xs', k, ys', hxs, hys, rfl⟩
    rw [Library.bind_of_ok hxs, Library.bind_of_ok hys]
    rfl

/-- No fields are always copied. -/
theorem FieldsRule.nil : FieldsRule uuid4 mapping [] True where
  copies _ n := ⟨[], n, rfl, fun _ _ => .nil, .nil uuid4 n⟩
  clean_of_copy _ _ _ _ _ _ _ := trivial

/-- Two parts are copied exactly when both are clean. -/
theorem FieldsRule.append {xs ys : List (String × Part)} {cleanXs cleanYs : Prop}
    (hxs : FieldsRule uuid4 mapping xs cleanXs) (hys : FieldsRule uuid4 mapping ys cleanYs) :
    FieldsRule uuid4 mapping (xs ++ ys) (cleanXs ∧ cleanYs) where
  copies := by
    rintro ⟨hcleanXs, hcleanYs⟩ n
    obtain ⟨xs', k, hrunXs, hcopyXs, hidsXs⟩ := hxs.copies hcleanXs n
    obtain ⟨ys', m, hrunYs, hcopyYs, hidsYs⟩ := hys.copies hcleanYs k
    refine ⟨xs' ++ ys', m, ?_, fun ρ hρ => (hcopyXs ρ hρ).append (hcopyYs ρ hρ), ?_⟩
    · rw [jsonFields_append, jsonFields_append]
      exact regenerateFields_append_ok.mpr ⟨_, k, _, hrunXs, hrunYs, rfl⟩
    · rw [fieldIds_append]
      exact hidsXs.append hidsYs
  clean_of_copy := by
    intro hfresh n m fields' ρ hrun hcopy
    obtain ⟨xs', ys', rfl, hcopyXs, hcopyYs⟩ := hcopy.of_append
    rw [jsonFields_append] at hfresh
    rw [jsonFields_append, jsonFields_append] at hrun
    obtain ⟨xs'', k, ys'', hrunXs, hrunYs, heq⟩ := regenerateFields_append_ok.mp hrun
    have hlength : (Element.jsonFields xs').length = xs''.length := by
      have hleft := congrArg List.length hcopyXs.keys
      have hright := congrArg List.length (regenerateFields_keys hrunXs)
      simp only [List.length_map] at hleft hright
      omega
    obtain ⟨rfl, rfl⟩ := List.append_inj heq hlength
    have hfresh' : ∀ n, uuid4 n ∉ itemTexts (Element.jsonFields xs) ∧
        uuid4 n ∉ itemTexts (Element.jsonFields ys) := by
      intro i
      have hi := hfresh i
      rw [itemTexts_append, List.mem_append] at hi
      exact not_or.mp hi
    exact ⟨hxs.clean_of_copy (fun i => (hfresh' i).1) n k xs' ρ hrunXs hcopyXs,
      hys.clean_of_copy (fun i => (hfresh' i).2) k m ys' ρ hrunYs hcopyYs⟩

/-- The condition of a rule can be put in other words. -/
theorem FieldsRule.congr {fields : List (String × Part)} {clean clean' : Prop}
    (h : FieldsRule uuid4 mapping fields clean) (hiff : clean ↔ clean') :
    FieldsRule uuid4 mapping fields clean' where
  copies hclean := h.copies (hiff.mpr hclean)
  clean_of_copy hfresh n m fields' ρ hrun hcopy :=
    hiff.mp (h.clean_of_copy hfresh n m fields' ρ hrun hcopy)

/-- A field with one part in it. -/
theorem regenerateFields_single {key : String} {v : PyVal} {n m : ℕ}
    {items : List (String × PyVal)} :
    regenerateFields uuid4 mapping [(key, v)] n = .ok items m ↔
      ∃ v', regenerateField uuid4 mapping key v n = .ok v' m ∧ items = [(key, v')] := by
  rw [regenerateFields]
  constructor
  · intro h
    obtain ⟨v', k, hv, hrest⟩ := Library.bind_eq_ok.mp h
    obtain ⟨rest, k', hempty, hresult⟩ := Library.bind_eq_ok.mp hrest
    cases hempty
    cases hresult
    exact ⟨v', hv, rfl⟩
  · rintro ⟨v', hv, rfl⟩
    rw [Library.bind_of_ok hv]
    rfl

/-- A field of data is copied exactly when the data is clean. -/
theorem FieldsRule.data {key : String} (hid : key ≠ "id")
    (harguments : isArgumentsField key = false) (v : PyVal) :
    FieldsRule uuid4 mapping (dataField key v) (DataClean v) := by
  unfold dataField DataClean
  by_cases hskip : v ∈ skipValues
  · rw [if_pos hskip]
    exact FieldsRule.nil.congr (iff_of_true trivial (.inl hskip))
  · rw [if_neg hskip]
    constructor
    · intro hclean n
      have huntouched := hclean.resolve_left hskip
      refine ⟨[(key, .data v)], n, ?_, fun ρ _ => .cons (.data v) .nil, .nil uuid4 n⟩
      exact regenerateFields_single.mpr ⟨v, regenerateField_of_untouched huntouched n, rfl⟩
    · intro hfresh n m fields' ρ hrun hcopy
      right
      cases hcopy with
      | cons hpart hfields =>
        cases hfields
        cases hpart
        obtain ⟨v', hv, heq⟩ := regenerateFields_single.mp hrun
        obtain rfl : v = v' := by
          injection heq with hhead
          injection hhead
        have htexts : ∀ i, uuid4 i ∉ texts v := by
          intro i hi
          exact hfresh i (List.mem_append_left _ hi)
        exact untouched_of_regenerateField hid harguments htexts hv

/-- Data that every element has. -/
theorem dataClean_str (s : String) : DataClean (.str s) :=
  .inr rfl

end Rules

/-- The JSON of an element is the dictionary of its items. -/
theorem json_eq_dict (e : Element) : e.json = .dict e.items := by
  cases e
  rfl

/-- `regenerate_ids` of an element copies it exactly when it is clean. -/
structure ElementRule (uuid4 : ℕ → String) (mapping : ActionMapping) (isArguments : Bool)
    (e : Element) (clean : Prop) : Prop where
  copies : clean → ∀ n, ∃ e' m,
    aroundFields uuid4 mapping true isArguments e.items
      (regenerateFields uuid4 mapping e.items) n = .ok e'.json m ∧
    (∀ ρ, Agrees mapping ρ → ElementCopy ρ e e') ∧
    NumberedWithin uuid4 n m (elementIds numberedKinds e')
  clean_of_copy : (∀ n, uuid4 n ∉ itemTexts e.items) →
    ∀ n m e' ρ, aroundFields uuid4 mapping true isArguments e.items
        (regenerateFields uuid4 mapping e.items) n = .ok e'.json m →
      ElementCopy ρ e e' → clean

/-- `__regenerate_ids_of_list` copies the elements exactly when they are clean. -/
structure ListRule (uuid4 : ℕ → String) (mapping : ActionMapping) (isArguments : Bool)
    (es : List Element) (clean : Prop) : Prop where
  copies : clean → ∀ n, ∃ es' m,
    regenerateIdsOfList uuid4 mapping isArguments (Element.jsonList es) n =
      .ok (Element.jsonList es') m ∧
    (∀ ρ, Agrees mapping ρ → ElementsCopy ρ es es') ∧
    NumberedWithin uuid4 n m (listIds numberedKinds es')
  clean_of_copy : (∀ n, uuid4 n ∉ listTexts (Element.jsonList es)) →
    ∀ n m es' ρ, regenerateIdsOfList uuid4 mapping isArguments (Element.jsonList es) n =
        .ok (Element.jsonList es') m →
      ElementsCopy ρ es es' → clean

section Nested

variable {uuid4 : ℕ → String} {mapping : ActionMapping} {isArguments : Bool}

/-- One element of a list, and the elements behind it. -/
theorem regenerateIdsOfList_cons {e : Element} {es : List Element} {xs : List PyVal} {n m : ℕ} :
    regenerateIdsOfList uuid4 mapping isArguments (Element.jsonList (e :: es)) n = .ok xs m ↔
      ∃ x k ys, aroundFields uuid4 mapping true isArguments e.items
          (regenerateFields uuid4 mapping e.items) n = .ok x k ∧
        regenerateIdsOfList uuid4 mapping isArguments (Element.jsonList es) k = .ok ys m ∧
        xs = x :: ys := by
  rw [Element.jsonList, json_eq_dict, regenerateIdsOfList]
  constructor
  · intro h
    obtain ⟨x, k, hx, hrest⟩ := Library.bind_eq_ok.mp h
    obtain ⟨ys, m', hys, hresult⟩ := Library.bind_eq_ok.mp hrest
    cases hresult
    exact ⟨x, k, ys, hx, hys, rfl⟩
  · rintro ⟨x, k, ys, hx, hys, rfl⟩
    rw [Library.bind_of_ok hx]
    exact Library.bind_of_ok hys

/-- The condition of a rule can be put in other words. -/
theorem ElementRule.congr {e : Element} {clean clean' : Prop}
    (h : ElementRule uuid4 mapping isArguments e clean) (hiff : clean ↔ clean') :
    ElementRule uuid4 mapping isArguments e clean' where
  copies hclean := h.copies (hiff.mpr hclean)
  clean_of_copy hfresh n m e' ρ hrun hcopy :=
    hiff.mp (h.clean_of_copy hfresh n m e' ρ hrun hcopy)

/-- The condition of a rule can be put in other words. -/
theorem ListRule.congr {es : List Element} {clean clean' : Prop}
    (h : ListRule uuid4 mapping isArguments es clean) (hiff : clean ↔ clean') :
    ListRule uuid4 mapping isArguments es clean' where
  copies hclean := h.copies (hiff.mpr hclean)
  clean_of_copy hfresh n m es' ρ hrun hcopy :=
    hiff.mp (h.clean_of_copy hfresh n m es' ρ hrun hcopy)

/-- No elements are always copied. -/
theorem ListRule.nil : ListRule uuid4 mapping isArguments [] True where
  copies _ n := ⟨[], n, rfl, fun _ _ => .nil, .nil uuid4 n⟩
  clean_of_copy _ _ _ _ _ _ _ := trivial

/-- Elements are copied exactly when the first and the rest are clean. -/
theorem ListRule.cons {e : Element} {es : List Element} {clean cleanMore : Prop}
    (hhead : ElementRule uuid4 mapping isArguments e clean)
    (htail : ListRule uuid4 mapping isArguments es cleanMore) :
    ListRule uuid4 mapping isArguments (e :: es) (clean ∧ cleanMore) where
  copies := by
    rintro ⟨hclean, hcleanMore⟩ n
    obtain ⟨e', k, hrun, hcopy, hids⟩ := hhead.copies hclean n
    obtain ⟨es', m, hruns, hcopies, hmore⟩ := htail.copies hcleanMore k
    refine ⟨e' :: es', m, ?_, fun ρ hρ => .cons (hcopy ρ hρ) (hcopies ρ hρ), ?_⟩
    · exact regenerateIdsOfList_cons.mpr ⟨_, k, _, hrun, hruns, rfl⟩
    · exact hids.append hmore
  clean_of_copy := by
    intro hfresh n m es' ρ hrun hcopy
    cases hcopy with
    | cons hcopy hcopies =>
      obtain ⟨x, k, ys, hx, hys, heq⟩ := regenerateIdsOfList_cons.mp hrun
      obtain ⟨rfl, rfl⟩ := List.cons.inj heq
      have hfresh' : ∀ i, uuid4 i ∉ itemTexts e.items ∧
          uuid4 i ∉ listTexts (Element.jsonList es) := by
        intro i
        have hi := hfresh i
        rw [Element.jsonList, json_eq_dict, listTexts, List.mem_append] at hi
        exact not_or.mp hi
      exact ⟨hhead.clean_of_copy (fun i => (hfresh' i).1) n k _ ρ hx hcopy,
        htail.clean_of_copy (fun i => (hfresh' i).2) k m _ ρ hys hcopies⟩

/-- Elements made of rows are copied exactly when every row is clean. -/
theorem ListRule.map {α : Type} {rows : List α} {f : α → Element} {clean : α → Prop}
    (h : ∀ row ∈ rows, ElementRule uuid4 mapping isArguments (f row) (clean row)) :
    ListRule uuid4 mapping isArguments (rows.map f) (∀ row ∈ rows, clean row) := by
  induction rows with
  | nil => exact ListRule.nil.congr (by simp)
  | cons row rows ih =>
    have htail := ih fun other hother => h other (List.mem_cons_of_mem _ hother)
    exact (ListRule.cons (h row List.mem_cons_self) htail).congr List.forall_mem_cons.symm

/-- A field of elements is copied exactly when they are. -/
theorem FieldsRule.elements {key : String} (hid : key ≠ "id") {es : List Element} {clean : Prop}
    (h : ListRule uuid4 mapping (isArgumentsField key) es clean) :
    FieldsRule uuid4 mapping (elementsField key es) clean := by
  unfold elementsField
  cases es with
  | nil =>
    have hclean : clean := h.clean_of_copy (by simp [Element.jsonList, listTexts]) 0 0 [] id rfl .nil
    exact FieldsRule.nil.congr (iff_of_true trivial hclean)
  | cons e es =>
    rw [List.isEmpty_cons, if_neg Bool.false_ne_true]
    have hfield : ∀ n v m, regenerateField uuid4 mapping key
        (.list (Element.jsonList (e :: es))) n = .ok v m ↔
          ∃ xs, regenerateIdsOfList uuid4 mapping (isArgumentsField key)
            (Element.jsonList (e :: es)) n = .ok xs m ∧ v = .list xs := by
      intro n v m
      rw [regenerateField, if_neg hid, ← bind_pure_comp]
      constructor
      · intro hrun
        obtain ⟨xs, k, hxs, hresult⟩ := Library.bind_eq_ok.mp hrun
        cases hresult
        exact ⟨xs, hxs, rfl⟩
      · rintro ⟨xs, hxs, rfl⟩
        rw [Library.bind_of_ok hxs]
        rfl
    constructor
    · intro hclean n
      obtain ⟨es', m, hrun, hcopy, hids⟩ := h.copies hclean n
      refine ⟨[(key, .elements es')], m, ?_, fun ρ hρ => .cons (.elements (hcopy ρ hρ)) .nil, ?_⟩
      · exact regenerateFields_single.mpr ⟨_, (hfield n _ m).mpr ⟨_, hrun, rfl⟩, rfl⟩
      · simpa [fieldIds, partIds] using hids
    · intro hfresh n m fields' ρ hrun hcopy
      cases hcopy with
      | cons hpart hfields =>
        cases hfields
        cases hpart with
        | elements hcopies =>
          obtain ⟨v', hv, heq⟩ := regenerateFields_single.mp hrun
          obtain ⟨xs, hxs, rfl⟩ := (hfield n v' m).mp hv
          cases heq
          apply h.clean_of_copy _ n m _ ρ hxs hcopies
          intro i hi
          exact hfresh i (List.mem_append_left _ hi)

/-- A field of one element is copied exactly when it is, or is absent. -/
theorem FieldsRule.element {key : String} (hid : key ≠ "id") {α : Type} {row : Option α}
    {f : α → Element} {clean : α → Prop}
    (h : ∀ x ∈ row, ElementRule uuid4 mapping (isArgumentsField key) (f x) (clean x)) :
    FieldsRule uuid4 mapping (elementField key (row.map f)) (∀ x ∈ row, clean x) := by
  cases row with
  | none => exact FieldsRule.nil.congr (by simp)
  | some x =>
    have hx := h x rfl
    have hfield : ∀ n, regenerateField uuid4 mapping key (f x).json n =
        aroundFields uuid4 mapping true (isArgumentsField key) (f x).items
          (regenerateFields uuid4 mapping (f x).items) n := by
      intro n
      rw [json_eq_dict, regenerateField, if_neg hid]
    constructor
    · intro hclean n
      obtain ⟨e', m, hrun, hcopy, hids⟩ := hx.copies (hclean x rfl) n
      refine ⟨[(key, .element e')], m, ?_, fun ρ hρ => .cons (.element (hcopy ρ hρ)) .nil, ?_⟩
      · exact regenerateFields_single.mpr ⟨_, (hfield n).trans hrun, rfl⟩
      · simpa [fieldIds, partIds] using hids
    · intro hfresh n m fields' ρ hrun hcopy
      cases hcopy with
      | cons hpart hfields =>
        cases hfields
        cases hpart with
        | @element _ e' hcopy =>
          obtain ⟨v', hv, heq⟩ := regenerateFields_single.mp hrun
          have hv' : v' = e'.json := by
            injection heq with hhead
            injection hhead with _ hsame
            exact hsame.symm
          have htexts : ∀ i, uuid4 i ∉ itemTexts (f x).items := by
            intro i hi
            apply hfresh i
            apply List.mem_append_left
            show uuid4 i ∈ texts (f x).json
            rw [json_eq_dict]
            exact hi
          have hrun' : aroundFields uuid4 mapping true (isArgumentsField key) (f x).items
              (regenerateFields uuid4 mapping (f x).items) n = .ok v' m :=
            (hfield n).symm.trans hv
          rw [hv'] at hrun'
          intro y hy
          cases hy
          exact hx.clean_of_copy htexts n m _ ρ hrun' hcopy

end Nested

section Elements

variable {uuid4 : ℕ → String} {mapping : ActionMapping}

/-- The loop leaves the id alone. -/
theorem regenerateFields_id {id : PyVal} {items items' : List (String × PyVal)} {n m : ℕ} :
    regenerateFields uuid4 mapping (("id", id) :: items) n = .ok items' m ↔
      ∃ rest, regenerateFields uuid4 mapping items n = .ok rest m ∧
        items' = ("id", id) :: rest := by
  have hid : regenerateField uuid4 mapping "id" id n = .ok id n := by
    cases id <;> rfl
  rw [regenerateFields, Library.bind_of_ok hid]
  constructor
  · intro h
    obtain ⟨rest, k, hrest, hresult⟩ := Library.bind_eq_ok.mp h
    cases hresult
    exact ⟨rest, hrest, rfl⟩
  · rintro ⟨rest, hrest, rfl⟩
    exact Library.bind_of_ok hrest

/-- Without a reference there is none to renew. -/
theorem newReference_none {items : OrderedDict String PyVal}
    (h : items.get? "reference" = none) (n : ℕ) : newReference mapping items n = .ok none n := by
  rw [newReference, h]
  rfl

/-- Looking a reference up calls `uuid4` nowhere. -/
theorem newReference_state {items : OrderedDict String PyVal} {reference : Option PyVal}
    {n m : ℕ} (h : newReference mapping items n = .ok reference m) : m = n := by
  unfold newReference at h
  cases hget : items.get? "reference" with
  | none =>
    rw [hget] at h
    cases h
    rfl
  | some r =>
    rw [hget] at h
    dsimp only at h
    split at h
    · rw [← bind_pure_comp] at h
      obtain ⟨v, k, hv, hresult⟩ := Library.bind_eq_ok.mp h
      cases hlook : mapping.lookUp r with
      | error e =>
        rw [hlook] at hv
        cases hv
      | ok w =>
        rw [hlook] at hv
        cases hv
        cases hresult
        rfl
    · cases h
      rfl

/-- The parts of a run of `regenerate_ids`. -/
theorem aroundFields_ok {regenerateId isArguments : Bool} {items : OrderedDict String PyVal}
    {loop : Copying (OrderedDict String PyVal)} {v : PyVal} {n m : ℕ} :
    aroundFields uuid4 mapping regenerateId isArguments items loop n = .ok v m ↔
      ∃ reference items',
        newReference mapping items (if regenerateId then n + 1 else n) =
          .ok reference (if regenerateId then n + 1 else n) ∧
        loop (if regenerateId then n + 1 else n) = .ok items' m ∧
        v = .dict (setEntries (if regenerateId then some (.str (uuid4 n)) else none)
          isArguments reference items') := by
  have hid : newIdIf uuid4 regenerateId n =
      .ok (if regenerateId then some (.str (uuid4 n)) else none)
        (if regenerateId then n + 1 else n) := by
    cases regenerateId <;> rfl
  unfold aroundFields
  rw [Library.bind_of_ok hid]
  constructor
  · intro h
    obtain ⟨reference, k, hreference, hrest⟩ := Library.bind_eq_ok.mp h
    obtain ⟨items', k', hloop, hresult⟩ := Library.bind_eq_ok.mp hrest
    have hk := newReference_state hreference
    rw [hk] at hreference hloop
    cases hresult
    exact ⟨reference, items', hreference, hloop, rfl⟩
  · rintro ⟨reference, items', hreference, hloop, rfl⟩
    apply Library.bind_eq_ok.mpr
    refine ⟨reference, _, hreference, ?_⟩
    exact Library.bind_of_ok hloop

/-- `regenerate_ids` of a dictionary with an id and without a reference. -/
theorem aroundFields_numbered {regenerateId : Bool} {id v : PyVal}
    {items : OrderedDict String PyVal} (h : items.get? "reference" = none) {n m : ℕ} :
    aroundFields uuid4 mapping regenerateId false (("id", id) :: items)
        (regenerateFields uuid4 mapping (("id", id) :: items)) n = .ok v m ↔
      ∃ rest, regenerateFields uuid4 mapping items (if regenerateId then n + 1 else n) =
          .ok rest m ∧
        v = .dict (("id", if regenerateId then .str (uuid4 n) else id) :: rest) := by
  have hreference : OrderedDict.get? "reference" (("id", id) :: items) = none := by
    simpa [OrderedDict.get?] using h
  rw [aroundFields_ok]
  constructor
  · rintro ⟨reference, items', hnew, hloop, rfl⟩
    rw [newReference_none hreference] at hnew
    cases hnew
    obtain ⟨rest, hrest, rfl⟩ := regenerateFields_id.mp hloop
    refine ⟨rest, hrest, ?_⟩
    cases regenerateId <;> rfl
  · rintro ⟨rest, hrest, rfl⟩
    refine ⟨none, _, newReference_none hreference _,
      regenerateFields_id.mpr ⟨rest, hrest, rfl⟩, ?_⟩
    cases regenerateId <;> rfl

/-- An element with an id of its own. -/
theorem ElementRule.of_fields {kind : ElementKind} (hkind : kind ≠ .argument)
    (hnumbered : kind ∈ numberedKinds) {id : PyVal} {fields : List (String × Part)} {clean : Prop}
    (hreference : OrderedDict.get? "reference" (Element.jsonFields fields) = none)
    (h : FieldsRule uuid4 mapping fields clean) :
    ElementRule uuid4 mapping false (.mk kind (some id) fields) clean where
  copies := by
    intro hclean n
    obtain ⟨fields', m, hrun, hcopy, hids⟩ := h.copies hclean (n + 1)
    refine ⟨.mk kind (some (.str (uuid4 n))) fields', m, ?_,
      fun ρ hρ => .element hkind (hcopy ρ hρ), ?_⟩
    · exact (aroundFields_numbered hreference).mpr ⟨_, hrun, rfl⟩
    · have hown : NumberedWithin uuid4 n (n + 1) [.str (uuid4 n)] :=
        ⟨Nat.le_succ n, [n], rfl, List.nodup_singleton n, by simp⟩
      have hall := hown.append hids
      rw [elementIds, if_pos hnumbered]
      exact hall
  clean_of_copy := by
    intro hfresh n m e' ρ hrun hcopy
    cases hcopy with
    | element _ hfields =>
      obtain ⟨rest, hrest, heq⟩ := (aroundFields_numbered hreference).mp hrun
      cases heq
      apply h.clean_of_copy _ (n + 1) m _ ρ hrest hfields
      intro i hi
      exact hfresh i (List.mem_append_right _ hi)
    | argument _ => exact absurd rfl hkind

end Elements

section Arguments

variable {uuid4 : ℕ → String} {mapping : ActionMapping} {actionIds : List UUID}

/-- The keys of some fields. -/
def fieldKeys (fields : List (String × Part)) : List String :=
  OrderedDict.keys (Element.jsonFields fields)

/-- The keys of fields come field by field. -/
theorem fieldKeys_append (xs ys : List (String × Part)) :
    fieldKeys (xs ++ ys) = fieldKeys xs ++ fieldKeys ys := by
  unfold fieldKeys OrderedDict.keys
  rw [jsonFields_append, List.map_append]

/-- A field of data has its own key only. -/
theorem not_mem_dataField {key k : String} (h : k ≠ key) (v : PyVal) :
    k ∉ fieldKeys (dataField key v) := by
  intro hk
  unfold dataField at hk
  split at hk
  · cases hk
  · exact h (List.mem_singleton.mp hk)

/-- The same of a field of one element. -/
theorem not_mem_elementField {key k : String} (h : k ≠ key) (e : Option Element) :
    k ∉ fieldKeys (elementField key e) := by
  intro hk
  cases e with
  | none => cases hk
  | some e => exact h (List.mem_singleton.mp hk)

/-- The same of a field of elements. -/
theorem not_mem_elementsField {key k : String} (h : k ≠ key) (es : List Element) :
    k ∉ fieldKeys (elementsField key es) := by
  intro hk
  unfold elementsField at hk
  split at hk
  · cases hk
  · exact h (List.mem_singleton.mp hk)

/-- The loop brings in no key the fields did not have. -/
theorem not_mem_keys_of_run {key : String} {fields : List (String × Part)}
    {items : OrderedDict String PyVal} {n m : ℕ}
    (h : regenerateFields uuid4 mapping (Element.jsonFields fields) n = .ok items m)
    (hkey : key ∉ fieldKeys fields) : key ∉ items.keys := by
  have hkeys := regenerateFields_keys h
  show key ∉ items.map Prod.fst
  rw [hkeys]
  exact hkey

/-- The entries of an argument when its id has been left out. -/
theorem setEntries_argument {new id : PyVal} {items : OrderedDict String PyVal}
    (h : "id" ∉ items.keys) : setEntries (some new) true none (("id", id) :: items) = items := by
  show OrderedDict.pop "id" (("id", new) :: items) = items
  rw [OrderedDict.pop_cons, if_pos rfl]
  exact OrderedDict.pop_of_get?_none (OrderedDict.get?_eq_none_iff.mpr h)

/-- An argument without a reference. -/
theorem ElementRule.argument_value {id : PyVal} {fields : List (String × Part)} {clean : Prop}
    (hid : "id" ∉ fieldKeys fields) (hreference : "reference" ∉ fieldKeys fields)
    (h : FieldsRule uuid4 mapping fields clean) :
    ElementRule uuid4 mapping true (.mk .argument (some id) fields) clean := by
  have hnone : OrderedDict.get? "reference" (("id", id) :: Element.jsonFields fields) = none := by
    apply OrderedDict.get?_eq_none_iff.mpr
    intro hmem
    rcases List.mem_cons.mp hmem with hmem | hmem
    · exact absurd (show "reference" = "id" from hmem) (by decide)
    · exact hreference hmem
  have hrun : ∀ n m v, aroundFields uuid4 mapping true true
      (("id", id) :: Element.jsonFields fields)
      (regenerateFields uuid4 mapping (("id", id) :: Element.jsonFields fields)) n = .ok v m ↔
        ∃ items, regenerateFields uuid4 mapping (Element.jsonFields fields) (n + 1) =
          .ok items m ∧ v = .dict items := by
    intro n m v
    rw [aroundFields_ok]
    constructor
    · rintro ⟨reference, items', hnew, hloop, rfl⟩
      rw [newReference_none hnone] at hnew
      cases hnew
      obtain ⟨rest, hrest, rfl⟩ := regenerateFields_id.mp hloop
      refine ⟨rest, hrest, ?_⟩
      exact congrArg PyVal.dict (setEntries_argument (not_mem_keys_of_run hrest hid))
    · rintro ⟨items, hitems, rfl⟩
      refine ⟨none, _, newReference_none hnone _, regenerateFields_id.mpr ⟨items, hitems, rfl⟩, ?_⟩
      exact congrArg PyVal.dict (setEntries_argument (not_mem_keys_of_run hitems hid)).symm
  constructor
  · intro hclean n
    obtain ⟨fields', m, hfields, hcopy, hids⟩ := h.copies hclean (n + 1)
    refine ⟨.mk .argument none fields', m, (hrun n m _).mpr ⟨_, hfields, rfl⟩,
      fun ρ hρ => .argument (hcopy ρ hρ), ?_⟩
    obtain ⟨hle, calls, hids, hnodup, hbound⟩ := hids
    refine ⟨by omega, calls, ?_, hnodup, ?_⟩
    · rw [elementIds, if_neg (by decide), List.nil_append]
      exact hids
    · intro k hk
      have hk' := hbound k hk
      omega
  · intro hfresh n m e' ρ hcopied hcopy
    obtain ⟨items, hitems, heq⟩ := (hrun n m _).mp hcopied
    cases hcopy with
    | element hkind _ => exact absurd rfl hkind
    | argument hfields =>
      cases heq
      apply h.clean_of_copy _ (n + 1) m _ ρ hitems hfields
      intro i hi
      exact hfresh i (List.mem_append_right _ hi)

/-- The loop leaves a text alone. -/
theorem regenerateFields_str {key s : String} {items items' : List (String × PyVal)} {n m : ℕ} :
    regenerateFields uuid4 mapping ((key, .str s) :: items) n = .ok items' m ↔
      ∃ rest, regenerateFields uuid4 mapping items n = .ok rest m ∧
        items' = (key, .str s) :: rest := by
  have hfield : regenerateField uuid4 mapping key (.str s) n = .ok (.str s) n := rfl
  rw [regenerateFields, Library.bind_of_ok hfield]
  constructor
  · intro h
    obtain ⟨rest, k, hrest, hresult⟩ := Library.bind_eq_ok.mp h
    cases hresult
    exact ⟨rest, hrest, rfl⟩
  · rintro ⟨rest, hrest, rfl⟩
    exact Library.bind_of_ok hrest

/-- A reference is renewed exactly if the mapping has it. -/
theorem newReference_str {items : OrderedDict String PyVal} {s : String} (hs : s ≠ "")
    (h : items.get? "reference" = some (.str s)) {reference : Option PyVal} {n m : ℕ} :
    newReference mapping items n = .ok reference m ↔
      m = n ∧ ∃ w, mapping.get? (.str s) = some w ∧ reference = some w := by
  have htruthy : (PyVal.str s).truthy = true := by simpa [PyVal.truthy] using hs
  unfold newReference
  rw [h]
  dsimp only
  rw [if_pos htruthy, ActionMapping.lookUp]
  · cases hget : mapping.get? (.str s) with
    | none =>
      constructor
      · intro hrun
        cases hrun
      · rintro ⟨-, w, hw, -⟩
        cases hw
    | some w =>
      constructor
      · intro hrun
        cases hrun
        exact ⟨rfl, w, rfl, rfl⟩
      · rintro ⟨rfl, w', hw, rfl⟩
        cases hw
        rfl
  all_goals exact fun _ => PyVal.noConfusion

/-- The reference of an argument is renamed in place. -/
theorem setEntries_reference {new id w : PyVal} {s : String} {xs ys : OrderedDict String PyVal}
    (hxs : "id" ∉ xs.keys ∧ "reference" ∉ xs.keys) (hys : "id" ∉ ys.keys) :
    setEntries (some new) true (some w) (("id", id) :: (xs ++ ("reference", .str s) :: ys)) =
      xs ++ ("reference", w) :: ys := by
  have hid : "id" ∉ OrderedDict.keys (xs ++ ("reference", PyVal.str s) :: ys) := by
    intro hmem
    obtain ⟨item, hitem, hkey⟩ := List.mem_map.mp hmem
    rcases List.mem_append.mp hitem with hitem | hitem
    · exact hxs.1 (hkey ▸ List.mem_map_of_mem hitem)
    · rcases List.mem_cons.mp hitem with rfl | hitem
      · exact absurd (show "reference" = "id" from hkey) (by decide)
      · exact hys (hkey ▸ List.mem_map_of_mem hitem)
  have hpop : setEntries (some new) true none
      (("id", id) :: (xs ++ ("reference", .str s) :: ys)) = xs ++ ("reference", .str s) :: ys :=
    setEntries_argument hid
  show OrderedDict.set "reference" w (setEntries (some new) true none _) = _
  rw [hpop, OrderedDict.set_append_of_not_mem hxs.2]
  rfl

/-- An argument with a reference. -/
theorem ElementRule.argument_reference {id : PyVal} {s : String} (hs : s ≠ "")
    {pre post : List (String × Part)} {cleanPre cleanPost : Prop}
    (hprekeys : "id" ∉ fieldKeys pre ∧ "reference" ∉ fieldKeys pre)
    (hpostkeys : "id" ∉ fieldKeys post) (hpre : FieldsRule uuid4 mapping pre cleanPre)
    (hpost : FieldsRule uuid4 mapping post cleanPost) :
    ElementRule uuid4 mapping true
      (.mk .argument (some id) (pre ++ ("reference", .reference (.str s)) :: post))
      (cleanPre ∧ cleanPost ∧ (mapping.get? (.str s)).isSome) := by
  have hitems : Element.jsonFields (pre ++ ("reference", .reference (.str s)) :: post) =
      Element.jsonFields pre ++ ("reference", .str s) :: Element.jsonFields post := by
    rw [jsonFields_append]
    rfl
  have hget : OrderedDict.get? "reference" (("id", id) ::
      (Element.jsonFields pre ++ ("reference", .str s) :: Element.jsonFields post)) =
        some (.str s) := by
    show OrderedDict.get? "reference" (Element.jsonFields pre ++ _) = _
    rw [OrderedDict.get?_append_of_not_mem hprekeys.2]
    rfl
  have hrun : ∀ n m v, aroundFields uuid4 mapping true true
      (Element.mk .argument (some id) (pre ++ ("reference", .reference (.str s)) :: post)).items
      (regenerateFields uuid4 mapping
        (Element.mk .argument (some id)
          (pre ++ ("reference", .reference (.str s)) :: post)).items) n = .ok v m ↔
        ∃ w xs k ys, mapping.get? (.str s) = some w ∧
          regenerateFields uuid4 mapping (Element.jsonFields pre) (n + 1) = .ok xs k ∧
          regenerateFields uuid4 mapping (Element.jsonFields post) k = .ok ys m ∧
          v = .dict (xs ++ ("reference", w) :: ys) := by
    intro n m v
    show aroundFields uuid4 mapping true true (("id", id) :: Element.jsonFields _)
      (regenerateFields uuid4 mapping (("id", id) :: Element.jsonFields _)) n = _ ↔ _
    rw [hitems, aroundFields_ok]
    constructor
    · rintro ⟨reference, items', hnew, hloop, rfl⟩
      obtain ⟨-, w, hw, rfl⟩ := (newReference_str hs hget).mp hnew
      obtain ⟨rest, hrest, rfl⟩ := regenerateFields_id.mp hloop
      obtain ⟨xs, k, zs, hxs, hzs, rfl⟩ := regenerateFields_append_ok.mp hrest
      obtain ⟨ys, hys, rfl⟩ := regenerateFields_str.mp hzs
      refine ⟨w, xs, k, ys, hw, hxs, hys, congrArg PyVal.dict (setEntries_reference ?_ ?_)⟩
      · exact ⟨not_mem_keys_of_run hxs hprekeys.1, not_mem_keys_of_run hxs hprekeys.2⟩
      · exact not_mem_keys_of_run hys hpostkeys
    · rintro ⟨w, xs, k, ys, hw, hxs, hys, rfl⟩
      refine ⟨some w, _, (newReference_str hs hget).mpr ⟨rfl, w, hw, rfl⟩,
        regenerateFields_id.mpr ⟨_, regenerateFields_append_ok.mpr
          ⟨xs, k, _, hxs, regenerateFields_str.mpr ⟨ys, hys, rfl⟩, rfl⟩, rfl⟩,
        congrArg PyVal.dict (setEntries_reference ?_ ?_).symm⟩
      · exact ⟨not_mem_keys_of_run hxs hprekeys.1, not_mem_keys_of_run hxs hprekeys.2⟩
      · exact not_mem_keys_of_run hys hpostkeys
  constructor
  · rintro ⟨hcleanPre, hcleanPost, hsome⟩ n
    obtain ⟨w, hw⟩ := Option.isSome_iff_exists.mp hsome
    obtain ⟨pre', k, hrunPre, hcopyPre, hidsPre⟩ := hpre.copies hcleanPre (n + 1)
    obtain ⟨post', m, hrunPost, hcopyPost, hidsPost⟩ := hpost.copies hcleanPost k
    refine ⟨.mk .argument none (pre' ++ ("reference", .reference w) :: post'), m, ?_,
      fun ρ hρ => ?_, ?_⟩
    · apply (hrun n m _).mpr
      refine ⟨w, _, k, _, hw, hrunPre, hrunPost, ?_⟩
      rw [json_eq_dict]
      show PyVal.dict (Element.jsonFields (pre' ++ ("reference", .reference w) :: post')) = _
      rw [jsonFields_append]
      rfl
    · have hw' : ρ (.str s) = w := hρ _ _ hw
      apply ElementCopy.argument
      apply (hcopyPre ρ hρ).append
      rw [← hw']
      exact .cons (.reference (.str s)) (hcopyPost ρ hρ)
    · obtain ⟨hle, calls, hids, hnodup, hbound⟩ := hidsPre.append hidsPost
      refine ⟨by omega, calls, ?_, hnodup, ?_⟩
      · rw [elementIds, if_neg (by decide), List.nil_append, fieldIds_append]
        exact hids
      · intro i hi
        have hi' := hbound i hi
        omega
  · intro hfresh n m e' ρ hcopied hcopy
    obtain ⟨w, xs, k, ys, hw, hxs, hys, heq⟩ := (hrun n m _).mp hcopied
    cases hcopy with
    | element hkind _ => exact absurd rfl hkind
    | argument hfields =>
      obtain ⟨pre', rest', rfl, hcopyPre, hcopyRest⟩ := hfields.of_append
      cases hcopyRest with
      | @cons _ _ _ _ post' hpart hcopyPost =>
        cases hpart
        have heq' : Element.jsonFields pre' ++ ("reference", ρ (.str s)) ::
            Element.jsonFields post' = xs ++ ("reference", w) :: ys := by
          rw [json_eq_dict] at heq
          have hdict := PyVal.dict.inj heq
          rw [← hdict]
          show _ = Element.jsonFields (pre' ++ ("reference", .reference (ρ (.str s))) :: post')
          rw [jsonFields_append]
          rfl
        have hlength : (Element.jsonFields pre').length = xs.length := by
          have hleft := congrArg List.length hcopyPre.keys
          have hright := congrArg List.length (regenerateFields_keys hxs)
          simp only [List.length_map] at hleft hright
          omega
        obtain ⟨rfl, hrest⟩ := List.append_inj heq' hlength
        obtain ⟨-, rfl⟩ := List.cons.inj hrest
        have htexts : ∀ i, uuid4 i ∉ itemTexts (Element.jsonFields pre) ∧
            uuid4 i ∉ itemTexts (Element.jsonFields post) := by
          intro i
          have hi : uuid4 i ∉ itemTexts (Element.jsonFields
              (pre ++ ("reference", .reference (.str s)) :: post)) := fun hmem =>
            hfresh i (List.mem_append_right _ hmem)
          rw [hitems, itemTexts_append, List.mem_append, itemTexts, List.mem_append] at hi
          exact ⟨fun hmem => hi (.inl hmem), fun hmem => hi (.inr (.inr hmem))⟩
        refine ⟨hpre.clean_of_copy (fun i => (htexts i).1) (n + 1) k _ ρ hxs hcopyPre,
          hpost.clean_of_copy (fun i => (htexts i).2) k m _ ρ hys hcopyPost, ?_⟩
        rw [hw]
        rfl

end Arguments

/-! ## The elements of a workflow -/

section Workflows

variable {uuid4 : ℕ → String} {mapping : ActionMapping} {actionIds : List UUID}

/-- The fields of an element have neither an id nor a reference among them. -/
def Plain (fields : List (String × Part)) : Prop :=
  "id" ∉ fieldKeys fields ∧ "reference" ∉ fieldKeys fields

/-- Two plain parts make a plain whole. -/
theorem Plain.append {xs ys : List (String × Part)} (hxs : Plain xs) (hys : Plain ys) :
    Plain (xs ++ ys) := by
  unfold Plain at *
  rw [fieldKeys_append]
  simp only [List.mem_append, not_or]
  exact ⟨⟨hxs.1, hys.1⟩, hxs.2, hys.2⟩

/-- A field of data under another key is plain. -/
theorem plain_dataField {key : String} (hid : "id" ≠ key) (hreference : "reference" ≠ key)
    (v : PyVal) : Plain (dataField key v) :=
  ⟨not_mem_dataField hid v, not_mem_dataField hreference v⟩

/-- The same of a field of one element. -/
theorem plain_elementField {key : String} (hid : "id" ≠ key) (hreference : "reference" ≠ key)
    (e : Option Element) : Plain (elementField key e) :=
  ⟨not_mem_elementField hid e, not_mem_elementField hreference e⟩

/-- The same of a field of elements. -/
theorem plain_elementsField {key : String} (hid : "id" ≠ key) (hreference : "reference" ≠ key)
    (es : List Element) : Plain (elementsField key es) :=
  ⟨not_mem_elementsField hid es, not_mem_elementsField hreference es⟩

/-- Plain fields have no reference. -/
theorem Plain.get?_reference {fields : List (String × Part)} (h : Plain fields) :
    OrderedDict.get? "reference" (Element.jsonFields fields) = none :=
  OrderedDict.get?_eq_none_iff.mpr h.2

/-- An argument is copied when it is clean: the new ids are filed under the ids of the actions. -/
theorem argumentRule (hmapping : ∀ u : UUID, (mapping.get? (.str u.str)).isSome ↔ u ∈ actionIds)
    (row : ArgumentRow) :
    ElementRule uuid4 mapping true row.element (ArgumentClean actionIds row) := by
  obtain ⟨id, name, value, reference, selection⟩ := row
  have hvalue : FieldsRule uuid4 mapping (dataField "name" (.str name) ++ dataField "value" value)
      (DataClean (.str name) ∧ DataClean value) :=
    (FieldsRule.data (by decide) rfl _).append (FieldsRule.data (by decide) rfl _)
  have hselection : FieldsRule uuid4 mapping
      (dataField "selection" ((selection.map PyVal.list).getD .none))
      (DataClean ((selection.map PyVal.list).getD .none)) :=
    FieldsRule.data (by decide) rfl _
  have hpre : Plain (dataField "name" (.str name) ++ dataField "value" value) :=
    (plain_dataField (by decide) (by decide) _).append
      (plain_dataField (by decide) (by decide) _)
  have hpost : Plain (dataField "selection" ((selection.map PyVal.list).getD .none)) :=
    plain_dataField (by decide) (by decide) _
  cases reference with
  | none =>
    have hrule := @ElementRule.argument_value uuid4 mapping (.int id) _ _
      (hpre.append hpost).1 (hpre.append hpost).2 (hvalue.append hselection)
    have hfields : (ArgumentRow.mk id name value none selection).element =
        .mk .argument (some (.int id))
          (dataField "name" (.str name) ++ dataField "value" value ++
            dataField "selection" ((selection.map PyVal.list).getD .none)) := by
      rw [ArgumentRow.element]
      simp [referenceField]
    rw [hfields]
    apply hrule.congr
    constructor
    · rintro ⟨⟨-, hv⟩, hs⟩
      exact ⟨hv, hs, by simp⟩
    · rintro ⟨hv, hs, -⟩
      exact ⟨⟨dataClean_str name, hv⟩, hs⟩
  | some u =>
    have hrule := @ElementRule.argument_reference uuid4 mapping (.int id) u.str
      (UUID.str_ne_empty u) _ _ _ _ hpre hpost.1 hvalue hselection
    have hfields : (ArgumentRow.mk id name value (some u) selection).element =
        .mk .argument (some (.int id))
          (dataField "name" (.str name) ++ dataField "value" value ++
            ("reference", .reference (.str u.str)) ::
              dataField "selection" ((selection.map PyVal.list).getD .none)) := by
      rw [ArgumentRow.element]
      simp [referenceField]
    rw [hfields]
    apply hrule.congr
    rw [hmapping u]
    constructor
    · rintro ⟨⟨-, hv⟩, hs, hu⟩
      refine ⟨hv, hs, ?_⟩
      rintro id ⟨⟩
      exact hu
    · rintro ⟨hv, hs, hu⟩
      exact ⟨⟨dataClean_str name, hv⟩, hs, hu u rfl⟩

/-- Arguments are copied exactly when each refers to an action of the workflow. -/
theorem argumentsRule (hmapping : ∀ u : UUID, (mapping.get? (.str u.str)).isSome ↔ u ∈ actionIds)
    (rows : List ArgumentRow) :
    FieldsRule uuid4 mapping (elementsField "arguments" (rows.map ArgumentRow.element))
      (∀ row ∈ rows, ArgumentClean actionIds row) :=
  .elements (by decide) (.map fun row _ => argumentRule hmapping row)

/-- A transform is copied exactly when it is clean. -/
theorem transformRule (hmapping : ∀ u : UUID, (mapping.get? (.str u.str)).isSome ↔ u ∈ actionIds)
    (row : TransformRow) :
    ElementRule uuid4 mapping false row.element (TransformClean actionIds row) := by
  have hnames : FieldsRule uuid4 mapping
      (dataField "app_name" (.str row.appName) ++ dataField "action_name" (.str row.actionName))
      (DataClean (.str row.appName) ∧ DataClean (.str row.actionName)) :=
    (FieldsRule.data (by decide) rfl _).append (FieldsRule.data (by decide) rfl _)
  have hplain : Plain
      (dataField "app_name" (.str row.appName) ++ dataField "action_name" (.str row.actionName) ++
        elementsField "arguments" (row.arguments.map ArgumentRow.element)) :=
    ((plain_dataField (by decide) (by decide) _).append
      (plain_dataField (by decide) (by decide) _)).append
      (plain_elementsField (by decide) (by decide) _)
  have hrule := hnames.append (argumentsRule hmapping row.arguments)
  apply (ElementRule.of_fields (by decide) (by decide) hplain.get?_reference hrule).congr
  exact ⟨fun h => h.2, fun h => ⟨⟨dataClean_str _, dataClean_str _⟩, h⟩⟩

/-- A condition is copied exactly when it is clean. -/
theorem conditionRule (hmapping : ∀ u : UUID, (mapping.get? (.str u.str)).isSome ↔ u ∈ actionIds)
    (row : ConditionRow) :
    ElementRule uuid4 mapping false row.element (ConditionClean actionIds row) := by
  have hdata : FieldsRule uuid4 mapping
      (dataField "app_name" (.str row.appName) ++ dataField "action_name" (.str row.actionName) ++
        dataField "is_negated" (.bool row.isNegated))
      ((DataClean (.str row.appName) ∧ DataClean (.str row.actionName)) ∧
        DataClean (.bool row.isNegated)) :=
    ((FieldsRule.data (by decide) rfl _).append (FieldsRule.data (by decide) rfl _)).append
      (FieldsRule.data (by decide) rfl _)
  have htransforms : FieldsRule uuid4 mapping
      (elementsField "transforms" (row.transforms.map TransformRow.element))
      (∀ transform ∈ row.transforms, TransformClean actionIds transform) :=
    .elements (by decide) (.map fun transform _ => transformRule hmapping transform)
  have hplain : Plain
      (dataField "app_name" (.str row.appName) ++ dataField "action_name" (.str row.actionName) ++
        dataField "is_negated" (.bool row.isNegated) ++
        elementsField "arguments" (row.arguments.map ArgumentRow.element) ++
        elementsField "transforms" (row.transforms.map TransformRow.element)) :=
    ((((plain_dataField (by decide) (by decide) _).append
      (plain_dataField (by decide) (by decide) _)).append
      (plain_dataField (by decide) (by decide) _)).append
      (plain_elementsField (by decide) (by decide) _)).append
      (plain_elementsField (by decide) (by decide) _)
  have hrule := (hdata.append (argumentsRule hmapping row.arguments)).append htransforms
  apply (ElementRule.of_fields (by decide) (by decide) hplain.get?_reference hrule).congr
  constructor
  · rintro ⟨⟨-, hargs⟩, htransforms⟩
    exact ⟨hargs, htransforms⟩
  · rintro ⟨hargs, htransforms⟩
    exact ⟨⟨⟨⟨dataClean_str _, dataClean_str _⟩, .inr rfl⟩, hargs⟩, htransforms⟩

mutual

/-- An expression is copied exactly when it and all below it are clean. -/
theorem expressionRule
    (hmapping : ∀ u : UUID, (mapping.get? (.str u.str)).isSome ↔ u ∈ actionIds) :
    ∀ (row : ExpressionRow) (parent : Option UUID),
      ElementRule uuid4 mapping false (row.element parent) (ExpressionClean actionIds row)
  | .mk id operator isNegated childExpressions conditions, parent => by
    have hdata : FieldsRule uuid4 mapping
        (dataField "operator" (.str (operatorText operator)) ++
          dataField "is_negated" (.bool isNegated) ++
          dataField "parent" (textValue (parent.map UUID.str)))
        ((DataClean (.str (operatorText operator)) ∧ DataClean (.bool isNegated)) ∧
          DataClean (textValue (parent.map UUID.str))) :=
      ((FieldsRule.data (by decide) rfl _).append (FieldsRule.data (by decide) rfl _)).append
        (FieldsRule.data (by decide) rfl _)
    have hchildren : FieldsRule uuid4 mapping
        (elementsField "child_expressions" (ExpressionRow.elements id childExpressions))
        (ExpressionsClean actionIds childExpressions) :=
      .elements (by decide) (expressionsRule hmapping childExpressions id)
    have hconditions : FieldsRule uuid4 mapping
        (elementsField "conditions" (conditions.map ConditionRow.element))
        (∀ condition ∈ conditions, ConditionClean actionIds condition) :=
      .elements (by decide) (.map fun condition _ => conditionRule hmapping condition)
    have hplain : Plain
        (dataField "operator" (.str (operatorText operator)) ++
          dataField "is_negated" (.bool isNegated) ++
          dataField "parent" (textValue (parent.map UUID.str)) ++
          elementsField "child_expressions" (ExpressionRow.elements id childExpressions) ++
          elementsField "conditions" (conditions.map ConditionRow.element)) :=
      ((((plain_dataField (by decide) (by decide) _).append
        (plain_dataField (by decide) (by decide) _)).append
        (plain_dataField (by decide) (by decide) _)).append
        (plain_elementsField (by decide) (by decide) _)).append
        (plain_elementsField (by decide) (by decide) _)
    have hparent : DataClean (textValue (parent.map UUID.str)) := by
      cases parent <;> exact .inr rfl
    have hrule := (hdata.append hchildren).append hconditions
    apply (ElementRule.of_fields (by decide) (by decide) hplain.get?_reference hrule).congr
    constructor
    · rintro ⟨⟨-, hchildren⟩, hconditions⟩
      exact ⟨hchildren, hconditions⟩
    · rintro ⟨hchildren, hconditions⟩
      exact ⟨⟨⟨⟨dataClean_str _, .inr rfl⟩, hparent⟩, hchildren⟩, hconditions⟩

/-- The same of a list of child expressions. -/
theorem expressionsRule
    (hmapping : ∀ u : UUID, (mapping.get? (.str u.str)).isSome ↔ u ∈ actionIds) :
    ∀ (rows : List ExpressionRow) (parent : UUID),
      ListRule uuid4 mapping false (ExpressionRow.elements parent rows)
        (ExpressionsClean actionIds rows)
  | [], _ => .nil
  | row :: rows, parent =>
    ListRule.cons (expressionRule hmapping row (some parent)) (expressionsRule hmapping rows parent)

end

end Workflows

end Walkoff.Analysis
