import Mathlib.Data.List.Forall2
import Walkoff.Library.Effect
import Walkoff.Library.OrderedDict

/-!
# Two computations on related data

`Agree` compares computations that return the same. Here the data on the way may differ.

* `AlikeResults P E`: both computations return values related by `P`, or raise exceptions related
  by `E`. The rules are those of sequencing and of loops over lists that are related element by
  element.
* `AgreeEnds`: the rules of sequencing for two runs of stateful computations, where the pure
  computations on the way are alike.
* `RelatedItems P`: dictionaries of the same keys in the same order, with related values.
-/

set_option autoImplicit false

namespace Walkoff.Library

variable {ε ε' σ α β γ δ : Type}

/-! ## Pure computations -/

/-- Both return values related by `P`, or raise exceptions related by `E`. -/
inductive AlikeResults (P : α → β → Prop) (E : ε → ε' → Prop) :
    Except ε α → Except ε' β → Prop where
  | ok {a : α} {b : β} (h : P a b) : AlikeResults P E (.ok a) (.ok b)
  | error {e : ε} {e' : ε'} (h : E e e') : AlikeResults P E (.error e) (.error e')

namespace AlikeResults

variable {P : α → β → Prop} {Q : γ → δ → Prop} {E : ε → ε' → Prop}

/-- A result is like itself. -/
theorem refl {P : α → α → Prop} {E : ε → ε → Prop} (hP : ∀ a, P a a) (hE : ∀ e, E e e)
    (x : Except ε α) : AlikeResults P E x x := by
  cases x with
  | ok a => exact .ok (hP a)
  | error e => exact .error (hE e)

/-- A computation beside itself. -/
theorem self (x : Except ε α) : AlikeResults (fun a b => x = .ok a ∧ a = b) Eq x x := by
  cases x with
  | ok a => exact .ok ⟨rfl, rfl⟩
  | error e => exact .error rfl

/-- Sequences of alike parts are alike. -/
theorem bind {x : Except ε α} {y : Except ε' β} {f : α → Except ε γ} {g : β → Except ε' δ}
    (h : AlikeResults P E x y) (hf : ∀ a b, P a b → AlikeResults Q E (f a) (g b)) :
    AlikeResults Q E (x >>= f) (y >>= g) := by
  cases h with
  | ok h => exact hf _ _ h
  | error h => exact .error h

/-- The rule of a loop that makes a list. -/
theorem mapM {f : α → Except ε γ} {g : β → Except ε' δ} {as : List α} {bs : List β}
    (h : List.Forall₂ P as bs) (hf : ∀ a b, P a b → AlikeResults Q E (f a) (g b)) :
    AlikeResults (List.Forall₂ Q) E (as.mapM f) (bs.mapM g) := by
  induction h with
  | nil => exact .ok .nil
  | cons h _ ih =>
    rw [List.mapM_cons, List.mapM_cons]
    exact (hf _ _ h).bind fun _ _ h => ih.bind fun _ _ hs => .ok (.cons h hs)

/-- The rule of a loop with an accumulator. -/
theorem foldlM {f : γ → α → Except ε γ} {g : δ → β → Except ε' δ} {as : List α} {bs : List β}
    (h : List.Forall₂ P as bs)
    (hf : ∀ c d a b, Q c d → P a b → AlikeResults Q E (f c a) (g d b)) {c : γ} {d : δ}
    (hinit : Q c d) : AlikeResults Q E (as.foldlM f c) (bs.foldlM g d) := by
  induction h generalizing c d with
  | nil => exact .ok hinit
  | cons h _ ih =>
    rw [List.foldlM_cons, List.foldlM_cons]
    exact (hf _ _ _ _ hinit h).bind fun _ _ h => ih h

/-- The rule of a loop that makes nothing. -/
theorem forM {f : α → Except ε PUnit} {g : β → Except ε' PUnit} {as : List α} {bs : List β}
    (h : List.Forall₂ P as bs)
    (hf : ∀ a b, P a b → AlikeResults (fun _ _ => True) E (f a) (g b)) :
    AlikeResults (fun _ _ => True) E (as.forM f) (bs.forM g) := by
  induction h with
  | nil => exact .ok trivial
  | cons h _ ih => exact (hf _ _ h).bind fun _ _ _ => ih

end AlikeResults

/-- Lists related element by element, where related elements pass the tests alike. -/
theorem any_eq_of_related {P : α → β → Prop} {p : α → Bool} {q : β → Bool} {as : List α}
    {bs : List β} (h : List.Forall₂ P as bs) (hpq : ∀ a b, P a b → p a = q b) :
    as.any p = bs.any q := by
  induction h with
  | nil => rfl
  | cons h _ ih => rw [List.any_cons, List.any_cons, hpq _ _ h, ih]

/-! ## Stateful computations -/

namespace AgreeEnds

variable {R : σ → σ → Prop} {s t : σ}

/-- Sequences of parts that agree agree. -/
theorem bind {m m' : EStateM ε σ α} {f f' : α → EStateM ε σ β} (h : AgreeEnds R (m s) (m' t))
    (hf : ∀ a s t, R s t → AgreeEnds R (f a s) (f' a t)) :
    AgreeEnds R ((m >>= f) s) ((m' >>= f') t) := by
  rw [bind_apply, bind_apply]
  generalize m s = r, m' t = r' at h
  cases h with
  | ok h => exact hf _ _ _ h
  | error h => exact .error h

/-- A pure computation on the way, which need not return the same. -/
theorem bind_lift {P : α → γ → Prop} {x : Except ε α} {y : Except ε γ}
    {f : α → EStateM ε σ β} {f' : γ → EStateM ε σ β} (hst : R s t) (h : AlikeResults P Eq x y)
    (hf : ∀ a c, P a c → AgreeEnds R (f a s) (f' c t)) :
    AgreeEnds R ((lift x >>= f) s) ((lift y >>= f') t) := by
  cases h with
  | ok h => exact hf _ _ h
  | error h =>
    rw [h]
    exact .error hst

end AgreeEnds

/-! ## Dictionaries -/

section

variable {κ V W : Type} [DecidableEq κ]

/-- Items of one key with related values. -/
def RelatedItem (P : κ → V → W → Prop) (item : κ × V) (item' : κ × W) : Prop :=
  item.1 = item'.1 ∧ P item.1 item.2 item'.2

/-- The same keys in the same order, with related values. -/
def RelatedItems (P : κ → V → W → Prop) (d : OrderedDict κ V) (d' : OrderedDict κ W) : Prop :=
  List.Forall₂ (RelatedItem P) d d'

variable {P : κ → V → W → Prop} {d : OrderedDict κ V} {d' : OrderedDict κ W}

omit [DecidableEq κ] in
/-- Related dictionaries have the same keys. -/
theorem RelatedItems.keys_eq (h : RelatedItems P d d') : d.keys = d'.keys := by
  induction h with
  | nil => rfl
  | cons h _ ih => exact congrArg₂ List.cons h.1 ih

/-- Setting related values keeps dictionaries related. -/
theorem RelatedItems.set (h : RelatedItems P d d') {k : κ} {v : V} {w : W} (hvw : P k v w) :
    RelatedItems P (d.set k v) (d'.set k w) := by
  induction h with
  | nil => exact .cons ⟨rfl, hvw⟩ .nil
  | @cons item item' rest rest' hitem hrest ih =>
    obtain ⟨key, value⟩ := item
    obtain ⟨key', value'⟩ := item'
    obtain ⟨rfl, hvalue⟩ := hitem
    by_cases hkey : key = k
    · subst hkey
      simp only [OrderedDict.set, if_true]
      exact .cons ⟨rfl, hvw⟩ hrest
    · simp only [OrderedDict.set, hkey, if_false]
      exact .cons ⟨rfl, hvalue⟩ ih

/-- Related dictionaries have related values. -/
theorem RelatedItems.get? (h : RelatedItems P d d') (k : κ) :
    Option.Rel (P k) (d.get? k) (d'.get? k) := by
  induction h with
  | nil => exact .none
  | @cons item item' rest rest' hitem _ ih =>
    obtain ⟨key, value⟩ := item
    obtain ⟨key', value'⟩ := item'
    obtain ⟨rfl, hvalue⟩ := hitem
    by_cases hkey : key = k
    · subst hkey
      simp only [OrderedDict.get?, if_true]
      exact .some hvalue
    · simp only [OrderedDict.get?, hkey, if_false]
      exact ih

/-- Popping a key keeps dictionaries related. -/
theorem RelatedItems.pop (h : RelatedItems P d d') (k : κ) :
    RelatedItems P (d.pop k) (d'.pop k) := by
  induction h with
  | nil => exact .nil
  | @cons item item' rest rest' hitem _ ih =>
    rw [OrderedDict.pop_cons, OrderedDict.pop_cons, ← hitem.1]
    split
    · exact ih
    · exact .cons hitem ih

/-- Related items keep dictionaries related. -/
theorem RelatedItems.update (h : RelatedItems P d d') {items : List (κ × V)}
    {items' : List (κ × W)} (hitems : List.Forall₂ (RelatedItem P) items items') :
    RelatedItems P (d.update items) (d'.update items') := by
  unfold OrderedDict.update
  induction hitems generalizing d d' with
  | nil => exact h
  | @cons item item' rest rest' hitem hrest ih =>
    obtain ⟨key, value⟩ := item
    obtain ⟨key', value'⟩ := item'
    obtain ⟨rfl, hvalue⟩ := hitem
    exact ih (h.set hvalue)

end

end Walkoff.Library
