import Walkoff.Library.OrderedDict

/-!
# Dictionaries whose values are changed in place

A router is a dictionary of dictionaries: the entry of a key is made when it is first needed and
then changed. `change` is such a step, and `foldl_change_iff` says what a loop of them adds.
-/

set_option autoImplicit false

namespace Walkoff.Library.OrderedDict

variable {α β : Type*} [DecidableEq α]

/-- The value of a key, or the default of a key that is not there. -/
def valueOr (k : α) (default : β) (d : OrderedDict α β) : β :=
  (get? k d).getD default

/-- Change the value of a key, which starts from the default. -/
def change (k : α) (default : β) (f : β → β) (d : OrderedDict α β) : OrderedDict α β :=
  set k (f (valueOr k default d)) d

/-- Change every value. -/
def mapValues (f : β → β) (d : OrderedDict α β) : OrderedDict α β :=
  d.map fun item => (item.1, f item.2)

/-- In an empty dictionary every key has the default. -/
@[simp] theorem valueOr_nil (k : α) (default : β) :
    valueOr k default ([] : OrderedDict α β) = default := rfl

/-- A change is seen under its own key only. -/
theorem valueOr_change (k l : α) (default : β) (f : β → β) (d : OrderedDict α β) :
    valueOr l default (change k default f d) =
      if l = k then f (valueOr k default d) else valueOr l default d := by
  unfold change valueOr
  rw [get?_set]
  by_cases h : l = k <;> simp [h]

/-- A change of all values is seen under every key. -/
theorem valueOr_mapValues {f : β → β} {default : β} (h : f default = default) (k : α)
    (d : OrderedDict α β) : valueOr k default (mapValues f d) = f (valueOr k default d) := by
  induction d with
  | nil => exact h.symm
  | cons item d ih =>
    unfold valueOr at ih ⊢
    by_cases hk : item.1 = k
    · simp [mapValues, get?, hk]
    · simpa [mapValues, get?, hk] using ih

/-- What a loop that changes the entries of some keys adds to what holds of the entry of a key. -/
theorem foldl_change_iff {P : β → Prop} {Q : Prop} {f : β → β} (hf : ∀ b, P (f b) ↔ P b ∨ Q)
    (default : β) (ks : List α) (d : OrderedDict α β) (l : α) :
    P (valueOr l default (ks.foldl (fun d k => change k default f d) d)) ↔
      P (valueOr l default d) ∨ (l ∈ ks ∧ Q) := by
  induction ks generalizing d with
  | nil => simp
  | cons k ks ih =>
    rw [List.foldl_cons, ih, valueOr_change, List.mem_cons]
    by_cases h : l = k
    · subst h
      rw [if_pos rfl, hf]
      tauto
    · rw [if_neg h]
      tauto

/-- One changed entry. -/
theorem change_iff {P : β → Prop} {Q : Prop} {f : β → β} (hf : ∀ b, P (f b) ↔ P b ∨ Q)
    (default : β) (k : α) (d : OrderedDict α β) (l : α) :
    P (valueOr l default (change k default f d)) ↔ P (valueOr l default d) ∨ (l = k ∧ Q) := by
  simpa using foldl_change_iff hf default [k] d l

end Walkoff.Library.OrderedDict
