import Walkoff.Library.OrderedDict

/-!
# Columns without repetition

A table is a dictionary from keys to rows. `Unique g` says that no two rows have one value in the
column `g`. It survives the insertion of a row whose value is free, the change of a row to a value
that no other row has, and the removal of a row.
-/

set_option autoImplicit false

namespace Walkoff.Library.OrderedDict

variable {α β γ : Type*} [DecidableEq α]

/-- No two rows have one value in the column. -/
def Unique (g : β → γ) (d : OrderedDict α β) : Prop :=
  ∀ k l v w, get? k d = some v → get? l d = some w → g v = g w → k = l

/-- No row but that of the key has the value in the column. -/
def FreeFor (g : β → γ) (k : α) (c : γ) (d : OrderedDict α β) : Prop :=
  ∀ l w, get? l d = some w → g w = c → l = k

variable {g : β → γ} {k : α} {v : β} {d : OrderedDict α β}

/-- An empty table has a unique column. -/
theorem unique_nil : Unique g ([] : OrderedDict α β) := by
  intro k l v w hv
  cases hv

/-- A row keeps a column unique if no other row has its value. -/
theorem Unique.set (h : Unique g d) (hfree : FreeFor g k (g v) d) : Unique g (d.set k v) := by
  intro l m x y hx hy hxy
  rw [get?_set] at hx hy
  split_ifs at hx hy with hl hm hm
  · exact hl.trans hm.symm
  · obtain rfl := Option.some.inj hx
    exact hl.trans (hfree m y hy hxy.symm).symm
  · obtain rfl := Option.some.inj hy
    exact (hfree l x hx hxy).trans hm.symm
  · exact h l m x y hx hy hxy

/-- The value that a row already has is free for it. -/
theorem Unique.freeFor (h : Unique g d) (hv : get? k d = some v) : FreeFor g k (g v) d :=
  fun l w hw heq => h l k w v hw hv heq

/-- Popping a row keeps the column unique. -/
theorem Unique.pop (h : Unique g d) : Unique g (d.pop k) := by
  intro l m x y hx hy hxy
  rw [get?_pop] at hx hy
  split_ifs at hx hy with hl hm
  exact h l m x y hx hy hxy

/-- Rows can be changed all at once if the column stays as it is. -/
theorem Unique.map {f : β → β} (h : Unique g d) (hf : ∀ v, g (f v) = g v) :
    Unique g (d.map fun row => (row.1, f row.2)) := by
  intro l m x y hx hy hxy
  rw [get?_mapRows fun _ => f] at hx hy
  obtain ⟨v, hv, rfl⟩ := Option.map_eq_some_iff.mp hx
  obtain ⟨w, hw, rfl⟩ := Option.map_eq_some_iff.mp hy
  rw [hf, hf] at hxy
  exact h l m v w hv hw hxy

/-! ## Looking a value up -/

variable [DecidableEq γ] {c : γ}

/-- A value that no search finds is free. -/
theorem freeFor_of_find?_none (h : (d.find? fun row => g row.2 = c).map Prod.fst = none) :
    FreeFor g k c d := by
  intro l w hw hc
  have hnone := List.find?_eq_none.mp (Option.map_eq_none_iff.mp h) _ (mem_of_get? hw)
  exact absurd hc (by simpa using hnone)

/-- A value that a search finds in one row is free for that row, if the column is unique. -/
theorem freeFor_of_find?_all (hkeys : d.keys.Nodup) (hunique : Unique g d)
    (h : ((d.find? fun row => g row.2 = c).map Prod.fst).all (· = k) = true) :
    FreeFor g k c d := by
  cases hfind : d.find? fun row => g row.2 = c with
  | none => exact freeFor_of_find?_none (by rw [hfind]; rfl)
  | some row =>
    obtain ⟨l, v⟩ := row
    rw [hfind] at h
    obtain rfl : l = k := by simpa using h
    have hc : g v = c := by simpa using List.find?_some hfind
    subst hc
    exact hunique.freeFor (get?_of_mem hkeys (List.mem_of_find?_eq_some hfind))

end Walkoff.Library.OrderedDict
