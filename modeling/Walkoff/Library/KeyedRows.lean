import Mathlib.Algebra.BigOperators.Group.List.Basic
import Mathlib.Algebra.Ring.Nat
import Mathlib.Data.List.Nodup

/-!
# Rows found by a key, or created

A table is a list of rows, each with a key that it need not be alone to have. `findOrCreate`
changes the first row of a key or, where there is none, appends a new one, so that no key gets
a second row.
-/

set_option autoImplicit false

namespace Walkoff.Library

variable {α κ : Type*} [DecidableEq κ] (key : α → κ)

/-- Change the first row of a key, or append a new row. -/
def findOrCreate (k : κ) (create : α) (change : α → α) : List α → List α
  | [] => [create]
  | a :: rows => if key a = k then change a :: rows else a :: findOrCreate k create change rows

/-- The rows of a key. -/
def rowsAt (k : κ) (rows : List α) : List α :=
  rows.filter fun a => key a = k

/-- A new row has the key, and a change keeps it. -/
structure KeepsKey (k : κ) (create : α) (change : α → α) : Prop where
  create : key create = k
  change : ∀ a, key (change a) = key a

variable {key} {k : κ} {create : α} {change : α → α}

/-- The first row of the key is changed, or one is created. -/
theorem rowsAt_findOrCreate_self (hkey : KeepsKey key k create change) (rows : List α) :
    rowsAt key k (findOrCreate key k create change rows) =
      match rowsAt key k rows with
      | [] => [create]
      | a :: rest => change a :: rest := by
  induction rows with
  | nil => simp [rowsAt, findOrCreate, hkey.create]
  | cons a rows ih =>
    unfold rowsAt at ih ⊢
    by_cases h : key a = k
    · simp [findOrCreate, h, hkey.change]
    · simpa [findOrCreate, h] using ih

/-- The rows of other keys stay. -/
theorem rowsAt_findOrCreate_of_ne {l : κ} (hkey : KeepsKey key k create change) (h : l ≠ k)
    (rows : List α) :
    rowsAt key l (findOrCreate key k create change rows) = rowsAt key l rows := by
  induction rows with
  | nil => simp [rowsAt, findOrCreate, hkey.create, h.symm]
  | cons a rows ih =>
    unfold rowsAt at ih ⊢
    by_cases ha : key a = k
    · simp [findOrCreate, ha, hkey.change, h.symm]
    · rw [findOrCreate, if_neg ha, List.filter_cons, List.filter_cons, ih]

/-- With no second row, the rows of a key are none or one. -/
theorem rowsAt_cases {rows : List α} (h : (rows.map key).Nodup) (k : κ) :
    rowsAt key k rows = [] ∨ ∃ a ∈ rows, rowsAt key k rows = [a] := by
  induction rows with
  | nil => exact .inl rfl
  | cons a rows ih =>
    rw [List.map_cons, List.nodup_cons] at h
    by_cases ha : key a = k
    · refine .inr ⟨a, List.mem_cons_self, ?_⟩
      have hrest : rowsAt key k rows = [] := by
        refine List.filter_eq_nil_iff.mpr fun b hb hkey => h.1 ?_
        exact List.mem_map.mpr ⟨b, hb, (of_decide_eq_true hkey).trans ha.symm⟩
      rw [rowsAt, List.filter_cons_of_pos (by simp [ha])]
      exact congrArg (a :: ·) hrest
    · have hcons : rowsAt key k (a :: rows) = rowsAt key k rows :=
        List.filter_cons_of_neg (by simp [ha])
      rw [hcons]
      rcases ih h.2 with hnil | ⟨b, hb, hone⟩
      · exact .inl hnil
      · exact .inr ⟨b, List.mem_cons_of_mem _ hb, hone⟩

/-- A change adds one to a sum over the rows, and so does a new row. -/
theorem sum_findOrCreate (f : α → ℕ) (hcreate : f create = 1)
    (hchange : ∀ a, f (change a) = f a + 1) (rows : List α) :
    ((findOrCreate key k create change rows).map f).sum = (rows.map f).sum + 1 := by
  induction rows with
  | nil => simp [findOrCreate, hcreate]
  | cons a rows ih =>
    by_cases h : key a = k
    · simp only [findOrCreate, if_pos h, List.map_cons, List.sum_cons, hchange]
      omega
    · simp only [findOrCreate, if_neg h, List.map_cons, List.sum_cons, ih]
      omega

/-- A row is the created one, an old one or a changed one. -/
theorem mem_findOrCreate {b : α} {rows : List α} (h : b ∈ findOrCreate key k create change rows) :
    b = create ∨ b ∈ rows ∨ ∃ a ∈ rows, b = change a := by
  induction rows with
  | nil => exact .inl (List.mem_singleton.mp h)
  | cons a rows ih =>
    unfold findOrCreate at h
    split at h
    · rcases List.mem_cons.mp h with rfl | h
      · exact .inr (.inr ⟨a, List.mem_cons_self, rfl⟩)
      · exact .inr (.inl (List.mem_cons_of_mem _ h))
    · rcases List.mem_cons.mp h with rfl | h
      · exact .inr (.inl List.mem_cons_self)
      · rcases ih h with rfl | h | ⟨a', ha', rfl⟩
        · exact .inl rfl
        · exact .inr (.inl (List.mem_cons_of_mem _ h))
        · exact .inr (.inr ⟨a', List.mem_cons_of_mem _ ha', rfl⟩)

/-- What holds of a new row and of a changed one holds of every row. -/
theorem forall_findOrCreate {p : α → Prop} (hcreate : p create)
    (hchange : ∀ a, p a → p (change a)) {rows : List α} (h : ∀ a ∈ rows, p a) :
    ∀ a ∈ findOrCreate key k create change rows, p a := by
  intro b hb
  rcases mem_findOrCreate hb with rfl | hb | ⟨a, ha, rfl⟩
  · exact hcreate
  · exact h b hb
  · exact hchange a (h a ha)

/-- **No second row.** -/
theorem nodup_findOrCreate (hkey : KeepsKey key k create change) {rows : List α} (h : (rows.map key).Nodup) :
    ((findOrCreate key k create change rows).map key).Nodup := by
  induction rows with
  | nil => simp [findOrCreate]
  | cons a rows ih =>
    rw [List.map_cons, List.nodup_cons] at h
    by_cases ha : key a = k
    · simpa [findOrCreate, ha, hkey.change] using h
    · simp only [findOrCreate, if_neg ha, List.map_cons, List.nodup_cons]
      refine ⟨fun hmem => h.1 ?_, ih h.2⟩
      obtain ⟨b, hb, heq⟩ := List.mem_map.mp hmem
      rcases mem_findOrCreate hb with rfl | hb | ⟨c, hc, rfl⟩
      · exact absurd (heq.symm.trans hkey.create) ha
      · exact List.mem_map.mpr ⟨b, hb, heq⟩
      · exact List.mem_map.mpr ⟨c, hc, (hkey.change c).symm.trans heq⟩

end Walkoff.Library
