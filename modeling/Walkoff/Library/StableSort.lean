import Mathlib.Data.List.Sort
import Mathlib.Order.Basic

/-!
# Stable sorting

A list is a stable sort of another one when its keys ascend and, for every key, it holds
the elements of that key in the order they had. Such a list is unique, and `mergeSort`
makes it.
-/

set_option autoImplicit false

namespace Walkoff.Library

variable {α κ : Type*} [LinearOrder κ] {key : α → κ}

/-- `order` lists the elements of `l` by ascending key, ties in list order. -/
structure IsStableSort (key : α → κ) (l order : List α) : Prop where
  ascending : order.Pairwise fun a b => key a ≤ key b
  ties : ∀ k, order.filter (key · = k) = l.filter (key · = k)

namespace IsStableSort

variable {l order : List α}

/-- A stable sort has the elements of the list. -/
theorem mem_iff (h : IsStableSort key l order) (a : α) : a ∈ order ↔ a ∈ l := by
  have hties := congrArg (a ∈ ·) (h.ties (key a))
  simpa using hties

/-- Only nothing is sorted to nothing. -/
theorem eq_nil_iff (h : IsStableSort key l order) : order = [] ↔ l = [] := by
  simp only [List.eq_nil_iff_forall_not_mem, h.mem_iff]

/-- The head of one stable sort is the head of the other. -/
theorem head_unique {a b : α} {s t : List α} (hs : (a :: s).Pairwise fun a b => key a ≤ key b)
    (ht : (b :: t).Pairwise fun a b => key a ≤ key b)
    (h : ∀ k, (a :: s).filter (key · = k) = (b :: t).filter (key · = k)) : a = b := by
  have hmem : ∀ c, c ∈ a :: s ↔ c ∈ b :: t := fun c => by
    have hc := congrArg (c ∈ ·) (h (key c))
    simpa using hc
  have hle : ∀ {c d : α} {u : List α}, (c :: u).Pairwise (fun a b => key a ≤ key b) →
      d ∈ c :: u → key c ≤ key d := by
    intro c d u hu hd
    rcases List.mem_cons.mp hd with rfl | hd
    · exact le_rfl
    · exact List.rel_of_pairwise_cons hu hd
  have hab : key a = key b :=
    le_antisymm (hle hs ((hmem b).mpr List.mem_cons_self)) (hle ht ((hmem a).mp List.mem_cons_self))
  have hk := h (key a)
  simp only [List.filter_cons, decide_true, if_true, hab] at hk
  exact (List.cons.inj hk).1

/-- **Two sorted lists with the same elements of every key are equal.** -/
theorem eq_of_filter_eq {s t : List α} (hs : s.Pairwise fun a b => key a ≤ key b)
    (ht : t.Pairwise fun a b => key a ≤ key b)
    (h : ∀ k, s.filter (key · = k) = t.filter (key · = k)) : s = t := by
  induction s generalizing t with
  | nil =>
    cases t with
    | nil => rfl
    | cons b t => simpa using h (key b)
  | cons a s ih =>
    cases t with
    | nil => simpa using h (key a)
    | cons b t =>
      obtain rfl := head_unique hs ht h
      have htail : ∀ k, s.filter (key · = k) = t.filter (key · = k) := by
        intro k
        have hk := h k
        by_cases hak : key a = k
        · simpa [List.filter_cons, hak] using hk
        · simpa [List.filter_cons, hak] using hk
      rw [ih hs.of_cons ht.of_cons htail]

/-- There is only one stable sort of a list. -/
theorem unique {order' : List α} (h : IsStableSort key l order) (h' : IsStableSort key l order') :
    order = order' :=
  eq_of_filter_eq h.ascending h'.ascending fun k => (h.ties k).trans (h'.ties k).symm

/-- **`mergeSort` is a stable sort.** -/
theorem mergeSort (key : α → κ) (l : List α) :
    IsStableSort key l (l.mergeSort fun a b => key a ≤ key b) := by
  have htrans : ∀ a b c : α, decide (key a ≤ key b) = true → decide (key b ≤ key c) = true →
      decide (key a ≤ key c) = true := by
    simpa using fun a b c (hab : key a ≤ key b) (hbc : key b ≤ key c) => le_trans hab hbc
  have htotal : ∀ a b : α, (decide (key a ≤ key b) || decide (key b ≤ key a)) = true := by
    simpa using fun a b => le_total (key a) (key b)
  refine ⟨by simpa using List.pairwise_mergeSort htrans htotal l, fun k => ?_⟩
  have hkeep : (l.filter (key · = k)).Sublist (l.mergeSort fun a b => decide (key a ≤ key b)) := by
    refine List.sublist_mergeSort htrans htotal ?_ List.filter_sublist
    rw [List.pairwise_filter]
    refine List.pairwise_of_forall fun a b ha hb => ?_
    simp only [decide_eq_true_eq] at ha hb ⊢
    rw [ha, hb]
  have hfilter := hkeep.filter (key · = k)
  rw [List.filter_filter] at hfilter
  simp only [Bool.and_self] at hfilter
  refine (hfilter.eq_of_length ?_).symm
  exact ((List.mergeSort_perm l _).symm.filter _).length_eq

end IsStableSort

end Walkoff.Library
