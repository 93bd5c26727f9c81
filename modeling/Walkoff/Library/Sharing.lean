import Mathlib.Algebra.BigOperators.Group.Finset.Piecewise
import Mathlib.Algebra.Order.BigOperators.Group.Finset
import Mathlib.Data.List.Basic
import Mathlib.Data.List.Perm.Subperm

/-!
# Sharing out

Elements are dealt out one after the other, each to one of several parties. The share of a party
keeps the order of the dealing, and the shares together are what has been dealt. Of a kind that is
counted once over all parties, only one party has an element, and only one.
-/

set_option autoImplicit false

namespace Walkoff.Library

variable {W α β : Type*} [DecidableEq W]

/-- What a party has been dealt. -/
def share (w : W) (dealt : List (W × α)) : List α :=
  (dealt.filter (·.1 = w)).map Prod.snd

/-- Nothing is dealt to anyone at first. -/
@[simp] theorem share_nil (w : W) : share w ([] : List (W × α)) = [] :=
  rfl

/-- Shares are dealt part by part. -/
theorem share_append (w : W) (dealt dealt' : List (W × α)) :
    share w (dealt ++ dealt') = share w dealt ++ share w dealt' := by
  simp [share]

/-- What is dealt to someone is theirs. -/
@[simp] theorem share_self (w : W) (a : α) : share w [(w, a)] = [a] := by
  simp [share]

/-- What is dealt to another is not. -/
theorem share_of_ne {w v : W} (h : v ≠ w) (a : α) : share w [(v, a)] = [] := by
  simp [share, h]

/-- **Each element is in one share**: the shares have as many elements of a kind as there are. -/
theorem sum_countP_share [Fintype W] (p : α → Bool) (dealt : List (W × α)) :
    ∑ w, (share w dealt).countP p = (dealt.map Prod.snd).countP p := by
  induction dealt with
  | nil => simp
  | cons item dealt ih =>
    obtain ⟨v, a⟩ := item
    have hcons : ∀ w, (share w ((v, a) :: dealt)).countP p =
        (share w dealt).countP p + if v = w then [a].countP p else 0 := by
      intro w
      rw [← List.singleton_append, share_append, List.countP_append, Nat.add_comm]
      by_cases h : v = w
      · simp [h]
      · simp [share_of_ne h, h]
    simp only [hcons, Finset.sum_add_distrib, ih]
    rw [Finset.sum_ite_eq, if_pos (Finset.mem_univ v), Nat.add_comm, ← List.countP_append]
    rfl

/-! ## Elements that are counted once -/

omit [DecidableEq W] in
/-- Two elements of one kind are counted twice. -/
theorem two_le_countP {l : List α} {a b : α} (hne : a ≠ b) (ha : a ∈ l) (hb : b ∈ l)
    {p : α → Bool} (hpa : p a = true) (hpb : p b = true) : 2 ≤ l.countP p := by
  have hnodup : [a, b].Nodup := by simp [hne]
  have hsubset : [a, b] ⊆ l := by simp [ha, hb]
  have hcount : [a, b].countP p = 2 := by simp [hpa, hpb]
  rw [← hcount]
  exact (hnodup.subperm hsubset).countP_le p

/-- **An element that is counted once over all parties** is with one party, once. -/
theorem eq_of_sum_countP_le_one [Fintype W] {held : W → List α} {p : α → Bool}
    (h : ∑ w, (held w).countP p ≤ 1) {w w' : W} {a b : α} (ha : a ∈ held w) (hb : b ∈ held w')
    (hpa : p a = true) (hpb : p b = true) : w = w' ∧ a = b := by
  have hworker : w = w' := by
    by_contra hne
    have hpair := Finset.add_le_sum (f := fun v => (held v).countP p)
      (fun _ _ => Nat.zero_le _) (Finset.mem_univ w) (Finset.mem_univ w') hne
    have hw : 0 < (held w).countP p := List.countP_pos_iff.mpr ⟨a, ha, hpa⟩
    have hw' : 0 < (held w').countP p := List.countP_pos_iff.mpr ⟨b, hb, hpb⟩
    omega
  subst hworker
  refine ⟨rfl, ?_⟩
  by_contra hne
  have htwo : 2 ≤ (held w).countP p := two_le_countP hne ha hb hpa hpb
  have hle := Finset.single_le_sum (f := fun v => (held v).countP p)
    (fun _ _ => Nat.zero_le _) (Finset.mem_univ w)
  omega

end Walkoff.Library
