import Mathlib.Algebra.BigOperators.Group.List.Basic
import Mathlib.Data.Rat.Defs
import Mathlib.Tactic.Linarith
import Mathlib.Tactic.Positivity
import Mathlib.Tactic.Ring

/-!
# The mean and the halving average

The mean of a list of numbers, and the average that each new number is averaged with. Up to two
numbers they agree; from the third on a number keeps them equal exactly if it is the mean of the
earlier ones, so exactly if all from the third on are the mean of the first two.
-/

set_option autoImplicit false

namespace Walkoff.Library

/-- The arithmetic mean. -/
def mean (ts : List ℚ) : ℚ :=
  ts.sum / ts.length

/-- Each number is averaged with the average so far. -/
def halving : List ℚ → ℚ
  | [] => 0
  | t :: ts => ts.foldl (fun average t => (average + t) / 2) t

/-- Every number from the third on is the mean of the first two. -/
def EvenFromThird : List ℚ → Prop
  | t₁ :: t₂ :: rest => ∀ t ∈ rest, t = (t₁ + t₂) / 2
  | _ => True

/-- A time more is averaged with what there was. -/
theorem halving_append (ts : List ℚ) (hts : ts ≠ []) (t : ℚ) :
    halving (ts ++ [t]) = (halving ts + t) / 2 := by
  cases ts with
  | nil => exact absurd rfl hts
  | cons t₁ ts => simp [halving]

/-- Times that are all the average leave it. -/
theorem foldl_halving_of_forall {m : ℚ} {ts : List ℚ} (h : ∀ t ∈ ts, t = m) :
    ts.foldl (fun average t => (average + t) / 2) m = m := by
  induction ts with
  | nil => rfl
  | cons t ts ih =>
    obtain ⟨rfl, hts⟩ := List.forall_mem_cons.mp h
    rw [List.foldl_cons, add_self_div_two]
    exact ih hts

/-- Times that are all the same sum up to as many of them. -/
theorem sum_of_forall {m : ℚ} {ts : List ℚ} (h : ∀ t ∈ ts, t = m) : ts.sum = ts.length * m := by
  rw [List.eq_replicate_of_mem h, List.sum_replicate, List.length_replicate, nsmul_eq_mul]

/-- Even numbers have their mean as halving average. -/
theorem EvenFromThird.halving_eq_mean {ts : List ℚ} (h : EvenFromThird ts) (hts : ts ≠ []) :
    halving ts = mean ts := by
  match ts with
  | [] => exact absurd rfl hts
  | [t] => simp [halving, mean]
  | t₁ :: t₂ :: rest =>
    have hsum := sum_of_forall h
    have hne : (rest.length : ℚ) + 1 + 1 ≠ 0 := by positivity
    have hhalving : halving (t₁ :: t₂ :: rest) = (t₁ + t₂) / 2 :=
      foldl_halving_of_forall h
    rw [hhalving]
    unfold mean
    rw [List.sum_cons, List.sum_cons, hsum, List.length_cons, List.length_cons]
    push_cast
    rw [eq_div_iff hne]
    ring

/-- **One more number** keeps the halving average the mean exactly if it keeps the numbers
even. -/
theorem EvenFromThird.append_iff {ts : List ℚ} (h : EvenFromThird ts) (t : ℚ) :
    halving (ts ++ [t]) = mean (ts ++ [t]) ↔ EvenFromThird (ts ++ [t]) := by
  refine ⟨fun heq => ?_, fun h' => h'.halving_eq_mean (by simp)⟩
  match ts with
  | [] => trivial
  | [t₁] => exact List.forall_mem_nil _
  | t₁ :: t₂ :: rest =>
    have hsum := sum_of_forall h
    have hhalving : halving (t₁ :: t₂ :: rest) = (t₁ + t₂) / 2 :=
      foldl_halving_of_forall h
    rw [halving_append _ (List.cons_ne_nil _ _), hhalving] at heq
    unfold mean at heq
    simp only [List.cons_append, List.sum_cons, List.sum_append, List.sum_nil, hsum,
      List.length_cons, List.length_append, List.length_nil] at heq
    push_cast at heq
    have hne : (rest.length : ℚ) + 1 ≠ 0 := by positivity
    have hne' : (rest.length : ℚ) + 1 + 1 + 1 ≠ 0 := by positivity
    rw [eq_div_iff hne'] at heq
    have ht : t = (t₁ + t₂) / 2 := by
      refine mul_left_cancel₀ hne ?_
      linarith
    intro u hu
    rcases List.mem_append.mp hu with hu | hu
    · exact h u hu
    · rw [List.mem_singleton.mp hu, ht]

/-- Times that are even from the third on were so before the last. -/
theorem EvenFromThird.of_append {ts : List ℚ} {t : ℚ} (h : EvenFromThird (ts ++ [t])) :
    EvenFromThird ts := by
  match ts with
  | [] => trivial
  | [t₁] => trivial
  | t₁ :: t₂ :: rest => exact fun u hu => h u (List.mem_append_left _ hu)

end Walkoff.Library
