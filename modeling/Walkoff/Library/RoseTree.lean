import Mathlib.Data.List.Basic

/-!
# Labelled trees

A node has a label and a list of trees below it. `all` asks a question of every label, the root
first; `labels` lists them in that order.
-/

set_option autoImplicit false

namespace Walkoff.Library

/-- A tree whose nodes have any number of children. -/
inductive RoseTree (α : Type*) where
  | node (label : α) (children : List (RoseTree α))

namespace RoseTree

variable {α : Type*}

mutual

/-- Every label of the tree satisfies `p`. -/
def all (p : α → Bool) : RoseTree α → Bool
  | node label children => p label && allOf p children

/-- Every label of the trees satisfies `p`. -/
def allOf (p : α → Bool) : List (RoseTree α) → Bool
  | [] => true
  | t :: ts => all p t && allOf p ts

end

mutual

/-- The labels of the tree. -/
def labels : RoseTree α → List α
  | node label children => label :: labelsOf children

/-- The labels of the trees. -/
def labelsOf : List (RoseTree α) → List α
  | [] => []
  | t :: ts => labels t ++ labelsOf ts

end

mutual

/-- A test holds everywhere exactly if it does of every label. -/
theorem all_iff (p : α → Bool) : ∀ t : RoseTree α, t.all p = true ↔ ∀ a ∈ t.labels, p a = true
  | node label children => by
    rw [all, labels, Bool.and_eq_true, List.forall_mem_cons, allOf_iff p children]

/-- A question of all trees is a question of all their labels. -/
theorem allOf_iff (p : α → Bool) :
    ∀ ts : List (RoseTree α), allOf p ts = true ↔ ∀ a ∈ labelsOf ts, p a = true
  | [] => by simp [allOf, labelsOf]
  | t :: ts => by
    rw [allOf, labelsOf, Bool.and_eq_true, List.forall_mem_append, all_iff p t, allOf_iff p ts]

end

/-- The labels of trees are collected tree by tree. -/
theorem labelsOf_eq (ts : List (RoseTree α)) : labelsOf ts = ts.flatMap labels := by
  induction ts with
  | nil => rfl
  | cons t ts ih => rw [labelsOf, ih, List.flatMap_cons]

end RoseTree

end Walkoff.Library
