import Walkoff.Program.WorkflowRequests

/-!
# The errors that `_is_valid` sees

`_is_valid` follows the children that each class names. The elements of a workflow are listed here
kind by kind, whoever names them; the one kind that no class names is the device argument.
-/

set_option autoImplicit false

namespace Walkoff.Analysis

open Walkoff.Library Walkoff.Program

/-! ## The elements of a workflow -/

/-- The errors of an expression. -/
def expressionErrors : ExpressionObject → List String
  | .mk _ errors _ _ => errors

/-- All conditional expressions, those of triggers and of branches. -/
def expressionsOf (workflow : WorkflowObject) : List ExpressionObject :=
  ExpressionObject.allExpressions (workflow.actions.filterMap ActionObject.trigger ++
    workflow.branches.filterMap BranchObject.condition)

/-- All conditions. -/
def conditionObjects (workflow : WorkflowObject) : List ConditionObject :=
  (expressionsOf workflow).flatMap ExpressionObject.conditions

/-- All transforms. -/
def transformsOf (workflow : WorkflowObject) : List TransformObject :=
  (conditionObjects workflow).flatMap ConditionObject.transforms

/-- The arguments of all actions, conditions and transforms. -/
def argumentsOf (workflow : WorkflowObject) : List ArgumentObject :=
  workflow.actions.flatMap ActionObject.arguments ++
    (conditionObjects workflow).flatMap ConditionObject.arguments ++
    (transformsOf workflow).flatMap TransformObject.arguments

/-- The device arguments of all actions. -/
def deviceArgumentsOf (workflow : WorkflowObject) : List ArgumentObject :=
  workflow.actions.filterMap ActionObject.deviceId

/-- No device argument has errors. -/
def DevicesErrorFree (workflow : WorkflowObject) : Prop :=
  ∀ device ∈ deviceArgumentsOf workflow, device.errors = []

/-- No other element has errors, the workflow included. -/
structure OthersErrorFree (workflow : WorkflowObject) : Prop where
  own : workflow.errors = []
  actions : ∀ action ∈ workflow.actions, action.errors = []
  branches : ∀ branch ∈ workflow.branches, branch.errors = []
  expressions : ∀ e ∈ expressionsOf workflow, expressionErrors e = []
  conditions : ∀ condition ∈ conditionObjects workflow, condition.errors = []
  transforms : ∀ transform ∈ transformsOf workflow, transform.errors = []
  arguments : ∀ argument ∈ argumentsOf workflow, argument.errors = []

/-- No element of the workflow has errors. -/
def ErrorFree (workflow : WorkflowObject) : Prop :=
  OthersErrorFree workflow ∧ DevicesErrorFree workflow

/-! ## What each class sees -/

/-- The tree of an element has no errors. -/
def Clean (t : RoseTree (List String)) : Prop :=
  ∀ errors ∈ t.labels, errors = []

/-- A tree has no errors when its root and the trees below it have none. -/
theorem clean_node (errors : List String) (children : List (RoseTree (List String))) :
    Clean (.node errors children) ↔ errors = [] ∧ ∀ t ∈ children, Clean t := by
  unfold Clean
  rw [RoseTree.labels, List.forall_mem_cons, RoseTree.labelsOf_eq]
  refine and_congr Iff.rfl ?_
  constructor
  · exact fun h t ht errors herrors => h errors (List.mem_flatMap.mpr ⟨t, ht, herrors⟩)
  · intro h errors herrors
    obtain ⟨t, ht, hlabel⟩ := List.mem_flatMap.mp herrors
    exact h t ht errors hlabel

/-- An argument has nothing below it. -/
theorem argument_clean (argument : ArgumentObject) :
    Clean argument.validatable ↔ argument.errors = [] := by
  rw [ArgumentObject.validatable, clean_node]
  simp

/-- Below a transform there are its arguments. -/
theorem transform_clean (transform : TransformObject) :
    Clean transform.validatable ↔
      transform.errors = [] ∧ ∀ argument ∈ transform.arguments, argument.errors = [] := by
  rw [TransformObject.validatable, clean_node, List.forall_mem_map]
  simp only [argument_clean]

/-- A condition with its arguments and transforms has no errors. -/
structure ConditionErrorFree (condition : ConditionObject) : Prop where
  errors : condition.errors = []
  arguments : ∀ argument ∈ condition.arguments, argument.errors = []
  transforms : ∀ transform ∈ condition.transforms,
    transform.errors = [] ∧ ∀ argument ∈ transform.arguments, argument.errors = []

/-- Below a condition there are its arguments and its transforms with theirs. -/
theorem condition_clean (condition : ConditionObject) :
    Clean condition.validatable ↔ ConditionErrorFree condition := by
  rw [ConditionObject.validatable, clean_node, List.forall_mem_append, List.forall_mem_map,
    List.forall_mem_map]
  simp only [argument_clean, transform_clean]
  exact ⟨fun ⟨herrors, harguments, htransforms⟩ => ⟨herrors, harguments, htransforms⟩,
    fun h => ⟨h.errors, h.arguments, h.transforms⟩⟩

/-- An expression and its own conditions have no errors. -/
def ExpressionErrorFree (e : ExpressionObject) : Prop :=
  expressionErrors e = [] ∧ ∀ condition ∈ e.conditions, ConditionErrorFree condition

mutual

/-- The recursion of `_is_valid` reaches every expression below. -/
theorem expression_clean : ∀ e : ExpressionObject,
    Clean e.validatable ↔ ∀ below ∈ e.expressions, ExpressionErrorFree below
  | .mk id errors childExpressions conditions => by
    rw [ExpressionObject.validatable, clean_node, List.forall_mem_append, List.forall_mem_map,
      expressions_clean childExpressions, ExpressionObject.expressions, List.forall_mem_cons]
    simp only [condition_clean]
    exact ⟨fun ⟨herrors, hchildren, hconditions⟩ => ⟨⟨herrors, hconditions⟩, hchildren⟩,
      fun ⟨⟨herrors, hconditions⟩, hchildren⟩ => ⟨herrors, hchildren, hconditions⟩⟩

/-- The same recursion for the expressions of a list. -/
theorem expressions_clean : ∀ es : List ExpressionObject,
    (∀ t ∈ ExpressionObject.validatables es, Clean t) ↔
      ∀ below ∈ ExpressionObject.allExpressions es, ExpressionErrorFree below
  | [] => by simp [ExpressionObject.validatables, ExpressionObject.allExpressions]
  | e :: es => by
    rw [ExpressionObject.validatables, ExpressionObject.allExpressions, List.forall_mem_cons,
      List.forall_mem_append, expression_clean e, expressions_clean es]

end

/-- The expressions below two lists. -/
theorem allExpressions_append (es fs : List ExpressionObject) :
    ExpressionObject.allExpressions (es ++ fs) =
      ExpressionObject.allExpressions es ++ ExpressionObject.allExpressions fs := by
  induction es with
  | nil => rfl
  | cons e es ih =>
    rw [List.cons_append, ExpressionObject.allExpressions, ExpressionObject.allExpressions, ih,
      List.append_assoc]

/-- The trees of the expressions of some elements. -/
theorem optional_clean {α : Type} (expression : α → Option ExpressionObject) (elements : List α) :
    (∀ x ∈ elements, ∀ e ∈ (expression x).toList, Clean e.validatable) ↔
      ∀ below ∈ ExpressionObject.allExpressions (elements.filterMap expression),
        ExpressionErrorFree below := by
  induction elements with
  | nil => simp [ExpressionObject.allExpressions]
  | cons x elements ih =>
    rw [List.forall_mem_cons, ih, List.filterMap_cons]
    cases expression x with
    | none => simp
    | some e =>
      rw [ExpressionObject.allExpressions, List.forall_mem_append, ← expression_clean e]
      simp

/-- The conditions, transforms and arguments below the expressions, kind by kind. -/
theorem expressionsErrorFree_iff (workflow : WorkflowObject) :
    (∀ e ∈ expressionsOf workflow, ExpressionErrorFree e) ↔
      (∀ e ∈ expressionsOf workflow, expressionErrors e = []) ∧
        (∀ condition ∈ conditionObjects workflow, condition.errors = []) ∧
        (∀ condition ∈ conditionObjects workflow,
          ∀ argument ∈ condition.arguments, argument.errors = []) ∧
        ∀ transform ∈ transformsOf workflow,
          transform.errors = [] ∧ ∀ argument ∈ transform.arguments, argument.errors = [] := by
  have hconditions : (∀ e ∈ expressionsOf workflow, ∀ condition ∈ e.conditions,
      ConditionErrorFree condition) ↔
        ∀ condition ∈ conditionObjects workflow, ConditionErrorFree condition :=
    List.forall_mem_flatMap.symm
  unfold transformsOf
  rw [List.forall_mem_flatMap]
  constructor
  · intro h
    have hfree := hconditions.mp fun e he => (h e he).2
    exact ⟨fun e he => (h e he).1, fun condition hc => (hfree condition hc).errors,
      fun condition hc => (hfree condition hc).arguments,
      fun condition hc => (hfree condition hc).transforms⟩
  · rintro ⟨hexpressions, herrors, harguments, htransforms⟩ e he
    refine ⟨hexpressions e he, hconditions.mpr (fun condition hc => ?_) e he⟩
    exact ⟨herrors condition hc, harguments condition hc, htransforms condition hc⟩

/-! ## The whole tree -/

/-- **What `_is_valid` sees**: every element but the device arguments. -/
theorem isValidNow_iff_others (workflow : WorkflowObject) :
    workflow.isValidNow = true ↔ OthersErrorFree workflow := by
  have hclean : workflow.isValidNow = true ↔
      Clean (.node workflow.errors workflow.children) := by
    rw [WorkflowObject.isValidNow, RoseTree.all_iff]
    simp only [List.isEmpty_iff]
    rfl
  have hexpressions : (∀ e ∈ expressionsOf workflow, ExpressionErrorFree e) ↔
      (∀ action ∈ workflow.actions, ∀ e ∈ action.trigger.toList, Clean e.validatable) ∧
        ∀ branch ∈ workflow.branches, ∀ e ∈ branch.condition.toList, Clean e.validatable := by
    rw [expressionsOf, allExpressions_append, List.forall_mem_append, optional_clean,
      optional_clean]
  rw [hclean, clean_node, WorkflowObject.children, List.forall_mem_append, List.forall_mem_map,
    List.forall_mem_map]
  simp only [ActionObject.validatable, BranchObject.validatable, clean_node,
    List.forall_mem_append, List.forall_mem_map, argument_clean]
  constructor
  · rintro ⟨hown, hactions, hbranches⟩
    obtain ⟨hexpression, herrors, harguments, htransforms⟩ := (expressionsErrorFree_iff _).mp
      (hexpressions.mpr ⟨fun action h => (hactions action h).2.2,
        fun branch h => (hbranches branch h).2⟩)
    refine ⟨hown, fun action h => (hactions action h).1, fun branch h => (hbranches branch h).1,
      hexpression, herrors, fun transform h => (htransforms transform h).1, ?_⟩
    unfold argumentsOf
    rw [List.forall_mem_append, List.forall_mem_append, List.forall_mem_flatMap,
      List.forall_mem_flatMap, List.forall_mem_flatMap]
    exact ⟨⟨fun action h => (hactions action h).2.1, harguments⟩,
      fun transform h => (htransforms transform h).2⟩
  · intro h
    have harguments := h.arguments
    unfold argumentsOf at harguments
    rw [List.forall_mem_append, List.forall_mem_append, List.forall_mem_flatMap,
      List.forall_mem_flatMap, List.forall_mem_flatMap] at harguments
    obtain ⟨⟨hactions, hconditions⟩, htransforms⟩ := harguments
    obtain ⟨htriggers, hbranches⟩ := hexpressions.mp ((expressionsErrorFree_iff _).mpr
      ⟨h.expressions, h.conditions, hconditions,
        fun transform ht => ⟨h.transforms transform ht, htransforms transform ht⟩⟩)
    exact ⟨h.own, fun action ha => ⟨h.actions action ha, hactions action ha, htriggers action ha⟩,
      fun branch hb => ⟨h.branches branch hb, hbranches branch hb⟩⟩

/-- **`_is_valid` says whether any element of the tree has errors exactly when no device argument
has them or another element does, too.** -/
theorem isValidNow_covers_iff (workflow : WorkflowObject) :
    (workflow.isValidNow = true ↔ ErrorFree workflow) ↔
      (DevicesErrorFree workflow ∨ ¬ OthersErrorFree workflow) := by
  rw [isValidNow_iff_others, ErrorFree]
  constructor
  · intro h
    by_cases hothers : OthersErrorFree workflow
    · exact .inl (h.mp hothers).2
    · exact .inr hothers
  · rintro (hdevices | hothers)
    · exact ⟨fun h => ⟨h, hdevices⟩, fun h => h.1⟩
    · exact ⟨fun h => absurd h hothers, fun h => absurd h.1 hothers⟩

/-- A workflow with one action whose device argument has an error. -/
def deviceInError : WorkflowObject where
  playbookId := 9
  name := "scan"
  start := some 1
  actions := [{ id := 1, appName := "Scanner", actionName := "scan", name := "scan"
                deviceId := some { id := 3, name := "__device__", source := .reference 8
                                   isReference := true, errors := ["unknown device"]
                                   moment := .untouched }
                arguments := [], trigger := none, errors := [], moment := .untouched }]
  branches := []
  isValid := true
  errors := []
  moment := .untouched

/-- The error of the device argument is not seen. -/
theorem device_not_covered :
    ¬ (deviceInError.isValidNow = true ↔ ErrorFree deviceInError) := by
  intro h
  have herrors : ["unknown device"] = [] := (h.mp rfl).2 _ List.mem_cons_self
  cases herrors

end Walkoff.Analysis
