import Walkoff.Analysis.CurrentValidity
import Walkoff.Analysis.ErrorCoverage

/-!
# Errors that a validation attests

An element lists its errors in a column. They are attested when its own validation returns and finds
an error exactly if one is listed, on the content as the session holds it as well as on the content
as it is stored. Whichever rows a flush writes, attested errors stay attested, and the column
`is_valid` that it writes is current.
-/

set_option autoImplicit false

namespace Walkoff.Analysis

open Walkoff.Library Walkoff.Model Walkoff.Program

/-! ## Attested errors -/

/-- The validation returns, and it finds an error exactly if one is listed. -/
def Attests (found : Except Exn (List String)) (listed : List String) : Prop :=
  ∃ errors, found = .ok errors ∧ (errors = [] ↔ listed = [])

section

variable (apps : AppGateway)

/-- The errors of a transform and of its arguments. -/
structure AttestedTransform (transform : TransformObject) : Prop where
  arguments : ∀ argument ∈ transform.arguments, argument.errors = []
  held : Attests (transform.validate apps) transform.errors
  stored : Attests ((transform.settle true).validate apps) transform.errors

/-- The errors of a condition and of what is below it. -/
structure AttestedCondition (condition : ConditionObject) : Prop where
  arguments : ∀ argument ∈ condition.arguments, argument.errors = []
  transforms : ∀ transform ∈ condition.transforms, AttestedTransform apps transform
  held : Attests (condition.validate apps) condition.errors
  stored : Attests ((condition.settle true).validate apps) condition.errors

mutual

/-- The errors of what is below an expression, which has no validation of its own. -/
def AttestedExpression : ExpressionObject → Prop
  | .mk _ _ childExpressions conditions =>
    AttestedExpressions childExpressions ∧
      ∀ condition ∈ conditions, AttestedCondition apps condition

def AttestedExpressions : List ExpressionObject → Prop
  | [] => True
  | e :: es => AttestedExpression e ∧ AttestedExpressions es

end

/-- The errors of an action and of what is below it. -/
structure AttestedAction (action : ActionObject) : Prop where
  device : ∀ device ∈ action.deviceId, device.errors = []
  arguments : ∀ argument ∈ action.arguments, argument.errors = []
  trigger : ∀ e ∈ action.trigger, AttestedExpression apps e
  held : Attests (action.validate apps) action.errors
  stored : Attests ((action.settle true).validate apps) action.errors

/-- The errors of what is below a branch. -/
def AttestedBranch (branch : BranchObject) : Prop :=
  ∀ e ∈ branch.condition, AttestedExpression apps e

/-- The errors of what is below a workflow. -/
structure AttestedWorkflow (workflow : WorkflowObject) : Prop where
  actions : ∀ action ∈ workflow.actions, AttestedAction apps action
  branches : ∀ branch ∈ workflow.branches, AttestedBranch apps branch

end

variable {apps : AppGateway}

/-- What is attested stays attested by a list that is empty in the same cases. -/
theorem Attests.congr {found : Except Exn (List String)} {listed listed' : List String}
    (h : Attests found listed) (hsame : listed' = [] ↔ listed = []) : Attests found listed' := by
  obtain ⟨errors, hfound, hiff⟩ := h
  exact ⟨errors, hfound, hiff.trans hsame.symm⟩

/-- What a flush leaves in the column, whether the element is due or not. -/
theorem Attests.refreshed {found : Except Exn (List String)} {listed : List String}
    (h : Attests found listed) (due : Moment → Bool) (moment : Moment) :
    ∃ errors, refreshedErrors due moment found listed = .ok errors ∧
      (errors = [] ↔ listed = []) := by
  obtain ⟨errors, hfound, hiff⟩ := h
  unfold refreshedErrors
  split
  · exact ⟨errors, hfound, hiff⟩
  · exact ⟨listed, rfl, Iff.rfl⟩

/-- The tree of a condition, in its parts. -/
theorem condition_clean_iff (condition : ConditionObject) :
    Clean condition.validatable ↔ condition.errors = [] ∧
      (∀ argument ∈ condition.arguments, argument.errors = []) ∧
        ∀ transform ∈ condition.transforms, Clean transform.validatable := by
  rw [ConditionObject.validatable, clean_node, List.forall_mem_append, List.forall_mem_map,
    List.forall_mem_map]
  simp only [argument_clean]

/-- The tree of an expression, in its parts. -/
theorem expression_clean_iff (id : UUID) (errors : List String)
    (childExpressions : List ExpressionObject) (conditions : List ConditionObject) :
    Clean (ExpressionObject.mk id errors childExpressions conditions).validatable ↔
      errors = [] ∧ (∀ t ∈ ExpressionObject.validatables childExpressions, Clean t) ∧
        ∀ condition ∈ conditions, Clean condition.validatable := by
  rw [ExpressionObject.validatable, clean_node, List.forall_mem_append, List.forall_mem_map]

/-- The tree of an action, in its parts. -/
theorem action_clean_iff (action : ActionObject) :
    Clean action.validatable ↔ action.errors = [] ∧
      (∀ argument ∈ action.arguments, argument.errors = []) ∧
        ∀ e ∈ action.trigger.toList, Clean e.validatable := by
  rw [ActionObject.validatable, clean_node, List.forall_mem_append, List.forall_mem_map,
    List.forall_mem_map]
  simp only [argument_clean]

/-- The tree of a branch, in its parts. -/
theorem branch_clean_iff (branch : BranchObject) :
    Clean branch.validatable ↔
      branch.errors = [] ∧ ∀ e ∈ branch.condition.toList, Clean e.validatable := by
  rw [BranchObject.validatable, clean_node, List.forall_mem_map]

/-- The workflow is in error when the tree of an action or of a branch is. -/
theorem inError_iff (workflow : WorkflowObject) :
    InError workflow ↔ ¬ ((∀ action ∈ workflow.actions, Clean action.validatable) ∧
      ∀ branch ∈ workflow.branches, Clean branch.validatable) := by
  have hchildren : (∀ errors ∈ RoseTree.labelsOf workflow.children, errors = []) ↔
      ∀ t ∈ workflow.children, Clean t := by
    rw [RoseTree.labelsOf_eq, List.forall_mem_flatMap]
    rfl
  rw [WorkflowObject.children, List.forall_mem_append, List.forall_mem_map,
    List.forall_mem_map] at hchildren
  rw [← hchildren]
  unfold InError
  push Not
  rfl

/-! ## Flushing attested errors -/

section

variable (due : Moment → Bool)

/-- An argument without errors has none afterwards. -/
theorem refreshed_arguments {arguments : List ArgumentObject}
    (h : ∀ argument ∈ arguments, argument.errors = []) :
    ∀ argument ∈ arguments.map (ArgumentObject.refresh due), argument.errors = [] := by
  rw [List.forall_mem_map]
  intro argument hmem
  unfold ArgumentObject.refresh
  dsimp only
  split
  · rfl
  · exact h argument hmem

/-- A validation of parameters reads the same arguments before and after. -/
theorem refreshed_read (arguments : List ArgumentObject) :
    (arguments.map (ArgumentObject.refresh due)).map ArgumentObject.argument =
      arguments.map ArgumentObject.argument := by
  rw [List.map_map]
  rfl

/-- A flush keeps the errors of a transform attested and its verdict as it was. -/
theorem refresh_transform {transform : TransformObject} (h : AttestedTransform apps transform) :
    ∃ refreshed, transform.refresh apps due = .ok refreshed ∧ AttestedTransform apps refreshed ∧
      (Clean refreshed.validatable ↔ Clean transform.validatable) := by
  obtain ⟨errors, hrefreshed, hsame⟩ := h.held.refreshed due transform.moment
  have harguments := refreshed_arguments due h.arguments
  refine ⟨_, Except.bind_eq_ok.mpr ⟨errors, hrefreshed, rfl⟩, ⟨harguments, ?_, ?_⟩, ?_⟩
  · have hread : ({ transform with
        errors, arguments := transform.arguments.map (ArgumentObject.refresh due) } :
          TransformObject).validate apps = transform.validate apps := by
      simp only [TransformObject.validate, refreshed_read]
    exact hread ▸ h.held.congr hsame
  · have hread : (({ transform with
        errors, arguments := transform.arguments.map (ArgumentObject.refresh due) } :
          TransformObject).settle true).validate apps = (transform.settle true).validate apps := by
      simp only [TransformObject.validate, TransformObject.settle, arguments_read]
    exact hread ▸ h.stored.congr hsame
  · rw [transform_clean, transform_clean, hsame]
    exact and_congr_right fun _ => iff_of_true harguments h.arguments

/-- The same of a condition, whose transforms are flushed one by one. -/
theorem refresh_condition {condition : ConditionObject} (h : AttestedCondition apps condition) :
    ∃ refreshed, condition.refresh apps due = .ok refreshed ∧ AttestedCondition apps refreshed ∧
      (Clean refreshed.validatable ↔ Clean condition.validatable) := by
  obtain ⟨errors, hrefreshed, hsame⟩ := h.held.refreshed due condition.moment
  obtain ⟨transforms, htransforms, hattested, hclean⟩ := Except.mapM_of_forall
    fun transform hmem => refresh_transform due (h.transforms transform hmem)
  have harguments := refreshed_arguments due h.arguments
  refine ⟨_, Except.bind_eq_ok.mpr ⟨errors, hrefreshed,
    Except.bind_eq_ok.mpr ⟨transforms, htransforms, rfl⟩⟩, ⟨harguments, hattested, ?_, ?_⟩, ?_⟩
  · have hread : ({ condition with
        errors, transforms, arguments := condition.arguments.map (ArgumentObject.refresh due) } :
          ConditionObject).validate apps = condition.validate apps := by
      simp only [ConditionObject.validate, refreshed_read]
    exact hread ▸ h.held.congr hsame
  · have hread : (({ condition with
        errors, transforms, arguments := condition.arguments.map (ArgumentObject.refresh due) } :
          ConditionObject).settle true).validate apps = (condition.settle true).validate apps := by
      simp only [ConditionObject.validate, ConditionObject.settle, arguments_read]
    exact hread ▸ h.stored.congr hsame
  · rw [condition_clean_iff, condition_clean_iff, hsame, hclean]
    exact and_congr_right fun _ => and_congr_left fun _ => iff_of_true harguments h.arguments

mutual

/-- The same of an expression; its own errors are not touched. -/
theorem refresh_expression : ∀ {e : ExpressionObject}, AttestedExpression apps e →
    ∃ refreshed, e.refresh apps due = .ok refreshed ∧ AttestedExpression apps refreshed ∧
      (Clean refreshed.validatable ↔ Clean e.validatable)
  | .mk id errors childExpressions conditions, h => by
    rw [AttestedExpression] at h
    obtain ⟨children, hchildren, hbelow, hcleans⟩ := refresh_expressions h.1
    obtain ⟨refreshed, hrefreshed, hattested, hclean⟩ := Except.mapM_of_forall
      fun condition hmem => refresh_condition due (h.2 condition hmem)
    refine ⟨.mk id errors children refreshed, ?_, ?_, ?_⟩
    · rw [ExpressionObject.refresh, hchildren]
      exact Except.bind_eq_ok.mpr ⟨children, rfl, Except.bind_eq_ok.mpr ⟨_, hrefreshed, rfl⟩⟩
    · rw [AttestedExpression]
      exact ⟨hbelow, hattested⟩
    · rw [expression_clean_iff, expression_clean_iff, hcleans, hclean]

/-- The same of the expressions below one. -/
theorem refresh_expressions : ∀ {es : List ExpressionObject}, AttestedExpressions apps es →
    ∃ refreshed, ExpressionObject.refreshAll apps due es = .ok refreshed ∧
      AttestedExpressions apps refreshed ∧
      ((∀ t ∈ ExpressionObject.validatables refreshed, Clean t) ↔
        ∀ t ∈ ExpressionObject.validatables es, Clean t)
  | [], _ => ⟨[], rfl, by rw [AttestedExpressions]; trivial, Iff.rfl⟩
  | e :: es, h => by
    rw [AttestedExpressions] at h
    obtain ⟨first, hfirst, hattested, hclean⟩ := refresh_expression h.1
    obtain ⟨others, hothers, hattested', hclean'⟩ := refresh_expressions h.2
    refine ⟨first :: others, ?_, ?_, ?_⟩
    · rw [ExpressionObject.refreshAll, hfirst, hothers]
      rfl
    · rw [AttestedExpressions]
      exact ⟨hattested, hattested'⟩
    · rw [ExpressionObject.validatables, ExpressionObject.validatables, List.forall_mem_cons,
        List.forall_mem_cons, hclean, hclean']

end

/-- The same of an expression that may be missing. -/
theorem refresh_optional {e : Option ExpressionObject} (h : ∀ x ∈ e, AttestedExpression apps x) :
    ∃ refreshed, ExpressionObject.refreshOptional apps due e = .ok refreshed ∧
      (∀ x ∈ refreshed, AttestedExpression apps x) ∧
      ((∀ x ∈ refreshed.toList, Clean x.validatable) ↔ ∀ x ∈ e.toList, Clean x.validatable) := by
  cases e with
  | none => exact ⟨none, rfl, h, Iff.rfl⟩
  | some e =>
    obtain ⟨refreshed, hrefreshed, hattested, hclean⟩ := refresh_expression due (h e rfl)
    refine ⟨some refreshed, Except.bind_eq_ok.mpr ⟨_, hrefreshed, rfl⟩, ?_, ?_⟩
    · rintro x ⟨⟩
      exact hattested
    · simpa using hclean

/-- The same of an action with its device, arguments and trigger. -/
theorem refresh_action {action : ActionObject} (h : AttestedAction apps action) :
    ∃ refreshed, action.refresh apps due = .ok refreshed ∧ AttestedAction apps refreshed ∧
      (Clean refreshed.validatable ↔ Clean action.validatable) := by
  obtain ⟨errors, hrefreshed, hsame⟩ := h.held.refreshed due action.moment
  obtain ⟨trigger, htrigger, hattested, hclean⟩ := refresh_optional due h.trigger
  have harguments := refreshed_arguments due h.arguments
  refine ⟨_, Except.bind_eq_ok.mpr ⟨errors, hrefreshed,
    Except.bind_eq_ok.mpr ⟨trigger, htrigger, rfl⟩⟩, ⟨?_, harguments, hattested, ?_, ?_⟩, ?_⟩
  · intro device hdevice
    obtain ⟨before, hbefore, rfl⟩ := Option.mem_map.mp hdevice
    have hbare : ∀ argument ∈ [before], argument.errors = [] :=
      List.forall_mem_singleton.mpr (h.device before hbefore)
    exact refreshed_arguments due hbare _ List.mem_cons_self
  · have hread : ({ action with
        errors, trigger, deviceId := action.deviceId.map (ArgumentObject.refresh due)
        arguments := action.arguments.map (ArgumentObject.refresh due) } :
          ActionObject).validate apps = action.validate apps := by
      simp only [ActionObject.validate, refreshed_read, Option.isNone_map]
    exact hread ▸ h.held.congr hsame
  · have hread : (({ action with
        errors, trigger, deviceId := action.deviceId.map (ArgumentObject.refresh due)
        arguments := action.arguments.map (ArgumentObject.refresh due) } :
          ActionObject).settle true).validate apps = (action.settle true).validate apps := by
      simp only [ActionObject.validate, ActionObject.settle, arguments_read, Option.isNone_map]
    exact hread ▸ h.stored.congr hsame
  · rw [action_clean_iff, action_clean_iff, hsame, hclean]
    exact and_congr_right fun _ => and_congr_left fun _ => iff_of_true harguments h.arguments

/-- The same of a branch, which only has errors of its own and a condition. -/
theorem refresh_branch {branch : BranchObject} (h : AttestedBranch apps branch) :
    ∃ refreshed, branch.refresh apps due = .ok refreshed ∧ AttestedBranch apps refreshed ∧
      (Clean refreshed.validatable ↔ Clean branch.validatable) := by
  obtain ⟨condition, hcondition, hattested, hclean⟩ := refresh_optional due h
  refine ⟨_, Except.bind_eq_ok.mpr ⟨condition, hcondition, rfl⟩, hattested, ?_⟩
  rw [branch_clean_iff, branch_clean_iff]
  exact and_congr_right fun _ => hclean

/-- **A flush changes no verdict**: whichever rows are due, every validation returns, the errors
stay attested, and the workflow is in error exactly if it was. -/
theorem refresh_workflow {workflow : WorkflowObject} (h : AttestedWorkflow apps workflow) :
    ∃ refreshed, workflow.refresh apps due = .ok refreshed ∧ AttestedWorkflow apps refreshed ∧
      (InError refreshed ↔ InError workflow) := by
  obtain ⟨actions, hactions, hattested, hclean⟩ := Except.mapM_of_forall
    fun action hmem => refresh_action due (h.actions action hmem)
  obtain ⟨branches, hbranches, hattested', hclean'⟩ := Except.mapM_of_forall
    fun branch hmem => refresh_branch due (h.branches branch hmem)
  refine ⟨_, Except.bind_eq_ok.mpr ⟨actions, hactions,
    Except.bind_eq_ok.mpr ⟨branches, hbranches, rfl⟩⟩, ⟨hattested, hattested'⟩, ?_⟩
  rw [inError_iff, inError_iff]
  exact not_congr (and_congr hclean hclean')

end

/-! ## Storing attested errors -/

/-- A stored argument is read the same when it is stored again. -/
theorem settled_read (arguments : List ArgumentObject) :
    ((arguments.map (ArgumentObject.settle true)).map (ArgumentObject.settle true)).map
        ArgumentObject.argument =
      (arguments.map (ArgumentObject.settle true)).map ArgumentObject.argument := by
  rw [List.map_map, List.map_map, List.map_map]
  rfl

/-- Loading an argument anew leaves its errors alone. -/
theorem settled_arguments {arguments : List ArgumentObject}
    (h : ∀ argument ∈ arguments, argument.errors = []) :
    ∀ argument ∈ arguments.map (ArgumentObject.settle true), argument.errors = [] :=
  List.forall_mem_map.mpr h

/-- Loading a transform anew reads the stored content, whose verdict is attested, too. -/
theorem settle_transform {transform : TransformObject} (h : AttestedTransform apps transform) :
    AttestedTransform apps (transform.settle true) ∧
      (Clean (transform.settle true).validatable ↔ Clean transform.validatable) := by
  have harguments := settled_arguments h.arguments
  refine ⟨⟨harguments, h.stored, ?_⟩, ?_⟩
  · have hread : ((transform.settle true).settle true).validate apps =
        (transform.settle true).validate apps := by
      simp only [TransformObject.validate, TransformObject.settle, settled_read]
    exact hread ▸ h.stored
  · rw [transform_clean, transform_clean]
    exact and_congr_right fun _ => iff_of_true harguments h.arguments

/-- The same of a condition and its transforms. -/
theorem settle_condition {condition : ConditionObject} (h : AttestedCondition apps condition) :
    AttestedCondition apps (condition.settle true) ∧
      (Clean (condition.settle true).validatable ↔ Clean condition.validatable) := by
  have harguments := settled_arguments h.arguments
  refine ⟨⟨harguments, List.forall_mem_map.mpr fun transform hmem =>
    (settle_transform (h.transforms transform hmem)).1, h.stored, ?_⟩, ?_⟩
  · have hread : ((condition.settle true).settle true).validate apps =
        (condition.settle true).validate apps := by
      simp only [ConditionObject.validate, ConditionObject.settle, settled_read]
    exact hread ▸ h.stored
  · rw [condition_clean_iff, condition_clean_iff]
    refine and_congr_right fun _ => and_congr (iff_of_true harguments h.arguments) ?_
    exact List.forall_mem_map.trans
      (forall₂_congr fun transform hmem => (settle_transform (h.transforms transform hmem)).2)

mutual

/-- The same of an expression. -/
theorem settle_expression : ∀ {e : ExpressionObject}, AttestedExpression apps e →
    AttestedExpression apps (e.settle true) ∧
      (Clean (e.settle true).validatable ↔ Clean e.validatable)
  | .mk id errors childExpressions conditions, h => by
    rw [AttestedExpression] at h
    obtain ⟨hbelow, hcleans⟩ := settle_expressions h.1
    rw [ExpressionObject.settle, AttestedExpression]
    refine ⟨⟨hbelow, List.forall_mem_map.mpr fun condition hmem =>
      (settle_condition (h.2 condition hmem)).1⟩, ?_⟩
    rw [expression_clean_iff, expression_clean_iff, hcleans, List.forall_mem_map]
    exact and_congr_right fun _ => and_congr_right fun _ =>
      forall₂_congr fun condition hmem => (settle_condition (h.2 condition hmem)).2

/-- The same of the expressions below one. -/
theorem settle_expressions : ∀ {es : List ExpressionObject}, AttestedExpressions apps es →
    AttestedExpressions apps (ExpressionObject.settleAll true es) ∧
      ((∀ t ∈ ExpressionObject.validatables (ExpressionObject.settleAll true es), Clean t) ↔
        ∀ t ∈ ExpressionObject.validatables es, Clean t)
  | [], h => ⟨h, Iff.rfl⟩
  | e :: es, h => by
    rw [AttestedExpressions] at h
    obtain ⟨hattested, hclean⟩ := settle_expression h.1
    obtain ⟨hattested', hclean'⟩ := settle_expressions h.2
    rw [ExpressionObject.settleAll, AttestedExpressions]
    refine ⟨⟨hattested, hattested'⟩, ?_⟩
    rw [ExpressionObject.validatables, ExpressionObject.validatables, List.forall_mem_cons,
      List.forall_mem_cons, hclean, hclean']

end

/-- The same of an expression that may be missing. -/
theorem settle_optional {e : Option ExpressionObject} (h : ∀ x ∈ e, AttestedExpression apps x) :
    (∀ x ∈ e.map (ExpressionObject.settle true), AttestedExpression apps x) ∧
      ((∀ x ∈ (e.map (ExpressionObject.settle true)).toList, Clean x.validatable) ↔
        ∀ x ∈ e.toList, Clean x.validatable) := by
  cases e with
  | none => exact ⟨h, Iff.rfl⟩
  | some e =>
    obtain ⟨hattested, hclean⟩ := settle_expression (h e rfl)
    refine ⟨?_, by simpa using hclean⟩
    rintro x ⟨⟩
    exact hattested

/-- The same of an action. -/
theorem settle_action {action : ActionObject} (h : AttestedAction apps action) :
    AttestedAction apps (action.settle true) ∧
      (Clean (action.settle true).validatable ↔ Clean action.validatable) := by
  have harguments := settled_arguments h.arguments
  obtain ⟨hattested, hclean⟩ := settle_optional h.trigger
  refine ⟨⟨?_, harguments, hattested, h.stored, ?_⟩, ?_⟩
  · intro device hdevice
    obtain ⟨before, hbefore, rfl⟩ := Option.mem_map.mp hdevice
    exact h.device before hbefore
  · have hread : ((action.settle true).settle true).validate apps =
        (action.settle true).validate apps := by
      simp only [ActionObject.validate, ActionObject.settle, settled_read, Option.isNone_map]
    exact hread ▸ h.stored
  · rw [action_clean_iff, action_clean_iff]
    exact and_congr_right fun _ => and_congr (iff_of_true harguments h.arguments) hclean

/-- The same of a branch. -/
theorem settle_branch {branch : BranchObject} (h : AttestedBranch apps branch) :
    AttestedBranch apps (branch.settle true) ∧
      (Clean (branch.settle true).validatable ↔ Clean branch.validatable) := by
  obtain ⟨hattested, hclean⟩ := settle_optional h
  refine ⟨hattested, ?_⟩
  rw [branch_clean_iff, branch_clean_iff]
  exact and_congr_right fun _ => hclean

/-- Loading the rows anew changes no verdict, either. -/
theorem settle_workflow {workflow : WorkflowObject} (h : AttestedWorkflow apps workflow) :
    AttestedWorkflow apps (workflow.settle true) ∧
      (InError (workflow.settle true) ↔ InError workflow) := by
  refine ⟨⟨List.forall_mem_map.mpr fun action hmem => (settle_action (h.actions action hmem)).1,
    List.forall_mem_map.mpr fun branch hmem => (settle_branch (h.branches branch hmem)).1⟩, ?_⟩
  rw [inError_iff, inError_iff, WorkflowObject.settle, List.forall_mem_map, List.forall_mem_map]
  exact not_congr (and_congr
    (forall₂_congr fun action hmem => (settle_action (h.actions action hmem)).2)
    (forall₂_congr fun branch hmem => (settle_branch (h.branches branch hmem)).2))

/-! ## The column -/

/-- The validations of the workflow return, and none of them finds an error. -/
def Faultless (apps : AppGateway) (workflow : WorkflowObject) : Prop :=
  ∃ fresh, revalidated apps workflow = .ok fresh ∧ fresh.isValidNow = true

/-- Of a current workflow the column says whether it has no fault. -/
theorem Current.isValid_iff {workflow : WorkflowObject} (h : Current apps workflow) :
    workflow.isValid = true ↔ Faultless apps workflow := by
  obtain ⟨fresh, hfresh, hvalid, _⟩ := h
  rw [hvalid]
  constructor
  · exact fun hnow => ⟨fresh, hfresh, hnow⟩
  · rintro ⟨fresh', hfresh', hnow⟩
    rw [Except.ok.inj (hfresh.symm.trans hfresh')]
    exact hnow

/-- Where the errors are attested, they say what the validations of the stored content find. -/
theorem faultless_iff {workflow : WorkflowObject} (h : AttestedWorkflow apps workflow) :
    Faultless apps (workflow.settle true) ↔ workflow.ownErrors = [] ∧ ¬ InError workflow := by
  obtain ⟨hsettled, hsame⟩ := settle_workflow h
  obtain ⟨fresh, hfresh, _, hfresh'⟩ := refresh_workflow allDue hsettled
  have hvalid : Faultless apps (workflow.settle true) ↔ fresh.validate.isValidNow = true := by
    constructor
    · rintro ⟨_, hvalidated, hnow⟩
      obtain ⟨fresh', hfresh', heq⟩ := Except.bind_eq_ok.mp hvalidated
      obtain rfl := Except.ok.inj (hfresh.symm.trans hfresh')
      cases heq
      exact hnow
    · exact fun hnow => ⟨_, Except.bind_eq_ok.mpr ⟨fresh, hfresh, rfl⟩, hnow⟩
  rw [hvalid]
  refine (validate_isValid_iff fresh).trans ?_
  rw [ownErrors_refreshed hfresh, ownErrors_settled, hfresh', hsame]

/-- **A commit of attested errors leaves a current validity**, provided that a row of the workflow
that is not written says what the content says. -/
theorem current_of_flush {workflow stored : WorkflowObject} (h : AttestedWorkflow apps workflow)
    (hunwritten : workflow.moment = .untouched →
      (workflow.isValid = true ↔ Faultless apps (workflow.settle true)))
    (hflush : workflow.flush apps true = .ok stored) :
    AttestedWorkflow apps stored ∧ Current apps stored := by
  obtain ⟨hcontent, read, hread, hvalid⟩ := flush_ok hflush
  obtain ⟨read', hread', hattested, hsame⟩ := refresh_workflow (· = .before) h
  obtain rfl := Except.ok.inj (hread.symm.trans hread')
  constructor
  · obtain ⟨listened, hlistened, hrest⟩ := Except.bind_eq_ok.mp hflush
    obtain ⟨written, hwritten, hstored⟩ := Except.bind_eq_ok.mp hrest
    obtain ⟨_, hread'', heq⟩ := Except.bind_eq_ok.mp hlistened
    obtain rfl := Except.ok.inj (hread.symm.trans hread'')
    cases heq
    cases hstored
    have hlistened : AttestedWorkflow apps
        (if workflow.moment = .untouched then read else read.validate) := by
      split
      · exact hattested
      · exact ⟨hattested.actions, hattested.branches⟩
    obtain ⟨written', hwritten', hattested', _⟩ := refresh_workflow (· = .within) hlistened
    obtain rfl := Except.ok.inj (hwritten.symm.trans hwritten')
    exact (settle_workflow hattested').1
  · obtain ⟨hsettled, hsame'⟩ := settle_workflow h
    obtain ⟨fresh, hfresh, _, hfresh'⟩ := refresh_workflow allDue hsettled
    refine (current_iff hcontent).mpr ⟨fresh, hfresh, ?_⟩
    rw [ownErrors_refreshed hfresh, ownErrors_settled, hfresh', hsame', hvalid]
    split
    · rename_i huntouched
      exact (hunwritten huntouched).trans (faultless_iff h)
    · rw [validate_isValid_iff, ownErrors_refreshed hread, hsame]

end Walkoff.Analysis
