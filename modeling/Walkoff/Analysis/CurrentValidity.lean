import Walkoff.Library.Effect
import Walkoff.Program.WorkflowRequests

/-!
# Whether the stored validity is current

The column `is_valid` is written when the row of the workflow is, from the errors that the other
objects are left with at that moment. It is current when it says what `_is_valid` says after every
element has been validated on what is stored. A flush changes no content, so that this recomputation
can be made on what a request has loaded.
-/

set_option autoImplicit false

namespace Walkoff.Analysis

open Walkoff.Library Walkoff.Model Walkoff.Program

/-! ## Current validity -/

/-- Every object is due. -/
def allDue (_ : Moment) : Bool :=
  true

/-- The workflow after the `validate` of every element, its own last. -/
def revalidated (apps : AppGateway) (workflow : WorkflowObject) : Except Exn WorkflowObject := do
  let fresh ← workflow.refresh apps allDue
  pure fresh.validate

/-- The errors of the workflow and of all its elements, device arguments included. -/
def allErrors (workflow : WorkflowObject) : List (List String) :=
  workflow.errors :: RoseTree.labelsOf workflow.children ++
    workflow.actions.flatMap fun action => action.deviceId.toList.map ArgumentObject.errors

/-- The stored `is_valid` is what `_is_valid` gives on the stored workflow after every validation,
and the workflow is refused exactly if one of them has found an error. -/
def Current (apps : AppGateway) (workflow : WorkflowObject) : Prop :=
  ∃ fresh, revalidated apps workflow = .ok fresh ∧ workflow.isValid = fresh.isValidNow ∧
    (workflow.refusesExecution = true ↔ ∃ errors ∈ allErrors fresh, errors ≠ [])

/-- The stored workflow, if there is one, has a current validity. -/
def StoredCurrent (apps : AppGateway) (db : WorkflowDb) : Prop :=
  ∀ workflow, db.stored = some workflow → Current apps workflow

/-- An element below the workflow is in error, as `_is_valid` sees it. -/
def InError (workflow : WorkflowObject) : Prop :=
  ∃ errors ∈ RoseTree.labelsOf workflow.children, errors ≠ []

/-! ## A flush changes no content -/

variable {apps : AppGateway} {due : Moment → Bool}

/-- Validating all arguments afterwards undoes what a flush has done to them. -/
theorem arguments_refreshed (due : Moment → Bool) (arguments : List ArgumentObject) :
    ((arguments.map (ArgumentObject.refresh due)).map (ArgumentObject.settle true)).map
        (ArgumentObject.refresh allDue) =
      (arguments.map (ArgumentObject.settle true)).map (ArgumentObject.refresh allDue) := by
  rw [List.map_map, List.map_map, List.map_map]
  rfl

/-- A validation of parameters reads the same arguments. -/
theorem arguments_read (due : Moment → Bool) (arguments : List ArgumentObject) :
    ((arguments.map (ArgumentObject.refresh due)).map (ArgumentObject.settle true)).map
        ArgumentObject.argument =
      (arguments.map (ArgumentObject.settle true)).map ArgumentObject.argument := by
  rw [List.map_map, List.map_map, List.map_map]
  rfl

/-- Validating a transform and its arguments after a flush gives what it gives before. -/
theorem transform_refreshed {transform refreshed : TransformObject}
    (h : transform.refresh apps due = .ok refreshed) :
    (refreshed.settle true).refresh apps allDue = (transform.settle true).refresh apps allDue := by
  unfold TransformObject.refresh at h
  obtain ⟨errors, _, hrefreshed⟩ := Except.bind_eq_ok.mp h
  cases hrefreshed
  simp only [TransformObject.refresh, TransformObject.settle, TransformObject.validate,
    refreshedErrors, allDue, if_true, arguments_read, arguments_refreshed]

/-- The same of the transforms of a condition. -/
theorem transforms_refreshed {transforms refreshed : List TransformObject}
    (h : transforms.mapM (TransformObject.refresh apps due) = .ok refreshed) :
    (refreshed.map (TransformObject.settle true)).mapM (TransformObject.refresh apps allDue) =
      (transforms.map (TransformObject.settle true)).mapM
        (TransformObject.refresh apps allDue) := by
  rw [List.mapM_map, List.mapM_map]
  exact Except.mapM_of_mapM_ok h fun _ _ => transform_refreshed

/-- The same of a condition. -/
theorem condition_refreshed {condition refreshed : ConditionObject}
    (h : condition.refresh apps due = .ok refreshed) :
    (refreshed.settle true).refresh apps allDue = (condition.settle true).refresh apps allDue := by
  unfold ConditionObject.refresh at h
  obtain ⟨errors, _, hrest⟩ := Except.bind_eq_ok.mp h
  obtain ⟨transforms, htransforms, hrefreshed⟩ := Except.bind_eq_ok.mp hrest
  cases hrefreshed
  simp only [ConditionObject.refresh, ConditionObject.settle, ConditionObject.validate,
    refreshedErrors, allDue, if_true, arguments_read, arguments_refreshed,
    transforms_refreshed htransforms]

/-- The same of the conditions of an expression. -/
theorem conditions_refreshed {conditions refreshed : List ConditionObject}
    (h : conditions.mapM (ConditionObject.refresh apps due) = .ok refreshed) :
    (refreshed.map (ConditionObject.settle true)).mapM (ConditionObject.refresh apps allDue) =
      (conditions.map (ConditionObject.settle true)).mapM
        (ConditionObject.refresh apps allDue) := by
  rw [List.mapM_map, List.mapM_map]
  exact Except.mapM_of_mapM_ok h fun _ _ => condition_refreshed

mutual

/-- The same of an expression. -/
theorem expression_refreshed : ∀ {e refreshed : ExpressionObject},
    e.refresh apps due = .ok refreshed →
      (refreshed.settle true).refresh apps allDue = (e.settle true).refresh apps allDue
  | .mk id errors childExpressions conditions, refreshed, h => by
    rw [ExpressionObject.refresh] at h
    obtain ⟨children, hchildren, hrest⟩ := Except.bind_eq_ok.mp h
    obtain ⟨below, hconditions, hrefreshed⟩ := Except.bind_eq_ok.mp hrest
    cases hrefreshed
    rw [ExpressionObject.settle, ExpressionObject.refresh, ExpressionObject.settle,
      ExpressionObject.refresh, expressions_refreshed hchildren, conditions_refreshed hconditions]

/-- The same of the expressions below one. -/
theorem expressions_refreshed : ∀ {es refreshed : List ExpressionObject},
    ExpressionObject.refreshAll apps due es = .ok refreshed →
      ExpressionObject.refreshAll apps allDue (ExpressionObject.settleAll true refreshed) =
        ExpressionObject.refreshAll apps allDue (ExpressionObject.settleAll true es)
  | [], _, h => by
    cases h
    rfl
  | e :: es, _, h => by
    rw [ExpressionObject.refreshAll] at h
    obtain ⟨first, hfirst, hrest⟩ := Except.bind_eq_ok.mp h
    obtain ⟨others, hothers, hrefreshed⟩ := Except.bind_eq_ok.mp hrest
    cases hrefreshed
    rw [ExpressionObject.settleAll, ExpressionObject.refreshAll, ExpressionObject.settleAll,
      ExpressionObject.refreshAll, expression_refreshed hfirst, expressions_refreshed hothers]

end

/-- The same of an expression that may be missing. -/
theorem optional_refreshed {e refreshed : Option ExpressionObject}
    (h : ExpressionObject.refreshOptional apps due e = .ok refreshed) :
    ExpressionObject.refreshOptional apps allDue (refreshed.map (ExpressionObject.settle true)) =
      ExpressionObject.refreshOptional apps allDue (e.map (ExpressionObject.settle true)) := by
  cases e with
  | none =>
    cases h
    rfl
  | some e =>
    obtain ⟨result, hresult, hrefreshed⟩ := Except.bind_eq_ok.mp h
    cases hrefreshed
    rw [Option.map_some, Option.map_some, ExpressionObject.refreshOptional,
      ExpressionObject.refreshOptional, expression_refreshed hresult]

/-- The same of an action. -/
theorem action_refreshed {action refreshed : ActionObject}
    (h : action.refresh apps due = .ok refreshed) :
    (refreshed.settle true).refresh apps allDue = (action.settle true).refresh apps allDue := by
  unfold ActionObject.refresh at h
  obtain ⟨errors, _, hrest⟩ := Except.bind_eq_ok.mp h
  obtain ⟨trigger, htrigger, hrefreshed⟩ := Except.bind_eq_ok.mp hrest
  cases hrefreshed
  have hdevice : ((action.deviceId.map (ArgumentObject.refresh due)).map
      (ArgumentObject.settle true)).map (ArgumentObject.refresh allDue) =
        (action.deviceId.map (ArgumentObject.settle true)).map (ArgumentObject.refresh allDue) := by
    cases action.deviceId <;> rfl
  simp only [ActionObject.refresh, ActionObject.settle, ActionObject.validate, refreshedErrors,
    allDue, if_true, arguments_read, arguments_refreshed, optional_refreshed htrigger, hdevice,
    Option.isNone_map]

/-- The same of a branch. -/
theorem branch_refreshed {branch refreshed : BranchObject}
    (h : branch.refresh apps due = .ok refreshed) :
    (refreshed.settle true).refresh apps allDue = (branch.settle true).refresh apps allDue := by
  unfold BranchObject.refresh at h
  obtain ⟨condition, hcondition, hrefreshed⟩ := Except.bind_eq_ok.mp h
  cases hrefreshed
  simp only [BranchObject.refresh, BranchObject.settle, optional_refreshed hcondition]

/-- **A flush changes no content**: validating everything afterwards gives what it gives before. -/
theorem workflow_refreshed {workflow refreshed : WorkflowObject}
    (h : workflow.refresh apps due = .ok refreshed) :
    (refreshed.settle true).refresh apps allDue =
      (workflow.settle true).refresh apps allDue := by
  unfold WorkflowObject.refresh at h
  obtain ⟨actions, hactions, hrest⟩ := Except.bind_eq_ok.mp h
  obtain ⟨branches, hbranches, hrefreshed⟩ := Except.bind_eq_ok.mp hrest
  cases hrefreshed
  have hactions' := Except.mapM_of_mapM_ok
    (g := fun action => (action.settle true).refresh apps allDue) hactions
    fun _ _ => action_refreshed
  have hbranches' := Except.mapM_of_mapM_ok
    (g := fun branch => (branch.settle true).refresh apps allDue) hbranches
    fun _ _ => branch_refreshed
  simp only [WorkflowObject.refresh, WorkflowObject.settle, List.mapM_map, Function.comp_def,
    hactions', hbranches']

/-- The ids that `Workflow.validate` compares are not changed, either. -/
theorem ownErrors_refreshed {workflow refreshed : WorkflowObject}
    (h : workflow.refresh apps due = .ok refreshed) : refreshed.ownErrors = workflow.ownErrors := by
  unfold WorkflowObject.refresh at h
  obtain ⟨actions, hactions, hrest⟩ := Except.bind_eq_ok.mp h
  obtain ⟨branches, hbranches, hrefreshed⟩ := Except.bind_eq_ok.mp hrest
  cases hrefreshed
  have hids : actions.map ActionObject.id = workflow.actions.map ActionObject.id := by
    refine Except.map_of_mapM_ok hactions fun action _ refreshed hrefresh => ?_
    unfold ActionObject.refresh at hrefresh
    obtain ⟨_, _, hrest⟩ := Except.bind_eq_ok.mp hrefresh
    obtain ⟨_, _, hrefreshed⟩ := Except.bind_eq_ok.mp hrest
    cases hrefreshed
    rfl
  have hempty : actions.isEmpty = workflow.actions.isEmpty := by
    rw [← List.isEmpty_map (f := ActionObject.id), hids, List.isEmpty_map]
  have hends : ∀ ids, branches.map (branchErrors ids) =
      workflow.branches.map (branchErrors ids) := by
    intro ids
    refine Except.map_of_mapM_ok hbranches fun branch _ refreshed hrefresh => ?_
    unfold BranchObject.refresh at hrefresh
    obtain ⟨_, _, hrefreshed⟩ := Except.bind_eq_ok.mp hrefresh
    cases hrefreshed
    rfl
  simp only [WorkflowObject.ownErrors, hids, hempty, List.flatMap_def, hends]

/-- Writing the rows does not change what `Workflow.validate` finds, either. -/
theorem ownErrors_settled (workflow : WorkflowObject) :
    (workflow.settle true).ownErrors = workflow.ownErrors := by
  have hids : (workflow.actions.map (ActionObject.settle true)).map ActionObject.id =
      workflow.actions.map ActionObject.id := by
    rw [List.map_map]
    rfl
  have hends : ∀ ids, (workflow.branches.map (BranchObject.settle true)).map (branchErrors ids) =
      workflow.branches.map (branchErrors ids) := by
    intro ids
    rw [List.map_map]
    rfl
  simp only [WorkflowObject.ownErrors, WorkflowObject.settle, hids, List.isEmpty_map,
    List.flatMap_def, hends]

/-! ## What the column says -/

/-- `_is_valid` asks for errors of the workflow itself and of everything below it. -/
theorem isValidNow_iff (workflow : WorkflowObject) :
    workflow.isValidNow = true ↔ workflow.errors = [] ∧ ¬ InError workflow := by
  rw [WorkflowObject.isValidNow, RoseTree.all_iff, RoseTree.labels, List.forall_mem_cons,
    List.isEmpty_iff]
  refine and_congr Iff.rfl ?_
  unfold InError
  push Not
  simp only [List.isEmpty_iff]

/-- What `Workflow.validate` writes into the column. -/
theorem validate_isValid_iff (workflow : WorkflowObject) :
    workflow.validate.isValid = true ↔ workflow.ownErrors = [] ∧ ¬ InError workflow :=
  isValidNow_iff { workflow with errors := workflow.ownErrors }

/-- `Workflow.validate` depends on no earlier result of its own. -/
theorem revalidated_validate (workflow : WorkflowObject) :
    revalidated apps (workflow.validate.settle true) =
      revalidated apps (workflow.settle true) := by
  unfold revalidated WorkflowObject.refresh
  simp only [bind_assoc, pure_bind]
  rfl

/-- A workflow that has been flushed is validated like the one before. -/
theorem revalidated_of_refresh {workflow refreshed : WorkflowObject}
    (h : workflow.refresh apps due = .ok refreshed) :
    revalidated apps (refreshed.settle true) = revalidated apps (workflow.settle true) := by
  rw [revalidated, workflow_refreshed h, revalidated]

/-- What a flush leaves: the content of before, and a validity that was read in between. -/
theorem flush_ok {workflow stored : WorkflowObject} (h : workflow.flush apps true = .ok stored) :
    revalidated apps stored = revalidated apps (workflow.settle true) ∧
      ∃ read, workflow.refresh apps (· = .before) = .ok read ∧
        stored.isValid = if workflow.moment = .untouched then workflow.isValid
          else read.validate.isValid := by
  obtain ⟨listened, hlistened, hrest⟩ := Except.bind_eq_ok.mp h
  obtain ⟨written, hwritten, hstored⟩ := Except.bind_eq_ok.mp hrest
  obtain ⟨read, hread, heq⟩ := Except.bind_eq_ok.mp hlistened
  cases hstored
  cases heq
  have hvalid : ∀ {v refreshed : WorkflowObject} {due : Moment → Bool},
      v.refresh apps due = .ok refreshed → refreshed.isValid = v.isValid := by
    intro v refreshed due hrefresh
    obtain ⟨_, _, hrest⟩ := Except.bind_eq_ok.mp hrefresh
    obtain ⟨_, _, hrefreshed⟩ := Except.bind_eq_ok.mp hrest
    cases hrefreshed
    rfl
  have hsettled : (written.settle true).isValid = written.isValid := rfl
  refine ⟨?_, read, hread, ?_⟩
  · rw [revalidated_of_refresh hwritten]
    split
    · exact revalidated_of_refresh hread
    · exact (revalidated_validate read).trans (revalidated_of_refresh hread)
  · rw [hsettled, hvalid hwritten]
    split
    · exact hvalid hread
    · rfl

/-- After its validation no device argument is in error. -/
theorem device_errors {workflow fresh : WorkflowObject}
    (h : workflow.refresh apps allDue = .ok fresh) {action : ActionObject}
    (haction : action ∈ fresh.actions) : ∀ device ∈ action.deviceId, device.errors = [] := by
  unfold WorkflowObject.refresh at h
  obtain ⟨actions, hactions, hrest⟩ := Except.bind_eq_ok.mp h
  obtain ⟨_, _, hfresh⟩ := Except.bind_eq_ok.mp hrest
  cases hfresh
  obtain ⟨old, _, hrefresh⟩ := Except.exists_of_mem_mapM hactions haction
  unfold ActionObject.refresh at hrefresh
  obtain ⟨_, _, hrest⟩ := Except.bind_eq_ok.mp hrefresh
  obtain ⟨_, _, hrefreshed⟩ := Except.bind_eq_ok.mp hrest
  cases hrefreshed
  intro device hdevice
  obtain ⟨before, _, rfl⟩ := Option.mem_map.mp hdevice
  rfl

/-- `_is_valid` misses no error of an element, although it visits no device argument. -/
theorem allErrors_iff {workflow fresh : WorkflowObject}
    (h : workflow.refresh apps allDue = .ok fresh) :
    (∃ errors ∈ allErrors fresh.validate, errors ≠ []) ↔ fresh.validate.isValidNow = false := by
  rw [← Bool.not_eq_true, isValidNow_iff]
  have hdevices : ∀ errors ∈ fresh.actions.flatMap (fun action =>
      action.deviceId.toList.map ArgumentObject.errors), errors = [] := by
    intro errors herrors
    obtain ⟨action, haction, hmem⟩ := List.mem_flatMap.mp herrors
    obtain ⟨device, hdevice, rfl⟩ := List.mem_map.mp hmem
    exact device_errors h haction device (Option.mem_toList.mp hdevice)
  constructor
  · rintro ⟨errors, hmem, hne⟩ ⟨hown, hnone⟩
    rcases List.mem_append.mp hmem with hmem | hmem
    · rcases List.mem_cons.mp hmem with rfl | hmem
      · exact hne hown
      · exact hnone ⟨errors, hmem, hne⟩
    · exact hne (hdevices errors hmem)
  · intro hinvalid
    by_cases hown : fresh.validate.errors = []
    · obtain ⟨errors, hmem, hne⟩ := not_not.mp fun hnone => hinvalid ⟨hown, hnone⟩
      exact ⟨errors, List.mem_append_left _ (List.mem_cons_of_mem _ hmem), hne⟩
    · exact ⟨_, List.mem_append_left _ List.mem_cons_self, hown⟩

/-- The check before an execution goes with the column, so that it is right when the column is. -/
theorem current_iff {workflow content : WorkflowObject}
    (hcontent : revalidated apps workflow = revalidated apps content) :
    Current apps workflow ↔
      ∃ fresh, content.refresh apps allDue = .ok fresh ∧
        (workflow.isValid = true ↔ fresh.ownErrors = [] ∧ ¬ InError fresh) := by
  unfold Current
  rw [hcontent]
  constructor
  · rintro ⟨validated, hvalidated, hvalid, _⟩
    obtain ⟨fresh, hfresh, heq⟩ := Except.bind_eq_ok.mp hvalidated
    cases heq
    exact ⟨fresh, hfresh, hvalid ▸ validate_isValid_iff fresh⟩
  · rintro ⟨fresh, hfresh, hiff⟩
    have hvalid : workflow.isValid = fresh.validate.isValidNow :=
      Bool.eq_iff_iff.mpr (hiff.trans (validate_isValid_iff fresh).symm)
    refine ⟨fresh.validate, Except.bind_eq_ok.mpr ⟨fresh, hfresh, rfl⟩, hvalid, ?_⟩
    rw [allErrors_iff hfresh, ← hvalid, WorkflowObject.refusesExecution, Bool.not_eq_true']

end Walkoff.Analysis
