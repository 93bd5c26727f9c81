import Walkoff.Analysis.AttestedErrors

/-!
# Requests that keep the verdicts of the elements

The content that a request asks for is its JSON laid over the stored rows. A request keeps a verdict
when the validation of an element that it finds says of the new content what it said of the old one,
an error or none, and when the JSON does not give errors to the contrary. What such a request loads
has attested errors.
-/

set_option autoImplicit false

namespace Walkoff.Analysis

open Walkoff.Library Walkoff.Model Walkoff.Program

/-! ## The content that a request asks for -/

/-- A key with a list of elements, if the JSON has it. -/
def listContent {α β : Type} (content : α → β) (jsons : Option (List α)) : Option (List β) :=
  jsons.map (List.map content)

section

variable (rows : Rows)

/-- An argument, with the name and the value or reference of the JSON. -/
def argumentContent (json : ArgumentJson) : ArgumentObject :=
  match json.id.instance? rows.argument with
  | some row =>
    { row with
      name := json.name
      source := row.source.update json.source
      isReference := json.source.isReference || row.isReference }
  | none =>
    { id := json.id.ofRow
      name := json.name
      source := json.source
      isReference := json.source.isReference
      errors := []
      moment := .untouched }

/-- A transform, with the arguments of the JSON if it has any. -/
def transformContent (json : TransformJson) : TransformObject :=
  let arguments := listContent (argumentContent rows) json.arguments
  match json.id.instance? rows.transform with
  | some row =>
    { row with
      appName := json.appName
      actionName := json.actionName
      arguments := arguments.getD row.arguments }
  | none =>
    { id := json.id.ofRow
      appName := json.appName
      actionName := json.actionName
      arguments := arguments.getD []
      errors := []
      moment := .untouched }

/-- A condition, in the same way. -/
def conditionContent (json : ConditionJson) : ConditionObject :=
  let arguments := listContent (argumentContent rows) json.arguments
  let transforms := listContent (transformContent rows) json.transforms
  match json.id.instance? rows.condition with
  | some row =>
    { row with
      appName := json.appName
      actionName := json.actionName
      arguments := arguments.getD row.arguments
      transforms := transforms.getD row.transforms }
  | none =>
    { id := json.id.ofRow
      appName := json.appName
      actionName := json.actionName
      arguments := arguments.getD []
      transforms := transforms.getD []
      errors := []
      moment := .untouched }

mutual

/-- A conditional expression, whose errors are those of the JSON or of the row. -/
def expressionContent : ExpressionJson → ExpressionObject
  | .mk id errors childExpressions conditions =>
    makeExpression rows id errors (childrenContent childExpressions)
      (listContent (conditionContent rows) conditions)

def childrenContent : Option (List ExpressionJson) → Option (List ExpressionObject)
  | none => none
  | some jsons => some (expressionsContent jsons)

def expressionsContent : List ExpressionJson → List ExpressionObject
  | [] => []
  | json :: jsons => expressionContent json :: expressionsContent jsons

end

/-- An action. -/
def actionContent (json : ActionJson) : ActionObject :=
  let deviceId := json.deviceId.map (argumentContent rows)
  let arguments := listContent (argumentContent rows) json.arguments
  let trigger := json.trigger.map (expressionContent rows)
  match rows.action json.id with
  | some row =>
    { row with
      appName := json.appName
      actionName := json.actionName
      name := json.name
      deviceId := deviceId.or row.deviceId
      arguments := arguments.getD row.arguments
      trigger := trigger.or row.trigger }
  | none =>
    { id := json.id
      appName := json.appName
      actionName := json.actionName
      name := json.name
      deviceId, trigger
      arguments := arguments.getD []
      errors := []
      moment := .untouched }

/-- A branch. -/
def branchContent (json : BranchJson) : BranchObject :=
  let condition := json.condition.map (expressionContent rows)
  match json.id.instance? rows.branch with
  | some row =>
    { row with
      sourceId := json.sourceId
      destinationId := json.destinationId
      condition := condition.or row.condition
      errors := json.errors.getD row.errors }
  | none =>
    { id := json.id.ofRow
      sourceId := json.sourceId
      destinationId := json.destinationId
      condition
      errors := json.errors.getD [] }

end

/-- What validations read of a stored workflow and its elements once the JSON is laid over it. -/
def workflowContent (existing : WorkflowObject) (json : WorkflowJson) : WorkflowObject :=
  { existing with
    start := json.start.or existing.start
    actions := (listContent (actionContent existing.rows) json.actions).getD existing.actions
    branches := (listContent (branchContent existing.rows) json.branches).getD existing.branches }

/-! ## Kept verdicts -/

/-- The second validation returns where the first one does, and it finds an error exactly if the
first one has found one. -/
def SameVerdict (first second : Except Exn (List String)) : Prop :=
  ∀ errors, first = .ok errors → Attests second errors

/-- What is asked of an element with a validation of its own: `held` and `stored` are what it finds
in the new content, as the session holds it and as it is stored; the two differ where a value takes
the place of a reference. Of an element that is found, `row` is what the validation finds in the old
content, with the errors in the column. -/
structure KeepsVerdict (held stored : Except Exn (List String)) (given : Option (List String))
    (row : Option (Except Exn (List String) × List String)) : Prop where
  /-- A value in the place of a reference does not make the difference. -/
  stored : SameVerdict held stored
  /-- The edit does not make a valid element invalid, or the other way. -/
  kept : ∀ found ∈ row, SameVerdict found.1 held
  /-- The JSON does not give errors where there are none, or the other way. -/
  given : ∀ found ∈ row, ∀ errors ∈ given, (errors = [] ↔ found.2 = [])

section

variable (apps : AppGateway) (rows : Rows)

/-- An argument that is found is given no errors. -/
def KeepsArgument (json : ArgumentJson) : Prop :=
  (json.id.instance? rows.argument).isSome = true → json.errors.getD [] = []

/-- The verdicts of a transform and its arguments. -/
structure KeepsTransform (json : TransformJson) : Prop where
  arguments : ∀ argument ∈ json.arguments.getD [], KeepsArgument rows argument
  own : KeepsVerdict ((transformContent rows json).validate apps)
    (((transformContent rows json).settle true).validate apps) json.errors
    ((json.id.instance? rows.transform).map fun row => (row.validate apps, row.errors))

/-- The verdicts of a condition and what is below it. -/
structure KeepsCondition (json : ConditionJson) : Prop where
  arguments : ∀ argument ∈ json.arguments.getD [], KeepsArgument rows argument
  transforms : ∀ transform ∈ json.transforms.getD [], KeepsTransform apps rows transform
  own : KeepsVerdict ((conditionContent rows json).validate apps)
    (((conditionContent rows json).settle true).validate apps) json.errors
    ((json.id.instance? rows.condition).map fun row => (row.validate apps, row.errors))

mutual

/-- The verdicts of what is below an expression. -/
def KeepsExpression : ExpressionJson → Prop
  | .mk _ _ childExpressions conditions =>
    KeepsChildren childExpressions ∧
      ∀ condition ∈ conditions.getD [], KeepsCondition apps rows condition

def KeepsChildren : Option (List ExpressionJson) → Prop
  | none => True
  | some jsons => KeepsExpressions jsons

def KeepsExpressions : List ExpressionJson → Prop
  | [] => True
  | json :: jsons => KeepsExpression json ∧ KeepsExpressions jsons

end

/-- The verdicts of an action and what is below it. -/
structure KeepsAction (json : ActionJson) : Prop where
  device : ∀ device ∈ json.deviceId, KeepsArgument rows device
  arguments : ∀ argument ∈ json.arguments.getD [], KeepsArgument rows argument
  trigger : ∀ e ∈ json.trigger, KeepsExpression apps rows e
  own : KeepsVerdict ((actionContent rows json).validate apps)
    (((actionContent rows json).settle true).validate apps) json.errors
    ((rows.action json.id).map fun row => (row.validate apps, row.errors))

/-- The verdicts of what is below a branch. -/
def KeepsBranch (json : BranchJson) : Prop :=
  ∀ e ∈ json.condition, KeepsExpression apps rows e

/-- The verdicts of all elements that the JSON of a workflow has. -/
structure KeepsElements (json : WorkflowJson) : Prop where
  actions : ∀ action ∈ json.actions.getD [], KeepsAction apps rows action
  branches : ∀ branch ∈ json.branches.getD [], KeepsBranch apps rows branch

/-- The rows that a request may find have attested errors. -/
structure AttestedRows : Prop where
  argument : ∀ {id row}, rows.argument id = some row → row.errors = []
  transform : ∀ {id row}, rows.transform id = some row → AttestedTransform apps row
  condition : ∀ {id row}, rows.condition id = some row → AttestedCondition apps row
  expression : ∀ {id row}, rows.expression id = some row → AttestedExpression apps row
  action : ∀ {id row}, rows.action id = some row → AttestedAction apps row
  branch : ∀ {id row}, rows.branch id = some row → AttestedBranch apps row

end

variable {apps : AppGateway} {rows : Rows} {moments : Moments}

/-- The errors that an element is left with when it is found. -/
theorem KeepsVerdict.found {held stored before : Except Exn (List String)} {listed : List String}
    {given : Option (List String)} (h : KeepsVerdict held stored given (some (before, listed)))
    (hrow : Attests before listed) :
    Attests held (given.getD listed) ∧ Attests stored (given.getD listed) := by
  obtain ⟨errors, hbefore, hlisted⟩ := hrow
  obtain ⟨errors', hheld, hsame⟩ := h.kept _ rfl errors hbefore
  have hgiven : given.getD listed = [] ↔ errors' = [] := by
    rw [hsame, hlisted]
    cases hcase : given with
    | none => exact Iff.rfl
    | some errors => exact h.given _ rfl errors hcase
  exact ⟨⟨errors', hheld, hgiven.symm⟩, (h.stored errors' hheld).congr hgiven⟩

/-- The errors that an element is left with by its constructor. -/
theorem KeepsVerdict.made {held stored : Except Exn (List String)} {given : Option (List String)}
    {row : Option (Except Exn (List String) × List String)} (h : KeepsVerdict held stored given row)
    {errors : List String} (hheld : held = .ok errors) :
    Attests held errors ∧ Attests stored errors :=
  ⟨⟨errors, hheld, Iff.rfl⟩, h.stored errors hheld⟩

/-! ## What is loaded -/

/-- What a list of a request is loaded to, beside the content that it asks for. -/
theorem list_loaded {α β γ : Type} {load : α → Except Exn β} {content : α → β} {P : β → Prop}
    {g : β → γ} {jsons : Option (List α)} {loaded : Option (List β)}
    (h : loadList load jsons = .ok loaded)
    (heach : ∀ json ∈ jsons.getD [], ∀ x, load json = .ok x → P x ∧ g x = g (content json))
    {old : List β} (hold : ∀ x ∈ old, P x) :
    (∀ x ∈ loaded.getD old, P x) ∧
      (loaded.getD old).map g = ((listContent content jsons).getD old).map g := by
  cases jsons with
  | none =>
    cases h
    exact ⟨hold, rfl⟩
  | some jsons =>
    obtain ⟨xs, hxs, heq⟩ := Except.bind_eq_ok.mp h
    cases heq
    refine ⟨fun x hx => ?_, ?_⟩
    · obtain ⟨json, hjson, hload⟩ := Except.exists_of_mem_mapM hxs hx
      exact (heach json hjson x hload).1
    · show xs.map g = (jsons.map content).map g
      rw [List.map_map]
      exact Except.map_of_mapM_ok hxs fun json hjson x hload => (heach json hjson x hload).2

/-- What an element of a request is loaded to, if the JSON has it. -/
theorem optional_loaded {α β γ : Type} {load : α → Except Exn β} {content : α → β} {P : β → Prop}
    {g : β → γ} {json : Option α} {loaded : Option β} (h : loadOptional load json = .ok loaded)
    (heach : ∀ x ∈ json, ∀ y, load x = .ok y → P y ∧ g y = g (content x))
    {old : Option β} (hold : ∀ x ∈ old, P x) :
    (∀ x ∈ loaded.or old, P x) ∧
      (loaded.or old).map g = ((json.map content).or old).map g := by
  cases json with
  | none =>
    cases h
    exact ⟨hold, rfl⟩
  | some json =>
    obtain ⟨x, hx, heq⟩ := Except.bind_eq_ok.mp h
    cases heq
    obtain ⟨hP, hg⟩ := heach json rfl x hx
    refine ⟨?_, congrArg some hg⟩
    rintro y ⟨⟩
    exact hP

/-- Two lists of which the same is read give the same results. -/
theorem mapM_of_map_eq {α β : Type} {f : α → Except Exn β} {as bs : List α}
    (h : as.map f = bs.map f) : as.mapM f = bs.mapM f := by
  have hread : ∀ xs : List α, xs.mapM f = (xs.map f).mapM id := by
    intro xs
    rw [List.mapM_map]
    rfl
  rw [hread as, hread bs, h]

/-! ### Arguments -/

/-- An argument without its errors and its moment. -/
def bareArgument (argument : ArgumentObject) : ArgumentObject :=
  { argument with errors := [], moment := .untouched }

/-- What does not depend on errors and moments is the same. -/
theorem map_of_bare {γ : Type} {f : ArgumentObject → γ} (hf : ∀ a, f (bareArgument a) = f a)
    {arguments content : List ArgumentObject}
    (h : arguments.map bareArgument = content.map bareArgument) :
    arguments.map f = content.map f := by
  have hbare : ∀ xs : List ArgumentObject, xs.map f = (xs.map bareArgument).map f := by
    intro xs
    rw [List.map_map]
    exact List.map_congr_left fun a _ => (hf a).symm
  rw [hbare arguments, hbare content, h]

/-- What a validation reads of the arguments, and what becomes of them. -/
structure SameArguments (arguments content : List ArgumentObject) : Prop where
  held : arguments.map ArgumentObject.argument = content.map ArgumentObject.argument
  stored : (arguments.map (ArgumentObject.settle true)).map ArgumentObject.argument =
    (content.map (ArgumentObject.settle true)).map ArgumentObject.argument
  fresh : (arguments.map (ArgumentObject.settle true)).map (ArgumentObject.refresh allDue) =
    (content.map (ArgumentObject.settle true)).map (ArgumentObject.refresh allDue)

/-- Arguments that differ in errors and moments only are read the same. -/
theorem sameArguments_of_bare {arguments content : List ArgumentObject}
    (h : arguments.map bareArgument = content.map bareArgument) :
    SameArguments arguments content where
  held := map_of_bare (fun _ => rfl) h
  stored := by
    rw [List.map_map, List.map_map]
    exact map_of_bare (fun _ => rfl) h
  fresh := by
    rw [List.map_map, List.map_map]
    exact map_of_bare (fun _ => rfl) h

/-- An argument is loaded without errors, and to what the JSON asks for. -/
theorem argument_loaded (hrows : AttestedRows apps rows) {json : ArgumentJson}
    (hkeeps : KeepsArgument rows json) {argument : ArgumentObject}
    (h : json.load rows moments = .ok argument) :
    argument.errors = [] ∧ bareArgument argument = bareArgument (argumentContent rows json) := by
  unfold ArgumentJson.load at h
  unfold KeepsArgument at hkeeps
  unfold argumentContent
  cases hid : json.id with
  | unnamed id =>
    rw [hid] at h
    dsimp only at h
    split at h
    · cases h
    · cases h
      exact ⟨rfl, rfl⟩
  | named id =>
    rw [hid] at h hkeeps
    dsimp only [JsonId.instance?] at h hkeeps ⊢
    cases hrow : rows.argument id with
    | none =>
      rw [hrow] at h
      cases h
    | some row =>
      rw [hrow] at h hkeeps
      cases h
      refine ⟨?_, rfl⟩
      have hgiven := hkeeps rfl
      show json.errors.getD row.errors = []
      cases herrors : json.errors with
      | none => exact hrows.argument hrow
      | some errors =>
        rw [herrors] at hgiven
        exact hgiven

/-- The arguments of an element; a key that is absent leaves the old ones. -/
theorem arguments_loaded (hrows : AttestedRows apps rows) {jsons : Option (List ArgumentJson)}
    (hkeeps : ∀ json ∈ jsons.getD [], KeepsArgument rows json)
    {arguments : Option (List ArgumentObject)}
    (h : loadList (ArgumentJson.load rows moments) jsons = .ok arguments)
    {old : List ArgumentObject} (hold : ∀ argument ∈ old, argument.errors = []) :
    (∀ argument ∈ arguments.getD old, argument.errors = []) ∧
      SameArguments (arguments.getD old)
        ((listContent (argumentContent rows) jsons).getD old) := by
  obtain ⟨herrors, hbare⟩ := list_loaded h
    (fun json hjson _ hload => argument_loaded hrows (hkeeps json hjson) hload) hold
  exact ⟨herrors, sameArguments_of_bare hbare⟩

/-! ### Transforms and conditions -/

/-- A transform is loaded with attested errors, and to what the JSON asks for: a row that is found
keeps its verdict, a new one is validated by its constructor. -/
theorem transform_loaded (hrows : AttestedRows apps rows) {json : TransformJson}
    (hkeeps : KeepsTransform apps rows json) {transform : TransformObject}
    (h : json.load apps rows moments = .ok transform) :
    AttestedTransform apps transform ∧
      (transform.settle true).refresh apps allDue =
        ((transformContent rows json).settle true).refresh apps allDue := by
  have hown := hkeeps.own
  unfold TransformJson.load at h
  obtain ⟨arguments, harguments, hrest⟩ := Except.bind_eq_ok.mp h
  unfold transformContent at hown ⊢
  dsimp only at hown ⊢
  cases hrow : json.id.instance? rows.transform with
  | some row =>
    rw [hrow] at hrest hown
    cases hrest
    have hattested : AttestedTransform apps row := by
      cases hid : json.id with
      | named id =>
        rw [hid] at hrow
        exact hrows.transform hrow
      | unnamed id =>
        rw [hid] at hrow
        cases hrow
    obtain ⟨herrors, hsame⟩ := arguments_loaded hrows hkeeps.arguments harguments
      hattested.arguments
    obtain ⟨hheld, hstored⟩ := hown.found hattested.held
    refine ⟨⟨herrors, ?_, ?_⟩, ?_⟩
    · simpa only [TransformObject.validate, hsame.held] using hheld
    · simpa only [TransformObject.validate, TransformObject.settle, hsame.stored] using hstored
    · simp only [TransformObject.refresh, TransformObject.settle, TransformObject.validate,
        refreshedErrors, allDue, if_true, hsame.stored, hsame.fresh]
  | none =>
    rw [hrow] at hrest hown
    obtain ⟨errors, hvalidated, heq⟩ := Except.bind_eq_ok.mp hrest
    cases heq
    obtain ⟨herrors, hsame⟩ := arguments_loaded hrows hkeeps.arguments harguments
      (List.forall_mem_nil _)
    have hvalidated' := hvalidated
    simp only [TransformObject.validate, hsame.held] at hvalidated'
    obtain ⟨hheld, hstored⟩ := hown.made hvalidated'
    refine ⟨⟨herrors, ⟨errors, hvalidated, Iff.rfl⟩, ?_⟩, ?_⟩
    · simpa only [TransformObject.validate, TransformObject.settle, hsame.stored] using hstored
    · simp only [TransformObject.refresh, TransformObject.settle, TransformObject.validate,
        refreshedErrors, allDue, if_true, hsame.stored, hsame.fresh]

/-- The transforms of a condition. -/
theorem transforms_loaded (hrows : AttestedRows apps rows) {jsons : Option (List TransformJson)}
    (hkeeps : ∀ json ∈ jsons.getD [], KeepsTransform apps rows json)
    {transforms : Option (List TransformObject)}
    (h : loadList (TransformJson.load apps rows moments) jsons = .ok transforms)
    {old : List TransformObject} (hold : ∀ transform ∈ old, AttestedTransform apps transform) :
    (∀ transform ∈ transforms.getD old, AttestedTransform apps transform) ∧
      ((transforms.getD old).map (TransformObject.settle true)).mapM
          (TransformObject.refresh apps allDue) =
        (((listContent (transformContent rows) jsons).getD old).map
          (TransformObject.settle true)).mapM (TransformObject.refresh apps allDue) := by
  obtain ⟨hattested, hsame⟩ := list_loaded (P := AttestedTransform apps)
    (g := fun transform => (transform.settle true).refresh apps allDue) h
    (fun json hjson _ hload => transform_loaded hrows (hkeeps json hjson) hload) hold
  refine ⟨hattested, ?_⟩
  rw [List.mapM_map, List.mapM_map]
  exact mapM_of_map_eq hsame

/-- A condition is loaded in the same way, its arguments and transforms first. -/
theorem condition_loaded (hrows : AttestedRows apps rows) {json : ConditionJson}
    (hkeeps : KeepsCondition apps rows json) {condition : ConditionObject}
    (h : json.load apps rows moments = .ok condition) :
    AttestedCondition apps condition ∧
      (condition.settle true).refresh apps allDue =
        ((conditionContent rows json).settle true).refresh apps allDue := by
  have hown := hkeeps.own
  unfold ConditionJson.load at h
  obtain ⟨arguments, harguments, hrest⟩ := Except.bind_eq_ok.mp h
  obtain ⟨transforms, htransforms, hrest⟩ := Except.bind_eq_ok.mp hrest
  unfold conditionContent at hown ⊢
  dsimp only at hown ⊢
  cases hrow : json.id.instance? rows.condition with
  | some row =>
    rw [hrow] at hrest hown
    cases hrest
    have hattested : AttestedCondition apps row := by
      cases hid : json.id with
      | named id =>
        rw [hid] at hrow
        exact hrows.condition hrow
      | unnamed id =>
        rw [hid] at hrow
        cases hrow
    obtain ⟨herrors, hsame⟩ := arguments_loaded hrows hkeeps.arguments harguments
      hattested.arguments
    obtain ⟨hbelow, hfresh⟩ := transforms_loaded hrows hkeeps.transforms htransforms
      hattested.transforms
    obtain ⟨hheld, hstored⟩ := hown.found hattested.held
    refine ⟨⟨herrors, hbelow, ?_, ?_⟩, ?_⟩
    · simpa only [ConditionObject.validate, hsame.held] using hheld
    · simpa only [ConditionObject.validate, ConditionObject.settle, hsame.stored] using hstored
    · simp only [ConditionObject.refresh, ConditionObject.settle, ConditionObject.validate,
        refreshedErrors, allDue, if_true, hsame.stored, hsame.fresh, hfresh]
  | none =>
    rw [hrow] at hrest hown
    obtain ⟨errors, hvalidated, heq⟩ := Except.bind_eq_ok.mp hrest
    cases heq
    obtain ⟨herrors, hsame⟩ := arguments_loaded hrows hkeeps.arguments harguments
      (List.forall_mem_nil _)
    obtain ⟨hbelow, hfresh⟩ := transforms_loaded hrows hkeeps.transforms htransforms
      (List.forall_mem_nil _)
    have hvalidated' := hvalidated
    simp only [ConditionObject.validate, hsame.held] at hvalidated'
    obtain ⟨hheld, hstored⟩ := hown.made hvalidated'
    refine ⟨⟨herrors, hbelow, ⟨errors, hvalidated, Iff.rfl⟩, ?_⟩, ?_⟩
    · simpa only [ConditionObject.validate, ConditionObject.settle, hsame.stored] using hstored
    · simp only [ConditionObject.refresh, ConditionObject.settle, ConditionObject.validate,
        refreshedErrors, allDue, if_true, hsame.stored, hsame.fresh, hfresh]

/-- The conditions of an expression. -/
theorem conditions_loaded (hrows : AttestedRows apps rows) {jsons : Option (List ConditionJson)}
    (hkeeps : ∀ json ∈ jsons.getD [], KeepsCondition apps rows json)
    {conditions : Option (List ConditionObject)}
    (h : loadList (ConditionJson.load apps rows moments) jsons = .ok conditions)
    {old : List ConditionObject} (hold : ∀ condition ∈ old, AttestedCondition apps condition) :
    (∀ condition ∈ conditions.getD old, AttestedCondition apps condition) ∧
      ((conditions.getD old).map (ConditionObject.settle true)).mapM
          (ConditionObject.refresh apps allDue) =
        (((listContent (conditionContent rows) jsons).getD old).map
          (ConditionObject.settle true)).mapM (ConditionObject.refresh apps allDue) := by
  obtain ⟨hattested, hsame⟩ := list_loaded (P := AttestedCondition apps)
    (g := fun condition => (condition.settle true).refresh apps allDue) h
    (fun json hjson _ hload => condition_loaded hrows (hkeeps json hjson) hload) hold
  refine ⟨hattested, ?_⟩
  rw [List.mapM_map, List.mapM_map]
  exact mapM_of_map_eq hsame

/-! ### Expressions -/

/-- An expression that is made of loaded parts. -/
theorem makeExpression_loaded (hrows : AttestedRows apps rows) (id : JsonId UUID)
    (errors : Option (List String)) {children contents : Option (List ExpressionObject)}
    {conditions : Option (List ConditionObject)} {jsons : Option (List ConditionJson)}
    (hchildren : ∀ old, AttestedExpressions apps old →
      AttestedExpressions apps (children.getD old) ∧
        ExpressionObject.refreshAll apps allDue
            (ExpressionObject.settleAll true (children.getD old)) =
          ExpressionObject.refreshAll apps allDue
            (ExpressionObject.settleAll true (contents.getD old)))
    (hkeeps : ∀ json ∈ jsons.getD [], KeepsCondition apps rows json)
    (hconditions : loadList (ConditionJson.load apps rows moments) jsons = .ok conditions) :
    AttestedExpression apps (makeExpression rows id errors children conditions) ∧
      ((makeExpression rows id errors children conditions).settle true).refresh apps allDue =
        ((makeExpression rows id errors contents
          (listContent (conditionContent rows) jsons)).settle true).refresh apps allDue := by
  unfold makeExpression
  cases hrow : id.instance? rows.expression with
  | some row =>
    obtain ⟨existing, oldErrors, oldChildren, oldConditions⟩ := row
    have hattested : AttestedExpression apps
        (.mk existing oldErrors oldChildren oldConditions) := by
      cases id with
      | named id => exact hrows.expression hrow
      | unnamed id => cases hrow
    rw [AttestedExpression] at hattested
    obtain ⟨hbelow, hfresh⟩ := hchildren oldChildren hattested.1
    obtain ⟨hbelow', hfresh'⟩ := conditions_loaded hrows hkeeps hconditions hattested.2
    dsimp only
    rw [AttestedExpression, ExpressionObject.settle, ExpressionObject.settle,
      ExpressionObject.refresh, ExpressionObject.refresh, hfresh, hfresh']
    exact ⟨⟨hbelow, hbelow'⟩, rfl⟩
  | none =>
    obtain ⟨hbelow, hfresh⟩ := hchildren [] (by rw [AttestedExpressions]; trivial)
    obtain ⟨hbelow', hfresh'⟩ := conditions_loaded hrows hkeeps hconditions
      (List.forall_mem_nil _)
    dsimp only
    rw [AttestedExpression, ExpressionObject.settle, ExpressionObject.settle,
      ExpressionObject.refresh, ExpressionObject.refresh, hfresh, hfresh']
    exact ⟨⟨hbelow, hbelow'⟩, rfl⟩

mutual

/-- An expression is loaded to what the JSON asks for, and what is below it with attested errors. -/
theorem expression_loaded (hrows : AttestedRows apps rows) : ∀ {json : ExpressionJson}
    {e : ExpressionObject}, KeepsExpression apps rows json → json.load apps rows moments = .ok e →
      AttestedExpression apps e ∧
        (e.settle true).refresh apps allDue =
          ((expressionContent rows json).settle true).refresh apps allDue
  | .mk id errors childExpressions conditions, e, hkeeps, h => by
    rw [KeepsExpression] at hkeeps
    rw [ExpressionJson.load] at h
    obtain ⟨children, hchildren, hrest⟩ := Except.bind_eq_ok.mp h
    obtain ⟨below, hconditions, heq⟩ := Except.bind_eq_ok.mp hrest
    cases heq
    rw [expressionContent]
    exact makeExpression_loaded hrows id errors
      (fun _ hold => children_loaded hrows hkeeps.1 hchildren hold) hkeeps.2 hconditions

/-- The child expressions of an expression; a key that is absent leaves the old ones. -/
theorem children_loaded (hrows : AttestedRows apps rows) : ∀ {jsons : Option (List ExpressionJson)}
    {children : Option (List ExpressionObject)}, KeepsChildren apps rows jsons →
      ExpressionJson.loadChildren apps rows moments jsons = .ok children →
      ∀ {old : List ExpressionObject}, AttestedExpressions apps old →
        AttestedExpressions apps (children.getD old) ∧
          ExpressionObject.refreshAll apps allDue
              (ExpressionObject.settleAll true (children.getD old)) =
            ExpressionObject.refreshAll apps allDue
              (ExpressionObject.settleAll true ((childrenContent rows jsons).getD old))
  | none, _, _, h, old, hold => by
    rw [ExpressionJson.loadChildren] at h
    cases h
    rw [childrenContent]
    exact ⟨hold, rfl⟩
  | some jsons, _, hkeeps, h, old, hold => by
    rw [KeepsChildren] at hkeeps
    rw [ExpressionJson.loadChildren] at h
    obtain ⟨loaded, hloaded, heq⟩ := Except.bind_eq_ok.mp h
    cases heq
    rw [childrenContent]
    exact expressions_loaded hrows hkeeps hloaded

/-- The child expressions that the JSON has. -/
theorem expressions_loaded (hrows : AttestedRows apps rows) : ∀ {jsons : List ExpressionJson}
    {es : List ExpressionObject}, KeepsExpressions apps rows jsons →
      ExpressionJson.loadAll apps rows moments jsons = .ok es →
        AttestedExpressions apps es ∧
          ExpressionObject.refreshAll apps allDue (ExpressionObject.settleAll true es) =
            ExpressionObject.refreshAll apps allDue
              (ExpressionObject.settleAll true (expressionsContent rows jsons))
  | [], _, _, h => by
    cases h
    rw [AttestedExpressions, expressionsContent]
    exact ⟨trivial, rfl⟩
  | json :: jsons, _, hkeeps, h => by
    rw [KeepsExpressions] at hkeeps
    rw [ExpressionJson.loadAll] at h
    obtain ⟨first, hfirst, hrest⟩ := Except.bind_eq_ok.mp h
    obtain ⟨others, hothers, heq⟩ := Except.bind_eq_ok.mp hrest
    cases heq
    obtain ⟨hattested, hfresh⟩ := expression_loaded hrows hkeeps.1 hfirst
    obtain ⟨hattested', hfresh'⟩ := expressions_loaded hrows hkeeps.2 hothers
    rw [AttestedExpressions, expressionsContent, ExpressionObject.settleAll,
      ExpressionObject.settleAll, ExpressionObject.refreshAll, ExpressionObject.refreshAll, hfresh,
      hfresh']
    exact ⟨⟨hattested, hattested'⟩, rfl⟩

end

/-- The trigger of an action, or the condition of a branch. -/
theorem optionalExpression_loaded (hrows : AttestedRows apps rows) {json : Option ExpressionJson}
    (hkeeps : ∀ e ∈ json, KeepsExpression apps rows e) {loaded : Option ExpressionObject}
    (h : loadOptional (ExpressionJson.load apps rows moments) json = .ok loaded)
    {old : Option ExpressionObject} (hold : ∀ e ∈ old, AttestedExpression apps e) :
    (∀ e ∈ loaded.or old, AttestedExpression apps e) ∧
      ExpressionObject.refreshOptional apps allDue
          ((loaded.or old).map (ExpressionObject.settle true)) =
        ExpressionObject.refreshOptional apps allDue
          (((json.map (expressionContent rows)).or old).map (ExpressionObject.settle true)) := by
  obtain ⟨hattested, hsame⟩ := optional_loaded (P := AttestedExpression apps)
    (g := fun e => (e.settle true).refresh apps allDue) h
    (fun json hjson _ hload => expression_loaded hrows (hkeeps json hjson) hload) hold
  refine ⟨hattested, ?_⟩
  generalize loaded.or old = left at hsame
  generalize (json.map (expressionContent rows)).or old = right at hsame
  cases left with
  | none =>
    cases right with
    | none => rfl
    | some e => cases hsame
  | some e =>
    cases right with
    | none => cases hsame
    | some e' =>
      have hfresh : (e.settle true).refresh apps allDue = (e'.settle true).refresh apps allDue :=
        Option.some.inj hsame
      rw [Option.map_some, Option.map_some, ExpressionObject.refreshOptional,
        ExpressionObject.refreshOptional, hfresh]

/-! ### Actions and branches -/

/-- The device argument of an action. -/
theorem device_loaded (hrows : AttestedRows apps rows) {json : Option ArgumentJson}
    (hkeeps : ∀ device ∈ json, KeepsArgument rows device) {loaded : Option ArgumentObject}
    (h : loadOptional (ArgumentJson.load rows moments) json = .ok loaded)
    {old : Option ArgumentObject} (hold : ∀ device ∈ old, device.errors = []) :
    (∀ device ∈ loaded.or old, device.errors = []) ∧
      (loaded.or old).isNone = ((json.map (argumentContent rows)).or old).isNone ∧
      ((loaded.or old).map (ArgumentObject.settle true)).map (ArgumentObject.refresh allDue) =
        (((json.map (argumentContent rows)).or old).map (ArgumentObject.settle true)).map
          (ArgumentObject.refresh allDue) := by
  obtain ⟨herrors, hbare⟩ := optional_loaded h
    (fun json hjson _ hload => argument_loaded hrows (hkeeps json hjson) hload) hold
  have hsettled : ∀ device : Option ArgumentObject,
      (device.map (ArgumentObject.settle true)).map (ArgumentObject.refresh allDue) =
        (device.map bareArgument).map
          fun argument => (argument.settle true).refresh allDue := by
    intro device
    cases device <;> rfl
  refine ⟨herrors, ?_, ?_⟩
  · have hnone := congrArg Option.isNone hbare
    rwa [Option.isNone_map, Option.isNone_map] at hnone
  · rw [hsettled, hsettled, hbare]

/-- An action is loaded like a transform, with its device argument and its trigger. -/
theorem action_loaded (hrows : AttestedRows apps rows) {json : ActionJson}
    (hkeeps : KeepsAction apps rows json) {action : ActionObject}
    (h : json.load apps rows moments = .ok action) :
    AttestedAction apps action ∧
      (action.settle true).refresh apps allDue =
        ((actionContent rows json).settle true).refresh apps allDue := by
  have hown := hkeeps.own
  unfold ActionJson.load at h
  obtain ⟨device, hdevice, hrest⟩ := Except.bind_eq_ok.mp h
  obtain ⟨arguments, harguments, hrest⟩ := Except.bind_eq_ok.mp hrest
  obtain ⟨trigger, htrigger, hrest⟩ := Except.bind_eq_ok.mp hrest
  unfold actionContent at hown ⊢
  dsimp only at hown ⊢
  cases hrow : rows.action json.id with
  | some row =>
    rw [hrow] at hrest hown
    cases hrest
    have hattested := hrows.action hrow
    obtain ⟨hdevices, hnone, hfresh⟩ := device_loaded hrows hkeeps.device hdevice hattested.device
    obtain ⟨herrors, hsame⟩ := arguments_loaded hrows hkeeps.arguments harguments
      hattested.arguments
    obtain ⟨hbelow, hfresh'⟩ := optionalExpression_loaded hrows hkeeps.trigger htrigger
      hattested.trigger
    obtain ⟨hheld, hstored⟩ := hown.found hattested.held
    refine ⟨⟨hdevices, herrors, hbelow, ?_, ?_⟩, ?_⟩
    · simpa only [ActionObject.validate, hsame.held, hnone] using hheld
    · simpa only [ActionObject.validate, ActionObject.settle, hsame.stored, Option.isNone_map,
        hnone] using hstored
    · simp only [ActionObject.refresh, ActionObject.settle, ActionObject.validate, refreshedErrors,
        allDue, if_true, hsame.stored, hsame.fresh, Option.isNone_map, hnone, hfresh, hfresh']
  | none =>
    rw [hrow] at hrest hown
    obtain ⟨errors, hvalidated, heq⟩ := Except.bind_eq_ok.mp hrest
    cases heq
    have hnoDevice : ∀ device ∈ (none : Option ArgumentObject), device.errors = [] := by
      rintro _ ⟨⟩
    have hnoTrigger : ∀ e ∈ (none : Option ExpressionObject), AttestedExpression apps e := by
      rintro _ ⟨⟩
    obtain ⟨hdevices, hnone, hfresh⟩ := device_loaded hrows hkeeps.device hdevice hnoDevice
    obtain ⟨herrors, hsame⟩ := arguments_loaded hrows hkeeps.arguments harguments
      (List.forall_mem_nil _)
    obtain ⟨hbelow, hfresh'⟩ := optionalExpression_loaded hrows hkeeps.trigger htrigger hnoTrigger
    rw [Option.or_none, Option.or_none] at hnone hfresh hfresh'
    rw [Option.or_none] at hdevices hbelow
    have hvalidated' := hvalidated
    simp only [ActionObject.validate, hsame.held, hnone] at hvalidated'
    obtain ⟨hheld, hstored⟩ := hown.made hvalidated'
    refine ⟨⟨hdevices, herrors, hbelow, ⟨errors, hvalidated, Iff.rfl⟩, ?_⟩, ?_⟩
    · simpa only [ActionObject.validate, ActionObject.settle, hsame.stored, Option.isNone_map,
        hnone] using hstored
    · simp only [ActionObject.refresh, ActionObject.settle, ActionObject.validate, refreshedErrors,
        allDue, if_true, hsame.stored, hsame.fresh, Option.isNone_map, hnone, hfresh, hfresh']

/-- A branch is loaded with what is below its condition. -/
theorem branch_loaded (hrows : AttestedRows apps rows) {json : BranchJson}
    (hkeeps : KeepsBranch apps rows json) {branch : BranchObject}
    (h : json.load apps rows moments = .ok branch) :
    AttestedBranch apps branch ∧
      (branch.settle true).refresh apps allDue =
        ((branchContent rows json).settle true).refresh apps allDue := by
  unfold BranchJson.load at h
  obtain ⟨condition, hcondition, hrest⟩ := Except.bind_eq_ok.mp h
  unfold branchContent
  dsimp only
  cases hrow : json.id.instance? rows.branch with
  | some row =>
    rw [hrow] at hrest
    cases hrest
    have hattested : AttestedBranch apps row := by
      cases hid : json.id with
      | named id =>
        rw [hid] at hrow
        exact hrows.branch hrow
      | unnamed id =>
        rw [hid] at hrow
        cases hrow
    obtain ⟨hbelow, hfresh⟩ := optionalExpression_loaded hrows hkeeps hcondition hattested
    refine ⟨hbelow, ?_⟩
    simp only [BranchObject.refresh, BranchObject.settle, hfresh]
  | none =>
    rw [hrow] at hrest
    cases hrest
    have hnoCondition : ∀ e ∈ (none : Option ExpressionObject), AttestedExpression apps e := by
      rintro _ ⟨⟩
    obtain ⟨hbelow, hfresh⟩ := optionalExpression_loaded hrows hkeeps hcondition hnoCondition
    rw [Option.or_none] at hbelow
    rw [Option.or_none, Option.or_none] at hfresh
    refine ⟨hbelow, ?_⟩
    simp only [BranchObject.refresh, BranchObject.settle, hfresh]

/-! ## The rows of a workflow -/

/-- The expressions of a list have attested errors when each of them has. -/
theorem attestedExpressions_iff (es : List ExpressionObject) :
    AttestedExpressions apps es ↔ ∀ e ∈ es, AttestedExpression apps e := by
  induction es with
  | nil =>
    rw [AttestedExpressions]
    exact iff_of_true trivial (List.forall_mem_nil _)
  | cons e es ih => rw [AttestedExpressions, List.forall_mem_cons, ih]

mutual

/-- Every expression below one with attested errors has them, too. -/
theorem attested_below : ∀ {e : ExpressionObject}, AttestedExpression apps e →
    ∀ below ∈ e.expressions, AttestedExpression apps below
  | .mk id errors childExpressions conditions, h => by
    rw [ExpressionObject.expressions, List.forall_mem_cons]
    refine ⟨h, ?_⟩
    rw [AttestedExpression] at h
    exact attested_allBelow h.1

/-- The same for the expressions of a list. -/
theorem attested_allBelow : ∀ {es : List ExpressionObject}, AttestedExpressions apps es →
    ∀ below ∈ ExpressionObject.allExpressions es, AttestedExpression apps below
  | [], _ => List.forall_mem_nil _
  | e :: es, h => by
    rw [AttestedExpressions] at h
    rw [ExpressionObject.allExpressions, List.forall_mem_append]
    exact ⟨attested_below h.1, attested_allBelow h.2⟩

end

/-- The expressions of triggers and branches, and all below them. -/
theorem attested_expressionsOf {workflow : WorkflowObject} (h : AttestedWorkflow apps workflow) :
    ∀ e ∈ expressionsOf workflow, AttestedExpression apps e := by
  refine attested_allBelow ((attestedExpressions_iff _).mpr ?_)
  intro e he
  rcases List.mem_append.mp he with he | he
  · obtain ⟨action, haction, htrigger⟩ := List.mem_filterMap.mp he
    exact (h.actions action haction).trigger e htrigger
  · obtain ⟨branch, hbranch, hcondition⟩ := List.mem_filterMap.mp he
    exact h.branches branch hbranch e hcondition

/-- Every condition of a workflow with attested errors has them. -/
theorem attested_conditionObjects {workflow : WorkflowObject}
    (h : AttestedWorkflow apps workflow) :
    ∀ condition ∈ conditionObjects workflow, AttestedCondition apps condition := by
  refine List.forall_mem_flatMap.mpr fun e he => ?_
  obtain ⟨id, errors, childExpressions, conditions⟩ := e
  have hattested := attested_expressionsOf h _ he
  rw [AttestedExpression] at hattested
  exact hattested.2

/-- Every transform of a workflow with attested errors has them. -/
theorem attested_transformsOf {workflow : WorkflowObject} (h : AttestedWorkflow apps workflow) :
    ∀ transform ∈ transformsOf workflow, AttestedTransform apps transform :=
  List.forall_mem_flatMap.mpr fun condition hmem =>
    (attested_conditionObjects h condition hmem).transforms

/-- Whatever a request finds in a workflow with attested errors has attested errors. -/
theorem attestedRows_of_attested {workflow : WorkflowObject} (h : AttestedWorkflow apps workflow) :
    AttestedRows apps workflow.rows where
  argument hrow := by
    rcases List.mem_append.mp (List.mem_of_find?_eq_some hrow) with hmem | hmem
    · rcases List.mem_append.mp hmem with hmem | hmem
      · obtain ⟨action, haction, hmem⟩ := List.mem_flatMap.mp hmem
        rcases List.mem_append.mp hmem with hmem | hmem
        · exact (h.actions action haction).device _ (Option.mem_toList.mp hmem)
        · exact (h.actions action haction).arguments _ hmem
      · obtain ⟨condition, hcondition, hmem⟩ := List.mem_flatMap.mp hmem
        exact (attested_conditionObjects h condition hcondition).arguments _ hmem
    · obtain ⟨transform, htransform, hmem⟩ := List.mem_flatMap.mp hmem
      exact (attested_transformsOf h transform htransform).arguments _ hmem
  transform hrow := attested_transformsOf h _ (List.mem_of_find?_eq_some hrow)
  condition hrow := attested_conditionObjects h _ (List.mem_of_find?_eq_some hrow)
  expression hrow := attested_expressionsOf h _ (List.mem_of_find?_eq_some hrow)
  action hrow := h.actions _ (List.mem_of_find?_eq_some hrow)
  branch hrow := h.branches _ (List.mem_of_find?_eq_some hrow)

end Walkoff.Analysis
