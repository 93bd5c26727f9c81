import Walkoff.Library.Transition
import Walkoff.Analysis.KeptVerdicts
import Walkoff.Analysis.ParameterLaw

/-!
# The stored validity over runs of requests

A new workflow is validated after its elements. A request on a workflow that is stored leaves a
current validity if it keeps the verdicts of the elements that it finds, and if it leaves the row of
the workflow unwritten only where the whole content keeps its verdict, too.
-/

set_option autoImplicit false

namespace Walkoff.Analysis

open Walkoff.Library Walkoff.Model Walkoff.Program

/-! ## The condition -/

/-- The JSON gives the columns of the workflow the values that they have, and the session does not
flush the row for another reason. -/
structure RowUnwritten (moments : Moments) (playbookId : Option UUID) (json : WorkflowJson)
    (existing : WorkflowObject) : Prop where
  playbookId : playbookId.getD existing.playbookId = existing.playbookId
  name : json.name = existing.name
  start : json.start.or existing.start = existing.start
  isValid : json.isValid.getD existing.isValid = existing.isValid
  errors : json.errors.getD existing.errors = existing.errors
  moment : moments.workflow = false

/-- The JSON keeps the verdicts of the elements that it finds, and a row of the workflow that is not
written is about a content that keeps its verdict. -/
structure KeepsWorkflow (apps : AppGateway) (moments : Moments) (playbookId : Option UUID)
    (json : WorkflowJson) (existing : WorkflowObject) : Prop where
  elements : KeepsElements apps existing.rows json
  unwritten : RowUnwritten moments playbookId json existing →
    (Faultless apps ((workflowContent existing json).settle true) ↔ Faultless apps existing)

/-- The playbook and the JSON of a request that may commit. -/
def editOf : WorkflowHandler → Option (Option UUID × WorkflowJson)
  | .createWorkflow none _ => none
  | .createWorkflow (some playbookId) json => some (some playbookId, json)
  | .updateWorkflow json => some (none, json)

/-- The database does not accept what the request commits, or no edits of a refused request wait in
its session and it keeps the verdicts of the workflow that is stored. -/
def KeepsVerdicts (apps : AppGateway) (db : WorkflowDb) (request : WorkflowRequest) : Prop :=
  request.database = .accepts →
    (request.sameSession = true → ∀ workflow, db.session ≠ .pending workflow) ∧
      ∀ existing, db.stored = some existing → ∀ playbookId json,
        editOf request.handler = some (playbookId, json) →
          KeepsWorkflow apps request.moments playbookId json existing

variable {apps : AppGateway} {moments : Moments}

/-! ## A new workflow -/

/-- Nothing is found where there are no rows. -/
theorem instance?_none {ι α : Type} (id : JsonId ι) :
    id.instance? (fun _ => (none : Option α)) = none := by
  cases id <;> rfl

/-- No rows, no errors. -/
theorem attestedRows_none : AttestedRows apps .none where
  argument h := by cases h
  transform h := by cases h
  condition h := by cases h
  expression h := by cases h
  action h := by cases h
  branch h := by cases h

/-- Of an element that is made, the validation reads what is stored. -/
theorem KeepsVerdict.of_made {held stored : Except Exn (List String)}
    {given : Option (List String)} (h : stored = held) : KeepsVerdict held stored given none where
  stored errors hheld := ⟨errors, h.trans hheld, Iff.rfl⟩
  kept _ hfound := by cases hfound
  given _ hfound := by cases hfound

/-- An argument that is not found is asked nothing. -/
theorem keepsArgument_none (json : ArgumentJson) : KeepsArgument .none json := by
  unfold KeepsArgument
  rw [Rows.none, instance?_none]
  exact fun h => Bool.noConfusion h

/-- A new argument is a reference exactly if its row says so. -/
theorem argumentContent_settled (json : ArgumentJson) :
    (argumentContent .none json).settle true = argumentContent .none json := by
  unfold argumentContent
  rw [Rows.none, instance?_none]
  rfl

/-- New arguments are read as they are stored. -/
theorem argumentContents_settled (jsons : Option (List ArgumentJson)) :
    ((listContent (argumentContent .none) jsons).getD []).map (ArgumentObject.settle true) =
      (listContent (argumentContent .none) jsons).getD [] := by
  cases jsons with
  | none => rfl
  | some jsons =>
    show (jsons.map (argumentContent .none)).map (ArgumentObject.settle true) =
      jsons.map (argumentContent .none)
    rw [List.map_map]
    exact List.map_congr_left fun json _ => argumentContent_settled json

/-- A new transform keeps the verdicts. -/
theorem keepsTransform_none (json : TransformJson) : KeepsTransform apps .none json where
  arguments _ _ := keepsArgument_none _
  own := by
    have hrow : json.id.instance? Rows.none.transform = none := instance?_none json.id
    unfold transformContent
    rw [hrow]
    refine .of_made ?_
    simp only [TransformObject.validate, TransformObject.settle, argumentContents_settled]

/-- A new condition keeps the verdicts. -/
theorem keepsCondition_none (json : ConditionJson) : KeepsCondition apps .none json where
  arguments _ _ := keepsArgument_none _
  transforms _ _ := keepsTransform_none _
  own := by
    have hrow : json.id.instance? Rows.none.condition = none := instance?_none json.id
    unfold conditionContent
    rw [hrow]
    refine .of_made ?_
    simp only [ConditionObject.validate, ConditionObject.settle, argumentContents_settled]

mutual

/-- What is below a new expression keeps the verdicts. -/
theorem keepsExpression_none : ∀ json : ExpressionJson, KeepsExpression apps .none json
  | .mk id errors childExpressions conditions => by
    rw [KeepsExpression]
    exact ⟨keepsChildren_none childExpressions, fun _ _ => keepsCondition_none _⟩

/-- So do its child expressions, if the JSON has them. -/
theorem keepsChildren_none : ∀ jsons : Option (List ExpressionJson),
    KeepsChildren apps .none jsons
  | none => by rw [KeepsChildren]; trivial
  | some jsons => by
    rw [KeepsChildren]
    exact keepsExpressions_none jsons

/-- So do the expressions of a list. -/
theorem keepsExpressions_none : ∀ jsons : List ExpressionJson, KeepsExpressions apps .none jsons
  | [] => by rw [KeepsExpressions]; trivial
  | json :: jsons => by
    rw [KeepsExpressions]
    exact ⟨keepsExpression_none json, keepsExpressions_none jsons⟩

end

/-- A new action keeps the verdicts. -/
theorem keepsAction_none (json : ActionJson) : KeepsAction apps .none json where
  device _ _ := keepsArgument_none _
  arguments _ _ := keepsArgument_none _
  trigger _ _ := keepsExpression_none _
  own := by
    have hrow : Rows.none.action json.id = none := rfl
    unfold actionContent
    rw [hrow]
    refine .of_made ?_
    simp only [ActionObject.validate, ActionObject.settle, argumentContents_settled,
      Option.isNone_map]

/-- The JSON of a new workflow keeps the verdicts, whatever it is. -/
theorem keepsElements_none (json : WorkflowJson) : KeepsElements apps .none json where
  actions _ _ := keepsAction_none _
  branches _ _ _ _ := keepsExpression_none _

/-- What is loaded below a workflow has attested errors. -/
theorem elements_loaded {rows : Rows} (hrows : AttestedRows apps rows) {json : WorkflowJson}
    (hkeeps : KeepsElements apps rows json) {actions : Option (List ActionObject)}
    {branches : Option (List BranchObject)}
    (hactions : loadList (ActionJson.load apps rows moments) json.actions = .ok actions)
    (hbranches : loadList (BranchJson.load apps rows moments) json.branches = .ok branches)
    {oldActions : List ActionObject}
    (holdActions : ∀ action ∈ oldActions, AttestedAction apps action)
    {oldBranches : List BranchObject}
    (holdBranches : ∀ branch ∈ oldBranches, AttestedBranch apps branch) :
    ((∀ action ∈ actions.getD oldActions, AttestedAction apps action) ∧
      ∀ branch ∈ branches.getD oldBranches, AttestedBranch apps branch) ∧
      ((actions.getD oldActions).map (ActionObject.settle true)).mapM
          (ActionObject.refresh apps allDue) =
        (((listContent (actionContent rows) json.actions).getD oldActions).map
          (ActionObject.settle true)).mapM (ActionObject.refresh apps allDue) ∧
      ((branches.getD oldBranches).map (BranchObject.settle true)).mapM
          (BranchObject.refresh apps allDue) =
        (((listContent (branchContent rows) json.branches).getD oldBranches).map
          (BranchObject.settle true)).mapM (BranchObject.refresh apps allDue) := by
  obtain ⟨hattested, hsame⟩ := list_loaded (P := AttestedAction apps)
    (g := fun action => (action.settle true).refresh apps allDue) hactions
    (fun json hjson _ hload => action_loaded hrows (hkeeps.actions json hjson) hload) holdActions
  obtain ⟨hattested', hsame'⟩ := list_loaded (P := AttestedBranch apps)
    (g := fun branch => (branch.settle true).refresh apps allDue) hbranches
    (fun json hjson _ hload => branch_loaded hrows (hkeeps.branches json hjson) hload) holdBranches
  refine ⟨⟨hattested, hattested'⟩, ?_, ?_⟩
  · rw [List.mapM_map, List.mapM_map]
    exact mapM_of_map_eq hsame
  · rw [List.mapM_map, List.mapM_map]
    exact mapM_of_map_eq hsame'

/-- The column of a workflow that a commit leaves unwritten says what the content says. -/
def SaysContent (apps : AppGateway) (workflow : WorkflowObject) : Prop :=
  workflow.moment = .untouched →
    (workflow.isValid = true ↔ Faultless apps (workflow.settle true))

/-- `Workflow.validate` reads attested errors. -/
theorem validate_attested {workflow : WorkflowObject} (h : AttestedWorkflow apps workflow) :
    AttestedWorkflow apps workflow.validate ∧ SaysContent apps workflow.validate := by
  have hvalidated : AttestedWorkflow apps workflow.validate := ⟨h.actions, h.branches⟩
  exact ⟨hvalidated,
    fun _ => (validate_isValid_iff workflow).trans (faultless_iff hvalidated).symm⟩

/-- **A new workflow is validated after its elements.** -/
theorem construct_loaded {json : WorkflowJson} {playbookId : UUID} {workflow : WorkflowObject}
    (h : json.construct apps moments playbookId = .ok workflow) :
    AttestedWorkflow apps workflow ∧ SaysContent apps workflow := by
  unfold WorkflowJson.construct at h
  obtain ⟨actions, hactions, hrest⟩ := Except.bind_eq_ok.mp h
  obtain ⟨branches, hbranches, hrest⟩ := Except.bind_eq_ok.mp hrest
  split at hrest
  · cases hrest
  cases hrest
  obtain ⟨⟨hattested, hattested'⟩, -⟩ := elements_loaded attestedRows_none
    (keepsElements_none json) hactions hbranches (List.forall_mem_nil _) (List.forall_mem_nil _)
  exact validate_attested ⟨hattested, hattested'⟩

/-! ## A workflow that is found -/

/-- **What is loaded onto a stored workflow.** -/
theorem loadOnto_loaded {existing workflow : WorkflowObject} {json : WorkflowJson}
    {playbookId : Option UUID} (hattested : AttestedWorkflow apps existing)
    (hcurrent : Current apps existing)
    (hkeeps : KeepsWorkflow apps moments playbookId json existing)
    (h : json.loadOnto apps moments playbookId existing = .ok workflow) :
    AttestedWorkflow apps workflow ∧ SaysContent apps workflow := by
  unfold WorkflowJson.loadOnto at h
  obtain ⟨actions, hactions, hrest⟩ := Except.bind_eq_ok.mp h
  obtain ⟨branches, hbranches, hrest⟩ := Except.bind_eq_ok.mp hrest
  obtain ⟨⟨hbelow, hbelow'⟩, hfresh, hfresh'⟩ := elements_loaded
    (attestedRows_of_attested hattested) hkeeps.elements hactions hbranches hattested.actions
    hattested.branches
  cases hrest
  refine ⟨⟨hbelow, hbelow'⟩, fun hmoment => ?_⟩
  have hunwritten : RowUnwritten moments playbookId json existing := by
    by_contra hwritten
    refine absurd hmoment ?_
    dsimp only
    rw [if_pos]
    · exact Moment.noConfusion
    · by_contra hunchanged
      simp only [ne_eq, decide_not, Bool.or_eq_true, Bool.not_eq_true', decide_eq_false_iff_not,
        not_or, not_not, Bool.not_eq_true] at hunchanged
      obtain ⟨⟨⟨⟨⟨hplaybook, hname⟩, hstart⟩, hvalid⟩, herrors⟩, hmoments⟩ := hunchanged
      exact hwritten ⟨hplaybook, hname, hstart, hvalid, herrors, hmoments⟩
  rw [hunwritten.isValid, hcurrent.isValid_iff, ← hkeeps.unwritten hunwritten]
  unfold Faultless revalidated
  simp only [WorkflowObject.refresh, WorkflowObject.settle, workflowContent, hunwritten.playbookId,
    hunwritten.name, hunwritten.errors, hfresh, hfresh']

/-! ## Runs of requests -/

/-- What a request stores, if it stores anything: the flushed workflow of the session. -/
theorem next_stored {db : WorkflowDb} {request : WorkflowRequest} {stored : WorkflowObject}
    (h : (request.next apps db).stored = some stored) :
    db.stored = some stored ∨ request.database = .accepts ∧
      ∃ workflow, request.handled apps db = .commits workflow ∧
        workflow.flush apps true = .ok stored := by
  unfold WorkflowRequest.next at h
  cases hhandled : request.handled apps db with
  | leaves session =>
    rw [hhandled] at h
    exact .inl h
  | commits workflow =>
    rw [hhandled] at h
    change (db.commit apps workflow request.database).stored = some stored at h
    unfold WorkflowDb.commit at h
    cases hdatabase : request.database with
    | conflict =>
      rw [hdatabase] at h
      exact .inl h
    | fails =>
      rw [hdatabase] at h
      exact .inl h
    | accepts =>
      rw [hdatabase] at h
      cases hflush : workflow.flush apps true with
      | error e =>
        rw [hflush] at h
        exact .inl h
      | ok written =>
        rw [hflush] at h
        obtain rfl := Option.some.inj h
        exact .inr ⟨rfl, workflow, rfl, hflush⟩

/-- In a session without edits a request finds what is stored. -/
theorem opened_of_no_edits {db : WorkflowDb} {sameSession : Bool}
    (h : sameSession = true → ∀ workflow, db.session ≠ .pending workflow)
    {existing : Option WorkflowObject} {session : EditSession}
    (hopened : db.opened apps sameSession = .ok (existing, session)) : existing = db.stored := by
  obtain ⟨stored, held⟩ := db
  unfold WorkflowDb.opened at hopened
  cases sameSession with
  | false =>
    cases hopened
    rfl
  | true =>
    cases held with
    | clean =>
      cases hopened
      rfl
    | pending workflow => exact absurd rfl (h rfl workflow)
    | broken => cases hopened

/-- What `update_workflow` commits has been loaded onto what is stored. -/
theorem updateWorkflow_commits {request : WorkflowRequest} {json : WorkflowJson}
    {stored : Option WorkflowObject} {session : EditSession} {workflow : WorkflowObject}
    (h : updateWorkflow apps request json stored session = .commits workflow) :
    ∃ existing, stored = some existing ∧
      WorkflowJson.loadOnto apps request.moments json none existing = .ok workflow := by
  unfold updateWorkflow at h
  cases stored with
  | none => cases h
  | some existing =>
    dsimp only at h
    split at h
    · rename_i loaded hloaded
      split at h
      · cases h
        exact ⟨existing, rfl, hloaded⟩
      · cases h
    · cases h

/-- What `create_workflow` commits has been made, or loaded onto what is stored. -/
theorem createWorkflow_commits {request : WorkflowRequest} {playbookId : Option UUID}
    {json : WorkflowJson} {stored : Option WorkflowObject} {session : EditSession}
    {workflow : WorkflowObject}
    (h : createWorkflow apps request playbookId json stored session = .commits workflow) :
    (∃ playbook, WorkflowJson.construct apps request.moments json playbook = .ok workflow) ∨
      ∃ playbook existing, playbookId = some playbook ∧ stored = some existing ∧
        WorkflowJson.loadOnto apps request.moments json (some playbook) existing =
          .ok workflow := by
  unfold createWorkflow at h
  cases playbookId with
  | none => cases h
  | some playbook =>
    dsimp only at h
    split at h
    · cases h
    · cases stored with
      | none =>
        dsimp only at h
        split at h
        · rename_i made hmade
          cases h
          exact .inl ⟨playbook, hmade⟩
        · cases h
      | some existing =>
        dsimp only at h
        split at h
        · rename_i loaded hloaded
          cases h
          exact .inr ⟨playbook, existing, rfl, rfl, hloaded⟩
        · cases h

/-- What a request commits has been made, or loaded onto what is stored. -/
theorem committed_cases {db : WorkflowDb} {request : WorkflowRequest}
    (hsession : request.sameSession = true → ∀ workflow, db.session ≠ .pending workflow)
    {workflow : WorkflowObject} (h : request.handled apps db = .commits workflow) :
    (∃ json playbookId, WorkflowJson.construct apps request.moments json playbookId =
        .ok workflow) ∨
      ∃ existing playbookId json, db.stored = some existing ∧
        editOf request.handler = some (playbookId, json) ∧
        WorkflowJson.loadOnto apps request.moments json playbookId existing = .ok workflow := by
  unfold WorkflowRequest.handled at h
  cases hopened : db.opened apps request.sameSession with
  | error e =>
    rw [hopened] at h
    cases h
  | ok found =>
    obtain ⟨existing, session⟩ := found
    rw [hopened] at h
    obtain rfl := opened_of_no_edits hsession hopened
    cases hhandler : request.handler with
    | updateWorkflow json =>
      rw [hhandler] at h
      obtain ⟨existing, hstored, hloaded⟩ := updateWorkflow_commits h
      exact .inr ⟨existing, none, json, hstored, rfl, hloaded⟩
    | createWorkflow playbookId json =>
      rw [hhandler] at h
      rcases createWorkflow_commits h with
        ⟨playbook, hmade⟩ | ⟨playbook, existing, rfl, hstored, hloaded⟩
      · exact .inl ⟨json, playbook, hmade⟩
      · exact .inr ⟨existing, some playbook, json, hstored, rfl, hloaded⟩

/-- The workflow that is stored, if there is one, has attested errors. -/
def StoredAttested (apps : AppGateway) (db : WorkflowDb) : Prop :=
  ∀ workflow, db.stored = some workflow → AttestedWorkflow apps workflow

/-- One request that keeps the verdicts. -/
theorem next_current {db : WorkflowDb} {request : WorkflowRequest}
    (hattested : StoredAttested apps db) (hcurrent : StoredCurrent apps db)
    (hkeeps : KeepsVerdicts apps db request) :
    StoredAttested apps (request.next apps db) ∧ StoredCurrent apps (request.next apps db) := by
  have hnext : ∀ stored, (request.next apps db).stored = some stored →
      AttestedWorkflow apps stored ∧ Current apps stored := by
    intro stored hstored
    rcases next_stored hstored with hold | ⟨hdatabase, workflow, hhandled, hflush⟩
    · exact ⟨hattested stored hold, hcurrent stored hold⟩
    · obtain ⟨hsession, hkept⟩ := hkeeps hdatabase
      rcases committed_cases hsession hhandled with
        ⟨json, playbookId, hmade⟩ | ⟨existing, playbookId, json, hexisting, hedit, hloaded⟩
      · obtain ⟨hloaded, hsays⟩ := construct_loaded hmade
        exact current_of_flush hloaded hsays hflush
      · obtain ⟨hloaded, hsays⟩ := loadOnto_loaded (hattested existing hexisting)
          (hcurrent existing hexisting) (hkept existing hexisting playbookId json hedit) hloaded
        exact current_of_flush hloaded hsays hflush
  exact ⟨fun stored h => (hnext stored h).1, fun stored h => (hnext stored h).2⟩

/-- An app with an action that takes an integer. -/
def counterApps : AppGateway where
  lib := idleLibraries
  apis := [("Counter", {
    actions := [("add", { run := "main.add", defaultReturn := none, returns := none
                          parameters := [{ name := "amount", default := none
                                           required := some true
                                           schema := .dict [("name", .str "amount"),
                                             ("type", .str "integer")] }] })]
    conditions := []
    transforms := [] })]
  cache := [("Counter", [("main.add", false)])]

/-- The JSON of a workflow with one action and its argument. -/
def counterJson (name : String) (id : JsonId ℤ) (amount : Source) : WorkflowJson where
  name := name
  start := some 1
  actions := some [{ id := 1, appName := "Counter", actionName := "add", name := "add"
                     deviceId := none, trigger := none, errors := none
                     arguments := some [{ id, name := "amount", source := amount
                                          errors := none }] }]
  branches := none
  isValid := none
  errors := none

/-- A request that has a session of its own, which flushes what has changed when it commits. -/
def counterRequest (handler : WorkflowHandler) : WorkflowRequest where
  handler := handler
  sameSession := false
  moments :=
    { argument := fun _ => .untouched
      transform := fun _ => .untouched
      condition := fun _ => .untouched
      action := fun _ => .untouched
      workflow := false }
  leftByRaise := none
  database := .accepts

/-- The workflow as it is stored. -/
def counterWorkflow (name : String) (amount : Source) : WorkflowObject where
  playbookId := 9
  name := name
  start := some 1
  actions := [{ id := 1, appName := "Counter", actionName := "add", name := "add"
                deviceId := none, trigger := none, errors := [], moment := .untouched
                arguments := [{ id := 7, name := "amount", source := amount, isReference := false
                                errors := [], moment := .untouched }] }]
  branches := []
  isValid := true
  errors := []
  moment := .untouched

/-- Two validations that return have the same verdict when both find errors or none does. -/
theorem sameVerdict_of_ok {first second : Except Exn (List String)} {errors errors' : List String}
    (hfirst : first = .ok errors) (hsecond : second = .ok errors')
    (hsame : errors' = [] ↔ errors = []) : SameVerdict first second := by
  intro found hfound
  rw [hfirst] at hfound
  cases hfound
  exact ⟨errors', hsecond, hsame⟩

/-- The action of the counter with an integer. -/
def counterAction (amount : ℤ) : ActionObject where
  id := 1
  appName := "Counter"
  actionName := "add"
  name := "add"
  deviceId := none
  arguments := [{ id := 7, name := "amount", source := .value (.int amount) rfl
                  isReference := false, errors := [], moment := .untouched }]
  trigger := none
  errors := []
  moment := .untouched

/-- An integer that is replaced by an integer leaves an integer. -/
theorem update_int (amount newAmount : ℤ) : ∃ left, Source.update (.value (.int amount) rfl)
    (.value (.int newAmount) rfl) = .value (.int left) rfl := by
  show ∃ left, (if pyEq (.int amount) (.int newAmount) then Source.value (.int amount) rfl
    else .value (.int newAmount) rfl) = .value (.int left) rfl
  split
  · exact ⟨amount, rfl⟩
  · exact ⟨newAmount, rfl⟩

/-- The action of the counter keeps its verdict when it is given another integer. -/
theorem keepsElements_counter (name newName : String) (amount newAmount : ℤ) :
    KeepsElements counterApps (counterWorkflow name (.value (.int amount) rfl)).rows
      (counterJson newName (.named 7) (.value (.int newAmount) rfl)) where
  actions json hjson := by
    obtain ⟨left, hleft⟩ := update_int amount newAmount
    have hcontent : actionContent (counterWorkflow name (.value (.int amount) rfl)).rows json =
        counterAction left := by
      rw [List.mem_singleton.mp hjson, counterAction, ← hleft]
      rfl
    rw [List.mem_singleton.mp hjson] at hcontent ⊢
    refine ⟨by rintro _ ⟨⟩, ?_, by rintro _ ⟨⟩, ?_⟩
    · intro argument hargument _
      rw [List.mem_singleton.mp hargument]
      rfl
    · rw [hcontent]
      refine ⟨sameVerdict_of_ok rfl rfl Iff.rfl, ?_, ?_⟩
      · rintro _ ⟨⟩
        exact sameVerdict_of_ok rfl rfl Iff.rfl
      · rintro _ _ _ ⟨⟩
  branches _ hjson := absurd hjson List.not_mem_nil

/-- A counter with an integer has no fault. -/
theorem faultless_counter (name : String) (amount : ℤ) :
    Faultless counterApps (counterWorkflow name (.value (.int amount) rfl)) :=
  ⟨_, rfl, rfl⟩

/-- The counter is made, given another integer without a change of its own row, and then renamed and
given a third one. -/
def counterRun : List WorkflowRequest :=
  [counterRequest (.createWorkflow (some 9)
      (counterJson "count" (.unnamed 7) (.value (.int 5) rfl))),
    counterRequest (.updateWorkflow (counterJson "count" (.named 7) (.value (.int 6) rfl))),
    counterRequest (.updateWorkflow (counterJson "count up" (.named 7) (.value (.int 7) rfl)))]

/-- The counter as it is stored, with an integer. -/
def counterDb (name : String) (amount : ℤ) : WorkflowDb where
  stored := some (counterWorkflow name (.value (.int amount) rfl))
  session := .clean

/-- The update of the counter by another integer. -/
def counterUpdate (name : String) (amount : ℤ) : WorkflowRequest :=
  counterRequest (.updateWorkflow (counterJson name (.named 7) (.value (.int amount) rfl)))

/-- An update of the counter keeps the verdicts if it renames the workflow, or if the new integer
leaves it without a fault. -/
theorem keepsVerdicts_counter (name newName : String) (amount newAmount : ℤ)
    (hunwritten : newName = name →
      Faultless counterApps ((workflowContent (counterWorkflow name (.value (.int amount) rfl))
        (counterJson newName (.named 7) (.value (.int newAmount) rfl))).settle true)) :
    KeepsVerdicts counterApps (counterDb name amount) (counterUpdate newName newAmount) := by
  intro _
  constructor
  · intro hsame
    cases hsame
  · intro existing hexisting playbookId json hedit
    cases hexisting
    cases hedit
    exact ⟨keepsElements_counter name newName amount newAmount,
      fun hrow => iff_of_true (hunwritten hrow.name) (faultless_counter name amount)⟩

end Walkoff.Analysis
