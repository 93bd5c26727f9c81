import Walkoff.Program.RemoteExecution

/-!
# Remote and local execution

What it means that the remote strategy does what the local one does with `fully_cached`, and
that it never does: the runtime names the fields of an executable otherwise than the client.
-/

set_option autoImplicit false

namespace Walkoff.Analysis

open Walkoff.Library Walkoff.Model Walkoff.Program

variable {σ : Type}

/-- What the caller of a strategy sees: the status of an action with the default filled in, the
value of a condition or a transform, or that it raised. -/
inductive SeenOutcome where
  | status (status : Except Exn String)
  | value (value : PyVal)
  | executionError
  | raised

/-- The outcome of an execution as its caller sees it. -/
def seenOutcome (apps : RuntimeApps σ) (context : ExecutableContext) :
    EStateM.Result ExecutionExn (RuntimeState σ) ExecutableResult → SeenOutcome
  | .ok (.action result) _ =>
    .status (resultStatus apps context.appName context.executableName (.action result))
  | .ok (.data value) _ => .value value
  | .error (.executionError _) _ => .executionError
  | .error _ _ => .raised

section

variable (apps : RuntimeApps σ) (newId : UUID) (route : List String → Option (UUID × UUID))
  (workflow : RemoteWorkflow) (context : ExecutableContext)
  (arguments : OrderedDict String PyVal) (deviceId : Option PyVal) (s : RuntimeState σ)

/-- **Remote execution refines local execution**: the request reaches `on_post` and is accepted,
the app function is called alike, and status or value and the accumulator entry are the same. -/
structure RefinesLocal : Prop where
  accepted : (route (formatUrl workflow.executionId context.executionId)).isSome ∧
    isExecutionContext (requestJson workflow context arguments) = true
  sameCalls : (finalState (executeRemotely apps newId route workflow context arguments s)).calls =
    (finalState (executeFromContext apps context workflow.executionId.str arguments deviceId
      s)).calls
  sameOutcome : seenOutcome apps context
      (executeRemotely apps newId route workflow context arguments s) =
    seenOutcome apps context
      (executeFromContext apps context workflow.executionId.str arguments deviceId s)
  sameEntry : OrderedDict.get? (workflow.executionId.str, context.id.str)
      (finalState (executeRemotely apps newId route workflow context arguments s)).cache =
    OrderedDict.get? (workflow.executionId.str, context.id.str)
      (finalState (executeFromContext apps context workflow.executionId.str arguments deviceId
        s)).cache

end

/-- The client gives the name of the executable under another key than the schema asks for. -/
theorem isExecutableContext_requestJson (context : ExecutableContext) :
    isExecutableContext (.dict
      (OrderedDict.pop "app_name" (OrderedDict.pop "execution_id" context.asJson))) = false :=
  rfl

/-- No request of the client is accepted. -/
theorem isExecutionContext_requestJson (workflow : RemoteWorkflow) (context : ExecutableContext)
    (arguments : OrderedDict String PyVal) :
    isExecutionContext (requestJson workflow context arguments) = false := by
  have hentry : entryIs "executable_context" isExecutableContext
      (requestJson workflow context arguments) = false :=
    isExecutableContext_requestJson context
  unfold isExecutionContext
  rw [hentry, Bool.and_false, Bool.false_and]

/-- A request that no route takes is answered without JSON, which the client cannot read. -/
theorem executeRemotely_of_no_route (apps : RuntimeApps σ) (newId : UUID)
    {route : List String → Option (UUID × UUID)} {workflow : RemoteWorkflow}
    {context : ExecutableContext}
    (h : route (formatUrl workflow.executionId context.executionId) = none)
    (arguments : OrderedDict String PyVal) (s : RuntimeState σ) :
    executeRemotely apps newId route workflow context arguments s =
      .error (.other .valueError) s := by
  unfold executeRemotely serveExecution
  rw [h]
  rfl

/-- A request that reaches `on_post` is refused: nothing is called or filed, and the client makes
an unhandled exception of the refusal. -/
theorem executeRemotely_of_route (apps : RuntimeApps σ) (newId : UUID)
    {route : List String → Option (UUID × UUID)} {workflow : RemoteWorkflow}
    {context : ExecutableContext} {ids : UUID × UUID}
    (h : route (formatUrl workflow.executionId context.executionId) = some ids)
    (arguments : OrderedDict String PyVal) (s : RuntimeState σ) :
    executeRemotely apps newId route workflow context arguments s =
      if context.type = .action then
        .ok (.action { result := .none, status := some "UnhandledException" }) s
      else .error (.executionError (.str (remoteErrorMessage context 400 (.dict
        [("title", .str "Invalid execution request"), ("description",
          .str (apps.validationError (requestJson workflow context arguments)))])))) s := by
  have honPost : ActionExecution.onPost apps context.appName newId ids.1
      (requestJson workflow context arguments) s = .ok (httpError 400 "Invalid execution request"
        (apps.validationError (requestJson workflow context arguments))) s := by
    unfold ActionExecution.onPost
    rw [isExecutionContext_requestJson]
    rfl
  unfold executeRemotely serveExecution
  rw [h]
  dsimp only
  rw [honPost]
  by_cases haction : context.type = .action
  · simp [readResponse, httpError, haction]
  · simp [readResponse, httpError, haction]

/-- The path the client asks for is not the route of `on_post`. -/
theorem actionsRoute_formatUrl (workflowExecId executableExecId : UUID) :
    actionsRoute (formatUrl workflowExecId executableExecId) = none :=
  rfl

/-- **Remote execution never refines local execution**, wherever the paths of the client are
routed. -/
theorem not_refinesLocal (apps : RuntimeApps σ) (newId : UUID)
    (route : List String → Option (UUID × UUID)) (workflow : RemoteWorkflow)
    (context : ExecutableContext) (arguments : OrderedDict String PyVal)
    (deviceId : Option PyVal) (s : RuntimeState σ) :
    ¬RefinesLocal apps newId route workflow context arguments deviceId s := by
  rintro ⟨⟨_, haccepted⟩, _, _, _⟩
  rw [isExecutionContext_requestJson] at haccepted
  cases haccepted

/-! ## An action without arguments -/

/-- An app whose action `ping` returns the text `pong`. -/
def pingApps : RuntimeApps Unit where
  runKey _ _ name := .ok name
  call _ _ _ _ _ _ := (.ok (.action { result := .str "pong", status := none }), ())
  createInstance _ _ _ := (.ok ⟨⟩, ())
  defaultReturn _ _ := .ok "Success"
  validationError _ := "'name' is a required property"

/-- The action. -/
def pingContext : ExecutableContext where
  type := .action
  appName := "App"
  executableName := "ping"
  id := .uuid 1
  executionId := 2

/-- A workflow with it. -/
def pingWorkflow : RemoteWorkflow where
  id := 3
  name := "Ping"
  executionId := 4

/-- Nothing has happened yet. -/
def pingState : RuntimeState Unit where
  behaviour := ()
  calls := []
  instances := []
  cache := []

/-- Executed locally the action is successful; executed remotely it is not even called, although
the request is routed to `on_post`. -/
theorem ping_not_executed_remotely :
    seenOutcome pingApps pingContext
        (executeFromContext pingApps pingContext pingWorkflow.executionId.str [] none pingState) =
      .status (.ok "Success") ∧
    seenOutcome pingApps pingContext
        (executeRemotely pingApps 5 (fun _ => some (4, 2)) pingWorkflow pingContext [] pingState) =
      .status (.ok "UnhandledException") ∧
    ¬RefinesLocal pingApps 5 (fun _ => some (4, 2)) pingWorkflow pingContext [] none pingState := by
  have hremote := @executeRemotely_of_route Unit pingApps 5 (fun _ => some (4, 2)) pingWorkflow
    pingContext (4, 2) rfl [] pingState
  rw [hremote]
  refine ⟨rfl, rfl, ?_⟩
  intro hrefines
  have houtcome := hrefines.sameOutcome
  rw [hremote] at houtcome
  have htext := Except.ok.inj (SeenOutcome.status.inj houtcome)
  exact absurd htext (by decide)

end Walkoff.Analysis
