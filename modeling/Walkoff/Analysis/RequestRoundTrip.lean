import Walkoff.Program.QueueEndpoint

/-!
# The round trip of a workflow request

Every field of an argument travels as a text. `set_argument_proto` turns a value that is no
text into JSON, and nothing in `receive_workflows` turns it back; a selection is always a
list, so it never comes back. Everything else of a request survives the trip.
-/

set_option autoImplicit false

namespace Walkoff.Analysis

open Walkoff.Model Walkoff.Program
open Walkoff.Library (Except.bind_eq_ok Except.mapM_cons_ok)

/-- A received argument stands for the one that was sent: the same fields, and the same
value on every accumulator. -/
structure SameArgument (received sent : Argument) : Prop where
  name : received.name = sent.name
  value : received.value = sent.value
  reference : received.reference = sent.reference
  selection : received.selection = sent.selection
  getValue : ∀ accumulator, received.getValue accumulator = sent.getValue accumulator

/-- A received variable stands for the one that was sent. -/
structure SameVariable (received : ReceivedVariable) (sent : EnvironmentVariable) : Prop where
  id : received.id = some sent.id
  value : received.value = sent.value

/-- A request as the endpoint hands it to the executor. -/
structure SentRequest where
  workflowId : UUID
  executionId : UUID
  start : Option Key
  arguments : List ArgumentData
  resume : Bool
  environmentVariables : List VariableData
  user : Option String

namespace SentRequest

/-- The message put on the queue. -/
def message (sent : SentRequest) : Except Exn ExecuteWorkflowMessage :=
  createWorkflowRequestMessage (.uuid sent.workflowId) sent.executionId.str sent.start
    (sent.arguments.map ArgumentData.argument) sent.resume
    (sent.environmentVariables.map VariableData.environmentVariable) sent.user

/-- What a worker receives is what was sent; no start and no user read as empty texts. -/
structure Same (sent : SentRequest) (received : ReceivedRequest) : Prop where
  workflowId : received.workflowId = sent.workflowId.str
  executionId : received.workflowExecutionId = sent.executionId.str
  start : received.start = (sent.start.map Key.str).getD ""
  resume : received.resume = sent.resume
  user : received.user = sent.user.getD ""
  arguments : List.Forall₂ SameArgument received.startArguments
    (sent.arguments.map ArgumentData.argument)
  environmentVariables : List.Forall₂ SameVariable received.environmentVariables
    (sent.environmentVariables.map VariableData.environmentVariable)

/-- Neither putting the request on the queue nor receiving it raises, and the worker gets
what was sent. -/
def RoundTrips (sent : SentRequest) : Prop :=
  ∃ message received, sent.message = .ok message ∧ receiveWorkflow message = .ok received ∧
    sent.Same received

end SentRequest

/-- An argument whose fields are texts already: it has no selection, and its value, if it
has one, is a text. -/
def Textual (arg : ArgumentData) : Prop :=
  (arg.value = .none ∨ ∃ s, arg.value = .str s) ∧ arg.selection = none

/-! ## One argument -/

/-- A field that is read back is absent or a text. -/
theorem textArgument_cases (field : Option String) :
    textArgument field = .none ∨ ∃ s, textArgument field = .str s := by
  cases field with
  | none => exact .inl rfl
  | some s => exact .inr ⟨s, rfl⟩

/-- Nothing and a text are put into their field as they are. -/
theorem protoField_text {v : PyVal} (h : v = .none ∨ ∃ s, v = .str s) :
    ∃ field, protoField v = .ok field ∧ textArgument field = v := by
  rcases h with rfl | ⟨s, rfl⟩
  · exact ⟨none, rfl, rfl⟩
  · exact ⟨some s, rfl, rfl⟩

/-- The reference of an argument from a request is a text, so it survives the trip. -/
theorem reference_text (arg : ArgumentData) :
    (arg.argument.reference.map Key.str).map Key.text = arg.argument.reference := by
  unfold ArgumentData.argument Argument.init
  dsimp only
  split
  · rfl
  · cases arg.reference <;> rfl

/-- Building an argument again from its own fields gives the same fields. -/
theorem init_argument (arg : ArgumentData) :
    Argument.init arg.argument.name arg.argument.value arg.argument.reference
      arg.argument.selection = arg.argument := by
  unfold ArgumentData.argument Argument.init
  dsimp only
  cases hv : arg.value.isNone with
  | true => simp
  | false =>
    cases hr : Argument.referenceTruthy (arg.reference.map Key.text) with
    | true => simp [Argument.referenceTruthy]
    | false => simp [hr]

/-- **An argument whose fields are texts comes back as it was.** -/
theorem receiveArgument_of_textual {arg : ArgumentData} (h : Textual arg) :
    ∃ p, setArgumentProto arg.argument = .ok p ∧ receiveArgument p = .ok arg.argument := by
  obtain ⟨value, hvalue, hv⟩ := protoField_text h.1
  have hselection : protoField arg.argument.selection = .ok none := by
    simp [ArgumentData.argument, Argument.init, h.2, protoField, pure, Except.pure]
  have hselnone : arg.argument.selection = .none := by
    simp [ArgumentData.argument, Argument.init, h.2]
  refine ⟨⟨some arg.argument.name, value, arg.argument.reference.map Key.str, none⟩, ?_, ?_⟩
  · have hvalue' : protoField arg.argument.value = .ok value := hvalue
    simp [setArgumentProto, hvalue', hselection, bind, Except.bind, pure, Except.pure]
  · have hback : textArgument value = arg.argument.value := hv
    have hinit := init_argument arg
    rw [hselnone] at hinit
    have hnone : textArgument none = .none := rfl
    simp only [receiveArgument, reference_text, hback, hnone, hinit, pure, Except.pure]

/-- **An argument that comes back as it was has only texts in its fields**, whatever it was
sent as. -/
theorem textual_of_sameArgument {arg : ArgumentData} {p : ArgumentProto} {received : Argument}
    (hp : receiveArgument p = .ok received) (h : SameArgument received arg.argument) :
    Textual arg := by
  have hfields : received.value = textArgument p.value ∧
      received.selection = textArgument p.selection := by
    unfold receiveArgument at hp
    split at hp
    · cases hp
    · cases hp
      exact ⟨rfl, rfl⟩
  constructor
  · have hvalue : arg.value = textArgument p.value := h.value.symm.trans hfields.1
    rw [hvalue]
    exact textArgument_cases p.value
  · have hselection : (arg.selection.map PyVal.list).getD .none = textArgument p.selection :=
      h.selection.symm.trans hfields.2
    cases hs : arg.selection with
    | none => rfl
    | some xs =>
      rw [hs] at hselection
      rcases textArgument_cases p.selection with hn | ⟨s, hn⟩ <;>
        simp [hn] at hselection

/-! ## The lists of a request -/

/-- An argument is the same as itself. -/
theorem sameArgument_refl (argument : Argument) : SameArgument argument argument :=
  ⟨rfl, rfl, rfl, rfl, fun _ => rfl⟩

/-- The arguments of a request come back as they were if their fields are texts. -/
theorem receiveArguments_of_textual {args : List ArgumentData} (h : ∀ arg ∈ args, Textual arg) :
    ∃ ps, addArgumentsToProto (args.map ArgumentData.argument) = .ok ps ∧
      ps.mapM receiveArgument = .ok (args.map ArgumentData.argument) := by
  induction args with
  | nil => exact ⟨[], rfl, rfl⟩
  | cons arg args ih =>
    obtain ⟨ps, hps, hback⟩ := ih fun a ha => h a (List.mem_cons_of_mem _ ha)
    obtain ⟨p, hp, hpback⟩ := receiveArgument_of_textual (h arg List.mem_cons_self)
    exact ⟨p :: ps, Except.mapM_cons_ok hp hps, Except.mapM_cons_ok hpback hback⟩

/-- Arguments that come back as they were have only texts in their fields. -/
theorem textual_of_sameArguments {args : List ArgumentData} {ps : List ArgumentProto}
    {received : List Argument} (hps : ps.mapM receiveArgument = .ok received)
    (h : List.Forall₂ SameArgument received (args.map ArgumentData.argument)) :
    ∀ arg ∈ args, Textual arg := by
  induction args generalizing ps received with
  | nil => simp
  | cons arg args ih =>
    cases h with
    | cons hsame hrest =>
      cases ps with
      | nil => cases hps
      | cons p ps =>
        rw [List.mapM_cons] at hps
        obtain ⟨a, ha, hps⟩ := Except.bind_eq_ok.mp hps
        obtain ⟨as, has, hps⟩ := Except.bind_eq_ok.mp hps
        cases hps
        intro b hb
        rcases List.mem_cons.mp hb with rfl | hb
        · exact textual_of_sameArgument ha hsame
        · exact ih has hrest b hb

/-- Environment variables always survive the trip: their values are texts. -/
theorem receiveEnvVars (vars : List VariableData) :
    ∃ ps, addEnvVarsToProto (vars.map VariableData.environmentVariable) = .ok ps ∧
      ps.mapM receiveEnvVar =
        .ok (vars.map fun v => { id := some v.id, value := .str v.value }) := by
  induction vars with
  | nil => exact ⟨[], rfl, rfl⟩
  | cons v vars ih =>
    obtain ⟨ps, hps, hback⟩ := ih
    have hid := nonEmpty_str v.id
    have hv : receiveEnvVar ⟨some v.id.str, some v.value⟩ =
        .ok { id := some v.id, value := .str v.value } := by
      simp [receiveEnvVar, hid, UUID.parse_str, pure, Except.pure]
    exact ⟨⟨some v.id.str, some v.value⟩ :: ps, Except.mapM_cons_ok rfl hps,
      Except.mapM_cons_ok hv hback⟩

/-- The environment variables are received with their ids and values. -/
theorem sameVariables (vars : List VariableData) :
    List.Forall₂ SameVariable
      (vars.map fun v => ({ id := some v.id, value := .str v.value } : ReceivedVariable))
      (vars.map VariableData.environmentVariable) := by
  induction vars with
  | nil => exact .nil
  | cons v vars ih => exact .cons ⟨rfl, rfl⟩ ih

/-! ## The request -/

/-- A message whose arguments and variables are received is received. -/
theorem receiveWorkflow_of_ok {message : ExecuteWorkflowMessage} {arguments : List Argument}
    {vars : List ReceivedVariable}
    (harguments : message.arguments.mapM receiveArgument = .ok arguments)
    (hvariables : message.environmentVariables.mapM receiveEnvVar = .ok vars) :
    receiveWorkflow message = .ok
      { workflowId := message.workflowId, workflowExecutionId := message.workflowExecutionId
        start := message.start.getD "", startArguments := arguments, resume := message.resume
        environmentVariables := vars, user := message.user.getD "" } := by
  simp only [receiveWorkflow, harguments, hvariables, bind, Except.bind, pure, Except.pure]

/-- A request whose arguments are texts comes back as it was. -/
theorem roundTrips_of_textual {sent : SentRequest} (h : ∀ arg ∈ sent.arguments, Textual arg) :
    sent.RoundTrips := by
  obtain ⟨ps, hps, hargs⟩ := receiveArguments_of_textual h
  obtain ⟨vs, hvs, hvars⟩ := receiveEnvVars sent.environmentVariables
  have hmessage : sent.message = .ok
      { workflowId := sent.workflowId.str, workflowExecutionId := sent.executionId.str
        start := nonEmpty (sent.start.map Key.str), arguments := ps, resume := sent.resume
        environmentVariables := vs, user := nonEmpty sent.user } := by
    simp [SentRequest.message, createWorkflowRequestMessage, hps, hvs, Key.str, bind, Except.bind,
      pure, Except.pure]
  exact ⟨_, _, hmessage, receiveWorkflow_of_ok hargs hvars,
    { workflowId := rfl, executionId := rfl, start := nonEmpty_getD _, resume := rfl
      user := nonEmpty_getD _
      arguments := List.forall₂_same.mpr fun a _ => sameArgument_refl a
      environmentVariables := sameVariables _ }⟩

/-- A request that comes back as it was has only texts in its arguments. -/
theorem textual_of_roundTrips {sent : SentRequest} (h : sent.RoundTrips) :
    ∀ arg ∈ sent.arguments, Textual arg := by
  obtain ⟨message, received, -, hreceived, hsame⟩ := h
  obtain ⟨arguments, harguments, hreceived⟩ := Except.bind_eq_ok.mp hreceived
  obtain ⟨vars, -, hreceived⟩ := Except.bind_eq_ok.mp hreceived
  cases hreceived
  exact textual_of_sameArguments harguments hsame.arguments

/-- **A workflow request survives the queue exactly if its start arguments are texts**: none
of them carries a selection, and every value is absent or a text. -/
theorem workflowRequest_roundTrips_iff (sent : SentRequest) :
    sent.RoundTrips ↔ ∀ arg ∈ sent.arguments, Textual arg :=
  ⟨textual_of_roundTrips, roundTrips_of_textual⟩

/-- The request to run the workflow 1 with the argument `count` set to the number 5, which
the endpoint accepts: the worker gets the text `5`. -/
theorem workflowRequest_number_lost :
    (argumentObjects [⟨"count", .int 5, none, none⟩]).isOk ∧
    ¬ SentRequest.RoundTrips
      { workflowId := 1, executionId := 2, start := none
        arguments := [⟨"count", .int 5, none, none⟩], resume := false
        environmentVariables := [], user := none } := by
  refine ⟨rfl, fun h => ?_⟩
  have htext := textual_of_roundTrips h ⟨"count", .int 5, none, none⟩ List.mem_cons_self
  rcases htext.1 with hvalue | ⟨s, hvalue⟩ <;> cases hvalue

end Walkoff.Analysis
