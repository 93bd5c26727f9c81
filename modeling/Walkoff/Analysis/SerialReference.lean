import Walkoff.Analysis.Frames
import Walkoff.Library.StableSort
import Walkoff.Library.Transition

/-!
# The reference run of a workflow

What a serial run is meant to do, without generator, flags or a loop: arrive at an action
and execute it; then try the branches that leave it by ascending priority, ties in list
order, each of them once, up to and including the first that has the action's status and
whose condition is absent or holds of the action's result; go on at that branch's
destination. The run stops where no branch qualifies or the destination is no action of
the workflow. Actions and conditions are arbitrary code: they act on the world.
-/

set_option autoImplicit false

namespace Walkoff.Analysis

open Walkoff.Model Walkoff.Program
open Walkoff.Library (Deterministic IsStableSort Run Stuck)

variable {σ : Type}

/-- Where a reference run is. -/
inductive Phase where
  /-- About to execute the action of an id. `arrived` is false where a resumed run starts. -/
  | arriving (id : UUID) (arguments : List Argument) (arrived : Bool)
  /-- The action has ended with a status, and these of its branches are left to try. -/
  | trying (action : Action) (status : String) (branches : List Branch)
  | stopped

/-- A reference run in the world, with the numbers of times its branches were tried. -/
structure Config (σ : Type) where
  phase : Phase
  counters : UUID → ℕ
  world : World σ

/-- The signals of an action's turn belong to the execution and to that action. -/
def originAt (ctx : Context) (action : Action) : Origin :=
  { ctx.origin with executingAction := some action }

/-- Arrive at an action and execute it. -/
def arriveAt (env : Env σ) (ctx : Context) (resume : Bool) (action : Action)
    (arguments : List Argument) (arrived : Bool) : M σ ActionReturn := do
  observe (.visited action.id arrived resume)
  performAction env (originAt ctx action) action arguments resume

section

variable (env : Env σ) (o : Origin)

/-- Trying a branch once: it is counted and, if it has the status, its condition is
evaluated on the result the accumulator holds for the action. -/
inductive Evaluates (action : Action) (status : String) (branch : Branch) (counter : ℕ)
    (w : World σ) : Bool → World σ → Prop where
  | mismatch {w' : World σ} (hstatus : branch.status ≠ some status)
    (hcount : countBranch o branch counter w = .ok () w') :
    Evaluates action status branch counter w false w'
  | condition {dataIn : PyVal} {holds : Bool} {w₁ w₂ w' : World σ}
    (hstatus : branch.status = some status) (hcount : countBranch o branch counter w = .ok () w₁)
    (hdata : (w₁.accumulators o.executionId).getItem (.uuid action.id) = some dataIn)
    (hcondition : branchCondition env o branch dataIn w₁ = .ok holds w₂)
    (hreport : reportBranch env o branch holds w₂ = .ok () w') :
    Evaluates action status branch counter w holds w'

variable {env o}

/-- `Branch.execute` on an action with a status is one evaluation of the branch. -/
theorem executeBranch_eq_ok {action : Action} {status : String} {branch : Branch}
    {counters : UUID → ℕ} {w w' : World σ} {destination : Option UUID} {counters' : UUID → ℕ} :
    executeBranch env o branch (some status) action counters w =
        .ok (destination, counters') w' ↔
      ∃ holds, Evaluates env o action status branch (counters branch.id + 1) w holds w' ∧
        destination = (if holds then some branch.destinationId else none) ∧
        counters' = Function.update counters branch.id (counters branch.id + 1) := by
  unfold executeBranch
  constructor
  · intro h
    obtain ⟨⟨⟩, w₁, hcount, h⟩ := Library.bind_eq_ok.mp h
    by_cases hstatus : some status = branch.status
    · simp only [hstatus, if_true] at h
      obtain ⟨accumulator, w₂, hget, h⟩ := Library.bind_eq_ok.mp h
      cases hget
      cases hdata : (w₁.accumulators o.executionId).getItem (.uuid action.id) with
      | none =>
        rw [hdata] at h
        cases h
      | some dataIn =>
        rw [hdata] at h
        obtain ⟨holds, w₂, hcondition, h⟩ := Library.bind_eq_ok.mp h
        obtain ⟨⟨⟩, w₃, hreport, h⟩ := Library.bind_eq_ok.mp h
        cases h
        exact ⟨holds, .condition hstatus.symm hcount hdata hcondition hreport, rfl, rfl⟩
    · simp only [hstatus, if_false] at h
      cases h
      exact ⟨false, .mismatch (Ne.symm hstatus) hcount, rfl, rfl⟩
  · rintro ⟨holds, hevaluates, rfl, rfl⟩
    cases hevaluates with
    | mismatch hstatus hcount =>
      refine Library.bind_eq_ok.mpr ⟨(), _, hcount, ?_⟩
      rw [if_neg (Ne.symm hstatus)]
      rfl
    | condition hstatus hcount hdata hcondition hreport =>
      refine Library.bind_eq_ok.mpr ⟨(), _, hcount, ?_⟩
      rw [if_pos hstatus.symm]
      refine Library.bind_eq_ok.mpr ⟨_, _, rfl, ?_⟩
      rw [hdata]
      refine Library.bind_eq_ok.mpr ⟨_, _, hcondition, ?_⟩
      exact Library.bind_eq_ok.mpr ⟨(), _, hreport, rfl⟩

/-- The outcome of trying a branch is determined. -/
theorem Evaluates.unique {action : Action} {status : String} {branch : Branch} {counter : ℕ}
    {w u v : World σ} {a b : Bool} (h : Evaluates env o action status branch counter w a u)
    (h' : Evaluates env o action status branch counter w b v) : a = b ∧ u = v := by
  cases h with
  | mismatch hstatus hcount =>
    cases h' with
    | mismatch _ hcount' =>
      rw [hcount] at hcount'
      cases hcount'
      exact ⟨rfl, rfl⟩
    | condition hstatus' => exact absurd hstatus' hstatus
  | condition hstatus hcount hdata hcondition hreport =>
    cases h' with
    | mismatch hstatus' => exact absurd hstatus hstatus'
    | condition _ hcount' hdata' hcondition' hreport' =>
      rw [hcount] at hcount'
      cases hcount'
      rw [hdata] at hdata'
      cases hdata'
      rw [hcondition] at hcondition'
      cases hcondition'
      rw [hreport] at hreport'
      cases hreport'
      exact ⟨rfl, rfl⟩

end

section

variable (env : Env σ) (ctx : Context) (resume : Bool)

/-- A step of the reference run, labelled with what it shows of actions and branches. -/
inductive SerialStep : Config σ → List Obs → Config σ → Prop where
  /-- The action is executed, and its branches are put in the order to try them in. -/
  | executed {id : UUID} {arguments : List Argument} {arrived : Bool} {n : UUID → ℕ}
    {w w' : World σ} {action : Action} {status : String} {order : List Branch}
    (haction : ctx.getActionById id = some action)
    (hrun : arriveAt env ctx resume action arguments arrived w = .ok (.status status) w')
    (horder : IsStableSort Branch.priority (ctx.workflow.getBranchesByActionId action.id) order) :
    SerialStep ⟨.arriving id arguments arrived, n, w⟩ [.executed action.id status]
      ⟨.trying action status order, n, w'⟩
  /-- The id is not the id of an action of the workflow. -/
  | missing {id : UUID} {arguments : List Argument} {arrived : Bool} {n : UUID → ℕ} {w : World σ}
    (haction : ctx.getActionById id = none) :
    SerialStep ⟨.arriving id arguments arrived, n, w⟩ [] ⟨.stopped, n, w⟩
  /-- The next branch does not qualify. -/
  | passed {action : Action} {status : String} {branch : Branch} {branches : List Branch}
    {n : UUID → ℕ} {w w' : World σ}
    (h : Evaluates env (originAt ctx action) action status branch (n branch.id + 1) w false w') :
    SerialStep ⟨.trying action status (branch :: branches), n, w⟩ [.branchExecuted branch.id]
      ⟨.trying action status branches, Function.update n branch.id (n branch.id + 1), w'⟩
  /-- The next branch qualifies: it is taken and the others are not tried. -/
  | taken {action : Action} {status : String} {branch : Branch} {branches : List Branch}
    {n : UUID → ℕ} {w w' : World σ}
    (h : Evaluates env (originAt ctx action) action status branch (n branch.id + 1) w true w') :
    SerialStep ⟨.trying action status (branch :: branches), n, w⟩
      [.branchExecuted branch.id, .branchTaken branch.id]
      ⟨.arriving branch.destinationId [] true, Function.update n branch.id (n branch.id + 1), w'⟩
  /-- No branch is left. -/
  | exhausted {action : Action} {status : String} {n : UUID → ℕ} {w : World σ} :
    SerialStep ⟨.trying action status [], n, w⟩ [] ⟨.stopped, n, w⟩

/-- **There is one reference run**: the order of the branches leaves nothing open. -/
theorem SerialStep.deterministic : Deterministic (SerialStep env ctx resume) := by
  intro c l d m e h h'
  cases h with
  | executed haction hrun horder =>
    cases h' with
    | executed haction' hrun' horder' =>
      rw [haction] at haction'
      cases haction'
      rw [hrun] at hrun'
      cases hrun'
      exact ⟨rfl, by rw [horder.unique horder']⟩
    | missing haction' =>
      rw [haction] at haction'
      cases haction'
  | missing haction =>
    cases h' with
    | executed haction' =>
      rw [haction] at haction'
      cases haction'
    | missing => exact ⟨rfl, rfl⟩
  | passed h =>
    cases h' with
    | passed h' => exact ⟨rfl, by rw [(h.unique h').2]⟩
    | taken h' => cases (h.unique h').1
  | taken h =>
    cases h' with
    | passed h' => cases (h.unique h').1
    | taken h' => exact ⟨rfl, by rw [(h.unique h').2]⟩
  | exhausted =>
    cases h' with
    | exhausted => exact ⟨rfl, rfl⟩

/-- From a stopped configuration there is no step. -/
theorem SerialStep.stuck_stopped (n : UUID → ℕ) (w : World σ) :
    Stuck (SerialStep env ctx resume) ⟨.stopped, n, w⟩ := by
  intro l c h
  cases h

end

/-! ## The trace of a run -/

/-- The entries of the log that belong to the serial trace. -/
def isSerial : Obs → Bool
  | .executed _ _ | .branchExecuted _ | .branchTaken _ => true
  | _ => false

/-- The executed actions and the branches tried and taken, in order. -/
def serialTrace (w : World σ) : List Obs :=
  w.log.filter isSerial

/-- The number of actions executed in a trace. -/
def actionCount (trace : List Obs) : ℕ :=
  trace.countP fun entry => match entry with
    | .executed _ _ => true
    | _ => false

section

variable (env : Env σ) (ctx : Context) (resume : Bool)

/-- The reference run that starts at an action. -/
def referenceStart (start : UUID) (arguments : List Argument) (w : World σ) : Config σ :=
  { phase := .arriving start arguments !resume, counters := ctx.counters, world := w }

/-- The new part of a world's trace. -/
def NewTrace (w w' : World σ) (trace : List Obs) : Prop :=
  serialTrace w' = serialTrace w ++ trace

/-- A run of the loop for some turns shows what the reference run shows: after `turns`
turns it has executed that many actions of it, it returns where the reference run stops,
and an exception breaks it off where the reference run cannot go on either. -/
inductive FollowsReference (turns : ℕ) (c : Config σ) : EStateM.Result Exn (World σ) Progress → Prop
  | running {ls : List (List Obs)} {d : Config σ} {vars : LoopVars} {w' : World σ}
    (hrun : Run (SerialStep env ctx resume) c ls d) (htrace : NewTrace c.world w' ls.flatten)
    (hcount : actionCount ls.flatten = turns) : FollowsReference turns c (.ok (.running vars) w')
  | returned {ls : List (List Obs)} {d : Config σ} {w' : World σ}
    (hrun : Run (SerialStep env ctx resume) c ls d) (htrace : NewTrace c.world w' ls.flatten)
    (hstopped : d.phase = .stopped) : FollowsReference turns c (.ok .returned w')
  | raised {ls : List (List Obs)} {d : Config σ} {e : Exn} {w' : World σ} {broken : List Obs}
    (hrun : Run (SerialStep env ctx resume) c ls d)
    (htrace : NewTrace c.world w' (ls.flatten ++ broken))
    (hstuck : Stuck (SerialStep env ctx resume) d)
    (hbroken : broken = [] ∨ ∃ action status branch branches,
      d.phase = .trying action status (branch :: branches) ∧
        broken = [.branchExecuted branch.id]) : FollowsReference turns c (.error e w')

end

end Walkoff.Analysis
