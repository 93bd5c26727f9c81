import Walkoff.Analysis.Frames
import Walkoff.Library.Views

/-!
# When the search for the next action raises

The search goes through the branches of the current action. It raises for two reasons: a
branch with the status of the action needs the result filed for it and there is none, or a
condition that is asked raises in the app's code. `verdict` is what the conditions of an
expression say, asked in turn as far as needed; it works on the state of the app code alone.
`SearchRaises` says of the branches, the accumulator and the app code whether the search
raises.
-/

set_option autoImplicit false

namespace Walkoff.Analysis

open Walkoff.Model Walkoff.Program
open Walkoff.Library (Tracks lift bind_of_ok bind_of_error bind_eq_error)

variable {σ : Type}

/-! ## What the conditions say -/

/-- Every member holds; none is asked after the first that does not. -/
def allHold : List (EStateM Exn σ Bool) → EStateM Exn σ Bool
  | [] => pure true
  | member :: members => do if ← member then allHold members else pure false

/-- Some member holds; none is asked after it. -/
def anyHolds : List (EStateM Exn σ Bool) → EStateM Exn σ Bool
  | [] => pure false
  | member :: members => do if ← member then pure true else anyHolds members

/-- One member holds, or one did before; none is asked after a second. -/
def oneHolds : Bool → List (EStateM Exn σ Bool) → EStateM Exn σ Bool
  | isOneFound, [] => pure isOneFound
  | isOneFound, member :: members => do
    if ← member then (if isOneFound then pure false else oneHolds true members)
    else oneHolds isOneFound members

/-- What an operator says of its members; it holds of none. -/
def groupHolds : Operator → List (EStateM Exn σ Bool) → EStateM Exn σ Bool
  | .and, members => allHold members
  | .or, members => if members.isEmpty then pure true else anyHolds members
  | .xor, members => if members.isEmpty then pure true else oneHolds false members

section

variable (env : Env σ) (accumulator : Accumulator) (dataIn : PyVal)

/-- The app's code for a condition. -/
def askCondition (condition : Condition) : EStateM Exn σ Bool := fun behaviour =>
  match env.condition condition dataIn accumulator behaviour with
  | (.ok result, behaviour) => .ok result behaviour
  | (.error e, behaviour) => .error e behaviour

mutual

/-- What an expression says: its conditions are asked first, then its child expressions. -/
def verdict : ConditionalExpression → EStateM Exn σ Bool
  | .mk _ operator isNegated childExpressions conditions => do
    let result ← groupHolds operator
      (conditions.map (askCondition env accumulator dataIn) ++ verdicts childExpressions)
    pure (if isNegated then !result else result)

/-- What each of a list of expressions says. -/
def verdicts : List ConditionalExpression → List (EStateM Exn σ Bool)
  | [] => []
  | e :: es => verdict e :: verdicts es

end

/-- What a branch says: without a condition it is taken. -/
def branchVerdict (branch : Branch) : EStateM Exn σ Bool :=
  match branch.condition with
  | none => pure true
  | some condition => verdict env accumulator dataIn condition

end

/-! ## The expressions of the worker -/

section

variable (env : Env σ) (o : Origin) (accumulator : Accumulator) (dataIn : PyVal)

/-- The worlds with this accumulator for the execution. -/
def HasAccumulator (w : World σ) : Prop :=
  w.accumulators o.executionId = accumulator

/-- Executing a condition does to the behaviours what asking it does, and answers the same. -/
theorem follows_executeCondition (condition : Condition) :
    Tracks (HasAccumulator o accumulator) World.behaviour
      (executeCondition env (getAccumulator o.executionId) condition dataIn)
      (askCondition env accumulator dataIn condition) := by
  intro w hw
  have hask : executeCondition env (getAccumulator o.executionId) condition dataIn w =
      behave (env.condition condition dataIn accumulator) w := by
    rw [← hw]
    rfl
  rw [hask]
  unfold behave askCondition
  rcases env.condition condition dataIn accumulator w.behaviour with ⟨e | result, behaviour⟩
  · exact .error hw
  · exact .ok hw

/-- Reporting an expression leaves the behaviours as they are. -/
theorem follows_reportExpression (id : UUID) (result : Bool) :
    Tracks (HasAccumulator o accumulator) World.behaviour
      (reportExpression env o id result : M σ Unit) (pure ()) := by
  intro w hw
  unfold reportExpression
  cases result with
  | true => exact .ok hw
  | false => exact .ok hw

variable {env o accumulator dataIn}

/-- A conjunction goes on with its child expressions. -/
theorem follows_allConditions {m : M σ Bool} {members : List (EStateM Exn σ Bool)}
    (hm : Tracks (HasAccumulator o accumulator) World.behaviour m (allHold members))
    (conditions : List Condition) :
    Tracks (HasAccumulator o accumulator) World.behaviour
      (allConditions env (getAccumulator o.executionId) dataIn conditions >>= fun result =>
        if result then m else pure false)
      (allHold (conditions.map (askCondition env accumulator dataIn) ++ members)) := by
  induction conditions with
  | nil => exact hm
  | cons condition conditions ih =>
    rw [allConditions, bind_assoc]
    refine Tracks.bind (follows_executeCondition env o accumulator dataIn condition) fun result => ?_
    cases result with
    | true => exact ih
    | false => exact .pure false

/-- A disjunction goes on with its child expressions. -/
theorem follows_anyCondition {m : M σ Bool} {members : List (EStateM Exn σ Bool)}
    (hm : Tracks (HasAccumulator o accumulator) World.behaviour m (anyHolds members))
    (conditions : List Condition) :
    Tracks (HasAccumulator o accumulator) World.behaviour
      (anyCondition env (getAccumulator o.executionId) dataIn conditions >>= fun result =>
        if result then pure true else m)
      (anyHolds (conditions.map (askCondition env accumulator dataIn) ++ members)) := by
  induction conditions with
  | nil => exact hm
  | cons condition conditions ih =>
    rw [anyCondition, bind_assoc]
    refine Tracks.bind (follows_executeCondition env o accumulator dataIn condition) fun result => ?_
    cases result with
    | true => exact .pure true
    | false => exact ih

/-- The flag of `_xor` is carried to the child expressions. -/
theorem follows_xorConditions {m : Bool → M σ Bool} {members : List (EStateM Exn σ Bool)}
    (hm : ∀ isOneFound, Tracks (HasAccumulator o accumulator) World.behaviour (m isOneFound)
      (oneHolds isOneFound members)) (isOneFound : Bool) (conditions : List Condition) :
    Tracks (HasAccumulator o accumulator) World.behaviour
      (xorConditions env (getAccumulator o.executionId) dataIn isOneFound conditions >>=
        fun result => match result with
          | none => pure false
          | some isOneFound => m isOneFound)
      (oneHolds isOneFound (conditions.map (askCondition env accumulator dataIn) ++ members)) := by
  induction conditions generalizing isOneFound with
  | nil => exact hm isOneFound
  | cons condition conditions ih =>
    rw [xorConditions, bind_assoc]
    refine Tracks.bind (follows_executeCondition env o accumulator dataIn condition) fun result => ?_
    cases result with
    | true =>
      cases isOneFound with
      | true => exact .pure false
      | false => exact ih true
    | false => exact ih isOneFound

/-- The members are none exactly if there are neither conditions nor child expressions. -/
theorem isEmpty_members (conditions : List Condition)
    (childExpressions : List ConditionalExpression) :
    (conditions.map (askCondition env accumulator dataIn) ++
        verdicts env accumulator dataIn childExpressions).isEmpty =
      (conditions.isEmpty && childExpressions.isEmpty) := by
  cases conditions with
  | cons condition conditions => rfl
  | nil => cases childExpressions <;> rfl

mutual

/-- **A worker's evaluation of an expression follows what it says.** -/
theorem follows_executeExpression : ∀ e : ConditionalExpression,
    Tracks (HasAccumulator o accumulator) World.behaviour
      (executeExpression env (getAccumulator o.executionId) (reportExpression env o) dataIn e)
      (verdict env accumulator dataIn e)
  | .mk id operator isNegated childExpressions conditions => by
    rw [executeExpression.eq_def, verdict]
    refine Tracks.bind ?_ fun result =>
      .bind_pure (follows_reportExpression env o accumulator id _) (.pure _)
    cases operator with
    | and => exact follows_allConditions (follows_allExpressions childExpressions) conditions
    | or =>
      simp only [groupHolds, isEmpty_members]
      split
      · exact .pure true
      · exact follows_anyCondition (follows_anyExpression childExpressions) conditions
    | xor =>
      simp only [groupHolds, isEmpty_members]
      split
      · exact .pure true
      · exact follows_xorConditions
          (fun isOneFound => follows_xorExpressions isOneFound childExpressions) false conditions

/-- The loop of `and` follows the verdicts of the children up to the first that fails. -/
theorem follows_allExpressions : ∀ es : List ConditionalExpression,
    Tracks (HasAccumulator o accumulator) World.behaviour
      (allExpressions env (getAccumulator o.executionId) (reportExpression env o) dataIn es)
      (allHold (verdicts env accumulator dataIn es))
  | [] => by
    rw [allExpressions, verdicts]
    exact .pure true
  | e :: es => by
    rw [allExpressions, verdicts]
    refine Tracks.bind (follows_executeExpression e) fun result => ?_
    cases result with
    | true => exact follows_allExpressions es
    | false => exact .pure false

/-- The loop of `or` follows the verdicts of the children up to the first that holds. -/
theorem follows_anyExpression : ∀ es : List ConditionalExpression,
    Tracks (HasAccumulator o accumulator) World.behaviour
      (anyExpression env (getAccumulator o.executionId) (reportExpression env o) dataIn es)
      (anyHolds (verdicts env accumulator dataIn es))
  | [] => by
    rw [anyExpression, verdicts]
    exact .pure false
  | e :: es => by
    rw [anyExpression, verdicts]
    refine Tracks.bind (follows_executeExpression e) fun result => ?_
    cases result with
    | true => exact .pure true
    | false => exact follows_anyExpression es

/-- The loop of `xor` follows the verdicts of the children up to a second that holds. -/
theorem follows_xorExpressions : ∀ (isOneFound : Bool) (es : List ConditionalExpression),
    Tracks (HasAccumulator o accumulator) World.behaviour
      (xorExpressions env (getAccumulator o.executionId) (reportExpression env o) dataIn
        isOneFound es)
      (oneHolds isOneFound (verdicts env accumulator dataIn es))
  | isOneFound, [] => by
    rw [xorExpressions, verdicts]
    exact .pure isOneFound
  | isOneFound, e :: es => by
    rw [xorExpressions, verdicts]
    refine Tracks.bind (follows_executeExpression e) fun result => ?_
    cases result with
    | true =>
      cases isOneFound with
      | true => exact .pure false
      | false => exact follows_xorExpressions true es
    | false => exact follows_xorExpressions isOneFound es

end

/-- The condition of a branch follows its verdict. -/
theorem follows_branchCondition (branch : Branch) :
    Tracks (HasAccumulator o accumulator) World.behaviour (branchCondition env o branch dataIn)
      (branchVerdict env accumulator dataIn branch) := by
  unfold branchCondition branchVerdict
  cases branch.condition with
  | none => exact .pure true
  | some condition => exact follows_executeExpression condition

/-- Reporting a branch leaves the behaviours as they are. -/
theorem follows_reportBranch (branch : Branch) (taken : Bool) :
    Tracks (HasAccumulator o accumulator) World.behaviour
      (reportBranch env o branch taken : M σ Unit) (pure ()) := by
  intro w hw
  unfold reportBranch
  cases taken with
  | true => exact .ok hw
  | false => exact .ok hw

end

/-! ## The branches of an action -/

/-- The accumulator once the number of calls of a branch is filed in it. -/
def counted (branch : Branch) (counter : ℕ) (accumulator : Accumulator) : Accumulator :=
  { accumulator with
    entries := Walkoff.Library.OrderedDict.set
      (Accumulator.formatKey accumulator.type (.uuid branch.id)) (.int counter) accumulator.entries }

/-- The counters once a branch is called. -/
def callCounted (branch : Branch) (counters : UUID → ℕ) : UUID → ℕ :=
  Function.update counters branch.id (counters branch.id + 1)

section

variable (env : Env σ) (status : Option String) (current : Action) (branch : Branch)
  (accumulator : Accumulator) (behaviour : σ)

/-- A branch that is called raises; the accumulator is the one in which the call is counted. -/
inductive BranchRaises : Prop where
  /-- No result is filed for the current action. -/
  | noResult (hstatus : status = branch.status)
    (hresult : accumulator.getItem (.uuid current.id) = none)
  /-- A condition that is asked raises. -/
  | condition {dataIn : PyVal} {e : Exn} {behaviour' : σ} (hstatus : status = branch.status)
    (hresult : accumulator.getItem (.uuid current.id) = some dataIn)
    (hraises : branchVerdict env accumulator dataIn branch behaviour = .error e behaviour')

/-- A branch is called and not taken, and leaves the app code in this state. -/
inductive BranchPassed : σ → Prop where
  | otherStatus (hstatus : status ≠ branch.status) : BranchPassed behaviour
  | notTaken {dataIn : PyVal} {behaviour' : σ} (hstatus : status = branch.status)
    (hresult : accumulator.getItem (.uuid current.id) = some dataIn)
    (hnot : branchVerdict env accumulator dataIn branch behaviour = .ok false behaviour') :
    BranchPassed behaviour'

end

/-- The search raises: the first branch does, or it is passed and the search through the others
raises. -/
inductive SearchRaises (env : Env σ) (status : Option String) (current : Action) :
    List Branch → (UUID → ℕ) → Accumulator → σ → Prop where
  | here {branch : Branch} {branches : List Branch} {counters : UUID → ℕ}
    {accumulator : Accumulator} {behaviour : σ}
    (hraises : BranchRaises env status current branch
      (counted branch (counters branch.id + 1) accumulator) behaviour) :
    SearchRaises env status current (branch :: branches) counters accumulator behaviour
  | later {branch : Branch} {branches : List Branch} {counters : UUID → ℕ}
    {accumulator : Accumulator} {behaviour behaviour' : σ}
    (hpassed : BranchPassed env status current branch
      (counted branch (counters branch.id + 1) accumulator) behaviour behaviour')
    (hlater : SearchRaises env status current branches (callCounted branch counters)
      (counted branch (counters branch.id + 1) accumulator) behaviour') :
    SearchRaises env status current (branch :: branches) counters accumulator behaviour

section

variable {env : Env σ} {o : Origin} {status : Option String} {current : Action} {branch : Branch}
  {accumulator : Accumulator} {behaviour behaviour' : σ}

/-- A branch that is passed does not raise. -/
theorem BranchPassed.not_raises
    (h : BranchPassed env status current branch accumulator behaviour behaviour') :
    ¬ BranchRaises env status current branch accumulator behaviour := by
  intro hraises
  cases h with
  | otherStatus hstatus =>
    cases hraises with
    | noResult hstatus' => exact hstatus hstatus'
    | condition hstatus' => exact hstatus hstatus'
  | notTaken _ hresult hnot =>
    cases hraises with
    | noResult _ hresult' =>
      rw [hresult] at hresult'
      cases hresult'
    | condition _ hresult' hraises =>
      rw [hresult] at hresult'
      cases hresult'
      rw [hnot] at hraises
      cases hraises

/-- A passed branch leaves one state of the behaviours. -/
theorem BranchPassed.unique {behaviour'' : σ}
    (h : BranchPassed env status current branch accumulator behaviour behaviour')
    (h' : BranchPassed env status current branch accumulator behaviour behaviour'') :
    behaviour' = behaviour'' := by
  cases h with
  | otherStatus hstatus =>
    cases h' with
    | otherStatus _ => rfl
    | notTaken hstatus' => exact absurd hstatus' hstatus
  | notTaken hstatus hresult hnot =>
    cases h' with
    | otherStatus hstatus' => exact absurd hstatus hstatus'
    | notTaken _ hresult' hnot' =>
      rw [hresult] at hresult'
      cases hresult'
      rw [hnot] at hnot'
      cases hnot'
      rfl

/-- A branch whose conditions hold is taken. -/
theorem not_passed_of_taken {dataIn : PyVal} (hstatus : status = branch.status)
    (hresult : accumulator.getItem (.uuid current.id) = some dataIn)
    (htaken : branchVerdict env accumulator dataIn branch behaviour = .ok true behaviour') :
    ¬ BranchRaises env status current branch accumulator behaviour ∧
      ∀ behaviour'', ¬ BranchPassed env status current branch accumulator behaviour behaviour'' := by
  constructor
  · intro hraises
    cases hraises with
    | noResult _ hresult' =>
      rw [hresult] at hresult'
      cases hresult'
    | condition _ hresult' hraises =>
      rw [hresult] at hresult'
      cases hresult'
      rw [htaken] at hraises
      cases hraises
  · intro behaviour'' hpassed
    cases hpassed with
    | otherStatus hstatus' => exact hstatus' hstatus
    | notTaken _ hresult' hnot =>
      rw [hresult] at hresult'
      cases hresult'
      rw [htaken] at hnot
      cases hnot

/-- A number can be filed in either accumulator. -/
theorem setItem_counter (branch : Branch) (counter : ℕ) (accumulator : Accumulator) :
    accumulator.setItem (.uuid branch.id) (.int counter) =
      .ok (counted branch counter accumulator) := by
  unfold Accumulator.setItem
  rw [if_neg (by simp [PyVal.picklable])]
  rfl

/-- The call of a branch is always counted. -/
theorem countBranch_eq (branch : Branch) (counter : ℕ) (w : World σ) :
    ∃ w', countBranch o branch counter w = .ok () w' ∧ w'.behaviour = w.behaviour ∧
      HasAccumulator o (counted branch counter (w.accumulators o.executionId)) w' := by
  have hcount : countBranch o branch counter w =
      (lift ((w.accumulators o.executionId).setItem (.uuid branch.id) (.int counter)) >>=
        putAccumulator o.executionId) (w.logged (.branchExecuted branch.id)) := rfl
  rw [hcount, setItem_counter]
  refine ⟨_, rfl, rfl, ?_⟩
  unfold HasAccumulator
  dsimp only
  rw [Function.update_self]

/-- The end of `Branch.execute` at a branch with the status of the action, on the result filed. -/
theorem reported_cases (counters : UUID → ℕ) {dataIn : PyVal} {w : World σ}
    (hstatus : status = branch.status) (haccumulator : HasAccumulator o accumulator w)
    (hresult : accumulator.getItem (.uuid current.id) = some dataIn) :
    let rest : M σ (Option UUID × (UUID → ℕ)) := do
      let taken ← branchCondition env o branch dataIn
      reportBranch env o branch taken
      pure (if taken then some branch.destinationId else none, counters)
    (BranchRaises env status current branch accumulator w.behaviour ∧
        ∃ e w', rest w = .error e w') ∨
      (∃ w', BranchPassed env status current branch accumulator w.behaviour w'.behaviour ∧
        rest w = .ok (none, counters) w' ∧ HasAccumulator o accumulator w') ∨
      ((¬ BranchRaises env status current branch accumulator w.behaviour ∧
        ∀ behaviour', ¬ BranchPassed env status current branch accumulator w.behaviour behaviour') ∧
        ∃ w', rest w = .ok (some branch.destinationId, counters) w') := by
  intro rest
  have hfollows : Tracks (HasAccumulator o accumulator) World.behaviour
      (branchCondition env o branch dataIn) (branchVerdict env accumulator dataIn branch) :=
    follows_branchCondition branch
  cases hcondition : branchCondition env o branch dataIn w with
  | error e w₁ =>
    obtain ⟨e', behaviour', hraises⟩ := (hfollows.raises_iff haccumulator).mp ⟨e, w₁, hcondition⟩
    exact .inl ⟨.condition hstatus hresult hraises, e, w₁, bind_of_error hcondition⟩
  | ok taken w₁ =>
    obtain ⟨hverdict, haccumulator₁⟩ := hfollows.of_ok haccumulator hcondition
    have hreported : Tracks (HasAccumulator o accumulator) World.behaviour
        (reportBranch env o branch taken) (pure ()) :=
      follows_reportBranch branch taken
    cases hreport : reportBranch env o branch taken w₁ with
    | error e w₂ =>
      obtain ⟨_, _, h⟩ := (hreported.raises_iff haccumulator₁).mp ⟨e, w₂, hreport⟩
      cases h
    | ok u w₂ =>
      obtain ⟨hpure, haccumulator₂⟩ := hreported.of_ok haccumulator₁ hreport
      have hbehaviour : w₁.behaviour = w₂.behaviour := (EStateM.Result.ok.inj hpure).2
      rw [hbehaviour] at hverdict
      have hrest : rest w = .ok (if taken then some branch.destinationId else none, counters) w₂ :=
        (bind_of_ok hcondition).trans (bind_of_ok hreport)
      cases taken with
      | true => exact .inr (.inr ⟨not_passed_of_taken hstatus hresult hverdict, w₂, hrest⟩)
      | false =>
        exact .inr (.inl ⟨w₂, .notTaken hstatus hresult hverdict, hrest, haccumulator₂⟩)

/-- **The call of a branch** raises, passes the branch or takes it. -/
theorem executeBranch_cases (env : Env σ) (o : Origin) (status : Option String) (current : Action)
    (branch : Branch) (counters : UUID → ℕ) (w : World σ) :
    let accumulator := counted branch (counters branch.id + 1) (w.accumulators o.executionId)
    (BranchRaises env status current branch accumulator w.behaviour ∧
        ∃ e w', executeBranch env o branch status current counters w = .error e w') ∨
      (∃ w', BranchPassed env status current branch accumulator w.behaviour w'.behaviour ∧
        executeBranch env o branch status current counters w =
          .ok (none, callCounted branch counters) w' ∧ HasAccumulator o accumulator w') ∨
      ((¬ BranchRaises env status current branch accumulator w.behaviour ∧
        ∀ behaviour', ¬ BranchPassed env status current branch accumulator w.behaviour behaviour') ∧
        ∃ w', executeBranch env o branch status current counters w =
          .ok (some branch.destinationId, callCounted branch counters) w') := by
  intro accumulator
  obtain ⟨w₁, hcount, hbehaviour, haccumulator⟩ :=
    countBranch_eq (o := o) branch (counters branch.id + 1) w
  have haccumulator' : w₁.accumulators o.executionId = accumulator := haccumulator
  unfold executeBranch
  rw [bind_of_ok hcount, ← hbehaviour]
  by_cases hstatus : status = branch.status
  case neg =>
    rw [if_neg hstatus]
    exact .inr (.inl ⟨w₁, .otherStatus hstatus, rfl, haccumulator⟩)
  case pos =>
    rw [if_pos hstatus, bind_of_ok (rfl : getAccumulator o.executionId w₁ = .ok _ w₁), haccumulator']
    cases hresult : accumulator.getItem (.uuid current.id) with
    | none => exact .inl ⟨.noResult hstatus hresult, _, _, rfl⟩
    | some dataIn =>
      exact reported_cases (callCounted branch counters) hstatus haccumulator hresult

/-- **The search through the branches raises exactly if `SearchRaises` says so.** -/
theorem tryBranches_raises_iff (env : Env σ) (o : Origin) (status : Option String)
    (current : Action) (branches : List Branch) (counters : UUID → ℕ) (w : World σ) :
    (∃ e w', tryBranches env o status current counters branches w = .error e w') ↔
      SearchRaises env status current branches counters (w.accumulators o.executionId)
        w.behaviour := by
  induction branches generalizing counters w with
  | nil =>
    constructor
    · rintro ⟨_, _, h⟩
      cases h
    · intro h
      cases h
  | cons branch branches ih =>
    rw [tryBranches]
    rcases executeBranch_cases env o status current branch counters w with
      ⟨hraises, e, w₁, hexecute⟩ | ⟨w₁, hpassed, hexecute, haccumulator⟩ |
        ⟨⟨hraises, hpassed⟩, w₁, hexecute⟩
    · rw [bind_of_error hexecute]
      exact ⟨fun _ => .here hraises, fun _ => ⟨_, _, rfl⟩⟩
    · rw [bind_of_ok hexecute]
      refine (ih _ _).trans ?_
      rw [haccumulator]
      refine ⟨.later hpassed, fun h => ?_⟩
      cases h with
      | here hraises => exact absurd hraises hpassed.not_raises
      | later hpassed' hlater => exact hpassed'.unique hpassed ▸ hlater
    · rw [bind_of_ok hexecute]
      constructor
      · rintro ⟨_, _, h⟩
        cases h
      · intro h
        cases h with
        | here hraises' => exact absurd hraises' hraises
        | later hpassed' _ => exact absurd hpassed' (hpassed _)

end

/-! ## The generator -/

/-- Asking the generator for the next action raises: it is suspended at an action whose branches
cannot be searched. -/
inductive NextRaises (env : Env σ) (ctx : Context) (w : World σ) : ActionIter → Prop where
  /-- No action was reached before; a generator of the loop is not suspended then. -/
  | noAction (hbranches : ctx.hasBranches = true) (haction : ctx.executingAction = none) :
    NextRaises env ctx w .suspended
  | search {current : Action} (hbranches : ctx.hasBranches = true)
    (haction : ctx.executingAction = some current)
    (hsearch : SearchRaises env ctx.lastStatus current (ctx.getBranchesByActionId current.id)
      ctx.counters (w.accumulators ctx.executionId) w.behaviour) : NextRaises env ctx w .suspended

/-- The search of the next action raises exactly if the reference says that finding it does. -/
theorem getBranch_raises_iff (env : Env σ) (ctx : Context) (w : World σ) :
    (∃ e w', getBranch env ctx w = .error e w') ↔ NextRaises env ctx w .suspended := by
  unfold getBranch
  cases hbranches : ctx.hasBranches with
  | false =>
    refine ⟨fun ⟨_, _, h⟩ => (by cases h), fun h => ?_⟩
    cases h with
    | noAction hbranches' => rw [hbranches] at hbranches'; cases hbranches'
    | search hbranches' => rw [hbranches] at hbranches'; cases hbranches'
  | true =>
    rw [if_pos rfl]
    cases haction : ctx.executingAction with
    | none => exact ⟨fun _ => .noAction hbranches haction, fun _ => ⟨_, _, rfl⟩⟩
    | some current =>
      have hsearch := tryBranches_raises_iff env ctx.origin ctx.lastStatus current
        (ctx.getBranchesByActionId current.id) ctx.counters w
      constructor
      · rintro ⟨e, w', h⟩
        refine .search hbranches haction (hsearch.mp ?_)
        rcases bind_eq_error.mp h with hraised | ⟨_, _, _, hpure⟩
        · exact ⟨e, w', hraised⟩
        · cases hpure
      · intro h
        cases h with
        | noAction _ haction' =>
          rw [haction] at haction'
          cases haction'
        | search _ haction' hraises =>
          rw [haction] at haction'
          cases haction'
          obtain ⟨e, w', hraised⟩ := hsearch.mpr hraises
          exact ⟨e, w', bind_of_error hraised⟩

/-- **Asking the generator raises exactly if the branches cannot be searched.** -/
theorem next_raises_iff (env : Env σ) (ctx : Context) (actions : ActionIter) (w : World σ) :
    (∃ e w', actions.next env ctx w = .error e w') ↔ NextRaises env ctx w actions := by
  cases actions with
  | fresh start => exact ⟨fun ⟨_, _, h⟩ => (by cases h), fun h => (by cases h)⟩
  | finished => exact ⟨fun ⟨_, _, h⟩ => (by cases h), fun h => (by cases h)⟩
  | suspended =>
    rw [← getBranch_raises_iff]
    constructor
    · rintro ⟨e, w', h⟩
      rcases bind_eq_error.mp h with hraised | ⟨_, _, _, hpure⟩
      · exact ⟨e, w', hraised⟩
      · cases hpure
    · rintro ⟨e, w', hraised⟩
      exact ⟨e, w', bind_of_error hraised⟩

end Walkoff.Analysis
