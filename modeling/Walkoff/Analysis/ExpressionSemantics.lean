import Walkoff.Analysis.Samples

/-!
# What a conditional expression says

`value` gives the meaning of a conditional expression over the outcomes of its conditions:
a group without members is true, `and` and `or` are conjunction and disjunction of all the
members, `xor` holds when exactly one member does, and the negation of a node comes last.
It has no evaluation order. `ConditionalExpression.execute` stops early in each of its
three loops and carries the flag of `_xor` from the conditions to the child expressions;
its result is this value, in a worker as in the controller, and the same for every order
of the members.
-/

set_option autoImplicit false

namespace Walkoff.Analysis

open Walkoff.Model Walkoff.Program
open Walkoff.Library (Yields)

/-! ## The meaning -/

/-- What an operator says of the values of the members of a group. -/
def combine : Operator → List Bool → Bool
  | .and, members => members.all id
  | .or, members => members.any id
  | .xor, members => members.count true == 1

mutual

/-- The meaning of an expression over the outcomes of its conditions. -/
def value (outcome : Condition → Bool) : ConditionalExpression → Bool
  | .mk _ operator isNegated childExpressions conditions =>
    let members := conditions.map outcome ++ values outcome childExpressions
    let combined := members.isEmpty || combine operator members
    if isNegated then !combined else combined

/-- The meanings of a list of expressions. -/
def values (outcome : Condition → Bool) : List ConditionalExpression → List Bool
  | [] => []
  | e :: es => value outcome e :: values outcome es

end

mutual

/-- The conditions anywhere in an expression. -/
def conditionsOf : ConditionalExpression → List Condition
  | .mk _ _ _ childExpressions conditions => conditions ++ conditionsOfAll childExpressions

/-- The conditions anywhere in a list of expressions. -/
def conditionsOfAll : List ConditionalExpression → List Condition
  | [] => []
  | e :: es => conditionsOf e ++ conditionsOfAll es

end

/-- The two expressions differ in the order of the members of their nodes. -/
inductive Rearranged : ConditionalExpression → ConditionalExpression → Prop where
  | refl (e : ConditionalExpression) : Rearranged e e
  | trans {e f g : ConditionalExpression} (hef : Rearranged e f) (hfg : Rearranged f g) :
      Rearranged e g
  | conditions {id : UUID} {operator : Operator} {isNegated : Bool}
      {childExpressions : List ConditionalExpression} {conditions conditions' : List Condition}
      (h : conditions.Perm conditions') :
      Rearranged (.mk id operator isNegated childExpressions conditions)
        (.mk id operator isNegated childExpressions conditions')
  | childExpressions {id : UUID} {operator : Operator} {isNegated : Bool}
      {childExpressions childExpressions' : List ConditionalExpression}
      {conditions : List Condition} (h : childExpressions.Perm childExpressions') :
      Rearranged (.mk id operator isNegated childExpressions conditions)
        (.mk id operator isNegated childExpressions' conditions)
  | inside {id : UUID} {operator : Operator} {isNegated : Bool}
      {before after : List ConditionalExpression} {conditions : List Condition}
      {e f : ConditionalExpression} (h : Rearranged e f) :
      Rearranged (.mk id operator isNegated (before ++ e :: after) conditions)
        (.mk id operator isNegated (before ++ f :: after) conditions)

/-- An operator does not see the order of its members. -/
theorem combine_perm {members members' : List Bool} (h : members.Perm members')
    (operator : Operator) : combine operator members = combine operator members' := by
  cases operator with
  | and => exact h.all_eq
  | or => exact h.any_eq
  | xor =>
    simp only [combine, h.count_eq]

/-- The values of expressions are taken one by one. -/
theorem values_eq_map (outcome : Condition → Bool) (es : List ConditionalExpression) :
    values outcome es = es.map (value outcome) := by
  induction es with
  | nil => simp [values]
  | cons e es ih => simp [values, ih]

/-- The conditions of expressions are collected one by one. -/
theorem conditionsOfAll_eq_flatMap (es : List ConditionalExpression) :
    conditionsOfAll es = es.flatMap conditionsOf := by
  induction es with
  | nil => simp [conditionsOfAll]
  | cons e es ih => simp [conditionsOfAll, ih]

/-- The value of a node depends on the values of its members in any order. -/
theorem value_congr {outcome : Condition → Bool} {id : UUID} {operator : Operator}
    {isNegated : Bool} {childExpressions childExpressions' : List ConditionalExpression}
    {conditions conditions' : List Condition}
    (h : (conditions.map outcome ++ values outcome childExpressions).Perm
      (conditions'.map outcome ++ values outcome childExpressions')) :
    value outcome (.mk id operator isNegated childExpressions conditions) =
      value outcome (.mk id operator isNegated childExpressions' conditions') := by
  rw [value, value, combine_perm h operator, h.isEmpty_eq]

/-- **The meaning does not depend on the order of members.** -/
theorem Rearranged.value_eq {e f : ConditionalExpression} (h : Rearranged e f)
    (outcome : Condition → Bool) : value outcome e = value outcome f := by
  induction h with
  | refl e => rfl
  | trans _ _ ihef ihfg => exact ihef.trans ihfg
  | conditions h =>
    apply value_congr
    exact (h.map outcome).append_right _
  | childExpressions h =>
    apply value_congr
    simp only [values_eq_map]
    exact (h.map _).append_left _
  | inside _ ih =>
    apply value_congr
    simp only [values_eq_map, List.map_append, List.map_cons, ih]
    exact List.Perm.refl _

/-- Rearranging keeps the conditions. -/
theorem Rearranged.conditionsOf_perm {e f : ConditionalExpression} (h : Rearranged e f) :
    (conditionsOf e).Perm (conditionsOf f) := by
  induction h with
  | refl e => exact List.Perm.refl _
  | trans _ _ ihef ihfg => exact ihef.trans ihfg
  | conditions h =>
    simp only [conditionsOf]
    exact h.append_right _
  | childExpressions h =>
    simp only [conditionsOf, conditionsOfAll_eq_flatMap]
    exact (h.flatMap_right _).append_left _
  | inside _ ih =>
    simp only [conditionsOf, conditionsOfAll_eq_flatMap, List.flatMap_append, List.flatMap_cons]
    exact ((ih.append_right _).append_left _).append_left _

/-! ## The evaluation -/

variable {σ : Type}

/-- While the app code is in a state of `S`, the conditions have the outcome `outcome` on
the data and the accumulator, and leave the app code in a state of `S`. -/
def Steady (env : Env σ) (S : σ → Prop) (outcome : Condition → Bool) (dataIn : PyVal)
    (accumulator : Accumulator) (conditions : List Condition) : Prop :=
  ∀ condition ∈ conditions, ∀ behaviour, S behaviour →
    ∃ behaviour', env.condition condition dataIn accumulator behaviour =
      (.ok (outcome condition), behaviour') ∧ S behaviour'

/-- How the flag of `_xor` comes out of members of which `n` are true. -/
def flagAfter (isOneFound : Bool) (n : ℕ) : Option Bool :=
  if isOneFound.toNat + n ≤ 1 then some (isOneFound.toNat + n == 1) else none

/-- The flag is given up after two members that hold. -/
theorem two_le_of_flagAfter {n : ℕ} (h : flagAfter false n = none) : 2 ≤ n := by
  simp only [flagAfter, Bool.toNat_false] at h
  split at h
  · cases h
  · omega

/-- Otherwise the flag says how many held. -/
theorem toNat_of_flagAfter {n : ℕ} {isOneFound : Bool} (h : flagAfter false n = some isOneFound) :
    isOneFound.toNat = n := by
  simp only [flagAfter, Bool.toNat_false] at h
  split at h
  · have hn : n = 0 ∨ n = 1 := by omega
    obtain rfl | rfl := hn
    · cases h
      simp
    · cases h
      simp
  · cases h

section

variable (outcome : Condition → Bool) {childExpressions : List ConditionalExpression}
  {conditions : List Condition}

/-- Without conditions and children an expression holds. -/
theorem members_of_empty (operator : Operator)
    (h : (conditions.isEmpty && childExpressions.isEmpty) = true) :
    ((conditions.map outcome ++ values outcome childExpressions).isEmpty ||
      combine operator (conditions.map outcome ++ values outcome childExpressions)) = true := by
  have hempty : (conditions.map outcome ++ values outcome childExpressions).isEmpty = true := by
    simpa [values_eq_map] using h
  rw [hempty, Bool.true_or]

/-- With some of them the operator decides. -/
theorem members_of_nonempty (operator : Operator)
    (h : ¬(conditions.isEmpty && childExpressions.isEmpty) = true) :
    ((conditions.map outcome ++ values outcome childExpressions).isEmpty ||
      combine operator (conditions.map outcome ++ values outcome childExpressions)) =
      combine operator (conditions.map outcome ++ values outcome childExpressions) := by
  have hempty : (conditions.map outcome ++ values outcome childExpressions).isEmpty = false := by
    simpa [values_eq_map] using h
  rw [hempty, Bool.false_or]

/-- A conjunction of no members needs no case of its own. -/
theorem members_and (members : List Bool) :
    (members.isEmpty || combine .and members) = members.all id := by
  cases members with
  | nil => rfl
  | cons b members => simp [combine]

end

section

set_option linter.unusedSectionVars false

variable {env : Env σ} {read : M σ Accumulator} {report : UUID → Bool → M σ Unit}
  {I : World σ → Prop} {outcome : Condition → Bool} {accumulator : Accumulator} {dataIn : PyVal}

/-- A condition that is given the accumulator has its outcome. -/
def HasOutcome (env : Env σ) (I : World σ → Prop) (outcome : Condition → Bool)
    (accumulator : Accumulator) (dataIn : PyVal) (condition : Condition) : Prop :=
  Yields I (behave (env.condition condition dataIn accumulator)) (outcome condition)

section

variable (hread : Yields I read accumulator)

include hread

/-- A condition with an outcome yields it. -/
theorem yields_executeCondition {c : Condition}
    (h : HasOutcome env I outcome accumulator dataIn c) :
    Yields I (executeCondition env read c dataIn) (outcome c) :=
  hread.bind h

/-- The loop of `and` over conditions yields whether all hold. -/
theorem yields_allConditions {cs : List Condition}
    (h : ∀ c ∈ cs, HasOutcome env I outcome accumulator dataIn c) :
    Yields I (allConditions env read dataIn cs) (cs.all outcome) := by
  induction cs with
  | nil => exact Yields.pure _
  | cons c cs ih =>
    rw [List.forall_mem_cons] at h
    refine (yields_executeCondition hread h.1).bind ?_
    cases hc : outcome c with
    | true => simpa [hc] using ih h.2
    | false => simpa [hc] using Yields.pure (I := I) false

/-- The loop of `or` over conditions yields whether one holds. -/
theorem yields_anyCondition {cs : List Condition}
    (h : ∀ c ∈ cs, HasOutcome env I outcome accumulator dataIn c) :
    Yields I (anyCondition env read dataIn cs) (cs.any outcome) := by
  induction cs with
  | nil => exact Yields.pure _
  | cons c cs ih =>
    rw [List.forall_mem_cons] at h
    refine (yields_executeCondition hread h.1).bind ?_
    cases hc : outcome c with
    | true => simpa [hc] using Yields.pure (I := I) true
    | false => simpa [hc] using ih h.2

/-- The loop of `xor` over conditions yields its flag, or nothing after a second that holds. -/
theorem yields_xorConditions {cs : List Condition} (isOneFound : Bool)
    (h : ∀ c ∈ cs, HasOutcome env I outcome accumulator dataIn c) :
    Yields I (xorConditions env read dataIn isOneFound cs)
      (flagAfter isOneFound ((cs.map outcome).count true)) := by
  induction cs generalizing isOneFound with
  | nil =>
    cases isOneFound with
    | true => exact Yields.pure _
    | false => exact Yields.pure _
  | cons c cs ih =>
    rw [List.forall_mem_cons] at h
    refine (yields_executeCondition hread h.1).bind ?_
    cases hc : outcome c with
    | true =>
      cases isOneFound with
      | true =>
        have hnone : flagAfter true (((c :: cs).map outcome).count true) = none := by
          simp [flagAfter, hc]
        rw [hnone]
        exact Yields.pure _
      | false =>
        have hflag : flagAfter false (((c :: cs).map outcome).count true) =
            flagAfter true ((cs.map outcome).count true) := by
          simp [flagAfter, hc, Nat.add_comm]
        rw [hflag]
        exact ih true h.2
    | false =>
      have hflag : flagAfter isOneFound (((c :: cs).map outcome).count true) =
          flagAfter isOneFound ((cs.map outcome).count true) := by
        simp [hc]
      rw [hflag]
      exact ih isOneFound h.2

variable (hreport : ∀ id result, Yields I (report id result) ())

include hreport

mutual

/-- **An expression over conditions with fixed outcomes has its meaning.** -/
theorem yields_executeExpression :
    ∀ e, (∀ c ∈ conditionsOf e, HasOutcome env I outcome accumulator dataIn c) →
      Yields I (executeExpression env read report dataIn e) (value outcome e)
  | .mk _ operator isNegated childExpressions conditions => by
    intro h
    have hconditions : ∀ c ∈ conditions, HasOutcome env I outcome accumulator dataIn c :=
      fun c hc => h c (by simp [conditionsOf, hc])
    have hchildren : ∀ c ∈ conditionsOfAll childExpressions,
        HasOutcome env I outcome accumulator dataIn c :=
      fun c hc => h c (by simp [conditionsOf, hc])
    rw [executeExpression.eq_def, value]
    refine Yields.bind ?_ ((hreport _ _).bind (Yields.pure _))
    cases operator with
    | and =>
      rw [members_and, List.all_append, List.all_map, Function.id_comp]
      refine (yields_allConditions hread hconditions).bind ?_
      cases conditions.all outcome with
      | true => exact yields_allExpressions childExpressions hchildren
      | false => exact Yields.pure _
    | or =>
      dsimp only
      split
      · rename_i hempty
        rw [members_of_empty outcome _ hempty]
        exact Yields.pure _
      · rename_i hempty
        rw [members_of_nonempty outcome _ hempty, combine, List.any_append, List.any_map,
          Function.id_comp]
        refine (yields_anyCondition hread hconditions).bind ?_
        cases conditions.any outcome with
        | true => exact Yields.pure _
        | false => exact yields_anyExpression childExpressions hchildren
    | xor =>
      dsimp only
      split
      · rename_i hempty
        rw [members_of_empty outcome _ hempty]
        exact Yields.pure _
      · rename_i hempty
        rw [members_of_nonempty outcome _ hempty, combine, List.count_append]
        refine (yields_xorConditions hread false hconditions).bind ?_
        cases hflag : flagAfter false ((conditions.map outcome).count true) with
        | none =>
          have htwo := two_le_of_flagAfter hflag
          have hfalse : ((conditions.map outcome).count true +
              (values outcome childExpressions).count true == 1) = false := by
            rw [beq_eq_false_iff_ne]
            omega
          rw [hfalse]
          exact Yields.pure _
        | some isOneFound =>
          rw [← toNat_of_flagAfter hflag]
          exact yields_xorExpressions isOneFound childExpressions hchildren

/-- The loop of `and` over child expressions yields whether all hold. -/
theorem yields_allExpressions :
    ∀ es, (∀ c ∈ conditionsOfAll es, HasOutcome env I outcome accumulator dataIn c) →
      Yields I (allExpressions env read report dataIn es) ((values outcome es).all id)
  | [] => by
    intro h
    rw [allExpressions, values]
    exact Yields.pure _
  | e :: es => by
    intro h
    rw [conditionsOfAll, List.forall_mem_append] at h
    rw [allExpressions, values]
    refine (yields_executeExpression e h.1).bind ?_
    cases he : value outcome e with
    | true => simpa using yields_allExpressions es h.2
    | false => exact Yields.pure _

/-- The loop of `or` over child expressions yields whether one holds. -/
theorem yields_anyExpression :
    ∀ es, (∀ c ∈ conditionsOfAll es, HasOutcome env I outcome accumulator dataIn c) →
      Yields I (anyExpression env read report dataIn es) ((values outcome es).any id)
  | [] => by
    intro h
    rw [anyExpression, values]
    exact Yields.pure _
  | e :: es => by
    intro h
    rw [conditionsOfAll, List.forall_mem_append] at h
    rw [anyExpression, values]
    refine (yields_executeExpression e h.1).bind ?_
    cases he : value outcome e with
    | true => exact Yields.pure _
    | false => simpa using yields_anyExpression es h.2

/-- The loop of `xor` over child expressions yields whether exactly one holds, counting what was
found. -/
theorem yields_xorExpressions :
    ∀ isOneFound es, (∀ c ∈ conditionsOfAll es, HasOutcome env I outcome accumulator dataIn c) →
      Yields I (xorExpressions env read report dataIn isOneFound es)
        (isOneFound.toNat + (values outcome es).count true == 1)
  | isOneFound, [] => by
    intro h
    rw [xorExpressions, values]
    cases isOneFound with
    | true => exact Yields.pure _
    | false => exact Yields.pure _
  | isOneFound, e :: es => by
    intro h
    rw [conditionsOfAll, List.forall_mem_append] at h
    rw [xorExpressions, values]
    refine (yields_executeExpression e h.1).bind ?_
    cases he : value outcome e with
    | true =>
      cases isOneFound with
      | true =>
        have htwo : (true.toNat + (true :: values outcome es).count true == 1) = false := by
          rw [List.count_cons_self, beq_eq_false_iff_ne]
          simp only [Bool.toNat_true]
          omega
        rw [htwo]
        exact Yields.pure _
      | false => simpa [Nat.add_comm] using yields_xorExpressions true es h.2
    | false => simpa using yields_xorExpressions isOneFound es h.2

end

end

end

/-! ## In a worker and in the controller -/

section

variable {env : Env σ} {S : σ → Prop} {outcome : Condition → Bool} {dataIn : PyVal}
  {accumulator : Accumulator}

/-- A condition reads nothing but its arguments and the state of the app code. -/
theorem hasOutcome_of_steady {I : World σ → Prop} {conditions : List Condition}
    (hsteady : Steady env S outcome dataIn accumulator conditions)
    (hbehaviour : ∀ w, I w → S w.behaviour)
    (hupdate : ∀ w behaviour, I w → S behaviour → I { w with behaviour }) :
    ∀ c ∈ conditions, HasOutcome env I outcome accumulator dataIn c := by
  intro c hc w hw
  obtain ⟨behaviour, hcondition, hS⟩ := hsteady c hc w.behaviour (hbehaviour w hw)
  refine ⟨{ w with behaviour }, ?_, hupdate w behaviour hw hS⟩
  unfold behave
  rw [hcondition]

/-- What a worker evaluates an expression in: the accumulator of the execution. -/
def InWorker (S : σ → Prop) (accumulator : Accumulator) (executionId : UUID) (w : World σ) : Prop :=
  S w.behaviour ∧ w.accumulators executionId = accumulator

/-- Reporting the value of an expression puts one packet on the results socket. -/
theorem yields_reportExpression (o : Origin) (id : UUID) (result : Bool) :
    Yields (InWorker S accumulator o.executionId) (reportExpression env o id result : M σ Unit) () := by
  intro w hw
  unfold reportExpression
  cases result with
  | true => exact ⟨_, rfl, hw⟩
  | false => exact ⟨_, rfl, hw⟩

/-- What the controller evaluates a trigger in: the accumulator it makes for the execution. -/
def InController (env : Env σ) (S : σ → Prop) (accumulator : Accumulator) (executionId : UUID)
    (w : World σ) : Prop :=
  S w.behaviour ∧ makeAccumulator env executionId w = .ok accumulator w

/-- The invariant of the controller does not depend on which steady state the apps are in. -/
theorem InController.update {executionId : UUID} {w : World σ}
    (h : InController env S accumulator executionId w) {behaviour : σ} (hS : S behaviour) :
    InController env S accumulator executionId { w with behaviour } := by
  refine ⟨hS, ?_⟩
  have hmade := h.2
  unfold makeAccumulator at hmade ⊢
  cases htype : env.accumulatorType with
  | memory =>
    rw [htype] at hmade
    cases hmade
    rfl
  | external =>
    rw [htype] at hmade
    cases hmade
    rfl

end

/-- **A conditional expression means what it says.** Conditions whose outcomes do not change
during the evaluation make `ConditionalExpression.execute` return the meaning of the
expression, in a worker and in the controller, whichever way its members are ordered. -/
theorem executeExpression_eq_value {env : Env σ} {S : σ → Prop} {outcome : Condition → Bool}
    {dataIn : PyVal} {accumulator : Accumulator} {e e' : ConditionalExpression}
    (hsteady : Steady env S outcome dataIn accumulator (conditionsOf e))
    (hsame : Rearranged e e') {w : World σ} (hS : S w.behaviour) :
    (∀ o : Origin, w.accumulators o.executionId = accumulator →
      ∃ w', executeExpression env (getAccumulator o.executionId) (reportExpression env o) dataIn e' w =
        .ok (value outcome e) w') ∧
    (∀ executionId, makeAccumulator env executionId w = .ok accumulator w →
      ∃ w', executeExpression env (makeAccumulator env executionId) (fun _ _ => pure ()) dataIn
        e' w = .ok (value outcome e) w') := by
  have hsteady' : Steady env S outcome dataIn accumulator (conditionsOf e') :=
    fun c hc => hsteady c (hsame.conditionsOf_perm.mem_iff.mpr hc)
  rw [hsame.value_eq outcome]
  constructor
  · intro o haccumulator
    have hread : Yields (InWorker S accumulator o.executionId)
        (getAccumulator o.executionId : M σ Accumulator) accumulator := by
      intro v hv
      refine ⟨v, ?_, hv⟩
      rw [← hv.2]
      rfl
    have hconditions := hasOutcome_of_steady hsteady'
      (fun v (hv : InWorker S accumulator o.executionId v) => hv.1)
      (fun v _ hv hbehaviour => ⟨hbehaviour, hv.2⟩)
    obtain ⟨w', hrun, _⟩ := yields_executeExpression hread (yields_reportExpression o) e'
      hconditions w ⟨hS, haccumulator⟩
    exact ⟨w', hrun⟩
  · intro executionId haccumulator
    have hread : Yields (InController env S accumulator executionId)
        (makeAccumulator env executionId) accumulator := by
      intro v hv
      exact ⟨v, hv.2, hv⟩
    have hconditions := hasOutcome_of_steady hsteady'
      (fun v (hv : InController env S accumulator executionId v) => hv.1)
      (fun v _ hv hbehaviour => hv.update hbehaviour)
    obtain ⟨w', hrun, _⟩ := yields_executeExpression hread (fun _ _ => Yields.pure _) e'
      hconditions w ⟨hS, haccumulator⟩
    exact ⟨w', hrun⟩

/-- A condition of the sample app. -/
def sampleCondition (id : UUID) : Condition :=
  { id, appName := "App", actionName := "holds", isNegated := false, arguments := []
    transforms := [] }

/-- The negated `xor` of two conditions that hold. -/
theorem negatedXor_of_two_true :
    ∃ w', executeExpression succeeding (getAccumulator 7) (reportExpression succeeding
      { executionId := 7, workflowId := 100, user := none, executingAction := none }) .none
      (.mk 20 .xor true [] [sampleCondition 31, sampleCondition 30]) (World.start () []) =
        .ok true w' := by
  have hsteady : Steady succeeding (fun _ => True) (fun _ => true) .none
      { type := .external, entries := [] }
      (conditionsOf (.mk 20 .xor true [] [sampleCondition 30, sampleCondition 31])) :=
    fun _ _ _ _ => ⟨(), rfl, trivial⟩
  have hswap : Rearranged (.mk 20 .xor true [] [sampleCondition 30, sampleCondition 31])
      (.mk 20 .xor true [] [sampleCondition 31, sampleCondition 30]) :=
    .conditions (.swap _ _ _)
  obtain ⟨hworker, _⟩ := executeExpression_eq_value hsteady hswap
    (show (fun _ => True) (World.start () []).behaviour from trivial)
  exact hworker _ rfl

end Walkoff.Analysis
