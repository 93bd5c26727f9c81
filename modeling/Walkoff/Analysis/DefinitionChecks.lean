import Mathlib.Data.Finset.Card
import Mathlib.Logic.Relation
import Walkoff.Program.ApiDefinitions

/-!
# The recursion of `validate_definition`

`validate_definition` follows `allOf` and references without a list of what it has seen. It ends
for a definition that reaches no cycle, and also where it comes upon a fault before it gets to a
cycle; nowhere else (`definitionsSettled_iff`).
-/

set_option autoImplicit false

namespace Walkoff.Analysis

open Relation
open Walkoff.Library Walkoff.Model Walkoff.Program

/-! ## The graph of the definitions -/

/-- The recursion goes from a definition on to another one. -/
inductive Leads (spec : ApiDefinitions) : Definition → Definition → Prop
  | ref {target : String} {definition : Definition}
      (h : OrderedDict.get? target spec.targets = some definition) :
      Leads spec (.ref target) definition
  | member {members : List Definition} {definition : Definition} (h : definition ∈ members) :
      Leads spec (.allOf members) definition

/-- A definition without `allOf` that requires a property it does not define. -/
def Faulty : Definition → Prop
  | .plain required properties => ∃ property ∈ required, property ∉ properties
  | _ => False

/-- No definition that is reached is reached from itself again. -/
def Acyclic (spec : ApiDefinitions) (definition : Definition) : Prop :=
  ∀ reached, ReflTransGen (Leads spec) definition reached →
    ¬TransGen (Leads spec) reached reached

/-- No cycle and no fault is reached. -/
def Spotless (spec : ApiDefinitions) (definition : Definition) : Prop :=
  Acyclic spec definition ∧
    ∀ reached, ReflTransGen (Leads spec) definition reached → ¬Faulty reached

/-- In the order of validation, a fault comes before any definition that reaches a cycle. -/
inductive FaultFirst (spec : ApiDefinitions) : Definition → Prop
  | fault {definition : Definition} (h : Faulty definition) : FaultFirst spec definition
  | ref {target : String} {definition : Definition}
      (h : OrderedDict.get? target spec.targets = some definition)
      (hfault : FaultFirst spec definition) : FaultFirst spec (.ref target)
  | member {before after : List Definition} {definition : Definition}
      (hbefore : ∀ member ∈ before, Spotless spec member) (hfault : FaultFirst spec definition) :
      FaultFirst spec (.allOf (before ++ definition :: after))

/-! ## Settled definitions -/

/-- The recursion ends for every definition, and `InvalidApi` is raised exactly for a fault that
is reached. -/
def DefinitionsSettled (spec : ApiDefinitions) : Prop :=
  (∀ item ∈ spec.definitions, ∃ depth result,
      validateDefinition spec depth item.2 = some result) ∧
    ((∃ depth, validateDefinitions spec depth = some (.error invalidApi)) ↔
      ∃ item ∈ spec.definitions, ∃ reached,
        ReflTransGen (Leads spec) item.2 reached ∧ Faulty reached)

section

variable {spec : ApiDefinitions} {definition : Definition}

/-! ## Accessible definitions -/

/-- What an acyclic definition leads to is acyclic. -/
theorem Acyclic.of_leads (h : Acyclic spec definition) {next : Definition}
    (hleads : Leads spec definition next) : Acyclic spec next :=
  fun reached hreached => h reached (hreached.head hleads)

/-- The references that are not in a list any more get fewer with each that is added. -/
theorem card_unseen_insert {target : String} {seen : Finset String}
    (htarget : target ∈ spec.targets.keys) (hnew : target ∉ seen) :
    (spec.targets.keys.toFinset \ insert target seen).card <
      (spec.targets.keys.toFinset \ seen).card := by
  apply Finset.card_lt_card
  refine ⟨Finset.sdiff_subset_sdiff (Finset.Subset.refl _) (Finset.subset_insert _ _), ?_⟩
  intro hsubset
  have hunseen : target ∈ spec.targets.keys.toFinset \ seen :=
    Finset.mem_sdiff.mpr ⟨List.mem_toFinset.mpr htarget, hnew⟩
  exact (Finset.mem_sdiff.mp (hsubset hunseen)).2 (Finset.mem_insert_self _ _)

/-- Below a definition without a cycle there is no infinite descent: by induction on the number of
references that have not been followed on the way to it, and on its size. -/
theorem acc_of_seen (unseen : ℕ) : ∀ (size : ℕ) (seen : Finset String) (definition : Definition),
    sizeOf definition = size → (spec.targets.keys.toFinset \ seen).card = unseen →
      (∀ name ∈ seen, ∃ target, OrderedDict.get? name spec.targets = some target ∧
        ReflTransGen (Leads spec) target definition) →
      Acyclic spec definition → Acc (flip (Leads spec)) definition := by
  induction unseen using Nat.strong_induction_on with
  | _ unseen ihUnseen =>
    intro size
    induction size using Nat.strong_induction_on with
    | _ size ihSize =>
      intro seen definition hsize hunseen hseen hacyclic
      refine Acc.intro definition fun next hleads => ?_
      have hseen' : ∀ name ∈ seen, ∃ target, OrderedDict.get? name spec.targets = some target ∧
          ReflTransGen (Leads spec) target next := by
        intro name hname
        obtain ⟨target, htarget, hreached⟩ := hseen name hname
        exact ⟨target, htarget, hreached.tail hleads⟩
      have hnext := hacyclic.of_leads hleads
      cases hleads with
      | ref h =>
        rename_i target
        by_cases hmem : target ∈ seen
        · -- the reference has been followed before: it is on a cycle
          obtain ⟨again, hagain, hreached⟩ := hseen target hmem
          cases h.symm.trans hagain
          exact absurd (TransGen.head' (.ref h) hreached) (hacyclic _ .refl)
        · have htarget : target ∈ spec.targets.keys := by
            rw [OrderedDict.mem_keys_iff, h]
            rfl
          have hfewer := card_unseen_insert htarget hmem
          rw [hunseen] at hfewer
          refine ihUnseen _ hfewer _ (insert target seen) next rfl rfl ?_ hnext
          intro name hname
          rcases Finset.mem_insert.mp hname with rfl | hname
          · exact ⟨next, h, .refl⟩
          · exact hseen' name hname
      | member h =>
        have hsmaller := List.sizeOf_lt_of_mem h
        refine ihSize _ ?_ seen next rfl hunseen hseen' hnext
        rw [← hsize, Definition.allOf.sizeOf_spec]
        omega

/-- From an acyclic definition the descent ends. -/
theorem acc_of_acyclic (h : Acyclic spec definition) : Acc (flip (Leads spec)) definition :=
  acc_of_seen _ _ ∅ definition rfl rfl (fun _ hname => absurd hname (Finset.notMem_empty _)) h

/-! ## The loop -/

/-- A definition that passes hands over to the next. -/
theorem eachDefinition_cons_of_ok {validate : Definition → Option (Except Exn Unit)}
    (h : validate definition = some (.ok ())) (definitions : List Definition) :
    eachDefinition validate (definition :: definitions) =
      eachDefinition validate definitions := by
  rw [eachDefinition, h]

/-- A definition that raises ends the loop. -/
theorem eachDefinition_cons_of_error {validate : Definition → Option (Except Exn Unit)} {e : Exn}
    (h : validate definition = some (.error e)) (definitions : List Definition) :
    eachDefinition validate (definition :: definitions) = some (.error e) := by
  rw [eachDefinition, h]

/-- How a loop that ends takes its first definition. -/
theorem eachDefinition_cons_cases {validate : Definition → Option (Except Exn Unit)}
    {definitions : List Definition} {result : Except Exn Unit}
    (h : eachDefinition validate (definition :: definitions) = some result) :
    (validate definition = some (.ok ()) ∧ eachDefinition validate definitions = some result) ∨
      ∃ e, result = .error e ∧ validate definition = some (.error e) := by
  cases hfirst : validate definition with
  | none =>
    rw [eachDefinition, hfirst] at h
    cases h
  | some outcome =>
    cases outcome with
    | ok =>
      rw [eachDefinition_cons_of_ok hfirst] at h
      exact .inl ⟨rfl, h⟩
    | error e =>
      rw [eachDefinition_cons_of_error hfirst] at h
      exact .inr ⟨e, (Option.some.inj h).symm, rfl⟩

/-- A loop that passes has passed every definition. -/
theorem eachDefinition_ok {validate : Definition → Option (Except Exn Unit)}
    {definitions : List Definition} (h : eachDefinition validate definitions = some (.ok ())) :
    ∀ definition ∈ definitions, validate definition = some (.ok ()) := by
  induction definitions with
  | nil => exact fun _ hmem => absurd hmem List.not_mem_nil
  | cons first definitions ih =>
    rcases eachDefinition_cons_cases h with ⟨hfirst, hrest⟩ | ⟨e, ⟨⟩, -⟩
    rintro definition (_ | ⟨_, hmem⟩)
    · exact hfirst
    · exact ih hrest definition hmem

/-- The loop raises at the first definition that raises. -/
theorem eachDefinition_error {validate : Definition → Option (Except Exn Unit)}
    {definitions : List Definition} {e : Exn}
    (h : eachDefinition validate definitions = some (.error e)) : ∃ before definition after,
      definitions = before ++ definition :: after ∧
        (∀ other ∈ before, validate other = some (.ok ())) ∧
        validate definition = some (.error e) := by
  induction definitions with
  | nil => cases h
  | cons first definitions ih =>
    rcases eachDefinition_cons_cases h with ⟨hfirst, hrest⟩ | ⟨e, ⟨⟩, hraises⟩
    · obtain ⟨before, definition, after, rfl, hbefore, hraises⟩ := ih hrest
      refine ⟨first :: before, definition, after, rfl, ?_, hraises⟩
      rintro other (_ | ⟨_, hother⟩)
      · exact hfirst
      · exact hbefore other hother
    · exact ⟨[], first, definitions, rfl, fun _ hmem => absurd hmem List.not_mem_nil, hraises⟩

/-! ## The recursion in a greater depth -/

/-- A loop that ends, ends the same way where the single validations do. -/
theorem eachDefinition_mono {validate deeper : Definition → Option (Except Exn Unit)}
    (h : ∀ definition result, validate definition = some result →
      deeper definition = some result) {definitions : List Definition}
    {result : Except Exn Unit} (hresult : eachDefinition validate definitions = some result) :
    eachDefinition deeper definitions = some result := by
  induction definitions with
  | nil => exact hresult
  | cons definition definitions ih =>
    rcases eachDefinition_cons_cases hresult with ⟨hfirst, hrest⟩ | ⟨e, rfl, hraises⟩
    · rw [eachDefinition_cons_of_ok (h _ _ hfirst)]
      exact ih hrest
    · exact eachDefinition_cons_of_error (h _ _ hraises) definitions

/-- A result does not change in a greater depth. -/
theorem validateDefinition_succ {depth : ℕ} : ∀ {definition : Definition}
    {result : Except Exn Unit}, validateDefinition spec depth definition = some result →
      validateDefinition spec (depth + 1) definition = some result := by
  induction depth with
  | zero =>
    intro definition result h
    cases h
  | succ depth ih =>
    intro definition result h
    unfold validateDefinition at h ⊢
    cases definition with
    | ref target =>
      dsimp only at h ⊢
      cases hget : OrderedDict.get? target spec.targets with
      | none =>
        rw [hget] at h
        exact h
      | some definition =>
        rw [hget] at h
        exact ih h
    | allOf members => exact eachDefinition_mono (fun _ _ => ih) h
    | plain required properties => exact h

/-- A validation that ends within a depth ends the same way within a greater one. -/
theorem validateDefinition_mono {depth deeper : ℕ} (hle : depth ≤ deeper)
    {result : Except Exn Unit} (h : validateDefinition spec depth definition = some result) :
    validateDefinition spec deeper definition = some result := by
  induction hle with
  | refl => exact h
  | step _ ih => exact validateDefinition_succ ih

/-! ## The result of the recursion -/

/-- The recursion ends with the result. -/
def EndsIn (spec : ApiDefinitions) (definition : Definition) (result : Except Exn Unit) : Prop :=
  ∃ depth, validateDefinition spec depth definition = some result

/-- The loop over the definitions ends with the result. -/
def AllEndIn (spec : ApiDefinitions) (definitions : List Definition)
    (result : Except Exn Unit) : Prop :=
  ∃ depth, eachDefinition (validateDefinition spec depth) definitions = some result

/-- A validation ends in one way. -/
theorem EndsIn.unique {result other : Except Exn Unit} (h : EndsIn spec definition result)
    (hother : EndsIn spec definition other) : result = other := by
  obtain ⟨depth, hdepth⟩ := h
  obtain ⟨depth', hdepth'⟩ := hother
  have hleft := validateDefinition_mono (Nat.le_max_left depth depth') hdepth
  have hright := validateDefinition_mono (Nat.le_max_right depth depth') hdepth'
  exact Option.some.inj (hleft.symm.trans hright)

/-- A reference ends as its target does. -/
theorem endsIn_ref {target : String}
    (h : OrderedDict.get? target spec.targets = some definition) {result : Except Exn Unit} :
    EndsIn spec (.ref target) result ↔ EndsIn spec definition result := by
  constructor
  · rintro ⟨_ | depth, hdepth⟩
    · cases hdepth
    · refine ⟨depth, ?_⟩
      simpa only [validateDefinition, h] using hdepth
  · rintro ⟨depth, hdepth⟩
    refine ⟨depth + 1, ?_⟩
    simpa only [validateDefinition, h] using hdepth

/-- An `allOf` ends as the loop over its members does. -/
theorem endsIn_allOf {members : List Definition} {result : Except Exn Unit} :
    EndsIn spec (.allOf members) result ↔ AllEndIn spec members result := by
  constructor
  · rintro ⟨_ | depth, hdepth⟩
    · cases hdepth
    · exact ⟨depth, hdepth⟩
  · rintro ⟨depth, hdepth⟩
    exact ⟨depth + 1, hdepth⟩

/-- A plain definition is decided at once. -/
theorem validateDefinition_plain (depth : ℕ) (required properties : List String) :
    validateDefinition spec (depth + 1) (.plain required properties) =
      some (if required.all (· ∈ properties) then .ok () else .error invalidApi) := by
  simp only [validateDefinition]
  split <;> rfl

/-- A plain definition ends by whether its required fields are properties. -/
theorem endsIn_plain {required properties : List String} {result : Except Exn Unit} :
    EndsIn spec (.plain required properties) result ↔
      result = if required.all (· ∈ properties) then .ok () else .error invalidApi := by
  constructor
  · rintro ⟨_ | depth, hdepth⟩
    · cases hdepth
    · rw [validateDefinition_plain] at hdepth
      exact (Option.some.inj hdepth).symm
  · rintro rfl
    exact ⟨1, validateDefinition_plain 0 required properties⟩

/-- A plain definition is faulty exactly if a required field is no property. -/
theorem faulty_plain {required properties : List String} :
    Faulty (.plain required properties) ↔ ¬required.all (· ∈ properties) = true := by
  simp [Faulty]

/-- A loop over nothing passes. -/
theorem allEndIn_nil {result : Except Exn Unit} : AllEndIn spec [] result ↔ result = .ok () := by
  constructor
  · rintro ⟨depth, hdepth⟩
    exact (Option.some.inj hdepth).symm
  · rintro rfl
    exact ⟨0, rfl⟩

/-- A loop goes on after a definition that passes and ends with one that raises. -/
theorem allEndIn_cons {definitions : List Definition} {result : Except Exn Unit} :
    AllEndIn spec (definition :: definitions) result ↔
      (EndsIn spec definition (.ok ()) ∧ AllEndIn spec definitions result) ∨
        ∃ e, result = .error e ∧ EndsIn spec definition (.error e) := by
  constructor
  · rintro ⟨depth, hdepth⟩
    rcases eachDefinition_cons_cases hdepth with ⟨hfirst, hrest⟩ | ⟨e, rfl, hraises⟩
    · exact .inl ⟨⟨depth, hfirst⟩, depth, hrest⟩
    · exact .inr ⟨e, rfl, depth, hraises⟩
  · rintro (⟨⟨depth, hfirst⟩, depth', hrest⟩ | ⟨e, rfl, depth, hfirst⟩)
    · refine ⟨max depth depth', ?_⟩
      rw [eachDefinition_cons_of_ok
        (validateDefinition_mono (Nat.le_max_left depth depth') hfirst)]
      exact eachDefinition_mono
        (fun _ _ => validateDefinition_mono (Nat.le_max_right depth depth')) hrest
    · exact ⟨depth, eachDefinition_cons_of_error hfirst definitions⟩

/-- A loop passes exactly if every definition does. -/
theorem allEndIn_ok {definitions : List Definition} :
    AllEndIn spec definitions (.ok ()) ↔
      ∀ definition ∈ definitions, EndsIn spec definition (.ok ()) := by
  induction definitions with
  | nil => simp [allEndIn_nil]
  | cons definition definitions ih => simp [allEndIn_cons, ih]

/-- After definitions that pass, one that raises ends the loop. -/
theorem allEndIn_error {before : List Definition}
    (hbefore : ∀ other ∈ before, EndsIn spec other (.ok ())) {e : Exn}
    (h : EndsIn spec definition (.error e)) (after : List Definition) :
    AllEndIn spec (before ++ definition :: after) (.error e) := by
  induction before with
  | nil => exact allEndIn_cons.mpr (.inr ⟨e, rfl, h⟩)
  | cons first before ih =>
    exact allEndIn_cons.mpr (.inl ⟨hbefore first List.mem_cons_self,
      ih fun other hother => hbefore other (List.mem_cons_of_mem _ hother)⟩)

/-! ## Definitions that pass -/

/-- Where the recursion passes, it passes what comes next in a smaller depth. -/
theorem passes_of_leads {depth : ℕ} (h : validateDefinition spec depth definition = some (.ok ()))
    {next : Definition} (hleads : Leads spec definition next) :
    ∃ smaller < depth, validateDefinition spec smaller next = some (.ok ()) := by
  cases depth with
  | zero => cases h
  | succ depth =>
    refine ⟨depth, Nat.lt_succ_self depth, ?_⟩
    cases hleads with
    | ref hget => simpa only [validateDefinition, hget] using h
    | member hmem => exact eachDefinition_ok h next hmem

/-- A definition that passes has passed all it leads to, within a smaller depth. -/
theorem passes_of_reached {depth : ℕ}
    (h : validateDefinition spec depth definition = some (.ok ())) {reached : Definition}
    (hreached : ReflTransGen (Leads spec) definition reached) :
    ∃ smaller ≤ depth, validateDefinition spec smaller reached = some (.ok ()) := by
  induction hreached with
  | refl => exact ⟨depth, Nat.le_refl depth, h⟩
  | tail _ hleads ih =>
    obtain ⟨smaller, hle, hpasses⟩ := ih
    obtain ⟨next, hlt, hnext⟩ := passes_of_leads hpasses hleads
    exact ⟨next, (Nat.le_of_lt hlt).trans hle, hnext⟩

/-- A definition that passes is not reached from itself: there is a least depth it passes in. -/
theorem no_cycle_of_passes (h : EndsIn spec definition (.ok ())) :
    ¬TransGen (Leads spec) definition definition := by
  classical
  intro hcycle
  obtain ⟨next, hleads, hback⟩ := TransGen.head'_iff.mp hcycle
  obtain ⟨smaller, hlt, hpasses⟩ := passes_of_leads (Nat.find_spec h) hleads
  obtain ⟨least, hle, hagain⟩ := passes_of_reached hpasses hback
  exact Nat.find_min h (Nat.lt_of_le_of_lt hle hlt) hagain

/-- A definition that passes leads to no fault. -/
theorem spotless_of_passes (h : EndsIn spec definition (.ok ())) : Spotless spec definition := by
  obtain ⟨depth, hdepth⟩ := h
  constructor
  · intro reached hreached
    obtain ⟨smaller, -, hpasses⟩ := passes_of_reached hdepth hreached
    exact no_cycle_of_passes ⟨smaller, hpasses⟩
  · intro reached hreached hfaulty
    obtain ⟨smaller, -, hpasses⟩ := passes_of_reached hdepth hreached
    cases reached with
    | ref target => exact hfaulty
    | allOf members => exact hfaulty
    | plain required properties =>
      have hresult := endsIn_plain.mp ⟨smaller, hpasses⟩
      rw [if_neg (faulty_plain.mp hfaulty)] at hresult
      cases hresult

/-! ## Definitions without a cycle, and definitions with a fault first -/

/-- A fault that comes first is one the definition leads to. -/
theorem FaultFirst.reaches (h : FaultFirst spec definition) :
    ∃ reached, ReflTransGen (Leads spec) definition reached ∧ Faulty reached := by
  induction h with
  | fault h => exact ⟨_, .refl, h⟩
  | ref h _ ih =>
    obtain ⟨reached, hreached, hfaulty⟩ := ih
    exact ⟨reached, hreached.head (.ref h), hfaulty⟩
  | member _ _ ih =>
    obtain ⟨reached, hreached, hfaulty⟩ := ih
    exact ⟨reached, hreached.head (.member (by simp)), hfaulty⟩

/-- What the recursion goes on to has only references that resolve. -/
theorem resolves_of_leads (h : definition.Resolves spec.targets) {next : Definition}
    (hleads : Leads spec definition next) : next.Resolves spec.targets := by
  cases hleads with
  | ref hget =>
    exact spec.resolved _ (List.mem_append_right _ (OrderedDict.mem_of_get? hget))
  | member hmem =>
    cases h with
    | allOf hall => exact hall _ hmem

/-- The first member that does not pass, if there is one. -/
theorem passes_or_faultFirst_of_members {members : List Definition}
    (h : ∀ member ∈ members, EndsIn spec member (.ok ()) ∨ FaultFirst spec member) :
    AllEndIn spec members (.ok ()) ∨ ∃ before definition after,
      members = before ++ definition :: after ∧ (∀ member ∈ before, Spotless spec member) ∧
        FaultFirst spec definition := by
  induction members with
  | nil => exact .inl (allEndIn_nil.mpr rfl)
  | cons first members ih =>
    rcases h first List.mem_cons_self with hpasses | hfault
    · rcases ih fun member hmem => h member (List.mem_cons_of_mem _ hmem) with
        hall | ⟨before, definition, after, rfl, hbefore, hfault⟩
      · exact .inl (allEndIn_cons.mpr (.inl ⟨hpasses, hall⟩))
      · refine .inr ⟨first :: before, definition, after, rfl, ?_, hfault⟩
        rintro member (_ | ⟨_, hmem⟩)
        · exact spotless_of_passes hpasses
        · exact hbefore member hmem
    · exact .inr ⟨[], first, members, rfl, fun _ hmem => absurd hmem List.not_mem_nil, hfault⟩

/-- A definition without a cycle passes or has a fault first. -/
theorem passes_or_faultFirst (hresolves : definition.Resolves spec.targets)
    (h : Acyclic spec definition) :
    EndsIn spec definition (.ok ()) ∨ FaultFirst spec definition := by
  have hacc := acc_of_acyclic h
  clear h
  induction hacc with
  | intro definition _ ih =>
    have hnext : ∀ next, Leads spec definition next →
        EndsIn spec next (.ok ()) ∨ FaultFirst spec next :=
      fun next hleads => ih next hleads (resolves_of_leads hresolves hleads)
    cases definition with
    | ref target =>
      cases hresolves with
      | ref hkey =>
        rw [OrderedDict.mem_keys_iff, Option.isSome_iff_exists] at hkey
        obtain ⟨definition, hget⟩ := hkey
        rcases hnext definition (.ref hget) with hpasses | hfault
        · exact .inl ((endsIn_ref hget).mpr hpasses)
        · exact .inr (.ref hget hfault)
    | allOf members =>
      rcases passes_or_faultFirst_of_members fun member hmem => hnext member (.member hmem) with
        hall | ⟨before, definition, after, rfl, hbefore, hfault⟩
      · exact .inl (endsIn_allOf.mpr hall)
      · exact .inr (.member hbefore hfault)
    | plain required properties =>
      by_cases hall : required.all (· ∈ properties) = true
      · exact .inl (endsIn_plain.mpr (if_pos hall).symm)
      · exact .inr (.fault (faulty_plain.mpr hall))

/-- A spotless definition whose references resolve passes. -/
theorem passes_of_spotless (hresolves : definition.Resolves spec.targets)
    (h : Spotless spec definition) : EndsIn spec definition (.ok ()) := by
  refine (passes_or_faultFirst hresolves h.1).resolve_right fun hfault => ?_
  obtain ⟨reached, hreached, hfaulty⟩ := hfault.reaches
  exact h.2 reached hreached hfaulty

/-- With a fault first, the recursion raises `InvalidApi`. -/
theorem FaultFirst.raises (h : FaultFirst spec definition)
    (hresolves : definition.Resolves spec.targets) :
    EndsIn spec definition (.error invalidApi) := by
  induction h with
  | @fault definition h =>
    cases definition with
    | ref target => exact h.elim
    | allOf members => exact h.elim
    | plain required properties => exact endsIn_plain.mpr (if_neg (faulty_plain.mp h)).symm
  | ref hget _ ih =>
    exact (endsIn_ref hget).mpr (ih (resolves_of_leads hresolves (.ref hget)))
  | @member before after definition hbefore _ ih =>
    refine endsIn_allOf.mpr (allEndIn_error ?_ ?_ after)
    · intro other hother
      have hleads : Leads spec (.allOf (before ++ definition :: after)) other :=
        .member (List.mem_append_left _ hother)
      exact passes_of_spotless (resolves_of_leads hresolves hleads) (hbefore other hother)
    · exact ih (resolves_of_leads hresolves (.member (by simp)))

/-- Where the recursion raises, a fault comes first. -/
theorem faultFirst_of_raises {depth : ℕ} : ∀ {definition : Definition},
    definition.Resolves spec.targets → ∀ {e : Exn},
      validateDefinition spec depth definition = some (.error e) →
        FaultFirst spec definition := by
  induction depth with
  | zero =>
    intro definition _ e h
    cases h
  | succ depth ih =>
    intro definition hresolves e h
    cases definition with
    | ref target =>
      have hnext : ∀ next, Leads spec (.ref target) next → next.Resolves spec.targets :=
        fun next hleads => resolves_of_leads hresolves hleads
      cases hresolves with
      | ref hkey =>
        rw [OrderedDict.mem_keys_iff, Option.isSome_iff_exists] at hkey
        obtain ⟨definition, hget⟩ := hkey
        refine .ref hget (ih (hnext definition (.ref hget)) (e := e) ?_)
        simpa only [validateDefinition, hget] using h
    | allOf members =>
      obtain ⟨before, definition, after, rfl, hbefore, hraises⟩ := eachDefinition_error h
      have hleads : Leads spec (.allOf (before ++ definition :: after)) definition :=
        .member (by simp)
      exact .member (fun member hmem => spotless_of_passes ⟨depth, hbefore member hmem⟩)
        (ih (resolves_of_leads hresolves hleads) hraises)
    | plain required properties =>
      refine .fault (faulty_plain.mpr fun hall => ?_)
      rw [validateDefinition_plain, if_pos hall] at h
      cases h

/-! ## The check of all definitions -/

/-- The references of a definition of the document resolve. -/
theorem resolves_of_mem {item : String × Definition} (h : item ∈ spec.definitions) :
    item.2.Resolves spec.targets :=
  spec.resolved item (List.mem_append_left _ h)

/-- The recursion ends exactly for a definition without a cycle or with a fault first. -/
theorem ends_iff (hresolves : definition.Resolves spec.targets) :
    (∃ depth result, validateDefinition spec depth definition = some result) ↔
      Acyclic spec definition ∨ FaultFirst spec definition := by
  constructor
  · rintro ⟨depth, result, hdepth⟩
    cases result with
    | ok => exact .inl (spotless_of_passes ⟨depth, hdepth⟩).1
    | error e => exact .inr (faultFirst_of_raises hresolves hdepth)
  · intro h
    have hends : EndsIn spec definition (.ok ()) ∨ FaultFirst spec definition :=
      h.elim (passes_or_faultFirst hresolves) .inr
    rcases hends with ⟨depth, hdepth⟩ | hfault
    · exact ⟨depth, _, hdepth⟩
    · obtain ⟨depth, hdepth⟩ := hfault.raises hresolves
      exact ⟨depth, _, hdepth⟩

/-- Where the recursion ends for every definition, the check raises `InvalidApi` exactly for a
fault that is reached. -/
theorem invalidApi_iff (h : ∀ item ∈ spec.definitions,
      EndsIn spec item.2 (.ok ()) ∨ FaultFirst spec item.2) :
    (∃ depth, validateDefinitions spec depth = some (.error invalidApi)) ↔
      ∃ item ∈ spec.definitions, ∃ reached,
        ReflTransGen (Leads spec) item.2 reached ∧ Faulty reached := by
  constructor
  · rintro ⟨depth, hdepth⟩
    obtain ⟨before, definition, after, hsplit, -, hraises⟩ := eachDefinition_error hdepth
    have hmem : definition ∈ spec.definitions.map Prod.snd := by
      rw [hsplit]
      simp
    obtain ⟨item, hitem, rfl⟩ := List.mem_map.mp hmem
    obtain ⟨reached, hreached, hfaulty⟩ :=
      (faultFirst_of_raises (resolves_of_mem hitem) hraises).reaches
    exact ⟨item, hitem, reached, hreached, hfaulty⟩
  · rintro ⟨item, hitem, reached, hreached, hfaulty⟩
    have hmembers : ∀ definition ∈ spec.definitions.map Prod.snd,
        EndsIn spec definition (.ok ()) ∨ FaultFirst spec definition := by
      intro definition hmem
      obtain ⟨other, hother, rfl⟩ := List.mem_map.mp hmem
      exact h other hother
    rcases passes_or_faultFirst_of_members hmembers with
      hall | ⟨before, definition, after, hsplit, hbefore, hfault⟩
    · have hpasses := allEndIn_ok.mp hall item.2 (List.mem_map_of_mem hitem)
      exact absurd hfaulty ((spotless_of_passes hpasses).2 reached hreached)
    · have hresolves : ∀ definition ∈ spec.definitions.map Prod.snd,
          definition.Resolves spec.targets := by
        intro definition hmem
        obtain ⟨other, hother, rfl⟩ := List.mem_map.mp hmem
        exact resolves_of_mem hother
      rw [hsplit] at hresolves
      have hpass : ∀ other ∈ before, EndsIn spec other (.ok ()) := fun other hother =>
        passes_of_spotless (hresolves other (List.mem_append_left _ hother)) (hbefore other hother)
      obtain ⟨depth, hdepth⟩ :=
        allEndIn_error hpass (hfault.raises (hresolves definition (by simp))) after
      refine ⟨depth, ?_⟩
      unfold validateDefinitions
      rw [hsplit]
      exact hdepth

end

/-- **The check of the definitions ends and finds their faults exactly when** each of them reaches
no cycle, or has a fault that comes before any cycle. -/
theorem definitionsSettled_iff (spec : ApiDefinitions) :
    DefinitionsSettled spec ↔ ∀ item ∈ spec.definitions,
      Acyclic spec item.2 ∨ FaultFirst spec item.2 := by
  constructor
  · rintro ⟨hends, -⟩ item hitem
    exact (ends_iff (resolves_of_mem hitem)).mp (hends item hitem)
  · intro h
    refine ⟨fun item hitem => (ends_iff (resolves_of_mem hitem)).mpr (h item hitem),
      invalidApi_iff fun item hitem => ?_⟩
    exact (h item hitem).elim (passes_or_faultFirst (resolves_of_mem hitem)) .inr

/-- A definition that has itself among the members of its `allOf`. -/
def selfReferring : ApiDefinitions where
  definitions := [("Node", .allOf [.ref "Node"])]
  targets := [("Node", .allOf [.ref "Node"])]
  resolved := by
    have hresolves : (Definition.allOf [.ref "Node"]).Resolves
        [("Node", .allOf [.ref "Node"])] := by
      refine .allOf fun member hmem => ?_
      cases List.mem_singleton.mp hmem
      exact .ref (by decide)
    intro item hitem
    simp only [List.cons_append, List.nil_append, List.mem_cons, List.not_mem_nil, or_false,
      or_self] at hitem
    subst hitem
    exact hresolves

/-- A definition that refers to itself sends the recursion into a cycle. -/
theorem self_reference_not_settled : ¬DefinitionsSettled selfReferring := by
  rintro ⟨hends, -⟩
  obtain ⟨depth, result, hdepth⟩ := hends ("Node", .allOf [.ref "Node"]) List.mem_cons_self
  have hnever : ∀ depth, validateDefinition selfReferring depth (.ref "Node") = none ∧
      validateDefinition selfReferring depth (.allOf [.ref "Node"]) = none := by
    intro depth
    induction depth with
    | zero => exact ⟨rfl, rfl⟩
    | succ depth ih =>
      constructor
      · exact ih.2
      · rw [validateDefinition, eachDefinition, ih.1]
  cases hdepth.symm.trans (hnever depth).2

end Walkoff.Analysis
