import Walkoff.Library.Transition
import Walkoff.Program.ArgumentUpdates

/-!
# Arguments after an update

An update is to leave an argument as if it had just been constructed with the submitted fields.
The updater compares the old value with the new one by Python's equality, leaves the selection
alone where it changes nothing, and does not reset the flag of a reference.
-/

set_option autoImplicit false

namespace Walkoff.Analysis

open Walkoff.Library
open Walkoff.Model
open Walkoff.Model.Argument (referenceTruthy)
open Walkoff.Program

/-! ## The same JSON -/

mutual

/-- The same JSON value, of the same type; dictionaries have the same entries in any order. -/
def sameJson : PyVal → PyVal → Bool
  | .none, .none => true
  | .bool a, .bool b => a == b
  | .int i, .int j => i == j
  | .float m e, .float n f => m * 10 ^ f == n * 10 ^ e
  | .nonFinite f, .nonFinite g => decide (f = g)
  | .str s, .str t => s == t
  | .surrogates us, .surrogates vs => us == vs
  | .list vs, .list ws => sameJsonList vs ws
  | .dict items, .dict others => items.length == others.length && sameJsonItems items others
  | .object o, .object p => decide (o = p)
  | _, _ => false

def sameJsonList : List PyVal → List PyVal → Bool
  | [], [] => true
  | v :: vs, w :: ws => sameJson v w && sameJsonList vs ws
  | _, _ => false

def sameJsonItems : List (String × PyVal) → List (String × PyVal) → Bool
  | [], _ => true
  | (key, v) :: items, others =>
    others.any (fun other => other.1 == key && sameJson v other.2) && sameJsonItems items others

end

mutual

/-- A value is the same JSON as itself. -/
theorem sameJson_refl : ∀ v : PyVal, sameJson v v = true
  | .none => rfl
  | .bool _ | .int _ | .float _ _ | .nonFinite _ | .str _ | .surrogates _ => by simp [sameJson]
  | .object _ => by simp [sameJson]
  | .list vs => by rw [sameJson, sameJsonList_refl vs]
  | .dict items => by
    rw [sameJson, sameJsonItems_of_subset items items fun _ h => h]
    simp

/-- The same of a list. -/
theorem sameJsonList_refl : ∀ vs : List PyVal, sameJsonList vs vs = true
  | [] => rfl
  | v :: vs => by
    rw [sameJsonList, sameJson_refl v, sameJsonList_refl vs]
    rfl

/-- Items are the same JSON within more of them. -/
theorem sameJsonItems_of_subset : ∀ items others : List (String × PyVal), items ⊆ others →
    sameJsonItems items others = true
  | [], _, _ => rfl
  | (key, v) :: items, others, h => by
    obtain ⟨hmem, hrest⟩ := List.cons_subset.mp h
    have hfound : others.any (fun other => other.1 == key && sameJson v other.2) = true := by
      refine List.any_eq_true.mpr ⟨(key, v), hmem, ?_⟩
      rw [sameJson_refl v]
      simp
    rw [sameJsonItems, hfound, sameJsonItems_of_subset items others hrest]
    rfl

end

/-- The same result: the same JSON, or the same exception. -/
def SameResult : Except Exn PyVal → Except Exn PyVal → Prop
  | .ok v, .ok w => sameJson v w = true
  | .error e, .error f => e = f
  | _, _ => False

/-- A result is the same as itself. -/
theorem SameResult.refl (x : Except Exn PyVal) : SameResult x x := by
  cases x with
  | ok v => exact sameJson_refl v
  | error e => exact rfl

/-! ## As submitted -/

/-- The argument that is constructed with the fields of a request. -/
def freshArgument (data : ArgumentRequest) : Argument :=
  Argument.init data.name (data.value.getD .none) data.reference
    ((data.selection.map PyVal.list).getD .none)

/-- The argument has the submitted value or reference, the submitted selection or an empty one,
and the flag of a reference where it has no value; its value is that of a new argument. -/
structure AsSubmitted (data : ArgumentRequest) (argument : Argument) : Prop where
  value : ∀ v, data.value = some v →
    sameJson argument.value v = true ∧ referenceTruthy argument.reference = false
  reference : data.value = none → argument.value = .none ∧ argument.reference = data.reference
  selection : ∀ xs, data.selection = some xs → argument.selection = .list xs
  noSelection : data.selection = none → argument.selection.truthy = false
  isReference : argument.isReference = argument.value.isNone
  getValue : ∀ accumulator, SameResult (argument.getValue accumulator)
    ((freshArgument data).getValue accumulator)

/-- A new value replaces one that is different in Python, or is the same JSON; the argument has
no reference; and where the stored selection is not replaced it is empty. -/
def UpdatesWell (argument : Argument) (data : ArgumentRequest) : Prop :=
  match data.value with
  | some v => argument.value.isNone = false ∧ (pyEq argument.value v = true →
      sameJson argument.value v = true ∧
        (data.selection = none → argument.selection.truthy = false))
  | none => data.selection = none → argument.selection.truthy = false

/-- The flag says whether there is a value, and there is no reference beside one. -/
def Consistent (argument : Argument) : Prop :=
  argument.isReference = argument.value.isNone ∧
    (argument.value.isNone = false → referenceTruthy argument.reference = false)

/-- The last update has left the argument as it was submitted. -/
def LastAsSubmitted (state : EditedArgument) : Prop :=
  ∀ data, state.last = some data → AsSubmitted data state.argument

/-- An update is one that goes well. -/
def EventWell (state : EditedArgument) : ArgumentEvent → Prop
  | .update data => UpdatesWell state.argument data
  | _ => True

/-! ## One update -/

/-- A new argument is consistent. -/
theorem consistent_init (name : String) (value : PyVal) (reference : Option Key)
    (selection : PyVal) : Consistent (Argument.init name value reference selection) := by
  refine ⟨rfl, fun hvalue => ?_⟩
  have hvalue : value.isNone = false := hvalue
  show referenceTruthy (if (!value.isNone && referenceTruthy reference) = true then none
    else reference) = false
  rw [hvalue]
  cases href : referenceTruthy reference with
  | true => rfl
  | false => exact href

/-- There is one `None`. -/
theorem eq_none_of_isNone {v : PyVal} (h : v.isNone = true) : v = .none := by
  cases v with
  | none => rfl
  | _ => cases h

/-- Values that are the same JSON are both `None` or both not. -/
theorem isNone_of_sameJson {v w : PyVal} (h : sameJson v w = true) : v.isNone = w.isNone := by
  cases v <;> cases w <;> first | rfl | cases h

/-- Arguments with the same value or reference and the same selection have the same value. -/
theorem getValue_fresh {data : ArgumentRequest} {argument : Argument} (haccepted : data.Accepted)
    (hvalue : ∀ v, data.value = some v → sameJson argument.value v = true)
    (hreference : data.value = none → argument.value = .none ∧ argument.reference = data.reference)
    (hselection : ∀ xs, data.selection = some xs → argument.selection = .list xs)
    (hnoSelection : data.selection = none → argument.selection.truthy = false)
    (accumulator : Accumulator) :
    SameResult (argument.getValue accumulator) ((freshArgument data).getValue accumulator) := by
  cases hdata : data.value with
  | some v =>
    have hv : v.isNone = false := by
      cases hnone : v.isNone with
      | false => rfl
      | true => exact absurd (hdata.trans (congrArg some (eq_none_of_isNone hnone))) haccepted.2
    have hsame := hvalue v hdata
    have hleft : argument.getValue accumulator = .ok argument.value := by
      rw [Argument.getValue, isNone_of_sameJson hsame, hv]
      rfl
    have hright : (freshArgument data).getValue accumulator = .ok v := by
      have hfresh : (freshArgument data).value = v := by
        show data.value.getD .none = v
        rw [hdata]
        rfl
      rw [Argument.getValue, hfresh, hv]
      rfl
    rw [hleft, hright]
    exact hsame
  | none =>
    obtain ⟨hnone, href⟩ := hreference hdata
    have hfreshValue : (freshArgument data).value = .none := by
      show data.value.getD .none = .none
      rw [hdata]
      rfl
    have hfreshReference : (freshArgument data).reference = data.reference := by
      show (if (!(data.value.getD .none).isNone && referenceTruthy data.reference) = true then none
        else data.reference) = data.reference
      rw [hdata]
      rfl
    have hequal : argument.getValue accumulator = (freshArgument data).getValue accumulator := by
      rw [Argument.getValue, Argument.getValue, hnone, hfreshValue, Argument.getActionFromReference,
        Argument.getActionFromReference, href, hfreshReference]
      cases hsel : data.selection with
      | none =>
        have hfresh : (freshArgument data).selection.truthy = false := by
          show ((data.selection.map PyVal.list).getD .none).truthy = false
          rw [hsel]
          rfl
        rw [hnoSelection hsel, hfresh]
        simp only [Bool.not_false, if_true]
      | some xs =>
        have hfresh : (freshArgument data).selection = .list xs := by
          show (data.selection.map PyVal.list).getD .none = .list xs
          rw [hsel]
          rfl
        have hselect : ∀ input, argument.select input = (freshArgument data).select input := by
          intro input
          rw [Argument.select, Argument.select, hselection xs hsel, hfresh, href, hfreshReference]
        simp only [hselection xs hsel, hfresh, hselect]
    rw [hequal]
    exact SameResult.refl _

/-- A value that changes replaces the old one and takes the reference out. -/
theorem updateValueReference_of_changed {argument : Argument} {v : PyVal}
    {reference : Option Key} (hv : v.isNone = false) (hchanged : pyEq argument.value v = false) :
    updateValueReference argument v reference =
      { argument with value := v, reference := none, selection := .list [] } := by
  unfold updateValueReference
  rw [hv, hchanged]
  rfl

/-- A value that is equal changes nothing. -/
theorem updateValueReference_of_equal {argument : Argument} {v : PyVal} {reference : Option Key}
    (hequal : pyEq argument.value v = true) (hown : referenceTruthy argument.reference = false)
    (hreference : referenceTruthy reference = false) :
    updateValueReference argument v reference = argument := by
  unfold updateValueReference
  rw [hequal, hown, hreference]
  simp

/-- A reference without a value replaces the old one and takes the value out. -/
theorem updateValueReference_of_reference {argument : Argument} {reference : Option Key}
    (hreference : referenceTruthy reference = true) :
    updateValueReference argument .none reference =
      { argument with reference, value := .none, isReference := true } := by
  unfold updateValueReference
  rw [hreference]
  rfl

/-- `None` equals nothing else. -/
theorem pyEq_none {v : PyVal} (hv : v.isNone = false) : pyEq .none v = false := by
  cases v with
  | none => cases hv
  | _ => simp [pyEq, numberOf]

/-- A given selection is taken. -/
theorem selection_of_given {data : ArgumentRequest} {own : PyVal} {xs : List PyVal}
    (h : data.selection = some xs) : (data.selection.map PyVal.list).getD own = .list xs := by
  rw [h]
  rfl

/-- Without one, the old selection stays. -/
theorem selection_of_absent {data : ArgumentRequest} {own : PyVal} (h : data.selection = none) :
    (data.selection.map PyVal.list).getD own = own := by
  rw [h]
  rfl

/-- **An update leaves an argument as it was submitted exactly if** it goes well. -/
theorem asSubmitted_iff {argument : Argument} {data : ArgumentRequest} (hown : Consistent argument)
    (haccepted : data.Accepted) :
    AsSubmitted data (makeArgumentInstance argument data) ↔ UpdatesWell argument data := by
  have hvalid := haccepted.1
  unfold ArgumentRequest.validateArgument at hvalid
  cases hdata : data.value with
  | some v =>
    have hv : v.isNone = false := by
      cases hnone : v.isNone with
      | false => rfl
      | true => exact absurd (hdata.trans (congrArg some (eq_none_of_isNone hnone))) haccepted.2
    have hreference : referenceTruthy data.reference = false := by
      rw [hdata] at hvalid
      simpa using hvalid
    have hgood : UpdatesWell argument data ↔ argument.value.isNone = false ∧
        (pyEq argument.value v = true → sameJson argument.value v = true ∧
          (data.selection = none → argument.selection.truthy = false)) := by
      unfold UpdatesWell
      rw [hdata]
    have hfields : makeArgumentInstance argument data =
        { updateValueReference argument v data.reference with
          name := data.name
          selection := (data.selection.map PyVal.list).getD
            (updateValueReference argument v data.reference).selection
          errors := data.errors.getD (updateValueReference argument v data.reference).errors } := by
      unfold makeArgumentInstance
      rw [hdata]
      rfl
    rw [hgood, hfields]
    cases hequal : pyEq argument.value v with
    | false =>
      rw [updateValueReference_of_changed hv hequal]
      constructor
      · -- The flag stays as it was, so there must have been a value before.
        intro h
        have hflag : argument.isReference = v.isNone := h.isReference
        rw [hown.1, hv] at hflag
        exact ⟨hflag, fun hsame => by cases hsame⟩
      · rintro ⟨hvalue, -⟩
        have hsub : ∀ w, data.value = some w → sameJson v w = true := by
          intro w hw
          obtain rfl := Option.some.inj (hdata.symm.trans hw)
          exact sameJson_refl v
        refine ⟨fun w hw => ⟨hsub w hw, rfl⟩, fun h => ?_, fun xs h => selection_of_given h,
          fun h => ?_, ?_, getValue_fresh haccepted hsub (fun h => ?_)
            (fun xs h => selection_of_given h) fun h => ?_⟩
        · rw [hdata] at h
          cases h
        · exact congrArg PyVal.truthy (selection_of_absent h)
        · show argument.isReference = v.isNone
          rw [hown.1, hvalue, hv]
        · rw [hdata] at h
          cases h
        · exact congrArg PyVal.truthy (selection_of_absent h)
    | true =>
      have hvalue : argument.value.isNone = false := by
        cases hnone : argument.value.isNone with
        | false => rfl
        | true =>
          rw [eq_none_of_isNone hnone, pyEq_none hv] at hequal
          cases hequal
      rw [updateValueReference_of_equal hequal (hown.2 hvalue) hreference]
      constructor
      · intro h
        refine ⟨hvalue, fun _ => ⟨(h.value v hdata).1, fun hsel => ?_⟩⟩
        have hempty := h.noSelection hsel
        rwa [selection_of_absent hsel] at hempty
      · rintro ⟨-, hsame⟩
        obtain ⟨hjson, hselection⟩ := hsame rfl
        have hsub : ∀ w, data.value = some w → sameJson argument.value w = true := by
          intro w hw
          obtain rfl := Option.some.inj (hdata.symm.trans hw)
          exact hjson
        have hempty : data.selection = none →
            ((data.selection.map PyVal.list).getD argument.selection).truthy = false := by
          intro hsel
          rw [selection_of_absent hsel]
          exact hselection hsel
        refine ⟨fun w hw => ⟨hsub w hw, hown.2 hvalue⟩, fun h => ?_,
          fun xs h => selection_of_given h, hempty, hown.1, getValue_fresh haccepted hsub
            (fun h => ?_) (fun xs h => selection_of_given h) hempty⟩
        · rw [hdata] at h
          cases h
        · rw [hdata] at h
          cases h
  | none =>
    have hreference : referenceTruthy data.reference = true := by
      rw [hdata] at hvalid
      simpa using hvalid
    have hgood : UpdatesWell argument data ↔
        (data.selection = none → argument.selection.truthy = false) := by
      unfold UpdatesWell
      rw [hdata]
    have hfields : makeArgumentInstance argument data =
        { argument with
          name := data.name, value := .none, reference := data.reference, isReference := true
          selection := (data.selection.map PyVal.list).getD argument.selection
          errors := data.errors.getD argument.errors } := by
      unfold makeArgumentInstance
      rw [hdata]
      show ({ updateValueReference argument .none data.reference with
        name := data.name
        selection := (data.selection.map PyVal.list).getD
          (updateValueReference argument .none data.reference).selection
        errors := data.errors.getD
          (updateValueReference argument .none data.reference).errors } : Argument) = _
      rw [updateValueReference_of_reference hreference]
    rw [hgood, hfields]
    constructor
    · intro h hsel
      have hempty := h.noSelection hsel
      rwa [selection_of_absent hsel] at hempty
    · intro hselection
      have hempty : data.selection = none →
          ((data.selection.map PyVal.list).getD argument.selection).truthy = false := by
        intro hsel
        rw [selection_of_absent hsel]
        exact hselection hsel
      refine ⟨fun w hw => ?_, fun _ => ⟨rfl, rfl⟩, fun xs h => selection_of_given h, hempty, rfl,
        getValue_fresh haccepted (fun w hw => ?_) (fun _ => ⟨rfl, rfl⟩)
          (fun xs h => selection_of_given h) hempty⟩
      · rw [hdata] at hw
        cases hw
      · rw [hdata] at hw
        cases hw

/-! ## Any sequence of updates -/

/-- An argument that is as it was submitted is consistent. -/
theorem consistent_of_asSubmitted {argument : Argument} {data : ArgumentRequest}
    (h : AsSubmitted data argument) : Consistent argument := by
  refine ⟨h.isReference, fun hvalue => ?_⟩
  cases hdata : data.value with
  | some v => exact (h.value v hdata).2
  | none =>
    rw [(h.reference hdata).1] at hvalue
    cases hvalue

/-- A consistent argument stays so when it is loaded again. -/
theorem consistent_reload {readUuid : String → Option UUID} {argument reloaded : Argument}
    (hread : readUuid "" = none) (h : Consistent argument)
    (hreload : reloadArgument readUuid argument = some reloaded) : Consistent reloaded := by
  obtain ⟨reference, hreference, rfl⟩ := Option.map_eq_some_iff.mp hreload
  refine ⟨rfl, fun hvalue => ?_⟩
  have hfalsy := h.2 hvalue
  show referenceTruthy reference = false
  cases hown : argument.reference with
  | none =>
    rw [hown] at hreference
    obtain rfl := Option.some.inj hreference
    rfl
  | some key =>
    rw [hown] at hfalsy hreference
    cases key with
    | uuid u => cases hfalsy
    | text s =>
      have hempty : s = "" := by simpa [referenceTruthy] using hfalsy
      rw [hempty, reloadReference, hread] at hreference
      cases hreference

/-- The validation leaves all but the errors of a consistent argument as it is. -/
theorem validate_of_consistent {argument : Argument} (h : Consistent argument) :
    ∃ errors, validateArgumentObject argument = { argument with errors } := by
  unfold validateArgumentObject
  split
  · exact ⟨_, rfl⟩
  · split
    · rename_i hboth
      rw [Bool.and_eq_true, Bool.not_eq_true'] at hboth
      rw [h.2 hboth.1] at hboth
      cases hboth.2
    · exact ⟨_, rfl⟩

/-- The errors of an argument do not matter to what was submitted. -/
theorem asSubmitted_errors {data : ArgumentRequest} {argument : Argument} {errors : List String}
    (h : AsSubmitted data argument) : AsSubmitted data { argument with errors } :=
  ⟨h.value, h.reference, h.selection, h.noSelection, h.isReference, h.getValue⟩

/-- **Every update of a run leaves the argument as it was submitted exactly if** every update
goes well, whatever it is constructed with and however often it is validated and loaded. -/
theorem lastAsSubmitted_iff {readUuid : String → Option UUID} (hread : readUuid "" = none)
    (name : String) (value : PyVal) (reference : Option Key) (selection : PyVal)
    (events : List ArgumentEvent) (state : EditedArgument) :
    Always (ArgumentStep readUuid) LastAsSubmitted
        { argument := Argument.init name value reference selection, last := none } events state ↔
      Run (Guarded (ArgumentStep readUuid) EventWell)
        { argument := Argument.init name value reference selection, last := none } events state := by
  refine @Run.always_iff _ _ (ArgumentStep readUuid) LastAsSubmitted
    (fun state => LastAsSubmitted state → Consistent state.argument) EventWell ?_ ?_ _ _ _
    (fun _ => consistent_init name value reference selection) fun _ h => by cases h
  · intro s event t hs hlast hstep hnext
    have hown := hs hlast
    cases event with
    | reload =>
      obtain ⟨argument, hreload, rfl⟩ := hstep
      exact consistent_reload hread hown hreload
    | validate =>
      obtain ⟨errors, herrors⟩ := validate_of_consistent hown
      cases hstep
      show Consistent (validateArgumentObject s.argument)
      rw [herrors]
      exact hown
    | update data =>
      obtain ⟨-, rfl⟩ := hstep
      exact consistent_of_asSubmitted (hnext data rfl)
  · intro s event t hs hlast hstep
    have hown := hs hlast
    cases event with
    | reload =>
      obtain ⟨argument, -, rfl⟩ := hstep
      exact iff_of_true (fun _ h => by cases h) trivial
    | validate =>
      obtain ⟨errors, herrors⟩ := validate_of_consistent hown
      cases hstep
      refine iff_of_true (fun data hdata => ?_) trivial
      show AsSubmitted data (validateArgumentObject s.argument)
      rw [herrors]
      exact asSubmitted_errors (hlast data hdata)
    | update data =>
      obtain ⟨haccepted, rfl⟩ := hstep
      refine Iff.trans ⟨fun h => h data rfl, fun h data' hdata' => ?_⟩
        (asSubmitted_iff hown haccepted)
      obtain rfl := Option.some.inj hdata'
      exact h

/-- A new value without a selection. -/
def newValue (v : PyVal) : ArgumentRequest :=
  { name := "x", value := some v, reference := none, selection := none, errors := none }

/-- A new argument with a value stays as it was submitted last. -/
theorem new_value_as_submitted :
    Always (ArgumentStep UUID.parse) LastAsSubmitted
      { argument := Argument.init "x" (.int 1) none .none, last := none }
      [.update (newValue (.int 2))]
      { argument := makeArgumentInstance (Argument.init "x" (.int 1) none .none) (newValue (.int 2))
        last := some (newValue (.int 2)) } := by
  refine (lastAsSubmitted_iff (by decide) _ _ _ _ _ _).mpr (.cons ⟨⟨rfl, ?_⟩, ⟨rfl, ?_⟩, rfl⟩ (.refl _))
  · intro hequal
    cases hequal
  · intro hnull
    cases hnull

/-- A value that takes the place of a reference leaves the flag of the reference. -/
theorem replaced_reference_keeps_flag :
    ∃ state, Run (ArgumentStep UUID.parse)
        { argument := Argument.init "x" .none (some (.uuid 1)) .none, last := none }
        [.update (newValue (.int 5))] state ∧ ¬LastAsSubmitted state := by
  refine ⟨_, .cons ⟨⟨rfl, fun hnull => by cases hnull⟩, rfl⟩ (.refl _), fun h => ?_⟩
  have hflag := (h _ rfl).isReference
  cases hflag

end Walkoff.Analysis
