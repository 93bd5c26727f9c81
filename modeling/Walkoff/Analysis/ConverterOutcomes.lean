import Walkoff.Analysis.SpecReadings

/-!
# What the converters of `validate_parameter` give and raise

Up to the texts of their errors, `convert_json`, `convert_array` and `__convert_json` are one
recursion over the shape of the specification. They return what the value reads as
(`reads_iff`); what they raise is a refusal, `InvalidApi`, or an exception that escapes
(`outcome_raises`, `escapes_raises`).
-/

set_option autoImplicit false

namespace Walkoff.Analysis

open Walkoff.Model
open Walkoff.Library (OrderedDict)

/-! ## The converters, up to the texts of their errors -/

/-- An `InvalidArgument` without its text. -/
def refusal : Exn :=
  .invalidArgument "" []

/-- An exception without its text. -/
def bare : Exn → Exn
  | .invalidArgument _ _ => refusal
  | e => e

/-- What a converter makes of an exception of a type's function. -/
def caught : Exn → Exn
  | .valueError => refusal
  | e => bare e

/-- Iterating over a value raises `TypeError` or nothing. -/
theorem iterate_error {value : PyVal} {e : Exn} (h : iterate value = .error e) :
    e = .typeError := by
  cases value with
  | list xs => cases h
  | str s => cases h
  | surrogates codePoints => cases h
  | dict items => cases h
  | _ =>
    cases h
    rfl

/-- Reading a text as an object refuses it or gives the object the text holds. -/
theorem loadObjectText_bare (text : String) (value : PyVal) (messagePrefix : String) :
    (loadObjectText text value messagePrefix).mapError bare =
      (objectOfText text).elim (.error refusal) Except.ok := by
  unfold loadObjectText objectOfText
  cases JsonText.loads text with
  | none => rfl
  | some v => cases v <;> rfl

/-- The same of any value. -/
theorem loadObject_bare (value : PyVal) (messagePrefix : String) :
    (loadObject value messagePrefix).mapError bare =
      (asObject value).elim (.error refusal) Except.ok := by
  cases value with
  | str s => exact loadObjectText_bare s _ messagePrefix
  | surrogates codePoints => exact loadObjectText_bare _ _ messagePrefix
  | _ => rfl

section

variable (lib : Libraries) (messagePrefix : String)

/-- `convert_json`, up to the texts of its errors. -/
def outcome (spec value : PyVal) : Except Exn PyVal :=
  (convertJson lib spec value messagePrefix).mapError bare

/-- An entry of an object is converted by its property. -/
def entryOutcome (properties : PyVal) (item : String × PyVal) : Except Exn (String × PyVal) :=
  match properties.entry item.1 with
  | some property => (outcome lib messagePrefix property item.2).map (Prod.mk item.1)
  | none => .error refusal

variable {lib messagePrefix} {spec value : PyVal}

/-- A schema that names a primitive type converts by it. -/
theorem outcome_named {name : String} (h : Names spec name) {type : PrimitiveType}
    (hname : PrimitiveType.ofName name = some type) :
    outcome lib messagePrefix spec value = (makeType lib value type).mapError caught := by
  unfold outcome
  rw [convertJson, h.1]
  dsimp only
  rw [hname]
  dsimp only
  cases makeType lib value type with
  | ok w => rfl
  | error e => cases e <;> rfl

/-- A schema that names an array converts as one. -/
theorem convertJson_array (h : Names spec "array") :
    convertJson lib spec value messagePrefix = convertArray lib spec value messagePrefix := by
  have hname : PrimitiveType.ofName "array" = none := by decide
  rw [convertJson, h.1]
  dsimp only
  rw [hname]
  dsimp only
  rw [if_pos rfl]

/-- A schema that names an object converts as one. -/
theorem convertJson_object (h : Names spec "object") :
    convertJson lib spec value messagePrefix = convertObject lib spec value messagePrefix := by
  have hname : PrimitiveType.ofName "object" = none := by decide
  have harray : ("object" : String) ≠ "array" := by decide
  rw [convertJson, h.1]
  dsimp only
  rw [hname]
  dsimp only
  rw [if_neg harray, if_pos rfl]

/-- An array without items takes the value as it is. -/
theorem convertArray_any (hitems : spec.entry "items" = none) :
    convertArray lib spec value messagePrefix = .ok value := by
  rw [convertArray]
  split
  · rfl
  · rename_i items hfound
    rw [hitems] at hfound
    cases hfound

/-- An array is converted element by element, whichever of the two loops does it. -/
theorem convertArray_bare {items : PyVal} (hitems : spec.entry "items" = some items)
    {name : String} (hitem : Names items name) :
    (convertArray lib spec value messagePrefix).mapError bare =
      (iterate value).bind fun xs =>
        (xs.mapM fun x => outcome lib messagePrefix items x).map PyVal.list := by
  rw [convertArray]
  split
  · rename_i hnone
    rw [hitems] at hnone
    cases hnone
  rename_i found hfound
  rw [hitems] at hfound
  cases hfound
  rw [hitem.1]
  dsimp only
  cases hxs : iterate value with
  | error e =>
    have he : e = .typeError := iterate_error hxs
    subst he
    cases PrimitiveType.ofName name with
    | some type =>
      dsimp only
      unfold convertPrimitiveArray
      rw [hxs]
      rfl
    | none => rfl
  | ok xs =>
    cases htype : PrimitiveType.ofName name with
    | some type =>
      have helement : (fun x => outcome lib messagePrefix items x) =
          fun x => (makeType lib x type).mapError caught :=
        funext fun x => outcome_named hitem htype
      dsimp only [Except.bind]
      rw [helement, ← Library.Except.mapError_mapM]
      unfold convertPrimitiveArray
      rw [hxs]
      dsimp only [bind, Except.bind]
      cases xs.mapM fun x => makeType lib x type with
      | ok ys => rfl
      | error e => cases e <;> rfl
    | none =>
      have helement := Library.Except.mapError_mapM bare
        (fun x => convertJson lib items x messagePrefix) xs
      dsimp only [bind, Except.bind]
      unfold outcome
      rw [← helement]
      cases xs.mapM fun x => convertJson lib items x messagePrefix with
      | ok ys => rfl
      | error e => rfl

/-- Rewriting the exception leaves successes alone. -/
theorem mapError_eq_ok {α : Type} {x : Except Exn α} {f : Exn → Exn} {a : α} :
    x.mapError f = .ok a ↔ x = .ok a := by
  cases x with
  | ok b => rfl
  | error e =>
    constructor
    · rintro ⟨⟩
    · rintro ⟨⟩

/-- A mapped outcome succeeds exactly if the outcome does. -/
theorem map_eq_ok {α β : Type} {x : Except Exn α} {f : α → β} {b : β} :
    x.map f = .ok b ↔ ∃ a, x = .ok a ∧ f a = b := by
  cases x with
  | ok a =>
    constructor
    · rintro ⟨⟩
      exact ⟨a, rfl, rfl⟩
    · rintro ⟨_, ⟨⟩, rfl⟩
      rfl
  | error e =>
    constructor
    · rintro ⟨⟩
    · rintro ⟨_, ⟨⟩, _⟩

/-- A rewritten exception is the rewriting of one. -/
theorem mapError_eq_error {α : Type} {x : Except Exn α} {f : Exn → Exn} {e : Exn} :
    x.mapError f = .error e ↔ ∃ e', x = .error e' ∧ f e' = e := by
  cases x with
  | ok a =>
    constructor
    · rintro ⟨⟩
    · rintro ⟨_, ⟨⟩, _⟩
  | error e' =>
    constructor
    · rintro ⟨⟩
      exact ⟨e', rfl, rfl⟩
    · rintro ⟨_, ⟨⟩, rfl⟩
      rfl

/-- Mapping the value leaves the exception. -/
theorem map_eq_error {α β : Type} {x : Except Exn α} {f : α → β} {e : Exn} :
    x.map f = .error e ↔ x = .error e := by
  cases x with
  | ok a =>
    constructor
    · rintro ⟨⟩
    · rintro ⟨⟩
  | error e' =>
    constructor
    · rintro ⟨⟩
      rfl
    · rintro ⟨⟩
      rfl

/-- Messages and errors can be left out part by part. -/
theorem mapError_bind {α β : Type} (x : Except Exn α) (f : α → Except Exn β) :
    (x >>= f).mapError bare = (x.mapError bare).bind fun a => (f a).mapError bare := by
  cases x <;> rfl

/-! ### The outcome for each shape -/

/-- The outcome of a value under a schema of a primitive type. -/
theorem outcome_type {type : PrimitiveType} (h : shapeOf spec = some (.type type)) :
    outcome lib messagePrefix spec value = (makeType lib value type).mapError caught := by
  obtain ⟨name, hnames, hname⟩ := Shape.of_shapeOf h
  exact outcome_named hnames hname

/-- Under a schema of no known type every value is an invalid API. -/
theorem outcome_unknown (h : shapeOf spec = some .unknown) :
    outcome lib messagePrefix spec value = .error invalidApi := by
  obtain ⟨name, hnames, harray, hobject, hname⟩ := Shape.of_shapeOf h
  unfold outcome
  rw [convertJson, hnames.1]
  dsimp only
  rw [hname]
  dsimp only
  rw [if_neg harray, if_neg hobject]
  rfl

/-- Under an array without items every value is taken. -/
theorem outcome_array (h : shapeOf spec = some .array) :
    outcome lib messagePrefix spec value = .ok value := by
  obtain ⟨hnames, hitems⟩ := Shape.of_shapeOf h
  unfold outcome
  rw [convertJson_array hnames, convertArray_any hitems]
  rfl

/-- Under an array with items every member is converted by them. -/
theorem outcome_arrayOf {items : PyVal} (h : shapeOf spec = some (.arrayOf items))
    (hitems : Admitted items) :
    outcome lib messagePrefix spec value = (iterate value).bind fun xs =>
      (xs.mapM fun x => outcome lib messagePrefix items x).map PyVal.list := by
  obtain ⟨hnames, hitem⟩ := Shape.of_shapeOf h
  obtain ⟨name, hname⟩ := hitems.names
  rw [← convertArray_bare hitem hname, ← convertJson_array hnames]
  rfl

/-- Under an object without properties an object is taken and the rest is refused. -/
theorem outcome_object (h : shapeOf spec = some .object) :
    outcome lib messagePrefix spec value =
      (asObject value).elim (.error refusal) fun d => .ok (.dict d) := by
  obtain ⟨hnames, hproperties⟩ := Shape.of_shapeOf h
  unfold outcome
  rw [convertJson_object hnames, convertObject, mapError_bind, loadObject_bare]
  cases asObject value with
  | none => rfl
  | some d =>
    dsimp only [Option.elim, Except.bind]
    split
    · rfl
    · rename_i properties hfound
      rw [hproperties] at hfound
      cases hfound

/-- Under an object with properties every entry is converted by its property. -/
theorem outcome_objectOf {properties : PyVal} (h : shapeOf spec = some (.objectOf properties)) :
    outcome lib messagePrefix spec value = (asObject value).elim (.error refusal) fun d =>
      (d.mapM (entryOutcome lib messagePrefix properties)).map PyVal.dict := by
  obtain ⟨hnames, hproperties⟩ := Shape.of_shapeOf h
  unfold outcome
  rw [convertJson_object hnames, convertObject, mapError_bind, loadObject_bare]
  cases asObject value with
  | none => rfl
  | some d =>
    dsimp only [Option.elim, Except.bind]
    split
    · rename_i hnone
      rw [hproperties] at hnone
      cases hnone
    rename_i found hfound
    rw [hproperties] at hfound
    cases hfound
    rw [mapError_bind, Library.Except.mapError_mapM]
    have hdict : ∀ {x y : Except Exn (List (String × PyVal))}, x = y →
        (x.bind fun a => (pure (PyVal.dict a) : Except Exn PyVal).mapError bare) =
          y.map PyVal.dict := by
      rintro x _ rfl
      cases x <;> rfl
    refine hdict (congrArg (fun f => d.mapM f) (funext fun item => ?_))
    unfold entryOutcome outcome
    split
    · rename_i property hproperty
      rw [hproperty]
      dsimp only
      cases convertJson lib property item.2 messagePrefix <;> rfl
    · rename_i hnone
      rw [hnone]
      rfl

/-! ### What is read -/

/-- An entry converts exactly if its name has a property and its value converts by it. -/
theorem entryOutcome_eq_ok {properties : PyVal} {key : String} {x : PyVal}
    {item : String × PyVal} :
    entryOutcome lib messagePrefix properties (key, x) = .ok item ↔
      ∃ property y, properties.entry key = some property ∧
        outcome lib messagePrefix property x = .ok y ∧ item = (key, y) := by
  unfold entryOutcome
  dsimp only
  cases properties.entry key with
  | none =>
    constructor
    · rintro ⟨⟩
    · rintro ⟨_, _, ⟨⟩, _⟩
  | some property =>
    dsimp only
    rw [map_eq_ok]
    constructor
    · rintro ⟨y, hy, rfl⟩
      exact ⟨property, y, rfl, hy, rfl⟩
    · rintro ⟨_, y, hproperty, hy, rfl⟩
      cases hproperty
      exact ⟨y, hy, rfl⟩

/-- Members convert to members exactly if they read as them one by one. -/
theorem readsEach_iff {items : PyVal} (ih : ∀ x y,
    outcome lib messagePrefix items x = .ok y ↔ Reads lib items x y) (xs ys : List PyVal) :
    (xs.mapM fun x => outcome lib messagePrefix items x) = .ok ys ↔
      ReadsEach lib items xs ys := by
  induction xs generalizing ys with
  | nil =>
    constructor
    · rintro ⟨⟩
      exact .nil
    · rintro ⟨⟩
      rfl
  | cons x xs ihxs =>
    rw [Library.Except.mapM_cons_eq_ok]
    constructor
    · rintro ⟨y, ys', hx, hxs, rfl⟩
      exact .cons ((ih x y).mp hx) ((ihxs ys').mp hxs)
    · rintro (_ | ⟨hx, hxs⟩)
      exact ⟨_, _, (ih _ _).mpr hx, (ihxs _).mpr hxs, rfl⟩

/-- Entries convert to entries exactly if they read as them one by one. -/
theorem readsEntries_iff {properties : PyVal} (ih : ∀ key property,
    properties.entry key = some property → ∀ x y,
      outcome lib messagePrefix property x = .ok y ↔ Reads lib property x y)
    (d d' : List (String × PyVal)) :
    d.mapM (entryOutcome lib messagePrefix properties) = .ok d' ↔
      ReadsEntries lib properties d d' := by
  induction d generalizing d' with
  | nil =>
    constructor
    · rintro ⟨⟩
      exact .nil
    · rintro ⟨⟩
      rfl
  | cons item d ihd =>
    obtain ⟨key, x⟩ := item
    rw [Library.Except.mapM_cons_eq_ok]
    constructor
    · rintro ⟨item', d₁, hitem, hd, rfl⟩
      obtain ⟨property, y, hproperty, hx, rfl⟩ := entryOutcome_eq_ok.mp hitem
      exact .cons hproperty ((ih key property hproperty x y).mp hx) ((ihd d₁).mp hd)
    · rintro (_ | ⟨hproperty, hx, hd⟩)
      exact ⟨_, _, entryOutcome_eq_ok.mpr ⟨_, _, hproperty, (ih _ _ hproperty _ _).mpr hx, rfl⟩,
        (ihd _).mpr hd, rfl⟩

/-- **What a value becomes** under an admitted specification is what it reads as. -/
theorem reads_iff (hspec : Admitted spec) : ∀ value w,
    outcome lib messagePrefix spec value = .ok w ↔ Reads lib spec value w := by
  induction hspec with
  | type h =>
    intro value w
    rw [outcome_type h, mapError_eq_ok]
    exact ⟨fun hmake => .type h hmake, fun hreads => hreads.of_type h⟩
  | unknown h =>
    intro value w
    rw [outcome_unknown h]
    exact ⟨nofun, fun hreads => absurd h hreads.not_unknown⟩
  | array h =>
    intro value w
    rw [outcome_array h]
    constructor
    · rintro ⟨⟩
      exact .array h
    · intro hreads
      rw [hreads.of_array h]
  | arrayOf h hitems ih =>
    intro value w
    rw [outcome_arrayOf h hitems]
    constructor
    · intro hw
      obtain ⟨xs, hxs, hw⟩ := Library.Except.bind_eq_ok.mp hw
      obtain ⟨ys, hys, rfl⟩ := map_eq_ok.mp hw
      exact .arrayOf h hxs ((readsEach_iff ih xs ys).mp hys)
    · intro hreads
      obtain ⟨xs, ys, hxs, rfl, hys⟩ := hreads.of_arrayOf h
      have heach := (readsEach_iff ih xs ys).mpr hys
      exact Library.Except.bind_eq_ok.mpr ⟨xs, hxs, map_eq_ok.mpr ⟨ys, heach, rfl⟩⟩
  | object h =>
    intro value w
    rw [outcome_object h]
    constructor
    · intro hw
      cases hd : asObject value with
      | none =>
        rw [hd] at hw
        cases hw
      | some d =>
        rw [hd] at hw
        cases hw
        exact .object h hd
    · intro hreads
      obtain ⟨d, hd, rfl⟩ := hreads.of_object h
      rw [hd]
      rfl
  | objectOf h hproperties ih =>
    intro value w
    rw [outcome_objectOf h]
    constructor
    · intro hw
      cases hd : asObject value with
      | none =>
        rw [hd] at hw
        cases hw
      | some d =>
        rw [hd] at hw
        obtain ⟨d', hd', rfl⟩ := map_eq_ok.mp hw
        exact .objectOf h hd ((readsEntries_iff ih d d').mp hd')
    · intro hreads
      obtain ⟨d, d', hd, rfl, hd'⟩ := hreads.of_objectOf h
      rw [hd]
      exact map_eq_ok.mpr ⟨d', (readsEntries_iff ih d d').mpr hd', rfl⟩

/-! ### What is raised -/

/-- An entry fails exactly if its name has no property or its value fails by it. -/
theorem entryOutcome_eq_error {properties : PyVal} {key : String} {x : PyVal} {e : Exn} :
    entryOutcome lib messagePrefix properties (key, x) = .error e ↔
      (properties.entry key = none ∧ e = refusal) ∨
      ∃ property, properties.entry key = some property ∧
        outcome lib messagePrefix property x = .error e := by
  unfold entryOutcome
  dsimp only
  cases properties.entry key with
  | none =>
    constructor
    · rintro ⟨⟩
      exact .inl ⟨rfl, rfl⟩
    · rintro (⟨-, rfl⟩ | ⟨_, ⟨⟩, _⟩)
      rfl
  | some property =>
    dsimp only
    rw [map_eq_error]
    constructor
    · intro h
      exact .inr ⟨property, rfl, h⟩
    · rintro (⟨⟨⟩, _⟩ | ⟨_, ⟨⟩, h⟩)
      exact h

/-- A value that cannot be iterated over raises `TypeError` as an array. -/
theorem iterate_stray (hxs : iterate value = .error .typeError) :
    (iterate value).bind (fun xs =>
      (xs.mapM fun x => outcome lib messagePrefix spec x).map PyVal.list) = .error .typeError := by
  rw [hxs]
  rfl

/-- What comes out of a converter that raises: one of this program's own exceptions, or one
that escapes. -/
def Raised (unknown escapes : Prop) (e : Exn) : Prop :=
  e = refusal ∨ (e = invalidApi ∧ unknown) ∨ Stray e ∧ escapes

/-- An exception that is explained stays explained under weaker conditions. -/
theorem Raised.mono {unknown escapes unknown' escapes' : Prop} {e : Exn}
    (h : Raised unknown escapes e) (hunknown : unknown → unknown')
    (hescapes : escapes → escapes') : Raised unknown' escapes' e := by
  rcases h with h | ⟨h, h'⟩ | ⟨h, h'⟩
  · exact .inl h
  · exact .inr (.inl ⟨h, hunknown h'⟩)
  · exact .inr (.inr ⟨h, hescapes h'⟩)

/-- What the members of a list raise is explained by the items. -/
theorem each_raises {items : PyVal} (hitems : Admitted items)
    (ih : ∀ x, FromJson x → ∀ e, outcome lib messagePrefix items x = .error e →
      Raised (HasUnknown items) (Escapes lib items x) e)
    {xs : List PyVal} (hxs : ∀ x ∈ xs, FromJson x) {e : Exn}
    (he : (xs.mapM fun x => outcome lib messagePrefix items x) = .error e) :
    Raised (HasUnknown items) (EscapesEach lib items xs) e := by
  induction xs with
  | nil => cases he
  | cons x xs ihxs =>
    obtain ⟨hx, hrest⟩ := List.forall_mem_cons.mp hxs
    rcases Library.Except.mapM_cons_eq_error.mp he with he | ⟨y, hy, he⟩
    · exact (ih x hx e he).mono id .head
    · exact (ihxs hrest he).mono id (.tail ((reads_iff hitems x y).mp hy))

/-- What the entries of an object raise is explained by the properties. -/
theorem entries_raise {properties : PyVal}
    (hproperties : ∀ key property, properties.entry key = some property → Admitted property)
    (ih : ∀ key property, properties.entry key = some property → ∀ x, FromJson x → ∀ e,
      outcome lib messagePrefix property x = .error e →
        Raised (HasUnknown property) (Escapes lib property x) e)
    {d : List (String × PyVal)} (hd : ∀ item ∈ d, FromJson item.2) {e : Exn}
    (he : d.mapM (entryOutcome lib messagePrefix properties) = .error e) :
    Raised (∃ key property, properties.entry key = some property ∧ HasUnknown property)
      (EscapesEntries lib properties d) e := by
  induction d with
  | nil => cases he
  | cons item d ihd =>
    obtain ⟨key, x⟩ := item
    obtain ⟨hx, hrest⟩ := List.forall_mem_cons.mp hd
    rcases Library.Except.mapM_cons_eq_error.mp he with he | ⟨y, hy, he⟩
    · rcases entryOutcome_eq_error.mp he with ⟨-, rfl⟩ | ⟨property, hproperty, he⟩
      · exact .inl rfl
      · exact (ih key property hproperty x hx e he).mono
          (fun hunknown => ⟨key, property, hproperty, hunknown⟩) (.head hproperty)
    · obtain ⟨property, y', hproperty, hy', -⟩ := entryOutcome_eq_ok.mp hy
      exact (ihd hrest he).mono id
        (.tail hproperty ((reads_iff (hproperties key property hproperty) x y').mp hy'))

/-- **What the converters raise** under an admitted specification: a refusal, `InvalidApi` for
an unknown type, or something that escapes from a part they get to. -/
theorem outcome_raises (hlib : FollowsDocs lib) (hspec : Admitted spec) :
    ∀ value, FromJson value → ∀ e, outcome lib messagePrefix spec value = .error e →
      Raised (HasUnknown spec) (Escapes lib spec value) e := by
  induction hspec with
  | type h =>
    intro value hvalue e he
    rw [outcome_type h] at he
    obtain ⟨e', he', rfl⟩ := mapError_eq_error.mp he
    rcases makeType_error hlib hvalue he' with rfl | ⟨hstray, hunfit⟩
    · exact .inl rfl
    · have hcaught : Stray (caught e') := by
        rcases hstray with rfl | rfl
        · exact .inl rfl
        · exact .inr rfl
      exact .inr (.inr ⟨hcaught, .type h hunfit⟩)
  | unknown h =>
    intro value _ e he
    rw [outcome_unknown h] at he
    cases he
    exact .inr (.inl ⟨rfl, .here h⟩)
  | array h =>
    intro value _ e he
    rw [outcome_array h] at he
    cases he
  | arrayOf h hitems ih =>
    intro value hvalue e he
    rw [outcome_arrayOf h hitems] at he
    rcases Library.Except.bind_eq_error.mp he with hxs | ⟨xs, hxs, he⟩
    · cases iterate_error hxs
      exact .inr (.inr ⟨.inl rfl, .loop h hxs⟩)
    · exact (each_raises hitems ih (hvalue.of_iterate hxs) (map_eq_error.mp he)).mono (.items h)
        (.element h hxs)
  | object h =>
    intro value _ e he
    rw [outcome_object h] at he
    cases hd : asObject value with
    | none =>
      rw [hd] at he
      cases he
      exact .inl rfl
    | some d =>
      rw [hd] at he
      cases he
  | objectOf h hproperties ih =>
    intro value hvalue e he
    rw [outcome_objectOf h] at he
    cases hd : asObject value with
    | none =>
      rw [hd] at he
      cases he
      exact .inl rfl
    | some d =>
      rw [hd] at he
      refine (entries_raise hproperties ih (hvalue.of_asObject hd) (map_eq_error.mp he)).mono ?_
        (.entry h hd)
      rintro ⟨key, property, hproperty, hunknown⟩
      exact .property h hproperty hunknown

/-- A member that escapes makes the list raise a stray exception. -/
theorem escapesEach_raises {items : PyVal} (hitems : Admitted items)
    (ih : ∀ x, Escapes lib items x → ∃ e, outcome lib messagePrefix items x = .error e ∧ Stray e)
    {xs : List PyVal} (h : EscapesEach lib items xs) :
    ∃ e, (xs.mapM fun x => outcome lib messagePrefix items x) = .error e ∧ Stray e := by
  induction xs with
  | nil => cases h
  | cons x xs ihxs =>
    cases h with
    | head hx =>
      obtain ⟨e, he, hstray⟩ := ih x hx
      exact ⟨e, Library.Except.mapM_cons_eq_error.mpr (.inl he), hstray⟩
    | tail hx hxs =>
      obtain ⟨e, he, hstray⟩ := ihxs hxs
      exact ⟨e, Library.Except.mapM_cons_eq_error.mpr
        (.inr ⟨_, (reads_iff hitems x _).mpr hx, he⟩), hstray⟩

/-- An entry that escapes makes the object raise a stray exception. -/
theorem escapesEntries_raises {properties : PyVal}
    (hproperties : ∀ key property, properties.entry key = some property → Admitted property)
    (ih : ∀ key property, properties.entry key = some property → ∀ x, Escapes lib property x →
      ∃ e, outcome lib messagePrefix property x = .error e ∧ Stray e)
    {d : List (String × PyVal)} (h : EscapesEntries lib properties d) :
    ∃ e, d.mapM (entryOutcome lib messagePrefix properties) = .error e ∧ Stray e := by
  induction d with
  | nil => cases h
  | cons item d ihd =>
    cases h with
    | head hproperty hx =>
      obtain ⟨e, he, hstray⟩ := ih _ _ hproperty _ hx
      exact ⟨e, Library.Except.mapM_cons_eq_error.mpr
        (.inl (entryOutcome_eq_error.mpr (.inr ⟨_, hproperty, he⟩))), hstray⟩
    | tail hproperty hx hd =>
      obtain ⟨e, he, hstray⟩ := ihd hd
      refine ⟨e, Library.Except.mapM_cons_eq_error.mpr (.inr ?_), hstray⟩
      exact ⟨_, entryOutcome_eq_ok.mpr
        ⟨_, _, hproperty, (reads_iff (hproperties _ _ hproperty) _ _).mpr hx, rfl⟩, he⟩

/-- What escapes is raised. -/
theorem escapes_raises (hspec : Admitted spec) : ∀ value, Escapes lib spec value →
    ∃ e, outcome lib messagePrefix spec value = .error e ∧ Stray e := by
  induction hspec with
  | type h =>
    intro value hescapes
    obtain ⟨e, he, hstray⟩ := (hescapes.of_type h).raises
    refine ⟨caught e, ?_, ?_⟩
    · rw [outcome_type h, he]
      rfl
    · rcases hstray with rfl | rfl
      · exact .inl rfl
      · exact .inr rfl
  | unknown h =>
    intro value hescapes
    exact absurd h hescapes.has_parts.1
  | array h =>
    intro value hescapes
    exact absurd h hescapes.has_parts.2.1
  | arrayOf h hitems ih =>
    intro value hescapes
    rw [outcome_arrayOf h hitems]
    rcases hescapes.of_arrayOf h with hxs | ⟨xs, hxs, heach⟩
    · exact ⟨_, iterate_stray hxs, .inl rfl⟩
    · obtain ⟨e, he, hstray⟩ := escapesEach_raises hitems ih heach
      exact ⟨e, Library.Except.bind_eq_error.mpr (.inr ⟨xs, hxs, map_eq_error.mpr he⟩), hstray⟩
  | object h =>
    intro value hescapes
    exact absurd h hescapes.has_parts.2.2
  | objectOf h hproperties ih =>
    intro value hescapes
    rw [outcome_objectOf h]
    obtain ⟨d, hd, hentries⟩ := hescapes.of_objectOf h
    rw [hd]
    obtain ⟨e, he, hstray⟩ := escapesEntries_raises hproperties ih hentries
    exact ⟨e, map_eq_error.mpr he, hstray⟩

end

end Walkoff.Analysis
