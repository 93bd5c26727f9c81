import Walkoff.Analysis.ConverterOutcomes

/-!
# When `validate_parameter` is total

Under every specification a value should come out converted, of its type and within its
constraints at every level, or be refused; and only a list should count as an array. This
fails where a converter meets a null, a list or an object for a number inside an array or an
object, where it loops over something that is no list, and where the schema validator itself
raises. `handledTotally_iff` says exactly when it holds.
-/

set_option autoImplicit false

namespace Walkoff.Analysis

open Walkoff.Model
open Walkoff.Library (OrderedDict)

/-! ## Results of a type -/

/-- The values of a type. -/
def OfType (w : PyVal) : PrimitiveType → Prop
  | .integer | .user | .role => ∃ i, w = .int i
  | .number => IsFloat w
  | .boolean => ∃ b, w = .bool b
  | .string => (∃ s, w = .str s) ∨ ∃ codePoints, w = .surrogates codePoints

/-- A value is of the specified type at every level. -/
inductive HasType : PyVal → PyVal → Prop
  | type {spec w : PyVal} {type : PrimitiveType} (h : shapeOf spec = some (.type type))
      (hw : OfType w type) : HasType spec w
  | array {spec : PyVal} (h : shapeOf spec = some .array) (xs : List PyVal) :
      HasType spec (.list xs)
  | arrayOf {spec items : PyVal} {xs : List PyVal} (h : shapeOf spec = some (.arrayOf items))
      (hxs : ∀ x ∈ xs, HasType items x) : HasType spec (.list xs)
  | object {spec : PyVal} (h : shapeOf spec = some .object) (d : List (String × PyVal)) :
      HasType spec (.dict d)
  | objectOf {spec properties : PyVal} {d : List (String × PyVal)}
      (h : shapeOf spec = some (.objectOf properties))
      (hknown : ∀ item ∈ d, (properties.entry item.1).isSome = true)
      (hd : ∀ item ∈ d, ∀ property, properties.entry item.1 = some property →
        HasType property item.2) : HasType spec (.dict d)

/-- A list is given for every array. -/
inductive ListsGiven : PyVal → PyVal → Prop
  | type {spec value : PyVal} {type : PrimitiveType} (h : shapeOf spec = some (.type type)) :
      ListsGiven spec value
  | unknown {spec value : PyVal} (h : shapeOf spec = some .unknown) : ListsGiven spec value
  | array {spec : PyVal} (h : shapeOf spec = some .array) (xs : List PyVal) :
      ListsGiven spec (.list xs)
  | arrayOf {spec items : PyVal} {xs : List PyVal} (h : shapeOf spec = some (.arrayOf items))
      (hxs : ∀ x ∈ xs, ListsGiven items x) : ListsGiven spec (.list xs)
  | object {spec value : PyVal} (h : shapeOf spec = some .object) : ListsGiven spec value
  | objectOf {spec value properties : PyVal} (h : shapeOf spec = some (.objectOf properties))
      (hd : ∀ d, asObject value = some d → ∀ item ∈ d, ∀ property,
        properties.entry item.1 = some property → ListsGiven property item.2) :
      ListsGiven spec value

/-- The validator accepts a value and all its parts. -/
inductive SatisfiesAll (lib : Libraries) : PyVal → PyVal → Prop
  | intro {schema w : PyVal} (haccepted : lib.draft4 schema w = .ok none)
      (hitems : ∀ items xs, shapeOf schema = some (.arrayOf items) → w = .list xs →
        ∀ x ∈ xs, SatisfiesAll lib items x)
      (hproperties : ∀ properties d, shapeOf schema = some (.objectOf properties) →
        w = .dict d → ∀ item ∈ d, ∀ property, properties.entry item.1 = some property →
          SatisfiesAll lib property item.2) : SatisfiesAll lib schema w

/-! ## A parameter -/

/-- The specification of a parameter: its own dictionary if this has a type, else its
schema. -/
def specOf (param : ParamApi) : Option PyVal :=
  match param.schema.entry "type" with
  | some _ => some param.schema
  | none => param.schema.entry "schema"

/-- How a parameter is handled: by the function of its type, by a converter, or not at all. -/
inductive Handling where
  | primitive (type : PrimitiveType)
  | converted
  | refused

/-- How `validate_parameter` handles a parameter of a specification. -/
def handling (param : ParamApi) (spec : PyVal) : Handling :=
  match param.schema.entry "type" with
  | none => .converted
  | some _ =>
    match shapeOf spec with
    | some (.type type) => .primitive type
    | some .array | some (.arrayOf _) => .converted
    | _ => .refused

/-- The schema the converted value is validated against. -/
def checkedSchema (param : ParamApi) (spec : PyVal) : PyVal :=
  match param.schema.entry "type" with
  | none => spec
  | some _ =>
    match shapeOf spec with
    | some (.type type) =>
      (if type = .user ∨ type = .role then handleUserRolesValidation spec
        else spec).withoutEntry "required"
    | _ => arraySchema spec

section

variable (lib : Libraries) (value : PyVal) (param : ParamApi) (spec : PyVal)
  (messagePrefix : String)

/-- **A value is handled totally**: what is returned is of the specified type, accepted by the
validator at every level and made of lists where arrays are specified; what is raised is an
`InvalidArgument`, or `InvalidApi` if a type is unknown. Only `None` for a parameter that is
not required stays as it is. -/
structure HandledTotally : Prop where
  returns : ∀ w, validateParameter lib value param messagePrefix = .ok w →
    (value = .none ∧ param.required ≠ some true ∧ w = .none) ∨
      HasType spec w ∧ SatisfiesAll lib (checkedSchema param spec) w ∧ ListsGiven spec value
  raises : ∀ e, validateParameter lib value param messagePrefix = .error e →
    (∃ message errors, e = .invalidArgument message errors) ∨ (e = invalidApi ∧ HasUnknown spec)

/-- The function of a type raises an `OverflowError`. -/
def Overflows : PrimitiveType → Prop
  | .integer | .user | .role => Infinite value
  | .number => lib.float value = .error overflowError
  | .boolean | .string => False

/-- An exception that is not caught: of a primitive parameter only the `OverflowError`. -/
def NotCaught : Prop :=
  match handling param spec with
  | .primitive type => Overflows lib value type
  | .converted => Escapes lib spec value
  | .refused => False

/-- What the value of a parameter reads as, if there is a conversion. -/
def ReadsAs (w : PyVal) : Prop :=
  handling param spec ≠ .refused ∧ Reads lib spec value w

/-- No exception of a conversion goes uncaught; the validator comes to a verdict on what the
value reads as, and accepts it only if a list was given for every array. -/
structure Convertible : Prop where
  caught : ¬NotCaught lib value param spec
  judged : ∀ w, ReadsAs lib value param spec w →
    ∃ verdict, lib.draft4 (checkedSchema param spec) w = .ok verdict
  lists : ∀ w, ReadsAs lib value param spec w →
    lib.draft4 (checkedSchema param spec) w = .ok none → ListsGiven spec value

end

/-! ## The entries of a dictionary -/

/-- Writing one entry leaves the others. -/
theorem PyVal.entry_withEntry_of_ne {key other : String} (h : other ≠ key) (v spec : PyVal) :
    (spec.withEntry key v).entry other = spec.entry other := by
  cases spec with
  | dict items => exact OrderedDict.get?_set_of_ne h v items
  | _ => rfl

/-- In a dictionary, a written entry is read back. -/
theorem PyVal.entry_withEntry_self {key other : String} {spec u : PyVal}
    (h : spec.entry other = some u) (v : PyVal) :
    (spec.withEntry key v).entry key = some v := by
  cases spec with
  | dict items => exact OrderedDict.get?_set_self key v items
  | _ => cases h

/-- Taking one entry out leaves the others. -/
theorem PyVal.entry_withoutEntry_of_ne {key other : String} (h : other ≠ key) (spec : PyVal) :
    (spec.withoutEntry key).entry other = spec.entry other := by
  cases spec with
  | dict items =>
    show OrderedDict.get? other (OrderedDict.pop key items) = OrderedDict.get? other items
    rw [OrderedDict.get?_pop, if_neg h]
  | _ => rfl

/-- The shape of a specification that names a type of `TYPE_MAP`. -/
theorem shapeOf_of_names {spec : PyVal} {name : String} (h : Names spec name)
    {type : PrimitiveType} (hname : PrimitiveType.ofName name = some type) :
    shapeOf spec = some (.type type) := by
  have harray : name ≠ "array" := by
    rintro rfl
    cases hname
  have hobject : name ≠ "object" := by
    rintro rfl
    cases hname
  unfold shapeOf
  rw [h.1, h.2]
  split
  · rename_i heq _
    cases heq
    exact absurd rfl harray
  · rename_i heq _
    cases heq
    exact absurd rfl hobject
  · rename_i heq _
    cases heq
    rw [hname]
  · rename_i hnone
    exact absurd rfl (hnone _ rfl)

/-- The schema a user or a role is validated against names an integer. -/
theorem names_handleUserRolesValidation {spec : PyVal} {name : String} (h : Names spec name) :
    Names (handleUserRolesValidation spec) "integer" := by
  have htype : (spec.withEntry "type" (.str "integer")).entry "type" = some (.str "integer") :=
    PyVal.entry_withEntry_self h.1 _
  have href := (PyVal.entry_withEntry_of_ne (show "$ref" ≠ "type" by decide) (.str "integer")
    spec).trans h.2
  unfold handleUserRolesValidation
  dsimp only
  split
  · refine ⟨?_, ?_⟩
    · rw [PyVal.entry_withEntry_of_ne (by decide)]
      exact htype
    · rw [PyVal.entry_withEntry_of_ne (by decide)]
      exact href
  · exact ⟨htype, href⟩

/-- A schema that names an array and has items is one of an array of these. -/
theorem shapeOf_arrayOf {spec items : PyVal} (h : Names spec "array")
    (hitems : spec.entry "items" = some items) : shapeOf spec = some (.arrayOf items) := by
  unfold shapeOf
  rw [h.1, h.2, hitems]
  rfl

/-- An array without items is validated against its schema as it stands. -/
theorem arraySchema_array {spec : PyVal} (h : shapeOf spec = some .array) :
    arraySchema spec = spec := by
  unfold arraySchema
  rw [(Shape.of_shapeOf h).2]

/-- Items that are users or roles are integers to the validator; nothing else changes. -/
theorem arraySchema_arrayOf {spec items : PyVal} (h : shapeOf spec = some (.arrayOf items))
    (hitems : Admitted items) :
    arraySchema spec = spec ∨ ∃ type, shapeOf items = some (.type type) ∧
      shapeOf (arraySchema spec) = some (.arrayOf (handleUserRolesValidation items)) ∧
      shapeOf (handleUserRolesValidation items) = some (.type .integer) := by
  obtain ⟨hnames, hentry⟩ := Shape.of_shapeOf h
  obtain ⟨name, hname⟩ := hitems.names
  unfold arraySchema
  rw [hentry]
  dsimp only
  split
  · rename_i hrole
    right
    have htype : ∃ type, PrimitiveType.ofName name = some type := by
      rw [hname.1] at hrole
      rcases hrole with hrole | hrole
      · cases hrole
        exact ⟨.user, rfl⟩
      · cases hrole
        exact ⟨.role, rfl⟩
    obtain ⟨type, htype⟩ := htype
    refine ⟨type, shapeOf_of_names hname htype, ?_, ?_⟩
    · refine shapeOf_arrayOf ⟨?_, ?_⟩ (PyVal.entry_withEntry_self hentry _)
      · rw [PyVal.entry_withEntry_of_ne (by decide)]
        exact hnames.1
      · rw [PyVal.entry_withEntry_of_ne (by decide)]
        exact hnames.2
    · exact shapeOf_of_names (names_handleUserRolesValidation hname) rfl
  · exact .inl rfl

/-! ## Types and constraints at every level -/

section

variable {lib : Libraries} {spec value w : PyVal}

/-- A value made of a type is of this type. -/
theorem ofType_of_makeType (hlib : FollowsDocs lib) {type : PrimitiveType}
    (h : makeType lib value type = .ok w) : OfType w type := by
  have hint : (do pure (PyVal.int (← pyInt value)) : Except Exn PyVal) = .ok w →
      ∃ i, w = .int i := by
    intro h
    obtain ⟨i, -, hi⟩ := Library.Except.bind_eq_ok.mp h
    cases hi
    exact ⟨i, rfl⟩
  have hdumps : (do pure (PyVal.str (← value.dumps)) : Except Exn PyVal) = .ok w →
      ∃ s, w = .str s := by
    intro h
    obtain ⟨s, -, hs⟩ := Library.Except.bind_eq_ok.mp h
    cases hs
    exact ⟨s, rfl⟩
  cases type with
  | integer => exact hint h
  | user => exact hint h
  | role => exact hint h
  | number => exact hlib.float_ok value w h
  | boolean => exact hlib.boolean_ok value w h
  | string =>
    cases value with
    | list xs => exact .inl (hdumps h)
    | dict items => exact .inl (hdumps h)
    | surrogates codePoints =>
      cases h
      exact .inr ⟨codePoints, rfl⟩
    | _ =>
      cases h
      exact .inl ⟨_, rfl⟩

/-- Each member read is read from a member. -/
theorem ReadsEach.exists_of_mem {items : PyVal} {xs ys : List PyVal}
    (h : ReadsEach lib items xs ys) {y : PyVal} (hy : y ∈ ys) : ∃ x, Reads lib items x y := by
  induction xs generalizing ys with
  | nil =>
    cases h
    cases hy
  | cons x xs ih =>
    cases h with
    | cons hx hxs =>
      rcases List.mem_cons.mp hy with rfl | hy
      · exact ⟨x, hx⟩
      · exact ih hxs hy

/-- Each entry read is read by the property of its name. -/
theorem ReadsEntries.exists_of_mem {properties : PyVal} {d d' : List (String × PyVal)}
    (h : ReadsEntries lib properties d d') {item : String × PyVal} (hitem : item ∈ d') :
    ∃ property x, properties.entry item.1 = some property ∧ Reads lib property x item.2 := by
  induction d generalizing d' with
  | nil =>
    cases h
    cases hitem
  | cons entry d ih =>
    cases h with
    | cons hproperty hx hd =>
      rcases List.mem_cons.mp hitem with rfl | hitem
      · exact ⟨_, _, hproperty, hx⟩
      · exact ih hd hitem

/-- What a value reads as is of the specified type, if the validator accepts its parts: this
is what makes an array without items a list. -/
theorem hasType_of_reads (hlib : FollowsDocs lib) (hspec : Admitted spec) :
    ∀ value w, Reads lib spec value w → SatisfiesAll lib spec w → HasType spec w := by
  induction hspec with
  | type h =>
    intro value w hreads _
    exact .type h (ofType_of_makeType hlib (hreads.of_type h))
  | unknown h =>
    intro value w hreads _
    exact absurd h hreads.not_unknown
  | array h =>
    rintro value w - ⟨haccepted, -, -⟩
    obtain ⟨xs, rfl⟩ := hlib.draft4_array _ w haccepted (Shape.of_shapeOf h).1
    exact .array h xs
  | arrayOf h hitems ih =>
    rintro value w hreads ⟨-, hparts, -⟩
    obtain ⟨xs, ys, -, rfl, hys⟩ := hreads.of_arrayOf h
    refine .arrayOf h fun y hy => ?_
    obtain ⟨x, hx⟩ := hys.exists_of_mem hy
    exact ih x y hx (hparts _ _ h rfl y hy)
  | object h =>
    intro value w hreads _
    obtain ⟨d, -, rfl⟩ := hreads.of_object h
    exact .object h d
  | objectOf h hproperties ih =>
    rintro value w hreads ⟨-, -, hparts⟩
    obtain ⟨d, d', -, rfl, hd'⟩ := hreads.of_objectOf h
    refine .objectOf h (fun item hitem => ?_) fun item hitem property hproperty => ?_
    · obtain ⟨property, x, hproperty, -⟩ := hd'.exists_of_mem hitem
      rw [hproperty]
      rfl
    · obtain ⟨property', x, hproperty', hx⟩ := hd'.exists_of_mem hitem
      cases hproperty.symm.trans hproperty'
      exact ih _ _ hproperty x item.2 hx (hparts _ _ h rfl item hitem _ hproperty)

/-- A value the validator accepts has parts that it accepts. -/
theorem satisfiesAll_of_accepted (hlib : FollowsDocs lib) (hspec : Admitted spec) :
    ∀ w, lib.draft4 spec w = .ok none → SatisfiesAll lib spec w := by
  induction hspec with
  | arrayOf h hitems ih =>
    intro w haccepted
    refine .intro haccepted (fun items xs h' hw x hx => ?_) fun _ _ h' => ?_
    · cases h.symm.trans h'
      subst hw
      obtain ⟨hnames, hentry⟩ := Shape.of_shapeOf h
      obtain ⟨fields, rfl⟩ := hitems.isDict
      exact ih x (hlib.draft4_items _ fields xs haccepted hnames.2 hentry x hx)
    · cases h.symm.trans h'
  | objectOf h hproperties ih =>
    intro w haccepted
    refine .intro haccepted (fun _ _ h' => ?_) fun properties d h' hw item hitem property hp => ?_
    · cases h.symm.trans h'
    · cases h.symm.trans h'
      subst hw
      obtain ⟨hnames, hentry⟩ := Shape.of_shapeOf h
      exact ih _ _ hp item.2
        (hlib.draft4_properties _ _ d haccepted hnames.2 hentry item hitem property hp)
  | type h =>
    intro w haccepted
    exact .intro haccepted (fun _ _ h' => by cases h.symm.trans h')
      fun _ _ h' => by cases h.symm.trans h'
  | unknown h =>
    intro w haccepted
    exact .intro haccepted (fun _ _ h' => by cases h.symm.trans h')
      fun _ _ h' => by cases h.symm.trans h'
  | array h =>
    intro w haccepted
    exact .intro haccepted (fun _ _ h' => by cases h.symm.trans h')
      fun _ _ h' => by cases h.symm.trans h'
  | object h =>
    intro w haccepted
    exact .intro haccepted (fun _ _ h' => by cases h.symm.trans h')
      fun _ _ h' => by cases h.symm.trans h'

end

/-! ## The stages of `validate_parameter` -/

/-- What `validate_primitive_parameter` makes of an exception of its type's function. -/
def caughtHere : Exn → Exn
  | .valueError | .typeError => refusal
  | e => bare e

section

variable (lib : Libraries) (messagePrefix : String) (value : PyVal) (param : ParamApi)
  (spec : PyVal)

/-- The conversion, up to the texts of its errors. -/
def conversion : Except Exn PyVal :=
  match handling param spec with
  | .primitive type => (makeType lib value type).mapError caughtHere
  | .converted => outcome lib messagePrefix spec value
  | .refused => .error refusal

/-- The validation of what is converted. -/
def validation (schema w : PyVal) : Except Exn PyVal :=
  match lib.draft4 schema w with
  | .ok none => .ok w
  | .ok (some _) => .error refusal
  | .error e => .error (bare e)

end

section

variable {lib : Libraries} {messagePrefix : String} {value : PyVal} {param : ParamApi}
  {spec : PyVal}

/-- Validation raises what the library raises, its message and errors aside. -/
theorem conforming_bare (schema w : PyVal) :
    (conforming lib schema w value messagePrefix).mapError bare = validation lib schema w := by
  unfold conforming validation
  cases lib.draft4 schema w with
  | error e => rfl
  | ok verdict => cases verdict <;> rfl

/-- A primitive is made of its type and then validated, messages and errors aside. -/
theorem validatePrimitiveParameter_bare {type : PrimitiveType} {name : String} :
    (validatePrimitiveParameter lib value spec type name messagePrefix false).mapError bare =
      ((makeType lib value type).mapError caughtHere).bind (validation lib
        ((if type = .user ∨ type = .role then handleUserRolesValidation spec
          else spec).withoutEntry "required")) := by
  unfold validatePrimitiveParameter
  cases makeType lib value type with
  | error e => cases e <;> rfl
  | ok w =>
    dsimp only [Except.mapError, Except.bind]
    unfold validation
    generalize PyVal.withoutEntry "required" _ = schema
    cases lib.draft4 schema w with
    | error e => rfl
    | ok verdict => cases verdict <;> rfl

/-- A parameter handled as a primitive has a schema of that type. -/
theorem shapeOf_of_primitive {type : PrimitiveType} (h : handling param spec = .primitive type) :
    shapeOf spec = some (.type type) := by
  unfold handling at h
  split at h
  · cases h
  · split at h
    · rename_i hshape
      cases h
      exact hshape
    · cases h
    · cases h
    · cases h

/-- An infinite number asked to be an integer raises `OverflowError`. -/
theorem Overflows.raises {type : PrimitiveType} (h : Overflows lib value type) :
    makeType lib value type = .error overflowError := by
  have hint : Infinite value →
      (do pure (PyVal.int (← pyInt value)) : Except Exn PyVal) = .error overflowError := by
    intro h
    rw [pyInt_overflowError h]
    rfl
  cases type with
  | integer => exact hint h
  | user => exact hint h
  | role => exact hint h
  | number => exact h
  | boolean => cases h
  | string => cases h

/-- Only numbers overflow. -/
theorem overflows_of_makeType (hlib : FollowsDocs lib) (hvalue : FromJson value)
    {type : PrimitiveType} (h : makeType lib value type = .error overflowError) :
    Overflows lib value type := by
  have hint : (do pure (PyVal.int (← pyInt value)) : Except Exn PyVal) = .error overflowError →
      Infinite value := by
    intro h
    rcases Library.Except.bind_eq_error.mp h with h | ⟨i, -, h⟩
    · rcases pyInt_error h with h | ⟨h, -⟩ | ⟨-, hvalue⟩
      · cases h
      · cases h
      · exact hvalue
    · cases h
  cases type with
  | integer => exact hint h
  | user => exact hint h
  | role => exact hint h
  | number => exact h
  | boolean => cases hlib.boolean_error value _ h
  | string =>
    rcases makeType_error hlib hvalue h with h | ⟨-, h⟩
    · cases h
    · exact h

/-- A schema names one type. -/
theorem Names.unique {name other : String} (h : Names spec name) (h' : Names spec other) :
    name = other := by
  cases h.1.symm.trans h'.1
  rfl

/-- An array that is converted and validated. -/
theorem convertArray_conforming_bare (hnames : Names spec "array") (schema : PyVal) :
    (do
      let converted ← convertArray lib spec value messagePrefix
      conforming lib schema converted value messagePrefix).mapError bare =
        (outcome lib messagePrefix spec value).bind (validation lib schema) := by
  rw [mapError_bind, ← convertJson_array hnames]
  refine congrArg _ (funext fun w => ?_)
  exact conforming_bare schema w

/-- A parameter that is converted is read by its schema alone. -/
theorem conversion_converted (h : handling param spec = .converted) :
    conversion lib messagePrefix value param spec = outcome lib messagePrefix spec value := by
  unfold conversion
  rw [h]

/-- A parameter that declares its type. -/
theorem validateTyped_bare {name : String} (hspec : Admitted spec) (hname : Names spec name)
    {type : PyVal} (htype : param.schema.entry "type" = some type) :
    (validateTyped lib value spec name messagePrefix).mapError bare =
      (conversion lib messagePrefix value param spec).bind
        (validation lib (checkedSchema param spec)) := by
  have harray : PrimitiveType.ofName "array" = none := by decide
  have hobject : PrimitiveType.ofName "object" = none := by decide
  unfold validateTyped checkedSchema
  rw [htype]
  dsimp only
  cases hspec with
  | type h =>
    obtain ⟨name', hname', hprimitive⟩ := Shape.of_shapeOf h
    cases hname.unique hname'
    rw [hprimitive, h]
    unfold conversion handling
    rw [htype]
    dsimp only
    rw [h]
    exact validatePrimitiveParameter_bare
  | unknown h =>
    obtain ⟨name', hname', hne, -, hprimitive⟩ := Shape.of_shapeOf h
    cases hname.unique hname'
    rw [hprimitive]
    unfold conversion handling
    rw [htype]
    dsimp only
    rw [h, if_neg hne]
    rfl
  | array h =>
    have hnames := (Shape.of_shapeOf h).1
    cases hname.unique hnames
    have hhandling : handling param spec = .converted := by
      unfold handling
      rw [htype]
      dsimp only
      rw [h]
    rw [harray, h, conversion_converted hhandling]
    dsimp only
    rw [if_pos rfl]
    exact convertArray_conforming_bare hnames _
  | arrayOf h =>
    have hnames := (Shape.of_shapeOf h).1
    cases hname.unique hnames
    have hhandling : handling param spec = .converted := by
      unfold handling
      rw [htype]
      dsimp only
      rw [h]
    rw [harray, h, conversion_converted hhandling]
    dsimp only
    rw [if_pos rfl]
    exact convertArray_conforming_bare hnames _
  | object h =>
    cases hname.unique (Shape.of_shapeOf h).1
    rw [hobject]
    unfold conversion handling
    rw [htype]
    dsimp only
    rw [h, if_neg (by decide)]
    rfl
  | objectOf h =>
    cases hname.unique (Shape.of_shapeOf h).1
    rw [hobject]
    unfold conversion handling
    rw [htype]
    dsimp only
    rw [h, if_neg (by decide)]
    rfl

/-- **The two stages**: a value that is not `None` is converted, and what it is converted to is
validated. -/
theorem validateParameter_bare (hparam : specOf param = some spec) (hspec : Admitted spec)
    (hvalue : value ≠ .none) :
    (validateParameter lib value param messagePrefix).mapError bare =
      (conversion lib messagePrefix value param spec).bind
        (validation lib (checkedSchema param spec)) := by
  obtain ⟨name, hname⟩ := hspec.names
  have hnone : value.isNone = false := by
    cases value with
    | none => exact absurd rfl hvalue
    | _ => rfl
  unfold specOf at hparam
  unfold validateParameter
  rw [hnone, if_pos (show (!false) = true from rfl)]
  cases htype : param.schema.entry "type" with
  | some type =>
    rw [htype] at hparam
    cases hparam
    rw [← validateTyped_bare hspec hname htype]
    cases htype.symm.trans hname.1
    rfl
  | none =>
    rw [htype] at hparam
    dsimp only at hparam
    have hhandling : handling param spec = .converted := by
      unfold handling
      rw [htype]
    have hschema : checkedSchema param spec = spec := by
      unfold checkedSchema
      rw [htype]
    have hconvert : convertJson lib param.schema value messagePrefix =
        convertJson lib spec value messagePrefix := by
      rw [convertJson, htype]
      dsimp only
      split
      · rename_i found hfound
        cases hparam.symm.trans hfound
        rfl
      · rename_i hmissing
        cases hparam.symm.trans hmissing
    dsimp only
    rw [hconvert, mapError_bind, hparam, conversion_converted hhandling, hschema]
    refine congrArg _ (funext fun w => ?_)
    exact conforming_bare spec w

/-! ### What the stages give and raise -/

/-- A conversion succeeds with a value exactly if the argument reads as it. -/
theorem conversion_eq_ok (hspec : Admitted spec) {w : PyVal} :
    conversion lib messagePrefix value param spec = .ok w ↔ ReadsAs lib value param spec w := by
  unfold ReadsAs
  cases hhandling : handling param spec with
  | primitive type =>
    have hshape := shapeOf_of_primitive hhandling
    unfold conversion
    rw [hhandling]
    dsimp only
    rw [mapError_eq_ok]
    constructor
    · intro hmake
      exact ⟨nofun, .type hshape hmake⟩
    · rintro ⟨-, hreads⟩
      have houtcome : outcome lib messagePrefix spec value = .ok w :=
        (reads_iff hspec value w).mpr hreads
      rw [outcome_type hshape, mapError_eq_ok] at houtcome
      exact houtcome
  | converted =>
    rw [conversion_converted hhandling, reads_iff hspec]
    exact ⟨fun h => ⟨nofun, h⟩, fun h => h.2⟩
  | refused =>
    unfold conversion
    rw [hhandling]
    exact ⟨nofun, fun h => absurd rfl h.1⟩

/-- Validation passes the value on exactly if the library finds no error. -/
theorem validation_eq_ok {schema w u : PyVal} :
    validation lib schema w = .ok u ↔ w = u ∧ lib.draft4 schema w = .ok none := by
  unfold validation
  cases lib.draft4 schema w with
  | error e => exact ⟨nofun, fun h => nomatch h.2⟩
  | ok verdict =>
    cases verdict with
    | none => exact ⟨fun h => ⟨Except.ok.inj h, rfl⟩, fun h => congrArg _ h.1⟩
    | some message => exact ⟨nofun, fun h => nomatch h.2⟩

/-- A stray exception is none of the validator's own. -/
theorem Stray.ne_own {e : Exn} (h : Stray e) : ¬(e = refusal ∨ e = invalidApi) := by
  rcases h with rfl | rfl
  · decide
  · decide

/-- What a conversion raises. -/
theorem conversion_raises (hlib : FollowsDocs lib) (hspec : Admitted spec)
    (hvalue : FromJson value) {e : Exn}
    (he : conversion lib messagePrefix value param spec = .error e) :
    Raised (HasUnknown spec) (NotCaught lib value param spec) e := by
  unfold NotCaught
  cases hhandling : handling param spec with
  | primitive type =>
    unfold conversion at he
    rw [hhandling] at he
    obtain ⟨e', he', rfl⟩ := mapError_eq_error.mp he
    rcases makeType_error hlib hvalue he' with rfl | ⟨rfl | rfl, hunfit⟩
    · exact .inl rfl
    · exact .inl rfl
    · refine .inr (.inr ⟨.inr rfl, ?_⟩)
      exact overflows_of_makeType hlib hvalue he'
  | converted =>
    rw [conversion_converted hhandling] at he
    exact outcome_raises hlib hspec value hvalue e he
  | refused =>
    unfold conversion at he
    rw [hhandling] at he
    cases he
    exact .inl rfl

/-- What is not caught comes out of the conversion. -/
theorem conversion_of_notCaught (hspec : Admitted spec) (h : NotCaught lib value param spec) :
    ∃ e, conversion lib messagePrefix value param spec = .error e ∧ Stray e := by
  unfold NotCaught at h
  cases hhandling : handling param spec with
  | primitive type =>
    rw [hhandling] at h
    have hmake := Overflows.raises h
    refine ⟨overflowError, ?_, .inr rfl⟩
    unfold conversion
    rw [hhandling]
    dsimp only
    rw [hmake]
    rfl
  | converted =>
    rw [hhandling] at h
    rw [conversion_converted hhandling]
    exact escapes_raises hspec value h
  | refused =>
    rw [hhandling] at h
    cases h

/-- What is a refusal but for message and errors is an `InvalidArgument`. -/
theorem bare_eq_refusal {e : Exn} (h : bare e = refusal) :
    ∃ message errors, e = .invalidArgument message errors := by
  cases e with
  | invalidArgument message errors => exact ⟨message, errors, rfl⟩
  | _ => cases h

/-- Leaving out message and errors changes no other exception. -/
theorem bare_eq_of_ne {e e' : Exn} (h : bare e = e') (hne : e' ≠ refusal) : e = e' := by
  cases e with
  | invalidArgument message errors => exact absurd h.symm hne
  | _ => exact h

/-- `None` is refused for a required parameter and stays as it is for another one. -/
theorem handledTotally_none : HandledTotally lib .none param spec messagePrefix := by
  have hnone : ¬(!PyVal.none.isNone) = true := by decide
  by_cases hrequired : param.required = some true
  · refine ⟨fun w hw => ?_, fun e he => ?_⟩
    · unfold validateParameter at hw
      rw [if_neg hnone, if_pos hrequired] at hw
      cases hw
    · unfold validateParameter at he
      rw [if_neg hnone, if_pos hrequired] at he
      cases he
      exact .inl ⟨_, _, rfl⟩
  · refine ⟨fun w hw => ?_, fun e he => ?_⟩
    · unfold validateParameter at hw
      rw [if_neg hnone, if_neg hrequired] at hw
      cases hw
      exact .inl ⟨rfl, hrequired, rfl⟩
    · unfold validateParameter at he
      rw [if_neg hnone, if_neg hrequired] at he
      cases he

/-- The schema a primitive parameter is validated against names a primitive type. -/
theorem admitted_primitiveSchema {type : PrimitiveType} (h : shapeOf spec = some (.type type)) :
    Admitted ((if type = .user ∨ type = .role then handleUserRolesValidation spec
      else spec).withoutEntry "required") := by
  obtain ⟨name, hnames, hname⟩ := Shape.of_shapeOf h
  have hwithout : ∀ {schema : PyVal} {other : String}, Names schema other →
      Names (schema.withoutEntry "required") other := by
    intro schema other hother
    refine ⟨?_, ?_⟩
    · rw [PyVal.entry_withoutEntry_of_ne (by decide)]
      exact hother.1
    · rw [PyVal.entry_withoutEntry_of_ne (by decide)]
      exact hother.2
  split
  · have hinteger : PrimitiveType.ofName "integer" = some .integer := rfl
    exact .type (shapeOf_of_names (hwithout (names_handleUserRolesValidation hnames)) hinteger)
  · exact .type (shapeOf_of_names (hwithout hnames) hname)

/-- What is converted and accepted is of the specified type and accepted at every level. -/
theorem hasType_of_accepted (hlib : FollowsDocs lib) (hspec : Admitted spec) {w : PyVal}
    (hreads : ReadsAs lib value param spec w)
    (haccepted : lib.draft4 (checkedSchema param spec) w = .ok none) :
    HasType spec w ∧ SatisfiesAll lib (checkedSchema param spec) w := by
  obtain ⟨hhandled, hreads⟩ := hreads
  have hplain : checkedSchema param spec = spec →
      HasType spec w ∧ SatisfiesAll lib (checkedSchema param spec) w := by
    intro hschema
    rw [hschema] at haccepted ⊢
    have hsatisfies := satisfiesAll_of_accepted hlib hspec w haccepted
    exact ⟨hasType_of_reads hlib hspec value w hreads hsatisfies, hsatisfies⟩
  unfold handling at hhandled
  unfold checkedSchema at haccepted hplain ⊢
  cases htype : param.schema.entry "type" with
  | none =>
    rw [htype] at hplain
    exact hplain rfl
  | some declared =>
    rw [htype] at haccepted hplain hhandled
    dsimp only at haccepted hplain hhandled ⊢
    cases hspec with
    | type h =>
      rw [h] at haccepted ⊢
      refine ⟨?_, satisfiesAll_of_accepted hlib (admitted_primitiveSchema h) w haccepted⟩
      exact .type h (ofType_of_makeType hlib (hreads.of_type h))
    | unknown h =>
      rw [h] at hhandled
      exact absurd rfl hhandled
    | array h =>
      rw [h] at hplain ⊢
      exact hplain (arraySchema_array h)
    | arrayOf h hitems =>
      rw [h] at haccepted hplain ⊢
      dsimp only at haccepted hplain ⊢
      rcases arraySchema_arrayOf h hitems with hsame | ⟨type, hitem, hschema, hinteger⟩
      · exact hplain hsame
      · have hadmitted : Admitted (arraySchema spec) := .arrayOf hschema (.type hinteger)
        refine ⟨?_, satisfiesAll_of_accepted hlib hadmitted w haccepted⟩
        obtain ⟨xs, ys, -, rfl, hys⟩ := hreads.of_arrayOf h
        refine .arrayOf h fun y hy => ?_
        obtain ⟨x, hx⟩ := hys.exists_of_mem hy
        exact .type hitem (ofType_of_makeType hlib (hx.of_type hitem))
    | object h =>
      rw [h] at hhandled
      exact absurd rfl hhandled
    | objectOf h =>
      rw [h] at hhandled
      exact absurd rfl hhandled

/-- A convertible value is handled totally. -/
theorem handledTotally_of_convertible (hlib : FollowsDocs lib) (hvalue : FromJson value)
    (hparam : specOf param = some spec) (hspec : Admitted spec) (hne : value ≠ .none)
    (h : Convertible lib value param spec) :
    HandledTotally lib value param spec messagePrefix := by
  have hstages : (validateParameter lib value param messagePrefix).mapError bare = _ :=
    validateParameter_bare hparam hspec hne
  refine ⟨fun w hw => ?_, fun e he => ?_⟩
  · rw [hw] at hstages
    obtain ⟨u, hconversion, hvalidation⟩ := Library.Except.bind_eq_ok.mp hstages.symm
    have hreads := (conversion_eq_ok hspec).mp hconversion
    obtain ⟨rfl, haccepted⟩ := validation_eq_ok.mp hvalidation
    obtain ⟨htype, hsatisfies⟩ := hasType_of_accepted hlib hspec hreads haccepted
    exact .inr ⟨htype, hsatisfies, h.lists u hreads haccepted⟩
  · rw [he] at hstages
    rcases Library.Except.bind_eq_error.mp hstages.symm with hraised | ⟨u, hconversion, hraised⟩
    · rcases conversion_raises hlib hspec hvalue hraised with hbare | ⟨hbare, hunknown⟩ | ⟨-, hnot⟩
      · exact .inl (bare_eq_refusal hbare)
      · exact .inr ⟨bare_eq_of_ne hbare (by decide), hunknown⟩
      · exact absurd hnot h.caught
    · obtain ⟨verdict, hverdict⟩ := h.judged u ((conversion_eq_ok hspec).mp hconversion)
      unfold validation at hraised
      rw [hverdict] at hraised
      cases verdict with
      | none => cases hraised
      | some message => exact .inl (bare_eq_refusal (Except.error.inj hraised).symm)

/-- A value that is handled totally is convertible. -/
theorem convertible_of_handledTotally (hlib : FollowsDocs lib)
    (hparam : specOf param = some spec) (hspec : Admitted spec) (hne : value ≠ .none)
    (h : HandledTotally lib value param spec messagePrefix) :
    Convertible lib value param spec := by
  have hstages : (validateParameter lib value param messagePrefix).mapError bare = _ :=
    validateParameter_bare hparam hspec hne
  have hown : ∀ e, (validateParameter lib value param messagePrefix).mapError bare = .error e →
      e = refusal ∨ e = invalidApi := by
    intro e he
    obtain ⟨e', he', rfl⟩ := mapError_eq_error.mp he
    rcases h.raises e' he' with ⟨message, errors, rfl⟩ | ⟨rfl, -⟩
    · exact .inl rfl
    · exact .inr rfl
  refine ⟨fun hcaught => ?_, fun w hw => ?_, fun w hw haccepted => ?_⟩
  · obtain ⟨e, he, hstray⟩ := conversion_of_notCaught hspec hcaught
    rw [he] at hstages
    exact hstray.ne_own (hown e hstages)
  · rw [(conversion_eq_ok hspec).mpr hw] at hstages
    cases hverdict : lib.draft4 (checkedSchema param spec) w with
    | ok verdict => exact ⟨verdict, rfl⟩
    | error e =>
      obtain ⟨hapi, hargument⟩ := hlib.draft4_error _ w e hverdict
      have hraised : validation lib (checkedSchema param spec) w = .error (bare e) := by
        unfold validation
        rw [hverdict]
      rcases hown (bare e) (hstages.trans hraised) with hbare | hbare
      · obtain ⟨message, errors, rfl⟩ := bare_eq_refusal hbare
        exact absurd rfl (hargument message errors)
      · exact absurd (bare_eq_of_ne hbare (by decide)) hapi
  · rw [(conversion_eq_ok hspec).mpr hw] at hstages
    have hreturned : validation lib (checkedSchema param spec) w = .ok w :=
      validation_eq_ok.mpr ⟨rfl, haccepted⟩
    have hw := mapError_eq_ok.mp (hstages.trans hreturned)
    rcases h.returns w hw with ⟨hnone, -⟩ | ⟨-, -, hlists⟩
    · exact absurd hnone hne
    · exact hlists

end

/-- **Conversion is total exactly for convertible values**: under an admitted specification, a
value that is not `None` is handled totally iff no exception of a conversion goes uncaught, the
validator comes to a verdict, and it accepts no value of another shape for an array. -/
theorem handledTotally_iff (lib : Libraries) (hlib : FollowsDocs lib) (value : PyVal)
    (hvalue : FromJson value) (param : ParamApi) (spec : PyVal)
    (hparam : specOf param = some spec) (hspec : Admitted spec) (messagePrefix : String) :
    HandledTotally lib value param spec messagePrefix ↔
      (value ≠ .none → Convertible lib value param spec) := by
  constructor
  · intro h hne
    exact convertible_of_handledTotally hlib hparam hspec hne h
  · intro h
    by_cases hnone : value = .none
    · subst hnone
      exact handledTotally_none
    · exact handledTotally_of_convertible hlib hvalue hparam hspec hnone (h hnone)

/-! ## An array of numbers -/

/-- A parameter that is an array of integers. -/
def idsParam : ParamApi :=
  { name := "ids", default := none, required := none
    schema := .dict [("name", .str "ids"), ("type", .str "array"),
      ("items", .dict [("type", .str "integer")])] }

/-- A schema of integers accepts an integer, and one of arrays of integers a list of these. -/
def acceptsIntegers (schema : PyVal) : PyVal → Bool
  | .int _ => schema.entry "type" = some (.str "integer")
  | .list xs => schema.entry "type" = some (.str "array") &&
      (schema.entry "items").bind (PyVal.entry "type") = some (.str "integer") &&
      xs.all fun x => match x with
        | .int _ => true
        | _ => false
  | _ => false

/-- Library code for integers. -/
def integerLibraries : Libraries where
  boolean
    | .bool b => pure (.bool b)
    | _ => throw .valueError
  float
    | .int i => pure (.float i 0)
    | .str _ => throw .valueError
    | _ => throw .typeError
  draft4 schema w := pure (if acceptsIntegers schema w then none else some "is not valid")

/-- What the example's library accepts has integers where integers are asked for. -/
theorem accepted_by_integerLibraries {schema w : PyVal}
    (h : integerLibraries.draft4 schema w = .ok none) : acceptsIntegers schema w = true := by
  by_contra hrefused
  have hverdict : integerLibraries.draft4 schema w = .ok (some "is not valid") :=
    congrArg Except.ok (if_neg hrefused)
  cases h.symm.trans hverdict

/-- The example's library is one of those the hypotheses describe. -/
theorem integerLibraries_followsDocs : FollowsDocs integerLibraries where
  boolean_ok value w h := by
    cases value with
    | bool b =>
      cases h
      exact ⟨b, rfl⟩
    | _ => cases h
  boolean_error value e h := by
    cases value with
    | bool b => cases h
    | _ =>
      cases h
      rfl
  float_ok value w h := by
    cases value with
    | int i =>
      cases h
      exact .inl ⟨i, 0, rfl⟩
    | _ => cases h
  float_error value e h := by
    cases value with
    | int i => cases h
    | str s =>
      cases h
      exact .inl rfl
    | _ =>
      cases h
      exact .inr (.inl rfl)
  draft4_array schema w h hnames := by
    have haccepts := accepted_by_integerLibraries h
    cases w with
    | list xs => exact ⟨xs, rfl⟩
    | int i => simp [acceptsIntegers, hnames.1] at haccepts
    | _ => cases haccepts
  draft4_items schema items xs h _ hitems x hx := by
    have haccepts := accepted_by_integerLibraries h
    simp only [acceptsIntegers, hitems, Option.bind_some, Bool.and_eq_true, decide_eq_true_eq,
      List.all_eq_true] at haccepts
    obtain ⟨⟨-, hitem⟩, hall⟩ := haccepts
    have hint := hall x hx
    cases x with
    | int i => exact congrArg Except.ok (if_pos (decide_eq_true hitem))
    | _ => cases hint
  draft4_properties schema properties d h := by
    cases accepted_by_integerLibraries h
  draft4_error schema w e h := by cases h

/-- The items of `ids`. -/
def idSpec : PyVal :=
  .dict [("type", .str "integer")]

/-- The items of the example are integers. -/
theorem shapeOf_idSpec : shapeOf idSpec = some (.type .integer) :=
  shapeOf_of_names ⟨rfl, rfl⟩ rfl

/-- The parameter of the example is an array of them. -/
theorem shapeOf_idsParam : shapeOf idsParam.schema = some (.arrayOf idSpec) :=
  shapeOf_arrayOf ⟨rfl, rfl⟩ rfl

/-- The parameter of the example is converted. -/
theorem handling_idsParam : handling idsParam idsParam.schema = .converted := by
  have htype : idsParam.schema.entry "type" = some (.str "array") := rfl
  unfold handling
  rw [htype]
  dsimp only
  rw [shapeOf_idsParam]

/-- The schema of the example is admitted. -/
theorem admitted_idsParam : Admitted idsParam.schema :=
  .arrayOf shapeOf_idsParam (.type shapeOf_idSpec)

/-- A null in the array is no invalid argument: `int(None)` raises a `TypeError`. -/
theorem null_in_array_escapes :
    ¬HandledTotally integerLibraries (.list [.none]) idsParam idsParam.schema "" := by
  intro h
  have hconvertible : Convertible integerLibraries (.list [.none]) idsParam idsParam.schema :=
    convertible_of_handledTotally integerLibraries_followsDocs rfl admitted_idsParam nofun h
  have hnull : Escapes integerLibraries idSpec .none := .type shapeOf_idSpec (.inl trivial)
  refine hconvertible.caught ?_
  unfold NotCaught
  rw [handling_idsParam]
  exact .element shapeOf_idsParam rfl (.head hnull)

/-- An array of texts that are integers is converted and accepted. -/
theorem texts_in_array_handled :
    HandledTotally integerLibraries (.list [.str "5"]) idsParam idsParam.schema "" := by
  have hvalue : FromJson (.list [.str "5"]) :=
    .list _ fun x hx => by
      cases List.mem_singleton.mp hx
      exact .str _
  refine (handledTotally_iff integerLibraries integerLibraries_followsDocs _ hvalue idsParam _
    rfl admitted_idsParam "").mpr fun _ => ⟨?_, fun w _ => ⟨_, rfl⟩, fun w _ _ => ?_⟩
  · unfold NotCaught
    rw [handling_idsParam]
    intro hescapes
    rcases hescapes.of_arrayOf shapeOf_idsParam with hxs | ⟨xs, hxs, heach⟩
    · cases hxs
    · cases hxs
      cases heach with
      | head hx =>
        rcases hx.of_type shapeOf_idSpec with h | h | h
        · exact h
        · cases h
        · cases h
      | tail hx hxs => cases hxs
  · refine .arrayOf shapeOf_idsParam fun x hx => ?_
    exact .type shapeOf_idSpec

end Walkoff.Analysis
