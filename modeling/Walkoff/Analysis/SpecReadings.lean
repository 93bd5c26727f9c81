import Walkoff.Analysis.JsonRoundTrip
import Walkoff.Model.Validator

/-!
# Reading a value as its specification says

`Reads` says what a value becomes under a specification, `Escapes` when something other than
an `InvalidArgument` or an `InvalidApi` comes out. Both visit the parts of the value in the
order of the converters and stop at the first one that does not convert. `FollowsDocs` is what
the conversions and the schema validator from elsewhere are documented to do.
-/

set_option autoImplicit false

namespace Walkoff.Analysis

open Walkoff.Model
open Walkoff.Library (OrderedDict)

/-! ## Specifications -/

/-- The specification names its type, and is no reference to another one. -/
def Names (spec : PyVal) (name : String) : Prop :=
  spec.entry "type" = some (.str name) ∧ spec.entry "$ref" = none

/-- What a specification asks for. -/
inductive Shape where
  | type (type : PrimitiveType)
  | unknown
  | array
  | arrayOf (items : PyVal)
  | object
  | objectOf (properties : PyVal)

/-- The shape of a specification that names its type. -/
def shapeOf (spec : PyVal) : Option Shape :=
  match spec.entry "type", spec.entry "$ref" with
  | some (.str "array"), none =>
    match spec.entry "items" with
    | some items => some (.arrayOf items)
    | none => some .array
  | some (.str "object"), none =>
    match spec.entry "properties" with
    | some properties => some (.objectOf properties)
    | none => some .object
  | some (.str name), none =>
    match PrimitiveType.ofName name with
    | some type => some (.type type)
    | none => some .unknown
  | _, _ => none

/-- A type by its name, an array with or without a specification of its items, or an object
with or without those of its properties. All other keys are free. -/
inductive Admitted : PyVal → Prop
  | type {spec : PyVal} {type : PrimitiveType} (h : shapeOf spec = some (.type type)) :
      Admitted spec
  | unknown {spec : PyVal} (h : shapeOf spec = some .unknown) : Admitted spec
  | array {spec : PyVal} (h : shapeOf spec = some .array) : Admitted spec
  | arrayOf {spec items : PyVal} (h : shapeOf spec = some (.arrayOf items))
      (hitems : Admitted items) : Admitted spec
  | object {spec : PyVal} (h : shapeOf spec = some .object) : Admitted spec
  | objectOf {spec properties : PyVal} (h : shapeOf spec = some (.objectOf properties))
      (hproperties : ∀ key property, properties.entry key = some property →
        Admitted property) : Admitted spec

/-- A type that is none of the known ones stands somewhere in the specification. -/
inductive HasUnknown : PyVal → Prop
  | here {spec : PyVal} (h : shapeOf spec = some .unknown) : HasUnknown spec
  | items {spec items : PyVal} (h : shapeOf spec = some (.arrayOf items))
      (hitems : HasUnknown items) : HasUnknown spec
  | property {spec properties property : PyVal} {key : String}
      (h : shapeOf spec = some (.objectOf properties))
      (hproperty : properties.entry key = some property) (hunknown : HasUnknown property) :
      HasUnknown spec

/-! ## Readings -/

/-- The object that a text is the JSON text of. -/
def objectOfText (text : String) : Option (OrderedDict String PyVal) :=
  match JsonText.loads text with
  | some (.dict items) => some items
  | _ => none

/-- The object a value stands for: a dictionary, or a text that `json.loads` makes one of. -/
def asObject : PyVal → Option (OrderedDict String PyVal)
  | .str s => objectOfText s
  | .surrogates codePoints => objectOfText (PyVal.replaced codePoints)
  | .dict items => some items
  | _ => none

/-- Neither a number nor a text. -/
def NoNumeral : PyVal → Prop
  | .none | .list _ | .dict _ | .object _ => True
  | _ => False

/-- An infinity, of which `int` raises an `OverflowError`. -/
def Infinite (value : PyVal) : Prop :=
  value = .nonFinite .inf ∨ value = .nonFinite .negInf

section

variable (lib : Libraries)

/-- The function of a type raises something other than a `ValueError`. -/
def Unfit (value : PyVal) : PrimitiveType → Prop
  | .integer | .user | .role => NoNumeral value ∨ Infinite value
  | .number => lib.float value = .error .typeError ∨ lib.float value = .error overflowError
  | .boolean | .string => False

mutual

/-- What a value becomes under a specification. -/
inductive Reads : PyVal → PyVal → PyVal → Prop
  | type {spec value w : PyVal} {type : PrimitiveType} (h : shapeOf spec = some (.type type))
      (hmake : makeType lib value type = .ok w) : Reads spec value w
  | array {spec value : PyVal} (h : shapeOf spec = some .array) : Reads spec value value
  | arrayOf {spec value items : PyVal} {xs ys : List PyVal}
      (h : shapeOf spec = some (.arrayOf items)) (hxs : iterate value = .ok xs)
      (hys : ReadsEach items xs ys) : Reads spec value (.list ys)
  | object {spec value : PyVal} {d : List (String × PyVal)} (h : shapeOf spec = some .object)
      (hd : asObject value = some d) : Reads spec value (.dict d)
  | objectOf {spec value properties : PyVal} {d d' : List (String × PyVal)}
      (h : shapeOf spec = some (.objectOf properties)) (hd : asObject value = some d)
      (hd' : ReadsEntries properties d d') : Reads spec value (.dict d')

/-- What the elements of a list become. -/
inductive ReadsEach : PyVal → List PyVal → List PyVal → Prop
  | nil {items : PyVal} : ReadsEach items [] []
  | cons {items x y : PyVal} {xs ys : List PyVal} (hx : Reads items x y)
      (hxs : ReadsEach items xs ys) : ReadsEach items (x :: xs) (y :: ys)

/-- What the entries of a dictionary become. -/
inductive ReadsEntries : PyVal → List (String × PyVal) → List (String × PyVal) → Prop
  | nil {properties : PyVal} : ReadsEntries properties [] []
  | cons {properties property x y : PyVal} {key : String} {d d' : List (String × PyVal)}
      (hproperty : properties.entry key = some property) (hx : Reads property x y)
      (hd : ReadsEntries properties d d') :
      ReadsEntries properties ((key, x) :: d) ((key, y) :: d')

end

mutual

/-- A part of the value that the converters get to raises a `TypeError` or an
`OverflowError`. -/
inductive Escapes : PyVal → PyVal → Prop
  | type {spec value : PyVal} {type : PrimitiveType} (h : shapeOf spec = some (.type type))
      (hunfit : Unfit lib value type) : Escapes spec value
  | loop {spec value items : PyVal} (h : shapeOf spec = some (.arrayOf items))
      (hxs : iterate value = .error .typeError) : Escapes spec value
  | element {spec value items : PyVal} {xs : List PyVal}
      (h : shapeOf spec = some (.arrayOf items)) (hxs : iterate value = .ok xs)
      (hescapes : EscapesEach items xs) : Escapes spec value
  | entry {spec value properties : PyVal} {d : List (String × PyVal)}
      (h : shapeOf spec = some (.objectOf properties)) (hd : asObject value = some d)
      (hescapes : EscapesEntries properties d) : Escapes spec value

/-- An element of a list does, and those before it convert. -/
inductive EscapesEach : PyVal → List PyVal → Prop
  | head {items x : PyVal} {xs : List PyVal} (hx : Escapes items x) :
      EscapesEach items (x :: xs)
  | tail {items x y : PyVal} {xs : List PyVal} (hx : Reads lib items x y)
      (hxs : EscapesEach items xs) : EscapesEach items (x :: xs)

/-- An entry of a dictionary does, and those before it convert. -/
inductive EscapesEntries : PyVal → List (String × PyVal) → Prop
  | head {properties property x : PyVal} {key : String} {d : List (String × PyVal)}
      (hproperty : properties.entry key = some property) (hx : Escapes property x) :
      EscapesEntries properties ((key, x) :: d)
  | tail {properties property x y : PyVal} {key : String} {d : List (String × PyVal)}
      (hproperty : properties.entry key = some property) (hx : Reads lib property x y)
      (hd : EscapesEntries properties d) : EscapesEntries properties ((key, x) :: d)

end

end

/-! ### What the shape says of a reading -/

section

variable {lib : Libraries} {spec value w : PyVal}

/-- What is read by a primitive type is made of it. -/
theorem Reads.of_type (hreads : Reads lib spec value w) {type : PrimitiveType}
    (h : shapeOf spec = some (.type type)) : makeType lib value type = .ok w := by
  cases hreads with
  | type h' hmake =>
    cases h.symm.trans h'
    exact hmake
  | array h' => cases h.symm.trans h'
  | arrayOf h' => cases h.symm.trans h'
  | object h' => cases h.symm.trans h'
  | objectOf h' => cases h.symm.trans h'

/-- Nothing is read by an unknown type. -/
theorem Reads.not_unknown (hreads : Reads lib spec value w) : shapeOf spec ≠ some .unknown := by
  intro h
  cases hreads with
  | type h' => cases h.symm.trans h'
  | array h' => cases h.symm.trans h'
  | arrayOf h' => cases h.symm.trans h'
  | object h' => cases h.symm.trans h'
  | objectOf h' => cases h.symm.trans h'

/-- An array without items is read as it is. -/
theorem Reads.of_array (hreads : Reads lib spec value w) (h : shapeOf spec = some .array) :
    w = value := by
  cases hreads with
  | type h' => cases h.symm.trans h'
  | array h' => rfl
  | arrayOf h' => cases h.symm.trans h'
  | object h' => cases h.symm.trans h'
  | objectOf h' => cases h.symm.trans h'

/-- An array with items is read member by member. -/
theorem Reads.of_arrayOf (hreads : Reads lib spec value w) {items : PyVal}
    (h : shapeOf spec = some (.arrayOf items)) :
    ∃ xs ys, iterate value = .ok xs ∧ w = .list ys ∧ ReadsEach lib items xs ys := by
  cases hreads with
  | type h' => cases h.symm.trans h'
  | array h' => cases h.symm.trans h'
  | arrayOf h' hxs hys =>
    cases h.symm.trans h'
    exact ⟨_, _, hxs, rfl, hys⟩
  | object h' => cases h.symm.trans h'
  | objectOf h' => cases h.symm.trans h'

/-- An object without properties is read as it is. -/
theorem Reads.of_object (hreads : Reads lib spec value w) (h : shapeOf spec = some .object) :
    ∃ d, asObject value = some d ∧ w = .dict d := by
  cases hreads with
  | type h' => cases h.symm.trans h'
  | array h' => cases h.symm.trans h'
  | arrayOf h' => cases h.symm.trans h'
  | object h' hd => exact ⟨_, hd, rfl⟩
  | objectOf h' => cases h.symm.trans h'

/-- An object with properties is read entry by entry. -/
theorem Reads.of_objectOf (hreads : Reads lib spec value w) {properties : PyVal}
    (h : shapeOf spec = some (.objectOf properties)) :
    ∃ d d', asObject value = some d ∧ w = .dict d' ∧ ReadsEntries lib properties d d' := by
  cases hreads with
  | type h' => cases h.symm.trans h'
  | array h' => cases h.symm.trans h'
  | arrayOf h' => cases h.symm.trans h'
  | object h' => cases h.symm.trans h'
  | objectOf h' hd hd' =>
    cases h.symm.trans h'
    exact ⟨_, _, hd, rfl, hd'⟩

/-- What escapes a primitive type is unfit for it. -/
theorem Escapes.of_type (hescapes : Escapes lib spec value) {type : PrimitiveType}
    (h : shapeOf spec = some (.type type)) : Unfit lib value type := by
  cases hescapes with
  | type h' hunfit =>
    cases h.symm.trans h'
    exact hunfit
  | loop h' => cases h.symm.trans h'
  | element h' => cases h.symm.trans h'
  | entry h' => cases h.symm.trans h'

/-- What escapes an array cannot be iterated over, or a member escapes. -/
theorem Escapes.of_arrayOf (hescapes : Escapes lib spec value) {items : PyVal}
    (h : shapeOf spec = some (.arrayOf items)) :
    iterate value = .error .typeError ∨
      ∃ xs, iterate value = .ok xs ∧ EscapesEach lib items xs := by
  cases hescapes with
  | type h' => cases h.symm.trans h'
  | loop h' hxs => exact .inl hxs
  | element h' hxs heach =>
    cases h.symm.trans h'
    exact .inr ⟨_, hxs, heach⟩
  | entry h' => cases h.symm.trans h'

/-- What escapes an object has an entry that does. -/
theorem Escapes.of_objectOf (hescapes : Escapes lib spec value) {properties : PyVal}
    (h : shapeOf spec = some (.objectOf properties)) :
    ∃ d, asObject value = some d ∧ EscapesEntries lib properties d := by
  cases hescapes with
  | type h' => cases h.symm.trans h'
  | loop h' => cases h.symm.trans h'
  | element h' => cases h.symm.trans h'
  | entry h' hd hentries =>
    cases h.symm.trans h'
    exact ⟨_, hd, hentries⟩

/-- A specification without parts lets nothing escape but what its type does. -/
theorem Escapes.has_parts (hescapes : Escapes lib spec value) :
    shapeOf spec ≠ some .unknown ∧ shapeOf spec ≠ some .array ∧ shapeOf spec ≠ some .object := by
  cases hescapes with
  | type h => exact ⟨by rw [h]; nofun, by rw [h]; nofun, by rw [h]; nofun⟩
  | loop h => exact ⟨by rw [h]; nofun, by rw [h]; nofun, by rw [h]; nofun⟩
  | element h => exact ⟨by rw [h]; nofun, by rw [h]; nofun, by rw [h]; nofun⟩
  | entry h => exact ⟨by rw [h]; nofun, by rw [h]; nofun, by rw [h]; nofun⟩

end

/-! ## Values and library code -/

/-- A value `json.loads` can make. -/
inductive FromJson : PyVal → Prop
  | none : FromJson .none
  | bool (b : Bool) : FromJson (.bool b)
  | int (i : ℤ) : FromJson (.int i)
  | float (m : ℤ) (e : ℕ) (h : JsonText.isJson (.float m e) = true) : FromJson (.float m e)
  | nonFinite (f : NonFinite) : FromJson (.nonFinite f)
  | str (s : String) : FromJson (.str s)
  | surrogates (codePoints : List ℕ) : FromJson (.surrogates codePoints)
  | list (xs : List PyVal) (h : ∀ x ∈ xs, FromJson x) : FromJson (.list xs)
  | dict (items : List (String × PyVal)) (h : ∀ item ∈ items, FromJson item.2) :
      FromJson (.dict items)

/-- The float that a number is read as. -/
theorem fromJson_floatOf (m : ℤ) (e : ℕ) : FromJson (JsonText.floatOf m e) := by
  have hjson := isJson_floatOf m e
  rcases floatOf_cases m e with ⟨m', e', hvalue⟩ | ⟨f, hvalue⟩
  · rw [hvalue] at hjson ⊢
    exact .float m' e' hjson
  · rw [hvalue]
    exact .nonFinite f

/-- What is read from JSON is a value from JSON. -/
theorem readable_fromJson : Readable FromJson where
  none := .none
  bool := .bool
  int := .int
  floatOf := fromJson_floatOf
  nonFinite := .nonFinite
  str := .str
  list := .list
  dict := fun items _ => .dict items

/-- The members of a value from JSON are from JSON. -/
theorem FromJson.of_iterate {value : PyVal} (h : FromJson value) {xs : List PyVal}
    (hxs : iterate value = .ok xs) : ∀ x ∈ xs, FromJson x := by
  cases h with
  | str s =>
    cases hxs
    intro x hx
    obtain ⟨c, -, rfl⟩ := List.mem_map.mp hx
    exact .str _
  | surrogates codePoints =>
    cases hxs
    intro x hx
    obtain ⟨u, -, rfl⟩ := List.mem_map.mp hx
    split
    · exact .surrogates _
    · exact .str _
  | list xs h =>
    cases hxs
    exact h
  | dict items h =>
    cases hxs
    intro x hx
    obtain ⟨item, -, rfl⟩ := List.mem_map.mp hx
    exact .str _
  | _ => cases hxs

/-- The entries of an object in a text are from JSON. -/
theorem FromJson.of_objectOfText {text : String} {d : List (String × PyVal)}
    (hd : objectOfText text = some d) : ∀ item ∈ d, FromJson item.2 := by
  unfold objectOfText at hd
  split at hd
  · rename_i items hloads
    cases hd
    cases readable_fromJson.loads hloads with
    | dict _ h => exact h
  · cases hd

/-- The entries of an object from JSON are from JSON. -/
theorem FromJson.of_asObject {value : PyVal} (h : FromJson value) {d : List (String × PyVal)}
    (hd : asObject value = some d) : ∀ item ∈ d, FromJson item.2 := by
  cases h with
  | str s => exact .of_objectOfText hd
  | surrogates codePoints => exact .of_objectOfText hd
  | dict items h =>
    cases hd
    exact h
  | _ => cases hd

/-- Writing a list raises `ValueError` or nothing if its elements do. -/
theorem dumpsList_error {xs : List PyVal}
    (h : ∀ x ∈ xs, ∀ e, x.dumps = .error e → e = .valueError) {e : Exn}
    (he : PyVal.dumpsList xs = .error e) : e = .valueError := by
  induction xs with
  | nil => cases he
  | cons x xs ih =>
    obtain ⟨hx, hxs⟩ := List.forall_mem_cons.mp h
    rcases Library.Except.bind_eq_error.mp he with hdumps | ⟨text, -, he⟩
    · exact hx e hdumps
    · rcases Library.Except.bind_eq_error.mp he with hrest | ⟨texts, -, he⟩
      · exact ih hxs hrest
      · cases he

/-- The same of the items of a dictionary. -/
theorem dumpsItems_error {items : List (String × PyVal)}
    (h : ∀ item ∈ items, ∀ e, item.2.dumps = .error e → e = .valueError) {e : Exn}
    (he : PyVal.dumpsItems items = .error e) : e = .valueError := by
  induction items with
  | nil => cases he
  | cons item items ih =>
    obtain ⟨key, x⟩ := item
    obtain ⟨hx, hitems⟩ := List.forall_mem_cons.mp h
    rcases Library.Except.bind_eq_error.mp he with hdumps | ⟨text, -, he⟩
    · exact hx e hdumps
    · rcases Library.Except.bind_eq_error.mp he with hrest | ⟨texts, -, he⟩
      · exact ih hitems hrest
      · cases he

/-- `json.dumps` of such a value raises nothing but a `ValueError`. -/
theorem FromJson.dumps_error {value : PyVal} (h : FromJson value) :
    ∀ e, value.dumps = .error e → e = .valueError := by
  induction h with
  | list xs _ ih =>
    intro e he
    rcases Library.Except.bind_eq_error.mp he with hxs | ⟨texts, -, he⟩
    · exact dumpsList_error ih hxs
    · cases he
  | dict items _ ih =>
    intro e he
    rcases Library.Except.bind_eq_error.mp he with hitems | ⟨texts, -, he⟩
    · exact dumpsItems_error ih hitems
    · cases he
  | _ => rintro e ⟨⟩

/-- A `float`: a decimal, an infinity or the one that is not a number. -/
def IsFloat (value : PyVal) : Prop :=
  (∃ m e, value = .float m e) ∨ ∃ f, value = .nonFinite f

/-- The conversions return a value of their type or raise their documented exceptions. The
validator follows the keywords `type`, `items` and `properties` of a schema without `$ref`,
and raises no exception of this program. -/
structure FollowsDocs (lib : Libraries) : Prop where
  boolean_ok : ∀ value w, lib.boolean value = .ok w → ∃ b, w = .bool b
  boolean_error : ∀ value e, lib.boolean value = .error e → e = .valueError
  float_ok : ∀ value w, lib.float value = .ok w → IsFloat w
  float_error : ∀ value e, lib.float value = .error e →
    e = .valueError ∨ e = .typeError ∨ e = overflowError
  draft4_array : ∀ schema w, lib.draft4 schema w = .ok none → Names schema "array" →
    ∃ xs, w = .list xs
  draft4_items : ∀ schema items xs, lib.draft4 schema (.list xs) = .ok none →
    schema.entry "$ref" = none → schema.entry "items" = some (.dict items) →
      ∀ x ∈ xs, lib.draft4 (.dict items) x = .ok none
  draft4_properties : ∀ schema properties d, lib.draft4 schema (.dict d) = .ok none →
    schema.entry "$ref" = none → schema.entry "properties" = some properties →
      ∀ item ∈ d, ∀ property, properties.entry item.1 = some property →
        lib.draft4 property item.2 = .ok none
  draft4_error : ∀ schema w e, lib.draft4 schema w = .error e →
    e ≠ invalidApi ∧ ∀ message errors, e ≠ .invalidArgument message errors

/-- The exceptions that the converters let through. -/
def Stray (e : Exn) : Prop :=
  e = .typeError ∨ e = overflowError

/-- What is no numeral raises `TypeError`. -/
theorem pyInt_typeError {value : PyVal} (h : NoNumeral value) :
    pyInt value = .error .typeError := by
  cases value with
  | none => rfl
  | list xs => rfl
  | dict items => rfl
  | object o => rfl
  | _ => cases h

/-- An infinite number raises `OverflowError`. -/
theorem pyInt_overflowError {value : PyVal} (h : Infinite value) :
    pyInt value = .error overflowError := by
  rcases h with rfl | rfl
  · rfl
  · rfl

/-- What `int` raises. -/
theorem pyInt_error {value : PyVal} {e : Exn} (h : pyInt value = .error e) :
    e = .valueError ∨ e = .typeError ∧ NoNumeral value ∨ e = overflowError ∧ Infinite value := by
  cases value with
  | str s =>
    unfold pyInt at h
    dsimp only at h
    split at h
    · cases h
    · cases h
      exact .inl rfl
  | surrogates codePoints =>
    cases h
    exact .inl rfl
  | nonFinite f =>
    cases f with
    | nan =>
      cases h
      exact .inl rfl
    | inf =>
      cases h
      exact .inr (.inr ⟨rfl, .inl rfl⟩)
    | negInf =>
      cases h
      exact .inr (.inr ⟨rfl, .inr rfl⟩)
  | bool b => cases h
  | int i => cases h
  | float m e => cases h
  | _ =>
    cases h
    exact .inr (.inl ⟨rfl, trivial⟩)

section

variable {lib : Libraries} {value : PyVal}

/-- An unfit value raises a stray exception. -/
theorem Unfit.raises {type : PrimitiveType} (h : Unfit lib value type) :
    ∃ e, makeType lib value type = .error e ∧ Stray e := by
  have hint : NoNumeral value ∨ Infinite value →
      ∃ e, (do pure (PyVal.int (← pyInt value)) : Except Exn PyVal) = .error e ∧ Stray e := by
    rintro (hvalue | hvalue)
    · rw [pyInt_typeError hvalue]
      exact ⟨_, rfl, .inl rfl⟩
    · rw [pyInt_overflowError hvalue]
      exact ⟨_, rfl, .inr rfl⟩
  cases type with
  | integer => exact hint h
  | user => exact hint h
  | role => exact hint h
  | number =>
    rcases h with h | h
    · exact ⟨_, h, .inl rfl⟩
    · exact ⟨_, h, .inr rfl⟩
  | boolean => cases h
  | string => cases h

/-- Making a type raises `ValueError`, or the value is unfit for it. -/
theorem makeType_error (hlib : FollowsDocs lib) (hvalue : FromJson value) {type : PrimitiveType}
    {e : Exn} (he : makeType lib value type = .error e) :
    e = .valueError ∨ Stray e ∧ Unfit lib value type := by
  have hint : (do pure (PyVal.int (← pyInt value)) : Except Exn PyVal) = .error e →
      e = .valueError ∨ Stray e ∧ (NoNumeral value ∨ Infinite value) := by
    intro h
    rcases Library.Except.bind_eq_error.mp h with h | ⟨i, -, h⟩
    · rcases pyInt_error h with rfl | ⟨rfl, hvalue⟩ | ⟨rfl, hvalue⟩
      · exact .inl rfl
      · exact .inr ⟨.inl rfl, .inl hvalue⟩
      · exact .inr ⟨.inr rfl, .inr hvalue⟩
    · cases h
  have hdumps : (do pure (PyVal.str (← value.dumps)) : Except Exn PyVal) = .error e →
      e = .valueError := by
    intro h
    rcases Library.Except.bind_eq_error.mp h with h | ⟨text, -, h⟩
    · exact hvalue.dumps_error e h
    · cases h
  cases type with
  | integer => exact hint he
  | user => exact hint he
  | role => exact hint he
  | number =>
    rcases hlib.float_error value e he with rfl | rfl | rfl
    · exact .inl rfl
    · exact .inr ⟨.inl rfl, .inl he⟩
    · exact .inr ⟨.inr rfl, .inr he⟩
  | boolean => exact .inl (hlib.boolean_error value e he)
  | string =>
    cases value with
    | list xs => exact .inl (hdumps he)
    | dict items => exact .inl (hdumps he)
    | _ => cases he

end

/-! ## What a shape says of a specification -/

/-- What a specification of a shape holds. -/
def Shape.Of (spec : PyVal) : Shape → Prop
  | .type t => ∃ name, Names spec name ∧ PrimitiveType.ofName name = some t
  | .unknown => ∃ name, Names spec name ∧ name ≠ "array" ∧ name ≠ "object" ∧
      PrimitiveType.ofName name = none
  | .array => Names spec "array" ∧ spec.entry "items" = none
  | .arrayOf items => Names spec "array" ∧ spec.entry "items" = some items
  | .object => Names spec "object" ∧ spec.entry "properties" = none
  | .objectOf properties => Names spec "object" ∧ spec.entry "properties" = some properties

/-- The shape of a schema is one it has. -/
theorem Shape.of_shapeOf {spec : PyVal} {shape : Shape} (h : shapeOf spec = some shape) :
    shape.Of spec := by
  unfold shapeOf at h
  split at h
  · rename_i htype href
    split at h
    · rename_i hitems
      cases h
      exact ⟨⟨htype, href⟩, hitems⟩
    · rename_i hitems
      cases h
      exact ⟨⟨htype, href⟩, hitems⟩
  · rename_i htype href
    split at h
    · rename_i hproperties
      cases h
      exact ⟨⟨htype, href⟩, hproperties⟩
    · rename_i hproperties
      cases h
      exact ⟨⟨htype, href⟩, hproperties⟩
  · rename_i harray hobject htype href
    split at h
    · rename_i hname
      cases h
      exact ⟨_, ⟨htype, href⟩, hname⟩
    · rename_i hname
      cases h
      exact ⟨_, ⟨htype, href⟩, harray, hobject, hname⟩
  · cases h

/-- An admitted schema names a type. -/
theorem Admitted.names {spec : PyVal} (h : Admitted spec) : ∃ name, Names spec name := by
  cases h with
  | type h =>
    obtain ⟨name, hname, -⟩ := Shape.of_shapeOf h
    exact ⟨name, hname⟩
  | unknown h =>
    obtain ⟨name, hname, -⟩ := Shape.of_shapeOf h
    exact ⟨name, hname⟩
  | array h => exact ⟨_, (Shape.of_shapeOf h).1⟩
  | arrayOf h => exact ⟨_, (Shape.of_shapeOf h).1⟩
  | object h => exact ⟨_, (Shape.of_shapeOf h).1⟩
  | objectOf h => exact ⟨_, (Shape.of_shapeOf h).1⟩

/-- An admitted schema is a dictionary. -/
theorem Admitted.isDict {spec : PyVal} (h : Admitted spec) : ∃ fields, spec = .dict fields := by
  obtain ⟨name, hname, -⟩ := h.names
  cases spec with
  | dict fields => exact ⟨fields, rfl⟩
  | _ => cases hname

end Walkoff.Analysis
