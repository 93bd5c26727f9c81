import Walkoff.Analysis.DeviceFieldLaw
import Walkoff.Analysis.ReprReadings
import Walkoff.Analysis.SelectionSafety
import Walkoff.Program.DeviceFields

/-!
# Values of device fields, read back

A value is converted when it is validated, but its own text is stored, and converted again when it
is read. `fieldReadsBack_iff` says for which of the accepted values the second conversion gives what
the first one did, in both kinds of fields: the text of a truth value is no number, the text of a
float is no integer, a container is validated as its JSON text, and the texts for `None` and for
nothing mean something else.
-/

set_option autoImplicit false

namespace Walkoff.Analysis

open Walkoff.Library Walkoff.Model Walkoff.Program

/-! ## The law -/

/-- What the code relies on of `boolean` and `float`: which values they refuse, and that the text of
a number is read as the number. -/
structure ReadsTexts (lib : Libraries) : Prop where
  boolean_bool : ∀ b, lib.boolean (.bool b) = .ok (.bool b)
  boolean_text : ∀ b : Bool, lib.boolean (.str (if b then "True" else "False")) = .ok (.bool b)
  boolean_none : lib.boolean (.str "None") = .error .valueError
  boolean_other : ∀ value, (∀ b, value ≠ .bool b) → (∀ s, value ≠ .str s) →
    lib.boolean value = .error .valueError
  float_int : ∀ i w, lib.float (.int i) = .ok w → lib.float (.str (toString i)) = .ok w
  float_float : ∀ m e w, JsonText.isJson (.float m e) = true → lib.float (.float m e) = .ok w →
    lib.float (.str (PyVal.floatRepr m e)) = .ok w
  float_nonFinite : ∀ (f : NonFinite) w, lib.float (.nonFinite f) = .ok w →
    lib.float (.str f.repr) = .ok w
  float_bool : ∀ b : Bool, lib.float (.str (if b then "True" else "False")) = .error .valueError
  float_none : lib.float (.str "None") = .error .valueError
  float_other : ∀ value, value = .none ∨ (∃ xs, value = .list xs) ∨ (∃ items, value = .dict items) →
    lib.float value = .error .typeError

section

variable (lib : Libraries) (printable : Char → Bool) (box : SecretBox)

/-- Both kinds of fields read the value back, and alike: as what validation converts it to, or as
empty if it is an empty one of an optional field. -/
def FieldReadsBack (fieldApi : FieldApi) (value : PyVal) : Prop :=
  ∃ v, (DeviceField.new printable fieldApi.name fieldApi.type value).readValue lib = .ok v ∧
    (EncryptedDeviceField.new printable box fieldApi.name fieldApi.type value).bind
      (EncryptedDeviceField.readValue lib box) = .ok v ∧
    if fieldApi.required != some true && isBlank value then isBlank v = true
    else convertPrimitiveType lib value fieldApi.type = .ok v

/-- The text of the value says what it is, and can be encoded. -/
def Storable (fieldApi : FieldApi) : PyVal → Prop
  | .none => fieldApi.required ≠ some true
  | .bool _ => fieldApi.type = "boolean" ∨ fieldApi.type = "string"
  | .int _ => True
  | .float _ _ => fieldApi.type ≠ "integer"
  | .nonFinite _ => True
  | .str s => s ≠ "" ∧ s ≠ "None"
  | .surrogates _ => False
  | value => value.dumps = .ok (PyRepr.str printable value)

end

/-! ## Integers and their texts -/

/-- A text without spaces is not trimmed. -/
theorem trimmed_eq {cs : List Char} (h : ∀ c ∈ cs, spaces.contains c.toNat = false) :
    ((cs.dropWhile (spaces.contains ·.toNat)).reverse.dropWhile
      (spaces.contains ·.toNat)).reverse = cs := by
  have hdrop : ∀ ds : List Char, (∀ c ∈ ds, spaces.contains c.toNat = false) →
      ds.dropWhile (spaces.contains ·.toNat) = ds := by
    intro ds hds
    cases ds with
    | nil => rfl
    | cons c ds =>
      refine List.dropWhile_cons_of_neg ?_
      rw [hds c List.mem_cons_self]
      exact Bool.false_ne_true
  rw [hdrop cs h, hdrop cs.reverse fun c hc => h c (List.mem_reverse.mp hc), List.reverse_reverse]

/-- `int(str(i))` is `i`. -/
theorem parseInt_toString_int (i : ℤ) : parseInt (toString i) = some i := by
  cases i with
  | ofNat n => exact parseInt_toString n
  | negSucc n =>
    have hlist : (toString (Int.negSucc n)).toList = '-' :: Nat.toDigits 10 n.succ := by
      show ("-" ++ n.succ.repr).toList = _
      rw [String.toList_append, Nat.toList_repr]
      rfl
    have hspaces : ∀ c ∈ '-' :: Nat.toDigits 10 n.succ, spaces.contains c.toNat = false :=
      List.forall_mem_cons.mpr ⟨by decide, fun c hc => spaces_of_isDigit
        (Nat.isDigit_of_mem_toDigits (by omega) (by omega) hc)⟩
    unfold parseInt
    rw [hlist]
    simp only [trimmed_eq hspaces]
    rw [decimalNumber_toDigits]
    rfl

/-- A point is no digit. -/
theorem digitValue_point : digitValue '.' = none := by
  decide

/-- A text with a point is no text of digits. -/
theorem moreDigits_point {cs : List Char} (h : '.' ∈ cs) (n : ℕ) : moreDigits n cs = none := by
  induction n, cs using moreDigits.induct with
  | case1 n => cases h
  | case2 n c cs ih =>
    rw [moreDigits]
    by_cases hc : c = '.'
    · rw [hc, digitValue_point]
      rfl
    · have hcs : '.' ∈ cs := by
        simpa [Ne.symm hc] using h
      cases digitValue c with
      | none => rfl
      | some d => exact ih d hcs
  | case3 n c cs hunderscore ih =>
    rw [moreDigits.eq_3 n c cs hunderscore]
    by_cases hc : c = '.'
    · rw [hc, digitValue_point]
      rfl
    · have hcs : '.' ∈ cs := by
        simpa [Ne.symm hc] using h
      cases digitValue c with
      | none => rfl
      | some d => exact ih d hcs

/-- A text with a point is no whole number. -/
theorem decimalNumber_point {cs : List Char} (h : '.' ∈ cs) : decimalNumber cs = none := by
  cases cs with
  | nil => rfl
  | cons c cs =>
    rw [decimalNumber]
    by_cases hc : c = '.'
    · rw [hc, digitValue_point]
      rfl
    · have hcs : '.' ∈ cs := by
        simpa [Ne.symm hc] using h
      cases digitValue c with
      | none => rfl
      | some d => exact moreDigits_point hcs d

/-- A float is written with digits, a point and a minus. -/
theorem mem_floatRepr {m : ℤ} {e : ℕ} {c : Char} (h : c ∈ (PyVal.floatRepr m e).toList) :
    c = '-' ∨ c = '.' ∨ c.isDigit = true := by
  have hdigits := fun h => isDigit_paddedDigits m.natAbs e c h
  rw [toList_floatRepr, List.mem_append, List.mem_append, List.mem_cons] at h
  rcases h with h | h | h | h
  · split_ifs at h
    · exact .inl (List.mem_singleton.mp h)
    · cases h
  · exact .inr (.inr (hdigits (List.mem_of_mem_take h)))
  · exact .inr (.inl h)
  · split_ifs at h
    · rw [List.mem_singleton.mp h]
      exact .inr (.inr (by decide))
    · exact .inr (.inr (hdigits (List.mem_of_mem_drop h)))

/-- The text of a float is no integer. -/
theorem parseInt_floatRepr (m : ℤ) (e : ℕ) : parseInt (PyVal.floatRepr m e) = none := by
  have hpoint : '.' ∈ (PyVal.floatRepr m e).toList := by
    rw [toList_floatRepr]
    simp
  have hspaces : ∀ c ∈ (PyVal.floatRepr m e).toList, spaces.contains c.toNat = false := by
    intro c hc
    rcases mem_floatRepr hc with rfl | rfl | hdigit
    · decide
    · decide
    · exact spaces_of_isDigit hdigit
  unfold parseInt
  simp only [trimmed_eq hspaces]
  split
  · rename_i heq
    rw [heq] at hpoint
    rw [decimalNumber_point (by simpa using hpoint)]
    rfl
  · rename_i heq
    rw [heq] at hpoint
    rw [decimalNumber_point (by simpa using hpoint)]
    rfl
  · rw [decimalNumber_point hpoint]
    rfl

/-! ## Reading a text -/

section

variable {lib : Libraries} {printable : Char → Bool} {box : SecretBox} {fieldApi : FieldApi}

/-- A type that is allowed is stored as it is. -/
theorem storedType_of_allowed (h : fieldApi.type ∈ allowedDeviceFieldTypes) :
    storedType fieldApi.type = fieldApi.type :=
  if_pos h

/-- An encoded text is decoded again. -/
theorem fromUTF8_toUTF8 (s : String) : String.fromUTF8? s.toUTF8 = some s := by
  unfold String.fromUTF8?
  exact dif_pos s.isValidUTF8

/-- The plaintext field reads its text. -/
theorem readValue_new (h : fieldApi.type ∈ allowedDeviceFieldTypes) {value : PyVal} {text : String}
    (htext : PyRepr.text printable value = .str text) :
    (DeviceField.new printable fieldApi.name fieldApi.type value).readValue lib =
      if text = "" then .ok (.str "")
      else if text = "None" then .ok .none
      else convertPrimitiveType lib (.str text) fieldApi.type := by
  unfold NewDeviceField.readValue DeviceField.new
  rw [storedType_of_allowed h, htext]
  simp only [PyVal.str.injEq]
  split_ifs with hempty
  · rw [hempty]
    rfl
  · rfl
  · rfl

/-- Only `None` is encoded as `None` is. -/
theorem toUTF8_eq_none {s : String} : s.toUTF8 = "None".toUTF8 ↔ s = "None" :=
  String.toByteArray_inj

/-- Only the empty text is encoded as nothing. -/
theorem size_toUTF8 {s : String} : s.toUTF8.size = 0 ↔ s = "" :=
  String.utf8ByteSize_eq_zero_iff

/-- The encrypted field reads the same text, but for the empty one. -/
theorem readValue_encrypted (h : fieldApi.type ∈ allowedDeviceFieldTypes) {value : PyVal}
    {text : String} (htext : PyRepr.text printable value = .str text) :
    (EncryptedDeviceField.new printable box fieldApi.name fieldApi.type value).bind
        (EncryptedDeviceField.readValue lib box) =
      if text = "" then .ok emptyBytes
      else if text = "None" then .ok .none
      else convertPrimitiveType lib (.str text) fieldApi.type := by
  unfold EncryptedDeviceField.new
  rw [storedType_of_allowed h, htext]
  show EncryptedDeviceField.readValue lib box
    ⟨fieldApi.name, fieldApi.type, box.encrypt text.toUTF8⟩ = _
  unfold EncryptedDeviceField.readValue
  dsimp only
  rw [box.decrypt_encrypt, fromUTF8_toUTF8]
  simp only [toUTF8_eq_none, size_toUTF8]
  by_cases hempty : text = ""
  · subst hempty
    rw [if_neg (by decide), if_pos rfl, if_pos rfl]
    rfl
  · rw [if_neg hempty, if_neg hempty]
    rfl

/-- A text with a lone surrogate makes no encrypted field. -/
theorem not_fieldReadsBack_surrogates (codePoints : List ℕ) :
    ¬FieldReadsBack lib printable box fieldApi (.surrogates codePoints) := by
  rintro ⟨v, -, hencrypted, -⟩
  cases hencrypted

/-- A text that means nothing else is converted to the type, in both kinds of fields. -/
theorem fieldReadsBack_of_text (h : fieldApi.type ∈ allowedDeviceFieldTypes) {value : PyVal}
    (htext : PyRepr.text printable value = .str (PyRepr.str printable value))
    (hempty : PyRepr.str printable value ≠ "") (hnone : PyRepr.str printable value ≠ "None")
    (hblank : isBlank value = false) {w : PyVal}
    (hw : convertPrimitiveType lib value fieldApi.type = .ok w) :
    FieldReadsBack lib printable box fieldApi value ↔
      convertPrimitiveType lib (.str (PyRepr.str printable value)) fieldApi.type = .ok w := by
  unfold FieldReadsBack
  simp only [readValue_new h htext, readValue_encrypted h htext, if_neg hempty, if_neg hnone,
    hblank, Bool.and_false, if_neg Bool.false_ne_true, hw]
  constructor
  · rintro ⟨v, hread, -, hv⟩
    rw [hread, Except.ok.inj hv]
  · exact fun hread => ⟨w, hread, hread, rfl⟩

/-- An empty text is read as a text in one kind of fields and as bytes in the other. -/
theorem not_fieldReadsBack_empty (h : fieldApi.type ∈ allowedDeviceFieldTypes) :
    ¬FieldReadsBack lib printable box fieldApi (.str "") := by
  rintro ⟨v, hplain, hencrypted, -⟩
  rw [readValue_new h rfl] at hplain
  rw [readValue_encrypted h rfl] at hencrypted
  cases Except.ok.inj (hplain.trans hencrypted.symm)

/-- The text for `None` is read as `None`. -/
theorem fieldReadsBack_noneText (h : fieldApi.type ∈ allowedDeviceFieldTypes) {value : PyVal}
    (htext : PyRepr.text printable value = .str "None") :
    FieldReadsBack lib printable box fieldApi value ↔
      if fieldApi.required != some true && isBlank value then True
      else convertPrimitiveType lib value fieldApi.type = .ok .none := by
  unfold FieldReadsBack
  rw [readValue_new h htext, readValue_encrypted h htext, if_neg (by decide), if_pos rfl]
  constructor
  · rintro ⟨v, hplain, -, hv⟩
    obtain rfl := Except.ok.inj hplain
    split_ifs at hv ⊢
    exact hv
  · intro hv
    refine ⟨.none, rfl, rfl, ?_⟩
    split_ifs at hv ⊢
    · rfl
    · exact hv

end

/-! ## Converting a value and its text -/

section

variable {lib : Libraries} {printable : Char → Bool} {type : String} {w : PyVal}

/-- There are four types a field may have. -/
theorem allowed_cases (h : type ∈ allowedDeviceFieldTypes) :
    type = "string" ∨ type = "number" ∨ type = "boolean" ∨ type = "integer" := by
  simpa [allowedDeviceFieldTypes] using h

/-- A number is converted by `float`. -/
theorem convert_number (value : PyVal) :
    convertPrimitiveType lib value "number" = lib.float value :=
  rfl

/-- A truth value is converted by the validator. -/
theorem convert_boolean (value : PyVal) :
    convertPrimitiveType lib value "boolean" = lib.boolean value :=
  rfl

/-- An integer is converted by `int`. -/
theorem convert_integer (value : PyVal) :
    convertPrimitiveType lib value "integer" = (pyInt value).bind fun i => .ok (.int i) :=
  rfl

/-- A text stays as it is. -/
theorem convert_text (s : String) : convertPrimitiveType lib (.str s) "string" = .ok (.str s) :=
  rfl

/-- `int` of a text. -/
theorem pyInt_text {s : String} {i : ℤ} (h : parseInt s = some i) : pyInt (.str s) = .ok i := by
  simp only [pyInt, h]
  rfl

/-- A text that is no integer raises `ValueError`. -/
theorem pyInt_noText {s : String} (h : parseInt s = none) :
    pyInt (.str s) = .error .valueError := by
  simp only [pyInt, h]
  rfl

/-- An integer is converted as its text is. -/
theorem convert_int (h : type ∈ allowedDeviceFieldTypes) (hlib : ReadsTexts lib) {i : ℤ}
    (hw : convertPrimitiveType lib (.int i) type = .ok w) :
    convertPrimitiveType lib (.str (toString i)) type = .ok w := by
  rcases allowed_cases h with rfl | rfl | rfl | rfl
  · exact hw
  · exact hlib.float_int i w hw
  · rw [convert_boolean, hlib.boolean_other (.int i) (fun _ => nofun) (fun _ => nofun)] at hw
    cases hw
  · rw [convert_integer, pyInt_text (parseInt_toString_int i)]
    exact hw

/-- The text of a truth value is none of a number. -/
theorem convert_bool (h : type ∈ allowedDeviceFieldTypes) (hlib : ReadsTexts lib) {b : Bool}
    (hw : convertPrimitiveType lib (.bool b) type = .ok w) :
    convertPrimitiveType lib (.str (if b then "True" else "False")) type = .ok w ↔
      type = "boolean" ∨ type = "string" := by
  rcases allowed_cases h with rfl | rfl | rfl | rfl
  · exact iff_of_true hw (.inr rfl)
  · rw [convert_number, hlib.float_bool b]
    exact iff_of_false nofun (by decide)
  · rw [convert_boolean, hlib.boolean_bool b] at hw
    rw [convert_boolean, hlib.boolean_text b]
    exact iff_of_true hw (.inl rfl)
  · have hnumber : parseInt (if b then "True" else "False") = none := by
      cases b <;> decide
    rw [convert_integer, pyInt_noText hnumber]
    exact iff_of_false nofun (by decide)

/-- The text of a float is none of an integer. -/
theorem convert_float (h : type ∈ allowedDeviceFieldTypes) (hlib : ReadsTexts lib) {m : ℤ} {e : ℕ}
    (hjson : JsonText.isJson (.float m e) = true)
    (hw : convertPrimitiveType lib (.float m e) type = .ok w) :
    convertPrimitiveType lib (.str (PyVal.floatRepr m e)) type = .ok w ↔ type ≠ "integer" := by
  rcases allowed_cases h with rfl | rfl | rfl | rfl
  · exact iff_of_true hw (by decide)
  · exact iff_of_true (hlib.float_float m e w hjson hw) (by decide)
  · rw [convert_boolean, hlib.boolean_other (.float m e) (fun _ => nofun) (fun _ => nofun)] at hw
    cases hw
  · rw [convert_integer, pyInt_noText (parseInt_floatRepr m e)]
    exact iff_of_false nofun (not_not.mpr rfl)

/-- A float that is no decimal is accepted as a number or a text only. -/
theorem convert_nonFinite (h : type ∈ allowedDeviceFieldTypes) (hlib : ReadsTexts lib)
    {f : NonFinite} (hw : convertPrimitiveType lib (.nonFinite f) type = .ok w) :
    convertPrimitiveType lib (.str f.repr) type = .ok w := by
  rcases allowed_cases h with rfl | rfl | rfl | rfl
  · exact hw
  · exact hlib.float_nonFinite f w hw
  · rw [convert_boolean, hlib.boolean_other (.nonFinite f) (fun _ => nofun) (fun _ => nofun)] at hw
    cases hw
  · cases f <;> cases hw

/-- A list or a dictionary is taken as a text only, its JSON one, while `str` writes the other. -/
theorem convert_container (h : type ∈ allowedDeviceFieldTypes) (hlib : ReadsTexts lib)
    {value : PyVal} (hvalue : (∃ xs, value = .list xs) ∨ ∃ items, value = .dict items)
    (hw : convertPrimitiveType lib value type = .ok w) :
    convertPrimitiveType lib (.str (PyRepr.str printable value)) type = .ok w ↔
      value.dumps = .ok (PyRepr.str printable value) := by
  rcases allowed_cases h with rfl | rfl | rfl | rfl
  · have hdumps : convertPrimitiveType lib value "string" =
        value.dumps.bind fun text => .ok (.str text) := by
      rcases hvalue with ⟨xs, rfl⟩ | ⟨items, rfl⟩ <;> rfl
    rw [hdumps] at hw
    obtain ⟨text, htext, htaken⟩ := Except.bind_eq_ok.mp hw
    rw [convert_text, htext, ← htaken]
    simp only [Except.ok.injEq, PyVal.str.injEq]
    exact eq_comm
  · rw [convert_number, hlib.float_other value (.inr hvalue)] at hw
    cases hw
  · have hother := hlib.boolean_other value
      (by rcases hvalue with ⟨xs, rfl⟩ | ⟨items, rfl⟩ <;> exact fun _ => nofun)
      (by rcases hvalue with ⟨xs, rfl⟩ | ⟨items, rfl⟩ <;> exact fun _ => nofun)
    rw [convert_boolean, hother] at hw
    cases hw
  · have hint : pyInt value = .error .typeError := by
      rcases hvalue with ⟨xs, rfl⟩ | ⟨items, rfl⟩ <;> rfl
    rw [convert_integer, hint] at hw
    cases hw

/-- Nothing but an empty optional value is converted to `None`. -/
theorem convert_ne_none (h : type ∈ allowedDeviceFieldTypes) (hlib : ReadsTexts lib)
    {value : PyVal} (hvalue : value = .none ∨ value = .str "None") :
    convertPrimitiveType lib value type ≠ .ok .none := by
  intro hnone
  rcases allowed_cases h with rfl | rfl | rfl | rfl
  · rcases hvalue with rfl | rfl <;> cases hnone
  · rcases hvalue with rfl | rfl
    · rw [convert_number, hlib.float_other .none (.inl rfl)] at hnone
      cases hnone
    · rw [convert_number, hlib.float_none] at hnone
      cases hnone
  · rcases hvalue with rfl | rfl
    · rw [convert_boolean, hlib.boolean_other .none (fun _ => nofun) (fun _ => nofun)] at hnone
      cases hnone
    · rw [convert_boolean, hlib.boolean_none] at hnone
      cases hnone
  · rcases hvalue with rfl | rfl
    · cases hnone
    · have hnumber : parseInt "None" = none := by decide
      rw [convert_integer, pyInt_noText hnumber] at hnone
      cases hnone

end

/-! ## Texts that mean nothing else -/

section

variable {printable : Char → Bool}

/-- A text that is an integer is neither empty nor `None`. -/
theorem plain_of_parseInt {s : String} {i : ℤ} (h : parseInt s = some i) : s ≠ "" ∧ s ≠ "None" := by
  constructor
  · rintro rfl
    have hnone : parseInt "" = none := by decide
    cases hnone.symm.trans h
  · rintro rfl
    have hnone : parseInt "None" = none := by decide
    cases hnone.symm.trans h

/-- The same of a written float. -/
theorem plain_floatRepr (m : ℤ) (e : ℕ) :
    PyVal.floatRepr m e ≠ "" ∧ PyVal.floatRepr m e ≠ "None" := by
  have hpoint : '.' ∈ (PyVal.floatRepr m e).toList := by
    rw [toList_floatRepr]
    simp
  constructor
  · intro h
    rw [h] at hpoint
    exact absurd hpoint (by decide)
  · intro h
    rw [h] at hpoint
    exact absurd hpoint (by decide)

/-- The same of an infinity and of `nan`. -/
theorem plain_nonFinite (f : NonFinite) : f.repr ≠ "" ∧ f.repr ≠ "None" := by
  cases f <;> decide

/-- The same of a written list or dictionary. -/
theorem plain_container {value : PyVal}
    (hvalue : (∃ xs, value = .list xs) ∨ ∃ items, value = .dict items) :
    PyRepr.str printable value ≠ "" ∧ PyRepr.str printable value ≠ "None" := by
  have hhead : ∃ c cs, (PyRepr.str printable value).toList = c :: cs ∧ (c = '[' ∨ c = '\x7b') := by
    rcases hvalue with ⟨xs, rfl⟩ | ⟨items, rfl⟩
    · refine ⟨'[', (", ".intercalate (PyRepr.reprList printable xs) ++ "]").toList, ?_, .inl rfl⟩
      show (PyRepr.repr printable (.list xs)).toList = _
      rw [PyRepr.repr, String.append_assoc, String.toList_append]
      rfl
    · refine ⟨'\x7b', (", ".intercalate (PyRepr.reprItems printable items) ++ "\x7d").toList, ?_,
        .inr rfl⟩
      show (PyRepr.repr printable (.dict items)).toList = _
      rw [PyRepr.repr, String.append_assoc, String.toList_append]
      rfl
  obtain ⟨c, cs, htext, hc⟩ := hhead
  constructor
  · intro h
    rw [h] at htext
    cases htext
  · intro h
    rw [h] at htext
    cases htext
    exact absurd hc (by decide)

end

/-! ## The fields read back what is storable -/

section

variable {lib : Libraries} {printable : Char → Bool} {box : SecretBox} {fieldApi : FieldApi}
  {value : PyVal}

/-- What validation accepts is converted, unless it is empty and may be missing. -/
theorem converted_of_accepted {messagePrefix : String}
    (haccepted : validateDeviceField lib fieldApi value messagePrefix = .ok ()) :
    (fieldApi.required = none ∧ isBlank value = true) ∨
      ∃ w, convertPrimitiveType lib value fieldApi.type = .ok w := by
  have hthrough : LetThrough lib fieldApi value := by
    by_contra hnot
    obtain ⟨e, he, -⟩ := validateDeviceField_error messagePrefix hnot
    cases haccepted.symm.trans he
  refine hthrough.imp_right ?_
  rintro ⟨type, w, htype, hw, -⟩
  refine ⟨w, ?_⟩
  unfold convertPrimitiveType
  rw [htype]
  exact hw

/-- A value whose text means nothing else is read back when its text is converted as it is. -/
theorem fieldReadsBack_plain (h : fieldApi.type ∈ allowedDeviceFieldTypes)
    (htext : PyRepr.text printable value = .str (PyRepr.str printable value))
    (hplain : PyRepr.str printable value ≠ "" ∧ PyRepr.str printable value ≠ "None")
    (hblank : isBlank value = false)
    (haccepted : (fieldApi.required = none ∧ isBlank value = true) ∨
      ∃ w, convertPrimitiveType lib value fieldApi.type = .ok w) :
    ∃ w, convertPrimitiveType lib value fieldApi.type = .ok w ∧
      (FieldReadsBack lib printable box fieldApi value ↔
        convertPrimitiveType lib (.str (PyRepr.str printable value)) fieldApi.type = .ok w) := by
  rcases haccepted with ⟨-, hempty⟩ | ⟨w, hw⟩
  · exact absurd (hblank.symm.trans hempty) Bool.false_ne_true
  · exact ⟨w, hw, fieldReadsBack_of_text h htext hplain.1 hplain.2 hblank hw⟩

/-- Both kinds of device fields read back an accepted value when its text says what it is. -/
theorem fieldReadsBack_iff (hlib : ReadsTexts lib) (h : fieldApi.type ∈ allowedDeviceFieldTypes)
    (hjson : FromJson value) {messagePrefix : String}
    (haccepted : validateDeviceField lib fieldApi value messagePrefix = .ok ()) :
    FieldReadsBack lib printable box fieldApi value ↔ Storable printable fieldApi value := by
  have hconverted := converted_of_accepted haccepted
  have hplain := @fieldReadsBack_plain lib printable box fieldApi value h
  cases value with
  | none =>
    rw [fieldReadsBack_noneText h rfl]
    unfold Storable
    by_cases hrequired : fieldApi.required = some true
    · simp [hrequired, convert_ne_none h hlib (.inl rfl)]
    · simp [hrequired, isBlank]
  | bool b =>
    have htext : ∀ b : Bool, (if b then "True" else "False") ≠ "" ∧
        (if b then "True" else "False") ≠ "None" := by decide
    obtain ⟨w, hw, hreads⟩ := hplain rfl (htext b) rfl hconverted
    rw [hreads]
    exact convert_bool h hlib hw
  | int i =>
    obtain ⟨w, hw, hreads⟩ := hplain rfl (plain_of_parseInt (parseInt_toString_int i)) rfl hconverted
    rw [hreads]
    exact iff_of_true (convert_int h hlib hw) trivial
  | float m e =>
    obtain ⟨w, hw, hreads⟩ := hplain rfl (plain_floatRepr m e) rfl hconverted
    rw [hreads]
    cases hjson with
    | float _ _ hfloat => exact convert_float h hlib hfloat hw
  | nonFinite f =>
    obtain ⟨w, hw, hreads⟩ := hplain rfl (plain_nonFinite f) rfl hconverted
    rw [hreads]
    exact iff_of_true (convert_nonFinite h hlib hw) trivial
  | surrogates codePoints =>
    exact iff_of_false (not_fieldReadsBack_surrogates codePoints) not_false
  | str s =>
    unfold Storable
    by_cases hempty : s = ""
    · subst hempty
      exact iff_of_false (not_fieldReadsBack_empty h) fun hne => hne.1 rfl
    · have hblank : isBlank (.str s) = false := beq_eq_false_iff_ne.mpr hempty
      by_cases hnone : s = "None"
      · subst hnone
        rw [fieldReadsBack_noneText h rfl, hblank]
        simp [convert_ne_none h hlib (.inr rfl)]
      · obtain ⟨w, hw, hreads⟩ := hplain rfl ⟨hempty, hnone⟩ hblank hconverted
        rw [hreads]
        exact iff_of_true hw ⟨hempty, hnone⟩
  | list xs =>
    have hvalue : (∃ ys, PyVal.list xs = .list ys) ∨ ∃ items, PyVal.list xs = .dict items :=
      .inl ⟨xs, rfl⟩
    obtain ⟨w, hw, hreads⟩ := hplain rfl (plain_container hvalue) rfl hconverted
    rw [hreads]
    exact convert_container h hlib hvalue hw
  | dict items =>
    have hvalue : (∃ xs, PyVal.dict items = .list xs) ∨ ∃ others, PyVal.dict items = .dict others :=
      .inr ⟨items, rfl⟩
    obtain ⟨w, hw, hreads⟩ := hplain rfl (plain_container hvalue) rfl hconverted
    rw [hreads]
    exact convert_container h hlib hvalue hw
  | object o => cases hjson

end

/-! ## A field for a port -/

/-- A required integer. -/
def portField : FieldApi :=
  { name := "port", type := "integer", default := none, required := some true, encrypted := none
    schema := .dict [("name", .str "port"), ("type", .str "integer"), ("required", .bool true)] }

/-- Library code that takes every decimal for a float, and checks no more than types. -/
def decimalLibraries : Libraries where
  boolean
    | .bool b => pure (.bool b)
    | .str s =>
      if s.toLower = "true" then pure (.bool true)
      else if s.toLower = "false" then pure (.bool false)
      else throw .valueError
    | _ => throw .valueError
  float
    | .bool b => pure (.float (if b then 1 else 0) 0)
    | .int i => pure (.float i 0)
    | .float m e => pure (.float m e)
    | .nonFinite f => pure (.nonFinite f)
    | .str s =>
      match JsonText.loads s with
      | some (.int i) => pure (.float i 0)
      | some (.float m e) => pure (.float m e)
      | some (.nonFinite f) => pure (.nonFinite f)
      | _ =>
        if s = "inf" then pure (.nonFinite .inf)
        else if s = "-inf" then pure (.nonFinite .negInf)
        else if s = "nan" then pure (.nonFinite .nan)
        else throw .valueError
    | _ => throw .typeError
  draft4 schema w :=
    let named := match w with
      | .bool _ => "boolean"
      | .int _ => "integer"
      | .float _ _ => "number"
      | _ => "string"
    pure (if schema.entry "type" = some (.str named) then none else some "is not valid")

/-- The libraries of the example read what they write. -/
theorem decimalLibraries_readsTexts : ReadsTexts decimalLibraries where
  boolean_bool _ := rfl
  boolean_text b := by cases b <;> with_unfolding_all rfl
  boolean_none := by with_unfolding_all rfl
  boolean_other value hbool hstr := by
    cases value with
    | bool b => exact absurd rfl (hbool b)
    | str s => exact absurd rfl (hstr s)
    | _ => rfl
  float_int i w h := by
    have hread : JsonText.loads (toString i) = some (.int i) := loads_dumps rfl rfl
    unfold decimalLibraries
    dsimp only
    rw [hread]
    exact h
  float_float m e w hjson h := by
    have hread : JsonText.loads (PyVal.floatRepr m e) = some (.float m e) := loads_dumps hjson rfl
    unfold decimalLibraries
    dsimp only
    rw [hread]
    exact h
  float_nonFinite f w h := by
    rw [← h]
    cases f <;> with_unfolding_all rfl
  float_bool b := by cases b <;> with_unfolding_all rfl
  float_none := by with_unfolding_all rfl
  float_other value h := by
    rcases h with rfl | ⟨xs, rfl⟩ | ⟨items, rfl⟩ <;> rfl

/-- A box that hides nothing. -/
def openBox : SecretBox where
  encrypt plaintext := plaintext
  decrypt ciphertext := ciphertext
  decrypt_encrypt _ := rfl

/-- A port is read back. -/
theorem port_read_back :
    FieldReadsBack decimalLibraries (fun _ => true) openBox portField (.int 443) :=
  (fieldReadsBack_iff decimalLibraries_readsTexts (by decide) (.int 443)
    (by with_unfolding_all rfl : validateDeviceField decimalLibraries portField (.int 443) "" =
      .ok ())).mpr trivial

/-- The fraction is accepted, cut off to an integer, but stored and not read as one. -/
theorem fraction_not_read_back :
    validateDeviceField decimalLibraries portField (.float 25 1) "" = .ok () ∧
      ¬FieldReadsBack decimalLibraries (fun _ => true) openBox portField (.float 25 1) := by
  refine ⟨by with_unfolding_all rfl, ?_⟩
  rintro ⟨v, hplain, -⟩
  have htext : (DeviceField.new (fun _ => true) portField.name portField.type
      (.float 25 1)).readValue decimalLibraries = .error .valueError := by
    with_unfolding_all rfl
  cases htext.symm.trans hplain

end Walkoff.Analysis
